/-
# `Absorbing` — terminal bookings under concurrency

Calls run interleaved at READ COMMITTED.  `cancelBookingAsCustomer`,
`verifyClientPayment`, `completeBooking` and the webhook read the status of a
booking and then update it by id; `expireBooking` and `flagOverdueBooking`
update it only `WHERE` it has the status they ask for.

Every one of them writes a status only after it has read one that is not
terminal (`program_asks`).  Between the read and the update another call may
commit, and an update by id does not look again: that is the only way out of a
terminal status.  `ReadsFresh` excludes it, and then terminal statuses are
absorbing (`terminal_absorbing`).
-/
import ServiceHub.Interleaving

namespace ServiceHub

open Data Txn Prog

/-! ## Runs -/

/-- The committed row and a version of it: a terminal status stays. -/
def Keeps : Row → Row → Prop
  | .booking b, .booking b' => b.bookingStatus.terminal → b'.bookingStatus = b.bookingStatus
  | .booking _, _ => False
  | _, _ => True

/-- The update by id that a call is about to issue. -/
def nextUpdate : Call Response → Option (Uuid × BookingUpdate)
  | .ask (.stmt (.updateBooking id data)) _ => some (id, data)
  | _ => none

/-- An update by id that follows a read of a status that was not terminal finds
the status not terminal yet, or writes the one that is there. -/
def UpdatesFresh (db : Db) (P : Caller) : Prop :=
  ∀ u ∈ nextUpdate P.prog, ∀ s ∈ lastStatus u.1 P.hist, ∀ b ∈ db.bookings.find? u.1,
    ¬ s.terminal → b.bookingStatus.terminal → u.2.bookingStatus = some b.bookingStatus

instance (db : Db) (P : Caller) : Decidable (UpdatesFresh db P) :=
  inferInstanceAs (Decidable (∀ u ∈ nextUpdate P.prog, ∀ s ∈ lastStatus u.1 P.hist,
    ∀ b ∈ db.bookings.find? u.1, ¬ s.terminal → b.bookingStatus.terminal →
      u.2.bookingStatus = some b.bookingStatus))

/-- Refunds are no part of the run, and no update by id rests on a stale
read. -/
def ReadsFresh (c : System) : Event Op Exn → Prop
  | .spawn op => op.request.isRefund = false
  | .exec p => ∀ P ∈ c.procs[p]?, UpdatesFresh c.db P
  | .fail _ _ => True

instance (c : System) : ∀ e, Decidable (ReadsFresh c e)
  | .spawn op => inferInstanceAs (Decidable (op.request.isRefund = false))
  | .exec p => inferInstanceAs (Decidable (∀ P ∈ c.procs[p]?, UpdatesFresh c.db P))
  | .fail _ _ => .isTrue trivial

theorem keeps_refl (r : Row) : Keeps r r := by
  cases r <;> simp [Keeps]

theorem keeps_trans (r r' r'' : Row) (h : Keeps r r') (h' : Keeps r' r'') : Keeps r r'' := by
  cases r with
  | booking b =>
      cases r' with
      | booking b' =>
          cases r'' with
          | booking b'' => exact fun ht => (h' ((h ht).symm ▸ ht)).trans (h ht)
          | _ => exact h'.elim
      | _ => exact h.elim
  | _ => trivial

section
variable {host : Host} {db : Db} {c c' : System} {e : Event Op Exn}

theorem isRefund_of_run (hrun : Run (program host) ReadsFresh ⟨db, []⟩ c) :
    ∀ P ∈ c.procs, P.op.request.isRefund = false :=
  hrun.forall_procs (fun _ _ hok => hok) (fun _ _ _ _ _ _ _ _ _ _ hP _ _ => hP)
    fun _ hP => absurd hP List.not_mem_nil

theorem writesIn_keeps (hrun : Run (program host) ReadsFresh ⟨db, []⟩ c)
    (hver : Versions Keeps c) (hok : ReadsFresh c e) : WritesIn Keeps c e := by
  intro p P s k a he hP hk hexec w hw r hr
  subst he
  have hmem : P ∈ c.procs := List.mem_of_getElem? hP
  have hasks := asks_of_run hrun P hmem
  rw [hk] at hasks
  cases s with
  | createBooking b =>
      -- a row that is inserted has no row under its id yet
      obtain ⟨hab, hnone, _⟩ := Db.insert_ok hexec
      rw [List.mem_singleton.mp hw, hab] at hr
      exact absurd (hr.symm.trans (get_of_view hnone)) (by simp)
  | updateBooking id data =>
      obtain ⟨y, hy, hay, _⟩ := Db.update_ok hexec
      obtain rfl := List.mem_singleton.mp hw
      rw [hay] at hr ⊢
      obtain ⟨b, hb, rfl⟩ := Option.map_eq_some_iff.mp hr
      have hid : y.id = id := Table.key_of_find? hy
      have hfind : c.db.bookings.find? id = some b := hid ▸ hb
      obtain ⟨_, t, ht, hlive⟩ := hasks.1 (isRefund_of_run hrun P hmem)
      intro hterminal
      have hstatus := hok P hP (id, data) (by rw [hk]; rfl) t ht b hfind hlive hterminal
      show data.bookingStatus.getD y.bookingStatus = b.bookingStatus
      rw [show data.bookingStatus = some b.bookingStatus from hstatus]
      rfl
  | updateBookings cond data =>
      obtain ⟨rfl, _⟩ := Db.updateAll_ok hexec
      obtain ⟨_, hx, rfl⟩ := List.mem_map.mp hw
      obtain ⟨y, hy, rfl⟩ := List.mem_map.mp hx
      obtain ⟨hrow, htest⟩ := List.mem_filter.mp hy
      obtain ⟨b, hb, rfl⟩ := Option.map_eq_some_iff.mp hr
      have hlive : ¬ y.bookingStatus.terminal := by
        have hstatus : y.bookingStatus = cond.bookingStatus := by
          simp only [BookingWhere.test, Bool.and_eq_true, beq_iff_eq] at htest
          exact htest.1.2
        rw [hstatus]
        exact hasks.1
      intro hterminal
      -- the row that is found is not terminal, so it is not the committed one
      exfalso
      have hfound : (view c.db P).get (.booking y.id) = some (.booking y) :=
        Option.map_eq_some_iff.mpr ⟨y, Table.find?_of_mem hrow, rfl⟩
      have hseen : y.bookingStatus = b.bookingStatus :=
        hver.seen keeps_refl hmem hfound hr hterminal
      exact hlive (hseen.symm ▸ hterminal)
  | createPayment _ | updatePayment _ _ | createEvent _ | updateEvent _ _ | createAudit _ =>
      obtain rfl := List.mem_singleton.mp hw
      obtain ⟨_, _, rfl⟩ := Option.map_eq_some_iff.mp hr
      trivial
  | updatePayments _ _ =>
      obtain ⟨_, _, rfl⟩ := List.mem_map.mp hw
      obtain ⟨_, _, rfl⟩ := Option.map_eq_some_iff.mp hr
      trivial
  | _ => exact absurd hw List.not_mem_nil

end

/-- **Terminal statuses are absorbing** in every run whose updates by id do not
rest on a stale read. -/
theorem terminal_absorbing (host : Host) (db : Db) (c c' : System) (id : Uuid) (b : Booking)
    (hrun : Run (program host) ReadsFresh ⟨db, []⟩ c)
    (hrun' : Run (program host) ReadsFresh c c') (hb : c.db.bookings.find? id = some b)
    (hterminal : b.bookingStatus.terminal) :
    ∃ b', c'.db.bookings.find? id = some b' ∧ b'.bookingStatus = b.bookingStatus := by
  have hget : Txn.Database.get c.db (Key.booking id) = some (Row.booking b) :=
    Option.map_eq_some_iff.mpr ⟨b, hb, rfl⟩
  obtain ⟨r, hr, hkeeps⟩ := Run.related keeps_refl keeps_trans rfl
    (fun _ _ => writesIn_keeps) hrun hrun' hget
  obtain ⟨b', hb', rfl⟩ := Option.map_eq_some_iff.mp hr
  exact ⟨b', hb', hkeeps hterminal⟩

/-! ## Two runs -/

namespace Sample

def statusOf (c : System) : Option BookingStatus :=
  (c.db.bookings.find? bookingId).map (·.bookingStatus)

/-- The payment window ends. -/
def expiry : List (Event Op Exn) := .spawn (expire 1) :: steps 0 6

/-- The customer and the gateway report the payment. -/
def latePayment : List (Event Op Exn) :=
  .spawn (verify 2) :: steps 1 2 ++ .spawn (deliver 3 "payment.captured") :: steps 2 7

/-- The payment window ends after `verifyClientPayment` has read the booking,
and before its transaction. -/
def expiryMeanwhile : List (Event Op Exn) :=
  .spawn (verify 1) :: steps 0 2 ++ .spawn (expire 2) :: steps 1 6

end Sample

/-- What is paid too late leaves the booking expired. -/
theorem terminal_absorbing_expired : ∃ c c' b,
    runChecked (program Sample.host) ReadsFresh ⟨Sample.booked, []⟩ Sample.expiry = some c ∧
    runChecked (program Sample.host) ReadsFresh c Sample.latePayment = some c' ∧
    c.db.bookings.find? Sample.bookingId = some b ∧ b.bookingStatus = .expired ∧
    ∃ b', c'.db.bookings.find? Sample.bookingId = some b' ∧
      b'.bookingStatus = b.bookingStatus := by
  obtain ⟨c, hc⟩ := Option.isSome_iff_exists.mp
    (show (runChecked (program Sample.host) ReadsFresh ⟨Sample.booked, []⟩
      Sample.expiry).isSome by decide +kernel)
  have hlater : ∀ c ∈ runChecked (program Sample.host) ReadsFresh ⟨Sample.booked, []⟩ Sample.expiry,
      Sample.statusOf c = some .expired ∧
      (runChecked (program Sample.host) ReadsFresh c Sample.latePayment).isSome := by
    decide +kernel
  obtain ⟨hexpired, hlate⟩ := hlater c hc
  obtain ⟨b, hb, hstatus⟩ := Option.map_eq_some_iff.mp hexpired
  obtain ⟨c', hc'⟩ := Option.isSome_iff_exists.mp hlate
  exact ⟨c, c', b, hc, hc', hb, hstatus, terminal_absorbing _ _ c c' _ b (Run.of_runChecked _ _ hc)
    (Run.of_runChecked _ _ hc') hb (by rw [hstatus]; decide)⟩

/-- The transaction of `verifyClientPayment` confirms the booking that has
expired since it was read. -/
theorem not_terminal_absorbing : ∃ c c',
    runEvents (program Sample.host) ⟨Sample.booked, []⟩ Sample.expiryMeanwhile = some c ∧
    runEvents (program Sample.host) c (Sample.steps 0 9) = some c' ∧
    Sample.statusOf c = some .expired ∧ Sample.statusOf c' = some .confirmed := by
  obtain ⟨c, hc⟩ := Option.isSome_iff_exists.mp
    (show (runEvents (program Sample.host) ⟨Sample.booked, []⟩ Sample.expiryMeanwhile).isSome by
      decide +kernel)
  have hlater : ∀ c ∈ runEvents (program Sample.host) ⟨Sample.booked, []⟩ Sample.expiryMeanwhile,
      Sample.statusOf c = some .expired ∧
      (runEvents (program Sample.host) c (Sample.steps 0 9)).map Sample.statusOf
        = some (some .confirmed) := by decide +kernel
  obtain ⟨hexpired, hconfirmed⟩ := hlater c hc
  obtain ⟨c', hc', hstatus⟩ := Option.map_eq_some_iff.mp hconfirmed
  exact ⟨c, c', hc, hc', hexpired, hstatus⟩

end ServiceHub
