/-
# `Overlap` — bookings in real time

However calls are interleaved, two active bookings of one provider do not
overlap in real time (`no_overlap`).

The exclusion constraint keeps the columns of two active bookings apart, under
concurrency as well (`Run.exclusive`).  No update sets the columns of a booking
that say when it takes place (`revises_of_run`), and `createBooking` fills them
from an instant of which service and buffer fit a shift, so that they are the
real time (`lower_newBooking`, `upper_newBooking`).
-/
import ServiceHub.Booking.Hours
import ServiceHub.Interleaving

namespace ServiceHub

open Data Txn

/-! ## The exclusion constraint -/

/-- The rows of two bookings that `no_provider_booking_overlap` keeps apart. -/
def Overlaps : Row → Row → Prop
  | .booking b, .booking b' => clash (.booking b) (.booking b') = true
  | _, _ => False

theorem clash_of_overlaps {r r' : Row} (h : Overlaps r r') : clash r r' = true := by
  cases r <;> cases r' <;> first | exact h | exact h.elim

/-- The database checks the constraint on every insert and update. -/
theorem excludes_overlaps : Excludes Db Overlaps := by
  refine excludes_of_clash (fun _ _ => clash_of_overlaps) ?_ ?_
  · intro r r' h
    cases r <;> cases r' <;> try exact h.elim
    exact (clash_comm _ _).trans h
  · intro s db a hexec w hw w' hw' hkey h
    cases s with
    | updateBookings cond data =>
        -- the condition names the id
        obtain ⟨rfl, _⟩ := Db.updateAll_ok hexec
        have hid : ∀ w ∈ (Stmt.updateBookings cond data).written
            ((db.bookings.rows.filter cond.test).map data.on), w.key = .booking cond.id := by
          intro w hw
          obtain ⟨_, hx, rfl⟩ := List.mem_map.mp hw
          obtain ⟨y, hy, rfl⟩ := List.mem_map.mp hx
          have htest := (List.mem_filter.mp hy).2
          simp only [BookingWhere.test, Bool.and_eq_true, beq_iff_eq] at htest
          exact congrArg Key.booking htest.1.1
        exact hkey ((hid w hw).trans (hid w' hw').symm)
    | updatePayments _ _ =>
        obtain ⟨_, _, rfl⟩ := List.mem_map.mp hw
        exact h
    | createBooking _ | updateBooking _ _ | createPayment _ | updatePayment _ _ | createEvent _
    | updateEvent _ _ | createAudit _ =>
        rw [List.mem_singleton.mp hw, List.mem_singleton.mp hw'] at hkey
        exact hkey rfl
    | _ => exact absurd hw List.not_mem_nil

/-! ## Where bookings come from -/

/-- A call of the run asks for the instant, and the booking is the one that it
makes. -/
def RequestedAt (host : Host) (c : System) (b : Booking) (t : Time) : Prop :=
  ∃ P ∈ c.procs, ∃ customerId dto b', P.op.request = .createBooking customerId dto ∧
    host.date dto.startsAt = some t ∧ Admitted host P.op b' ∧ Revises (.booking b') (.booking b)

section
variable {host : Host} {db : Db} {Ok : System → Event Op Exn → Prop} {c c' : System}
  {e : Event Op Exn} {b : Booking} {t : Time}

theorem RequestedAt.next (h : RequestedAt host c b t) (hn : next (program host) c e = some c') :
    RequestedAt host c' b t := by
  obtain ⟨P, hP, customerId, dto, b', hrequest, hdate, hadmitted, hrevises⟩ := h
  obtain ⟨P', hP', hop⟩ := op_of_next hn hP
  exact ⟨P', hP', customerId, dto, b', hop ▸ hrequest, hdate, hop ▸ hadmitted, hrevises⟩

theorem times_of_revises {b b' : Booking} (h : Revises (.booking b) (.booking b')) :
    b'.lower = b.lower ∧ b'.upper = b.upper ∧ b'.bookedDuration = b.bookedDuration := by
  have hcolumns : b' = b.revised b' := h
  rw [hcolumns]
  exact ⟨rfl, rfl, rfl⟩

/-- The columns of a booking are the instant that was asked for, and the end of
the service. -/
theorem RequestedAt.times (h : RequestedAt host c b t) :
    b.lower = toSecond t ∧ b.upper = toSecond t + 60 * b.bookedDuration ∧ 1 ≤ b.bookedDuration := by
  obtain ⟨P, _, customerId, dto, b', hrequest, hdate, hadmitted, hrevises⟩ := h
  obtain ⟨_, _, providerService, provider, service, _, _, hrequest', hdate', hhours, rfl⟩ :=
    hadmitted
  cases hrequest.symm.trans hrequest'
  obtain rfl := Option.some.inj (hdate.symm.trans hdate')
  obtain ⟨hlower, hupper, hduration⟩ := times_of_revises hrevises
  rw [hlower, hupper, hduration, lower_newBooking, upper_newBooking hhours]
  exact ⟨rfl, rfl, providerService.durationMinutes_pos⟩

/-- Every booking was asked for. -/
theorem requestedAt_of_run (hbookings : db.bookings.rows = [])
    (hrun : Run (program host) Ok ⟨db, []⟩ c) (hb : b ∈ c.db.bookings.rows) :
    ∃ t, RequestedAt host c b t := by
  have hall := hrun.everywhere (I := fun c r => ∀ b, r = .booking b → ∃ t, RequestedAt host c b t)
    ?_ rfl ?_ ?_
  · exact hall.committed (.booking b.id) (.booking b)
      (Option.map_eq_some_iff.mpr ⟨b, Table.find?_of_mem hb, rfl⟩) b rfl
  · rintro k _ hr b rfl
    exact absurd (mem_bookings hr) (by simp [hbookings])
  · rintro c c' e hn r hr b rfl
    obtain ⟨t, ht⟩ := hr b rfl
    exact ⟨t, ht.next hn⟩
  · rintro c hrun P hP s k a hk hexec hview w hw b rfl
    rcases Stmt.written_revises hexec hw with ⟨hinserts, _⟩ | ⟨r, hr, hrevises⟩
    · cases s <;> cases hinserts
      have hasks := asks_of_run hrun P hP
      rw [hk] at hasks
      have hadmitted : Admitted host P.op b := hasks.1
      obtain ⟨customerId, dto, _, _, _, t, _, hrequest, hdate, _⟩ := hasks.1
      exact ⟨t, P, hP, customerId, dto, b, hrequest, hdate, hadmitted, revises_refl _⟩
    · cases r with
      | booking b₀ =>
          obtain ⟨t, Q, hQ, customerId, dto, b', hrequest, hdate, hadmitted, hrevises'⟩ :=
            hview _ _ hr b₀ rfl
          exact ⟨t, Q, hQ, customerId, dto, b', hrequest, hdate, hadmitted,
            revises_trans _ _ _ hrevises' hrevises⟩
      | _ => exact hrevises.elim

/-- The constraint holds of the committed bookings. -/
theorem exclusive_of_run (hbookings : db.bookings.rows = [])
    (hrun : Run (program host) Ok ⟨db, []⟩ c) : Exclusive Overlaps c.db := by
  refine hrun.exclusive excludes_overlaps ?_ rfl
  intro k k' r r' _ hr _ h
  cases r with
  | booking b => exact absurd (mem_bookings hr) (by simp [hbookings])
  | _ => exact h.elim

end

/-- **No two active bookings of a provider overlap in real time**: in no
committed state of any run, and whatever instants were asked for. -/
theorem no_overlap (host : Host) (db : Db) (c : System) (hbookings : db.bookings.rows = [])
    (hrun : Run (program host) (fun _ _ => True) ⟨db, []⟩ c) :
    (∀ b ∈ c.db.bookings.rows, ∃ t, RequestedAt host c b t) ∧
    ∀ b₁ ∈ c.db.bookings.rows, ∀ b₂ ∈ c.db.bookings.rows, b₁.id ≠ b₂.id →
      b₁.providerId = b₂.providerId → b₁.active → b₂.active →
        ∀ t₁ t₂, RequestedAt host c b₁ t₁ → RequestedAt host c b₂ t₂ →
          toSecond t₁ + 60 * b₁.bookedDuration ≤ toSecond t₂ ∨
          toSecond t₂ + 60 * b₂.bookedDuration ≤ toSecond t₁ := by
  refine ⟨fun b hb => requestedAt_of_run hbookings hrun hb, ?_⟩
  intro b₁ hb₁ b₂ hb₂ hid hprovider hactive₁ hactive₂ t₁ t₂ ht₁ ht₂
  have hget : ∀ b ∈ c.db.bookings.rows, Database.get c.db (Key.booking b.id) = some (Row.booking b) :=
    fun b hb => Option.map_eq_some_iff.mpr ⟨b, Table.find?_of_mem hb, rfl⟩
  have hclash : clash (.booking b₁) (.booking b₂) ≠ true :=
    exclusive_of_run hbookings hrun _ _ _ _ (fun h => hid (Key.booking.inj h)) (hget b₁ hb₁)
      (hget b₂ hb₂)
  obtain ⟨hlower₁, hupper₁, hpos₁⟩ := ht₁.times
  obtain ⟨hlower₂, hupper₂, hpos₂⟩ := ht₂.times
  simp only [clash, hactive₁, hactive₂, hprovider, beq_self_eq_true, Bool.true_and, rangesOverlap,
    hlower₁, hupper₁, hlower₂, hupper₂, Bool.and_eq_true, decide_eq_true_eq, ne_eq] at hclash
  omega

/-! ## A run -/

namespace Sample

/-- A booking of the offering on 2 March 2026, paid by an order of its own. -/
def bookAt (n : Nat) (clock : String) : Op :=
  ⟨{ ctx n with createOrder := .ok ⟨"order_" ++ toString n, 500, "INR", ""⟩ },
    .createBooking "customer" ⟨"offering", "2026-03-02T" ++ clock ++ ":00.000Z", none⟩⟩

/-- Two bookings at a time, one after the other in real time, and one that
overlaps both. -/
def bookings : List (Event Op Exn) :=
  .spawn (bookAt 1 "10:00") :: steps 0 5 ++ .spawn (bookAt 2 "11:00") :: steps 1 9 ++ steps 0 4 ++
    .spawn (bookAt 3 "10:30") :: steps 2 6

end Sample

/-- Two bookings are made, and they do not overlap. -/
theorem no_overlap_sample : ∃ c : System,
    runChecked (program Sample.host) (fun _ _ => True) ⟨Sample.db, []⟩ Sample.bookings = some c ∧
    (c.db.bookings.rows.filter (·.active)).length = 2 ∧
    (∀ b ∈ c.db.bookings.rows, ∃ t, RequestedAt Sample.host c b t) ∧
    ∀ b₁ ∈ c.db.bookings.rows, ∀ b₂ ∈ c.db.bookings.rows, b₁.id ≠ b₂.id →
      b₁.providerId = b₂.providerId → b₁.active → b₂.active →
        ∀ t₁ t₂, RequestedAt Sample.host c b₁ t₁ → RequestedAt Sample.host c b₂ t₂ →
          toSecond t₁ + 60 * b₁.bookedDuration ≤ toSecond t₂ ∨
          toSecond t₂ + 60 * b₂.bookedDuration ≤ toSecond t₁ := by
  obtain ⟨c, hc⟩ := Option.isSome_iff_exists.mp
    (show (runChecked (program Sample.host) (fun _ _ => True) ⟨Sample.db, []⟩ Sample.bookings).isSome by
      decide +kernel)
  have htwo : ∀ c ∈ runChecked (program Sample.host) (fun _ _ => True) ⟨Sample.db, []⟩ Sample.bookings,
      (c.db.bookings.rows.filter (·.active)).length = 2 := by decide +kernel
  exact ⟨c, hc, htwo c hc, no_overlap Sample.host Sample.db c rfl
    (Run.of_runChecked _ _ hc)⟩

end ServiceHub
