/-
# `Buffers` — the buffer between two bookings

An offering has a `bufferMinutes`, the time that its provider needs after the
service.  `createBooking` asks that service and buffer fit a shift
(`checkWorkingHours`), and the exclusion constraint keeps the services of two
active bookings apart (`Overlap`); but the range of the constraint ends with the
service.  So nothing keeps a booking out of the buffer after another one.

`ClearOfBuffers` asks that a booking which becomes active neither begins in the
buffer of an active one of its provider nor has an active one begin in its own.
Of overlapping bookings it says nothing.  In runs whose steps all meet it every
two active bookings of a provider keep the buffer (`buffer_kept`).
-/
import ServiceHub.Overlap
import ServiceHub.Writes
import ServiceHub.Txn.Views

namespace ServiceHub

open Data Txn Prog

/-! ## Buffers -/

/-- The buffer of the offering that was booked. -/
def Db.bufferMinutes (db : Db) (b : Booking) : Nat :=
  ((db.providerServices.find? b.providerServiceId).map ProviderService.bufferMinutes).getD 0

/-- The second booking begins in the buffer after the first one. -/
def Db.InBuffer (db : Db) (b b' : Booking) : Prop :=
  b.upper ≤ b'.lower ∧ b'.lower < b.upper + 60 * db.bufferMinutes b

instance (db : Db) (b b' : Booking) : Decidable (db.InBuffer b b') :=
  inferInstanceAs (Decidable (_ ∧ _))

/-- Two active bookings of one provider, and one begins in the buffer of the
other. -/
def Crowds (db : Db) : Row → Row → Prop
  | .booking b, .booking b' => b.active ∧ b'.active ∧ b.providerId = b'.providerId ∧
      b.id ≠ b'.id ∧ (db.InBuffer b b' ∨ db.InBuffer b' b)
  | _, _ => False

theorem crowds_comm {db : Db} (r r' : Row) (h : Crowds db r r') : Crowds db r' r := by
  cases r <;> cases r' <;> try exact h.elim
  obtain ⟨hb, hb', hprovider, hid, hbuffer⟩ := h
  exact ⟨hb', hb, hprovider.symm, Ne.symm hid, hbuffer.symm⟩

def Row.asBooking : Row → Option Booking
  | .booking b => some b
  | _ => none

/-- The bookings of the database and of the open transactions. -/
def presentBookings (c : System) : List Booking :=
  c.db.bookings.rows ++ c.procs.flatMap fun P => P.pending.filterMap Row.asBooking

/-- The booking that the call is about to make active: it inserts one, or
confirms one that is not active any more. -/
def activates (c : System) (P : Caller) : Option Booking :=
  match P.prog with
  | .ask (.stmt (.createBooking b)) _ => some b
  | .ask (.stmt (.updateBooking id data)) _ =>
      (((view c.db P).bookings.find? id).filter fun b => !b.active).map data.on
  | _ => none

/-- No booking is made active that crowds an active one, or is crowded by
one. -/
def ClearOfBuffers (c : System) : Event Op Exn → Prop
  | .exec p => ∀ P ∈ c.procs[p]?, ∀ b ∈ activates c P, ∀ b' ∈ presentBookings c,
      b'.active → b'.providerId = b.providerId → ¬ c.db.InBuffer b b' ∧ ¬ c.db.InBuffer b' b
  | _ => True

instance (c : System) : ∀ e, Decidable (ClearOfBuffers c e)
  | .exec p => inferInstanceAs
      (Decidable (∀ P ∈ c.procs[p]?, ∀ b ∈ activates c P, ∀ b' ∈ presentBookings c,
        b'.active → b'.providerId = b.providerId → ¬ c.db.InBuffer b b' ∧ ¬ c.db.InBuffer b' b))
  | .spawn _ => .isTrue trivial
  | .fail _ _ => .isTrue trivial

theorem mem_presentBookings {c : System} {b : Booking} (hb : Present c (.booking b)) :
    b ∈ presentBookings c := by
  rcases hb with ⟨k, hb⟩ | ⟨P, hP, hb⟩
  · exact List.mem_append_left _ (mem_bookings hb)
  · exact List.mem_append_right _
      (List.mem_flatMap.mpr ⟨P, hP, List.mem_filterMap.mpr ⟨_, hb, rfl⟩⟩)

/-! ## The columns that a buffer is measured by -/

theorem providerServices_puts (rows : List Row) (db : Db) :
    (puts db rows).providerServices = db.providerServices := by
  induction rows generalizing db with
  | nil => rfl
  | cons r rows ih => exact (ih (db.put r)).trans (Db.providerServices_put db r)

section
variable {host : Host} {db : Db} {Ok : System → Event Op Exn → Prop} {c : System}

/-- No call changes an offering. -/
theorem providerServices_of_run (hrun : Run (program host) Ok ⟨db, []⟩ c) :
    c.db.providerServices = db.providerServices := by
  induction hrun with
  | start => rfl
  | step hrun _ hn ih =>
      rcases committed_next hrun hn with ⟨_, _, hdb⟩ | ⟨_, _, _, rows, _, _, _, hdb⟩
      · rw [hdb, ih]
      · rw [hdb, providerServices_puts, ih]

theorem inBuffer_of_run (hrun : Run (program host) Ok ⟨db, []⟩ c) (b b' : Booking) :
    c.db.InBuffer b b' ↔ db.InBuffer b b' := by
  simp only [Db.InBuffer, Db.bufferMinutes, providerServices_of_run hrun]

/-! ## Nobody is crowded -/

/-- A worker makes no booking active. -/
theorem not_active_of_worker {op : Op} {w : BookingWhere} {data : BookingUpdate}
    (hworker : Worker op w data) {b : Booking} (hactive : (data.on b).active) : b.active := by
  rcases hworker with ⟨_, _, _, rfl⟩ | ⟨_, _, _, rfl⟩
  · simp [Booking.active, BookingUpdate.on, expireData] at hactive
  · exact hactive

/-- A booking that a call writes crowds none that is present. -/
theorem not_crowds_of_written (hrun : Run (program host) ClearOfBuffers ⟨db, []⟩ c) {n : Nat}
    {P : Caller} (hok : ClearOfBuffers c (.exec n)) (hP : c.procs[n]? = some P) {s : Stmt}
    {k : Except Exn (Ans s) → Call Response} (hk : P.prog = .ask (.stmt s) k) {a : Ans s}
    (hexec : (view c.db P).exec s = .ok a)
    (hclear : ∀ r r', Present c r → Present c r' → ¬ Crowds db r r') {w b' : Booking}
    (hw : .booking w ∈ s.written a) (hb' : Present c (.booking b')) :
    ¬ Crowds db (.booking w) (.booking b') := by
  rintro ⟨hactive, hactive', hprovider, hid, hbuffer⟩
  have hmem : P ∈ c.procs := List.mem_of_getElem? hP
  have hwrites := (hk ▸ writes_of_run hrun P hmem : Writing host P.op P.hist (.ask (.stmt s) k)).1
  have hmade : w ∉ activates c P := by
    intro hmade
    have hfree := hok P hP w hmade b' (mem_presentBookings hb') hactive' hprovider.symm
    rw [inBuffer_of_run hrun, inBuffer_of_run hrun] at hfree
    exact hbuffer.elim hfree.1 hfree.2
  rcases Stmt.written_booking hexec hw with ⟨rfl, _⟩ | ⟨b, data, hb, rfl, hs⟩
  · exact hmade (by simp [activates, hk])
  -- an update leaves a booking where it was
  have hold : b.active → False := by
    intro hbactive
    exact hclear _ _ (present_of_view hmem hb) hb'
      ⟨hbactive, hactive', hprovider, hid, hbuffer⟩
  rcases hs with rfl | ⟨cond, rfl, _⟩
  · by_cases hbactive : b.active
    · exact hold hbactive
    · obtain ⟨x, hx, heq⟩ := Option.map_eq_some_iff.mp hb
      cases heq
      have hfind : (view c.db P).bookings.find? b.id = some b := hx
      exact hmade (by simp [activates, hk, hfind, hbactive])
  · exact hold (not_active_of_worker hwrites.1 hactive)

/-- One statement writes no two bookings. -/
theorem not_crowds_together {s : Stmt} {db' : Db} {a : Ans s} (hexec : db'.exec s = .ok a)
    {w w' : Row} (hw : w ∈ s.written a) (hw' : w' ∈ s.written a) : ¬ Crowds db w w' := by
  intro hcrowds
  cases w <;> cases w' <;> try exact hcrowds.elim
  obtain ⟨_, _, _, hid, _⟩ := hcrowds
  rcases Stmt.written_booking hexec hw with ⟨rfl, _⟩ | ⟨x, data, _, rfl, rfl | ⟨cond, rfl, htest⟩⟩
  · cases List.mem_singleton.mp hw
    cases List.mem_singleton.mp hw'
    exact hid rfl
  · have hsame := (List.mem_singleton.mp hw').trans (List.mem_singleton.mp hw).symm
    cases hsame
    exact hid rfl
  · rcases Stmt.written_booking hexec hw' with ⟨hs, _⟩ | ⟨y, _, _, rfl, hs | ⟨_, hs, htest'⟩⟩
    · cases hs
    · cases hs
    · cases hs
      simp only [BookingWhere.test, Bool.and_eq_true, beq_iff_eq] at htest htest'
      exact hid (htest.1.1.trans htest'.1.1.symm)

theorem not_crowds_of_run (hbookings : db.bookings.rows = [])
    (hrun : Run (program host) ClearOfBuffers ⟨db, []⟩ c) :
    ∀ r r', Present c r → Present c r' → ¬ Crowds db r r' := by
  refine hrun.pairwise crowds_comm ?_ rfl ?_
  · intro k k' r r' hr _ hcrowds
    cases r with
    | booking b => exact absurd (mem_bookings hr) (by simp [hbookings])
    | _ => exact hcrowds.elim
  · intro c p P s k a hrun hok hP hk hexec hclear w hw
    refine ⟨fun r hr hcrowds => ?_, fun w' hw' => not_crowds_together hexec hw hw'⟩
    cases w <;> cases r <;> try exact hcrowds.elim
    exact not_crowds_of_written hrun hok hP hk hexec hclear hw hr hcrowds

end

/-- **The buffer is kept** between any two active bookings of a provider, in
every run that puts none into a buffer. -/
theorem buffer_kept (host : Host) (db : Db) (c : System) (hbookings : db.bookings.rows = [])
    (hrun : Run (program host) ClearOfBuffers ⟨db, []⟩ c) :
    ∀ b ∈ c.db.bookings.rows, ∀ b' ∈ c.db.bookings.rows, b.id ≠ b'.id →
      b.providerId = b'.providerId → b.active → b'.active → b.lower ≤ b'.lower →
        b.upper + 60 * c.db.bufferMinutes b ≤ b'.lower := by
  intro b hb b' hb' hid hprovider hactive hactive' horder
  have hget : ∀ b ∈ c.db.bookings.rows, Database.get c.db (Key.booking b.id) = some (Row.booking b) :=
    fun b hb => Option.map_eq_some_iff.mpr ⟨b, Table.find?_of_mem hb, rfl⟩
  have hcrowds := not_crowds_of_run hbookings hrun _ _ (Or.inl ⟨_, hget b hb⟩)
    (Or.inl ⟨_, hget b' hb'⟩)
  have hbuffer : ¬ db.InBuffer b b' := fun hbuffer =>
    hcrowds ⟨hactive, hactive', hprovider, hid, Or.inl hbuffer⟩
  have hclash : clash (.booking b) (.booking b') ≠ true :=
    exclusive_of_run hbookings hrun _ _ _ _ (fun h => hid (Key.booking.inj h)) (hget b hb)
      (hget b' hb')
  obtain ⟨t, ht⟩ := requestedAt_of_run hbookings hrun hb
  obtain ⟨t', ht'⟩ := requestedAt_of_run hbookings hrun hb'
  obtain ⟨hlower, hupper, hpos⟩ := ht.times
  obtain ⟨hlower', hupper', hpos'⟩ := ht'.times
  rw [← inBuffer_of_run hrun, Db.InBuffer] at hbuffer
  simp only [clash, hactive, hactive', hprovider, beq_self_eq_true, Bool.true_and, rangesOverlap,
    Bool.and_eq_true, decide_eq_true_eq, ne_eq] at hclash
  omega

/-! ## Two runs -/

namespace Sample

/-- A booking at 10, and one after its end and buffer. -/
def spaced : List (Event Op Exn) :=
  .spawn (bookAt 1 "10:00") :: steps 0 9 ++ .spawn (bookAt 2 "11:15") :: steps 1 9

/-- A booking at 10, and one at its end. -/
def backToBack : List (Event Op Exn) :=
  .spawn (bookAt 1 "10:00") :: steps 0 9 ++ .spawn (bookAt 2 "11:00") :: steps 1 9

/-- The active bookings: begin, end and buffer. -/
def calendar (db : Db) : List (Int × Int × Nat) :=
  (db.bookings.rows.filter (·.active)).map fun b => (b.lower, b.upper, db.bufferMinutes b)

end Sample

/-- 11:15 is late enough after a booking from 10 to 11. -/
theorem buffer_kept_sample : ∃ c,
    runChecked (program Sample.host) ClearOfBuffers ⟨Sample.db, []⟩ Sample.spaced = some c ∧
    Sample.calendar c.db = [(1772445600, 1772449200, 15), (1772450100, 1772453700, 15)] ∧
    ∀ b ∈ c.db.bookings.rows, ∀ b' ∈ c.db.bookings.rows, b.id ≠ b'.id →
      b.providerId = b'.providerId → b.active → b'.active → b.lower ≤ b'.lower →
        b.upper + 60 * c.db.bufferMinutes b ≤ b'.lower := by
  obtain ⟨c, hc⟩ := Option.isSome_iff_exists.mp
    (show (runChecked (program Sample.host) ClearOfBuffers ⟨Sample.db, []⟩ Sample.spaced).isSome by
      decide +kernel)
  have htwo : ∀ c ∈ runChecked (program Sample.host) ClearOfBuffers ⟨Sample.db, []⟩ Sample.spaced,
      Sample.calendar c.db = [(1772445600, 1772449200, 15), (1772450100, 1772453700, 15)] := by
    decide +kernel
  exact ⟨c, hc, htwo c hc, buffer_kept Sample.host Sample.db c rfl (Run.of_runChecked _ _ hc)⟩

/-- 11:00 is accepted too, fifteen minutes too early. -/
theorem not_buffer_kept : ∃ c,
    runEvents (program Sample.host) ⟨Sample.db, []⟩ Sample.backToBack = some c ∧
    (∀ P ∈ c.procs, P.prog.head.isNone) ∧
    ∃ b ∈ c.db.bookings.rows, ∃ b' ∈ c.db.bookings.rows, b.id ≠ b'.id ∧
      b.providerId = b'.providerId ∧ b.active ∧ b'.active ∧ b.lower ≤ b'.lower ∧
      b'.lower < b.upper + 60 * c.db.bufferMinutes b := by
  obtain ⟨c, hc⟩ := Option.isSome_iff_exists.mp
    (show (runEvents (program Sample.host) ⟨Sample.db, []⟩ Sample.backToBack).isSome by
      decide +kernel)
  have hcrowded : ∀ c ∈ runEvents (program Sample.host) ⟨Sample.db, []⟩ Sample.backToBack,
      (∀ P ∈ c.procs, P.prog.head.isNone) ∧
      ∃ b ∈ c.db.bookings.rows, ∃ b' ∈ c.db.bookings.rows, b.id ≠ b'.id ∧
        b.providerId = b'.providerId ∧ b.active ∧ b'.active ∧ b.lower ≤ b'.lower ∧
        b'.lower < b.upper + 60 * c.db.bufferMinutes b := by decide +kernel
  exact ⟨c, hc, hcrowded c hc⟩

end ServiceHub
