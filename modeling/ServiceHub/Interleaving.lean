/-
# `Interleaving` — what holds of the rows however calls are interleaved

A call asks what its program lets it ask (`asks_of_run`).  It sees its own
versions of rows over the committed ones (`view_row`, `get_of_view`).  An update
writes a row over the one that it finds and sets only some of its columns, so
every version of a row agrees with the committed row in the others
(`revises_of_run`).
-/
import ServiceHub.Programs
import ServiceHub.Txn.Exclusion

namespace ServiceHub

open Data Txn Prog

/-- A call in progress. -/
abbrev Caller : Type := Proc Op Row Stmt Ext Ans Exn Response

section
variable {host : Host} {db : Db} {rows : List Row} {k : Key} {r : Row}

/-- What a call sees under a key is its own version, or the committed row. -/
theorem view_row (h : (puts db rows).get k = some r) :
    (r ∈ rows ∧ r.key = k) ∨ db.get k = some r := by
  rcases Txn.get_puts k rows db with ⟨w, hw, hkey, hfound⟩ | ⟨_, hfound⟩
  · obtain rfl : w = r := Option.some.inj (hfound.symm.trans h)
    exact Or.inl ⟨hw, hkey⟩
  · exact Or.inr (hfound.symm.trans h)

theorem get_of_view (h : (puts db rows).get k = none) : db.get k = none := by
  rcases Txn.get_puts k rows db with ⟨w, _, _, hfound⟩ | ⟨_, hfound⟩
  · exact absurd (hfound.symm.trans h) (by simp)
  · exact hfound.symm.trans h

end

/-- A row is found under its key. -/
theorem Db.key_of_get {db : Db} {k : Key} {r : Row} (h : db.get k = some r) : r.key = k := by
  cases k <;> obtain ⟨x, hx, rfl⟩ := Option.map_eq_some_iff.mp h
  · exact congrArg Key.booking (Table.key_of_find? hx)
  · exact congrArg Key.payment (Table.key_of_find? hx)
  · exact congrArg Key.event (Table.key_of_find? hx)
  · exact congrArg Key.audit (Table.key_of_find? hx)

/-- A booking that is found is under its id. -/
theorem find?_of_get {db : Db} {k : Key} {b : Booking} (h : db.get k = some (.booking b)) :
    k = .booking b.id ∧ db.bookings.find? b.id = some b := by
  obtain rfl := Db.key_of_get h
  obtain ⟨b', hb', heq⟩ := Option.map_eq_some_iff.mp h
  cases heq
  exact ⟨rfl, hb'⟩

theorem mem_bookings {db : Db} {k : Key} {b : Booking} (h : db.get k = some (.booking b)) :
    b ∈ db.bookings.rows := Table.mem_of_find? (find?_of_get h).2

section
variable {host : Host} {db : Db} {Ok : System → Event Op Exn → Prop} {c : System}

/-- What a call goes on to ask. -/
theorem asks_of_run (hrun : Run (program host) Ok ⟨db, []⟩ c) :
    ∀ P ∈ c.procs, Asking host P.op P.hist P.prog :=
  hrun.obeys (fun _ _ _ => program_asks) rfl

/-- What a call has asked. -/
theorem asked_of_run (hrun : Run (program host) Ok ⟨db, []⟩ c) :
    ∀ P ∈ c.procs, Obeyed (Asks host P.op) P.hist :=
  hrun.obeyed (R := fun _ _ _ => True) (fun _ _ _ => program_asks) rfl

end

/-! ## Constraints -/

theorem mem_siblings {db : Db} {w r : Row} {k : Key} (h : clash w r = true)
    (hr : db.get k = some r) : r ∈ db.siblings w ∧ r.key = k := by
  refine ⟨?_, Db.key_of_get hr⟩
  obtain rfl := Db.key_of_get hr
  cases w <;> cases r <;> try exact absurd h Bool.false_ne_true
  all_goals
    obtain ⟨x, hx, heq⟩ := Option.map_eq_some_iff.mp hr
    cases heq
    exact List.mem_map.mpr ⟨_, Table.mem_of_find? hx, rfl⟩

/-- A row is not stored beside one that it clashes with. -/
theorem not_clash_of_refusal {db : Db} {w r : Row} {k : Key} (hrefusal : db.refusal w = none)
    (hr : db.get k = some r) (hkey : w.key ≠ k) : clash w r = false := by
  by_contra hclash
  have hclash : clash w r = true := by simpa using hclash
  obtain ⟨hmem, rfl⟩ := mem_siblings hclash hr
  have hpair := List.any_eq_false.mp (Db.clashes_of_refusal hrefusal) r hmem
  simp only [hclash, Bool.and_true, decide_eq_true_eq, not_not] at hpair
  exact hkey hpair.symm

/-- What the database keeps apart, it keeps apart under concurrency, if no
statement writes two such rows. -/
theorem excludes_of_clash {R : Row → Row → Prop} (hclash : ∀ r r', R r r' → clash r r' = true)
    (hsymm : ∀ r r', R r r' → R r' r)
    (htogether : ∀ (s : Stmt) (db : Db) (a : Ans s), db.exec s = .ok a → ∀ w ∈ s.written a,
      ∀ w' ∈ s.written a, w.key ≠ w'.key → ¬ R w w') : Excludes Db R where
  symm := hsymm
  together := htogether
  snapshot s db a hexec w hw k r hkey hr h := by
    have hfree := not_clash_of_refusal (Stmt.written_spec hexec w hw).2 hr hkey
    rw [hclash _ _ h] at hfree
    cases hfree
  waits s db others a hwait hexec w hw o ho h := by
    have hfree := (Stmt.written_apart hwait hexec w hw o ho).2
    rw [hclash _ _ h] at hfree
    cases hfree

/-! ## Columns that no update sets -/

/-- The booking with the columns of another that an update may set. -/
def Booking.revised (b b' : Booking) : Booking :=
  { b with
    bookingStatus := b'.bookingStatus
    cancellationReason := b'.cancellationReason
    cancelledAt := b'.cancelledAt
    completedAt := b'.completedAt
    overdueAt := b'.overdueAt
    needsReview := b'.needsReview }

/-- The payment with the columns of another that an update may set. -/
def Payment.revised (p p' : Payment) : Payment :=
  { p with
    status := p'.status
    gatewayPaymentId := p'.gatewayPaymentId
    gatewaySignature := p'.gatewaySignature
    paidAt := p'.paidAt
    refundedAt := p'.refundedAt }

/-- The second row differs from the first only in columns that an update may
set. -/
def Revises : Row → Row → Prop
  | .booking b, .booking b' => b' = b.revised b'
  | .payment p, .payment p' => p' = p.revised p'
  | .event e, .event e' => e' = { e with processedAt := e'.processedAt }
  | .audit a, .audit a' => a' = a
  | _, _ => False

/-- The amount of a payment is no column that an update sets. -/
theorem amount_of_revises {p p' : Payment} (h : Revises (.payment p) (.payment p')) :
    p'.amount = p.amount := by
  have hcolumns : p' = p.revised p' := h
  rw [hcolumns]
  rfl

theorem revises_refl (r : Row) : Revises r r := by
  cases r <;> rfl

theorem revises_trans (r r' r'' : Row) (h : Revises r r') (h' : Revises r' r'') :
    Revises r r'' := by
  cases r <;> cases r' <;> try exact h.elim
  all_goals
    cases r'' <;> try exact h'.elim
  all_goals
    simp only [Revises, Booking.revised, Payment.revised] at h h' ⊢
    rw [h', h]

/-- The row that a statement inserts. -/
def Stmt.inserts : Stmt → Option Row
  | .createBooking b => some (.booking b)
  | .createPayment p => some (.payment p)
  | .createEvent e => some (.event e)
  | .createAudit a => some (.audit a)
  | _ => none

/-- A statement inserts a row, or revises the one it finds. -/
theorem Stmt.written_revises {s : Stmt} {db : Db} {a : Ans s} (hexec : db.exec s = .ok a)
    {w : Row} (hw : w ∈ s.written a) :
    (s.inserts = some w ∧ db.get w.key = none) ∨ ∃ r, db.get w.key = some r ∧ Revises r w := by
  cases s with
  | createBooking _ | createPayment _ | createEvent _ | createAudit _ =>
      obtain ⟨ha, hnone, _⟩ := Db.insert_ok hexec
      rw [List.mem_singleton.mp hw, ha]
      exact Or.inl ⟨rfl, hnone⟩
  | updateBooking id data =>
      obtain ⟨y, hy, ha, _⟩ := Db.update_ok hexec
      rw [List.mem_singleton.mp hw, ha]
      refine Or.inr ⟨.booking y, Option.map_eq_some_iff.mpr ⟨y, ?_, rfl⟩, rfl⟩
      exact (Table.key_of_find? hy).symm ▸ hy
  | updatePayment id data =>
      obtain ⟨y, hy, ha, _⟩ := Db.update_ok hexec
      rw [List.mem_singleton.mp hw, ha]
      refine Or.inr ⟨.payment y, Option.map_eq_some_iff.mpr ⟨y, ?_, rfl⟩, rfl⟩
      exact (Table.key_of_find? hy).symm ▸ hy
  | updateEvent id t =>
      obtain ⟨y, hy, ha, _⟩ := Db.update_ok hexec
      rw [List.mem_singleton.mp hw, ha]
      refine Or.inr ⟨.event y, Option.map_eq_some_iff.mpr ⟨y, ?_, rfl⟩, rfl⟩
      exact (Table.key_of_find? hy).symm ▸ hy
  | updateBookings cond data =>
      obtain ⟨rfl, _⟩ := Db.updateAll_ok hexec
      obtain ⟨_, hx, rfl⟩ := List.mem_map.mp hw
      obtain ⟨y, hy, rfl⟩ := List.mem_map.mp hx
      refine Or.inr ⟨.booking y, Option.map_eq_some_iff.mpr ⟨y, ?_, rfl⟩, rfl⟩
      exact Table.find?_of_mem (List.mem_filter.mp hy).1
  | updatePayments cond data =>
      obtain ⟨rfl, _⟩ := Db.updateAll_ok hexec
      obtain ⟨_, hx, rfl⟩ := List.mem_map.mp hw
      obtain ⟨y, hy, rfl⟩ := List.mem_map.mp hx
      refine Or.inr ⟨.payment y, Option.map_eq_some_iff.mpr ⟨y, ?_, rfl⟩, rfl⟩
      exact Table.find?_of_mem (List.mem_filter.mp hy).1
  | _ => exact absurd hw List.not_mem_nil

/-- A booking is written by its insert, or by an update of the row found. -/
theorem Stmt.written_booking {s : Stmt} {db : Db} {a : Ans s} (hexec : db.exec s = .ok a)
    {b' : Booking} (hw : Row.booking b' ∈ s.written a) :
    (s = .createBooking b' ∧ db.get (.booking b'.id) = none) ∨
    ∃ b data, db.get (.booking b'.id) = some (.booking b) ∧ b' = data.on b ∧
      (s = .updateBooking b'.id data ∨ ∃ w, s = .updateBookings w data ∧ w.test b = true) := by
  cases s with
  | createBooking b =>
      obtain ⟨ha, hnone, _⟩ := Db.insert_ok hexec
      obtain rfl : b' = b := (Row.booking.inj (List.mem_singleton.mp hw)).trans ha
      exact Or.inl ⟨rfl, hnone⟩
  | updateBooking id data =>
      obtain ⟨y, hy, ha, _⟩ := Db.update_ok hexec
      obtain rfl : b' = data.on y := (Row.booking.inj (List.mem_singleton.mp hw)).trans ha
      have hid : y.id = id := Table.key_of_find? hy
      refine Or.inr ⟨y, data, Option.map_eq_some_iff.mpr ⟨y, hid.symm ▸ hy, rfl⟩, rfl,
        Or.inl (by rw [BookingUpdate.id_on, hid])⟩
  | updateBookings w data =>
      obtain ⟨rfl, _⟩ := Db.updateAll_ok hexec
      obtain ⟨_, hx, heq⟩ := List.mem_map.mp hw
      cases heq
      obtain ⟨y, hy, rfl⟩ := List.mem_map.mp hx
      obtain ⟨hrow, htest⟩ := List.mem_filter.mp hy
      exact Or.inr ⟨y, data, Option.map_eq_some_iff.mpr ⟨y, Table.find?_of_mem hrow, rfl⟩, rfl,
        Or.inr ⟨w, rfl, htest⟩⟩
  | updatePayments _ _ =>
      obtain ⟨_, _, heq⟩ := List.mem_map.mp hw
      cases heq
  | createPayment _ | updatePayment _ _ | createEvent _ | updateEvent _ _ | createAudit _ =>
      cases List.mem_singleton.mp hw
  | _ => exact absurd hw List.not_mem_nil

/-- A payment is written by its insert, or by an update of the row found. -/
theorem Stmt.written_payment {s : Stmt} {db : Db} {a : Ans s} (hexec : db.exec s = .ok a)
    {p' : Payment} (hw : Row.payment p' ∈ s.written a) :
    (s = .createPayment p' ∧ db.get (.payment p'.id) = none ∧
      (db.get (.booking p'.bookingId)).isSome) ∨
    ∃ p data, db.get (.payment p'.id) = some (.payment p) ∧ p' = data.on p ∧
      (s = .updatePayment p'.id data ∨ ∃ w, s = .updatePayments w data ∧ w.test p = true) := by
  cases s with
  | createPayment p =>
      obtain ⟨ha, hnone, hdangling, _⟩ := Db.insert_ok hexec
      obtain rfl : p' = p := (Row.payment.inj (List.mem_singleton.mp hw)).trans ha
      have hbooking : (db.bookings.find? p'.bookingId).isSome := by
        simpa [Db.dangling, Option.isSome_iff_ne_none] using hdangling
      exact Or.inl ⟨rfl, hnone, by simpa [Db.get] using hbooking⟩
  | updatePayment id data =>
      obtain ⟨y, hy, ha, _⟩ := Db.update_ok hexec
      obtain rfl : p' = data.on y := (Row.payment.inj (List.mem_singleton.mp hw)).trans ha
      have hid : y.id = id := Table.key_of_find? hy
      refine Or.inr ⟨y, data, Option.map_eq_some_iff.mpr ⟨y, hid.symm ▸ hy, rfl⟩, rfl,
        Or.inl (by rw [PaymentUpdate.id_on, hid])⟩
  | updatePayments w data =>
      obtain ⟨rfl, _⟩ := Db.updateAll_ok hexec
      obtain ⟨_, hx, heq⟩ := List.mem_map.mp hw
      cases heq
      obtain ⟨y, hy, rfl⟩ := List.mem_map.mp hx
      obtain ⟨hrow, htest⟩ := List.mem_filter.mp hy
      exact Or.inr ⟨y, data, Option.map_eq_some_iff.mpr ⟨y, Table.find?_of_mem hrow, rfl⟩, rfl,
        Or.inr ⟨w, rfl, htest⟩⟩
  | updateBookings _ _ =>
      obtain ⟨_, _, heq⟩ := List.mem_map.mp hw
      cases heq
  | createBooking _ | updateBooking _ _ | createEvent _ | updateEvent _ _ | createAudit _ =>
      cases List.mem_singleton.mp hw
  | _ => exact absurd hw List.not_mem_nil

section
variable {host : Host} {db : Db} {Ok : System → Event Op Exn → Prop} {c c' : System}
  {e : Event Op Exn}

theorem writesIn_revises (hver : Versions Revises c) : WritesIn Revises c e := by
  refine hver.writesIn revises_trans fun s db a hexec w hw => ?_
  rcases Stmt.written_revises hexec hw with ⟨_, hnone⟩ | hfound
  · exact Or.inl hnone
  · exact Or.inr hfound

theorem versions_revise (hrun : Run (program host) Ok ⟨db, []⟩ c) : Versions Revises c :=
  hrun.versions rfl fun _ _ _ hver _ => writesIn_revises hver

/-- **Rows are only revised**, and none is ever deleted. -/
theorem revises_of_run (hrun : Run (program host) Ok ⟨db, []⟩ c)
    (hrun' : Run (program host) Ok c c') {k : Key} {r : Row} (hr : c.db.get k = some r) :
    ∃ r', c'.db.get k = some r' ∧ Revises r r' :=
  Run.related revises_refl revises_trans rfl (fun _ _ _ hver _ => writesIn_revises hver) hrun
    hrun' hr

/-- What a call sees of a row revises the committed one. -/
theorem revises_view (hrun : Run (program host) Ok ⟨db, []⟩ c) {P : Caller} (hP : P ∈ c.procs)
    {k : Key} {r r' : Row} (hr : c.db.get k = some r) (hr' : (view c.db P).get k = some r') :
    Revises r r' := by
  rcases view_row hr' with ⟨hown, rfl⟩ | hcommitted
  · exact versions_revise hrun P hP r' hown r hr
  · obtain rfl := Option.some.inj (hcommitted.symm.trans hr)
    exact revises_refl _

end

/-! ## A booking and the calls about it -/

namespace Sample

/-- A booking of which the payment is open. -/
def booked : Db := runAll host db [book]

/-- The call `p` goes on by `n` instructions. -/
def steps (p n : Nat) : List (Event Op Exn) := List.replicate n (.exec p)

end Sample

end ServiceHub
