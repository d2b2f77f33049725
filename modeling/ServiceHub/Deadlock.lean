/-
# `Deadlock` — no cycle of transactions that wait for each other

An UPDATE locks the rows that it changes until its transaction ends.  With
bookings before payments on every branch no two transactions could wait for each
other; but `verifyClientPayment` and `refundPayment` change the payment first.
One of them that has the payment waits for the booking, and `expireBooking` or
the webhook, which has the booking, waits for the payment.

`InOrder` asks that these do not get between the two updates of those.  Then no
cycle is ever reached (`no_deadlock`), whichever of its rows an UPDATE of several
rows has locked already while it waits (`Holding`).  The proof ranks the calls
by what they wait for:

    4   a booking, with nothing held
    3   one payment, with at most a booking held
    2   the payments of the booking that the call holds
    1   the booking of the payment that the call holds
-/
import ServiceHub.LockOrder
import ServiceHub.Txn.Locks

namespace ServiceHub

open Data Txn Prog

/-- The bookings and payments that a statement changes. -/
def Stmt.locks (s : Stmt) (db : Db) : List Key :=
  match s with
  | .updateBooking _ _ | .updateBookings _ _ | .updatePayment _ _ | .updatePayments _ _ =>
      (s.targets db).map Row.key
  | _ => []

/-- The booking that the call has yet to change, after its payment. -/
def due (P : Caller) : Option Uuid :=
  match P.prog with
  | .ask (.stmt (.updateBooking id _)) _ => if P.pending.any Row.isPayment then some id else none
  | _ => none

/-- The payment that the next update of the call finds. -/
def paymentNext (c : System) (P : Caller) : Option Payment :=
  match P.prog with
  | .ask (.stmt (.updatePayment id _)) _ => (view c.db P).payments.find? id
  | _ => none

/-- The rows that the next statement of the call writes. -/
def rowsNext (c : System) (P : Caller) : List Row :=
  match P.prog with
  | .ask (.stmt s) _ => s.targets (view c.db P)
  | _ => []

/-- Between its two updates, no call that changes the payment first finds the
booking with one that changes the booking first. -/
def InOrder (c : System) : Event Op Exn → Prop
  | .exec p => ∀ P ∈ c.procs[p]?, ∀ Q ∈ c.procs.eraseIdx p,
      (P.op.request.paymentFirst → Q.op.request.bookingFirst → ∀ x ∈ paymentNext c P,
        ∀ r ∈ Q.pending, r.key ≠ .booking x.bookingId) ∧
      (P.op.request.bookingFirst → ∀ id ∈ due Q, ∀ r ∈ rowsNext c P, r.key ≠ .booking id)
  | _ => True

instance (c : System) : ∀ e, Decidable (InOrder c e)
  | .exec p => inferInstanceAs (Decidable (∀ P ∈ c.procs[p]?, ∀ Q ∈ c.procs.eraseIdx p,
      (P.op.request.paymentFirst → Q.op.request.bookingFirst → ∀ x ∈ paymentNext c P,
        ∀ r ∈ Q.pending, r.key ≠ .booking x.bookingId) ∧
      (P.op.request.bookingFirst → ∀ id ∈ due Q, ∀ r ∈ rowsNext c P, r.key ≠ .booking id)))
  | .spawn _ => .isTrue trivial
  | .fail _ _ => .isTrue trivial

/-! ## What a call is about to change -/

/-- The rows that a call is about to change, by its next statement. -/
inductive Wants (c : System) (P : Caller) : Key → Prop where
  | booking {id : Uuid} {data : BookingUpdate}
      {k : Except Exn (Ans (.updateBooking id data)) → Call Response} :
      P.prog = .ask (.stmt (.updateBooking id data)) k → Wants c P (.booking id)
  | bookings {w : BookingWhere} {data : BookingUpdate}
      {k : Except Exn (Ans (.updateBookings w data)) → Call Response} :
      P.prog = .ask (.stmt (.updateBookings w data)) k → Wants c P (.booking w.id)
  | payment {id : Uuid} {data : PaymentUpdate}
      {k : Except Exn (Ans (.updatePayment id data)) → Call Response} :
      P.prog = .ask (.stmt (.updatePayment id data)) k → Wants c P (.payment id)
  | payments {w : PaymentWhere} {data : PaymentUpdate}
      {k : Except Exn (Ans (.updatePayments w data)) → Call Response} {x : Payment} :
      P.prog = .ask (.stmt (.updatePayments w data)) k →
      (view c.db P).payments.find? x.id = some x → x.bookingId = w.bookingId →
      Wants c P (.payment x.id)

theorem wants_of_mem {c : System} {P : Caller} {key : Key}
    (h : key ∈ P.wants Stmt.locks c.db) : Wants c P key := by
  unfold Proc.wants at h
  split at h
  · rename_i s k hk
    cases s with
    | updateBooking id data =>
        obtain ⟨r, hr, rfl⟩ := List.mem_map.mp h
        simp only [Stmt.targets, Option.mem_toList, Option.map_eq_some_iff] at hr
        obtain ⟨b, hb, rfl⟩ := hr
        obtain rfl : b.id = id := Table.key_of_find? hb
        exact .booking hk
    | updateBookings w data =>
        obtain ⟨r, hr, rfl⟩ := List.mem_map.mp h
        obtain ⟨b, hb, rfl⟩ := List.mem_map.mp hr
        have htest := (List.mem_filter.mp hb).2
        simp only [BookingWhere.test, Bool.and_eq_true, beq_iff_eq] at htest
        have hkey : (Row.booking (data.on b)).key = .booking w.id := congrArg Key.booking htest.1.1
        rw [hkey]
        exact .bookings hk
    | updatePayment id data =>
        obtain ⟨r, hr, rfl⟩ := List.mem_map.mp h
        simp only [Stmt.targets, Option.mem_toList, Option.map_eq_some_iff] at hr
        obtain ⟨p, hp, rfl⟩ := hr
        obtain rfl : p.id = id := Table.key_of_find? hp
        exact .payment hk
    | updatePayments w data =>
        obtain ⟨r, hr, rfl⟩ := List.mem_map.mp h
        obtain ⟨p, hp, rfl⟩ := List.mem_map.mp hr
        obtain ⟨hrow, htest⟩ := List.mem_filter.mp hp
        simp only [PaymentWhere.test, Bool.and_eq_true, beq_iff_eq] at htest
        exact (.payments hk (Table.find?_of_mem hrow) htest.1 : Wants c P (.payment p.id))
    | _ => exact absurd h List.not_mem_nil
  · exact absurd h List.not_mem_nil

section
variable {host : Host} {db : Db} {Ok : System → Event Op Exn → Prop} {c c' : System}
  {e : Event Op Exn} {P : Caller}

/-- What the open transaction has not written is not among the versions. -/
theorem not_pending_of_not_took (hrun : Run (program host) Ok ⟨db, []⟩ c) (hP : P ∈ c.procs)
    {f : Row → Bool} (h : ¬ Took f P.hist) : ∀ r ∈ P.pending, ¬ f r := by
  intro r hr hf
  obtain ⟨x, hx, hw⟩ := hrun.written_of_pending rfl hP hr
  exact h ⟨x, hx, r, hw, hf⟩

/-- A payment that a call has read is of the same booking still. -/
theorem bookingId_of_found (hrun : Run (program host) Ok ⟨db, []⟩ c) (hP : P ∈ c.procs)
    {p : Payment} (hfound : (∃ orderId, Found P.hist (.findPaymentByOrder orderId) (some p)) ∨
      ∃ id, Found P.hist (.findPayment id) (some p)) :
    ∃ p', c.db.get (.payment p.id) = some (.payment p') ∧ p'.bookingId = p.bookingId := by
  have hread : ∃ c₁, Run (program host) Ok ⟨db, []⟩ c₁ ∧ Run (program host) Ok c₁ c ∧
      p ∈ c₁.db.payments.rows := by
    rcases hfound with ⟨orderId, h', hmem, hout⟩ | ⟨id, h', hmem, hout⟩
    · obtain ⟨c₁, hrun₁, hrun₂, hexec⟩ := hrun.seen rfl hP hmem hout
      have hfind : c₁.db.paymentByOrder orderId = some p := Except.ok.inj hexec
      exact ⟨c₁, hrun₁, hrun₂, List.mem_of_find?_eq_some hfind⟩
    · obtain ⟨c₁, hrun₁, hrun₂, hexec⟩ := hrun.seen rfl hP hmem hout
      have hfind : c₁.db.payments.find? id = some p := Except.ok.inj hexec
      exact ⟨c₁, hrun₁, hrun₂, Table.mem_of_find? hfind⟩
  obtain ⟨c₁, hrun₁, hrun₂, hrow⟩ := hread
  obtain ⟨r, hr, hrevises⟩ := revises_of_run hrun₁ hrun₂ (k := .payment p.id) (r := .payment p)
    (Option.map_eq_some_iff.mpr ⟨p, Table.find?_of_mem hrow, rfl⟩)
  cases r with
  | payment p' =>
      have hcolumns : p' = p.revised p' := hrevises
      refine ⟨p', hr, ?_⟩
      rw [hcolumns]
      rfl
  | _ => exact hrevises.elim

/-- A call that has a booking due has changed its payment, and nothing else. -/
theorem due_spec (hrun : Run (program host) Ok ⟨db, []⟩ c) (hP : P ∈ c.procs) {id : Uuid}
    (hdue : due P = some id) : P.op.request.paymentFirst ∧ ∃ (pid : Uuid) (data : PaymentUpdate)
      (a : Payment) (h' : CallHist), P.hist = ⟨.stmt (.updatePayment pid data), .ok a⟩ :: h' ∧
        P.pending = [.payment a] ∧ id = a.bookingId := by
  unfold due at hdue
  split at hdue
  · rename_i id' data' k hk
    split at hdue
    · rename_i hpaid
      cases hdue
      have hlocks := locks_of_run hrun P hP
      rw [hk] at hlocks
      rcases hlocks.1 with ⟨_, hnone⟩ | ⟨hop, p, a, data, h', hhist, hopen, rfl, hfound⟩
      · obtain ⟨r, hr, hpayment⟩ := List.any_eq_true.mp hpaid
        exact absurd hpayment (not_pending_of_not_took hrun hP hnone r hr)
      · have hpending : P.pending = [.payment a] := by
          rw [Proc.pending, hrun.tx_eq rfl P hP, hhist]
          simp [sinceBegin, hopen, rowsOf, Txn.Database.written, Stmt.written]
        refine ⟨hop, p.id, data, a, h', hhist, hpending, ?_⟩
        have hsuffix : h' <:+ P.hist := hhist ▸ List.suffix_cons _ _
        obtain ⟨p', hp', hbooking⟩ := bookingId_of_found hrun hP
          (hfound.imp (Exists.imp fun _ h => Found.mono h hsuffix)
            (Exists.imp fun _ h => Found.mono h hsuffix))
        obtain ⟨db', hexec⟩ := hrun.executed rfl hP (s := .updatePayment p.id data) (a := a)
          (hhist ▸ List.mem_cons_self)
        obtain ⟨y, hy, rfl, _⟩ := Db.update_ok hexec
        have hid : y.id = p.id := Table.key_of_find? hy
        have hrevises : Revises (.payment p') (.payment (data.on y)) :=
          versions_revise hrun P hP _ (by rw [hpending]; exact List.mem_cons_self) _
            (show c.db.get (.payment y.id) = _ from hid ▸ hp')
        have hcolumns : data.on y = p'.revised (data.on y) := hrevises
        rw [hcolumns]
        exact hbooking.symm
    · cases hdue
  · cases hdue

/-! ## Nobody gets in between -/

/-- No call that changes the booking first holds a booking that is due. -/
def Clear (c : System) : Prop :=
  ∀ (p q : Nat) (P Q : Caller), p ≠ q → c.procs[p]? = some P → c.procs[q]? = some Q →
    ∀ id ∈ due P, Q.op.request.bookingFirst → ∀ r ∈ Q.pending, r.key ≠ .booking id

theorem Clear.next (hclear : Clear c) (hrun : Run (program host) InOrder ⟨db, []⟩ c)
    (hok : InOrder c e) (hn : next (program host) c e = some c') : Clear c' := by
  intro p q P' Q' hpq hP' hQ' id hdue hop r hr hkey
  obtain ⟨hfirst, pid, data, a, h', hhist, _, rfl⟩ :=
    due_spec (.step hrun hok hn) (List.mem_of_getElem? hP') hdue
  rcases proc_of_next hn hP' with hP | ⟨_, _, _, rfl⟩ | ⟨P, i, k, x, tx, hP, hk, heff, rfl⟩
  · rcases proc_of_next hn hQ' with hQ | ⟨_, _, _, rfl⟩ | ⟨Q, i, k, x, tx, hQ, hk, heff, rfl⟩
    · exact hclear p q P' Q' hpq hP hQ _ hdue hop r hr hkey
    · exact absurd hr List.not_mem_nil
    · -- the booking is due, and another call changes rows
      rcases heff.mem_tx hr with hold | ⟨s, b, rfl, _, hexec, hw⟩
      · exact hclear p q P' Q hpq hP hQ _ hdue hop r hold hkey
      · generalize c'.db = db' at heff
        cases heff with
        | failed hf =>
            cases hf
            exact hclear p q P' Q hpq hP hQ _ hdue hop r hr hkey
        | answered _ =>
            have hmem : P' ∈ c.procs.eraseIdx q :=
              List.mem_eraseIdx_iff_getElem?.mpr ⟨p, hpq, hP⟩
            refine (hok Q hQ P' hmem).2 hop _ hdue r ?_ hkey
            have htarget : r ∈ s.targets (view c.db Q) := (Stmt.written_spec hexec r hw).1
            simpa [rowsNext, hk] using htarget
  · cases hhist
  · -- the payment is changed, and another call holds the booking
    cases hhist
    obtain ⟨rfl, hexec⟩ := heff.exec_of_ok
    obtain ⟨y, hy, rfl, _⟩ := Db.update_ok hexec
    rcases proc_of_next hn hQ' with hQ | ⟨_, he, _, _⟩ | ⟨_, _, _, _, _, _, _, heff', _⟩
    · have hmem : Q' ∈ c.procs.eraseIdx p :=
        List.mem_eraseIdx_iff_getElem?.mpr ⟨q, Ne.symm hpq, hQ⟩
      refine (hok P hP Q' hmem).1 hfirst hop y ?_ r hr hkey
      simpa [paymentNext, hk, view, Proc.pending] using hy
    · cases he
    · exact hpq (heff.actor_unique heff')

theorem clear_of_run (hrun : Run (program host) InOrder ⟨db, []⟩ c) : Clear c := by
  induction hrun with
  | start =>
      intro p q P Q _ hP
      simp at hP
  | step hrun hok hn ih => exact ih.next hrun hok hn

end

/-! ## What a waiting call holds -/

/-- What the next statement of a call waits for. -/
def rank (P : Caller) : Nat :=
  match P.prog with
  | .ask (.stmt (.updateBooking _ _)) _ => if P.pending.any Row.isPayment then 1 else 4
  | .ask (.stmt (.updateBookings _ _)) _ => 4
  | .ask (.stmt (.updatePayment _ _)) _ => 3
  | .ask (.stmt (.updatePayments _ _)) _ => 2
  | _ => 0

/-- The bookings and payments that a waiting call can hold. -/
inductive Waiting (c : System) (Q : Caller) : Key → Prop where
  | afterPayment {id x : Uuid} : due Q = some id → Waiting c Q (.payment x)
  | afterBooking {id : Uuid} {r : Row} : rank Q < 4 → Q.op.request.bookingFirst →
      r ∈ Q.pending → r.key = .booking id → Waiting c Q (.booking id)
  | amongPayments {w : PaymentWhere} {data : PaymentUpdate}
      {k : Except Exn (Ans (.updatePayments w data)) → Call Response} {x : Payment} :
      Q.prog = .ask (.stmt (.updatePayments w data)) k →
      (view c.db Q).payments.find? x.id = some x → x.bookingId = w.bookingId →
      Waiting c Q (.payment x.id)

theorem rank_of_due {P : Caller} {id : Uuid} (h : due P = some id) : rank P = 1 := by
  unfold due at h
  split at h
  · rename_i k hk
    split at h
    · rename_i hpaid
      simp [rank, hk, hpaid]
    · cases h
  · cases h

theorem isBooking_of_key {r : Row} {id : Uuid} (h : r.key = .booking id) : r.isBooking := by
  cases r with
  | booking b => rfl
  | _ => cases h

theorem isPayment_of_key {r : Row} {id : Uuid} (h : r.key = .payment id) : r.isPayment := by
  cases r with
  | payment p => rfl
  | _ => cases h

section
variable {host : Host} {db : Db} {Ok : System → Event Op Exn → Prop} {c : System} {Q : Caller}

/-- A call that is about to change the payments of a booking holds the booking
and no payment. -/
theorem pending_of_updatePayments (hrun : Run (program host) Ok ⟨db, []⟩ c) (hQ : Q ∈ c.procs)
    {w : PaymentWhere} {data : PaymentUpdate}
    {k : Except Exn (Ans (.updatePayments w data)) → Call Response}
    (hk : Q.prog = .ask (.stmt (.updatePayments w data)) k) : Q.op.request.bookingFirst ∧
      (∀ r ∈ Q.pending, ¬ r.isPayment) ∧ ∃ r ∈ Q.pending, r.key = .booking w.bookingId := by
  have hlocks := locks_of_run hrun Q hQ
  rw [hk] at hlocks
  obtain ⟨hop, hpayment, w', data', b, bs, hx, hid⟩ := hlocks.1
  refine ⟨hop, not_pending_of_not_took hrun hQ hpayment, .booking b, ?_, ?_⟩
  · exact hrun.mem_pending rfl hQ hx List.mem_cons_self
  · obtain ⟨db', hexec⟩ := hrun.executed rfl hQ (mem_of_sinceBegin hx)
    have hrows : b :: bs = (db'.bookings.rows.filter w'.test).map data'.on :=
      (Db.updateAll_ok hexec).1
    have hb : b ∈ (db'.bookings.rows.filter w'.test).map data'.on := by
      rw [← hrows]
      exact List.mem_cons_self
    obtain ⟨y, hy, rfl⟩ := List.mem_map.mp hb
    have htest := (List.mem_filter.mp hy).2
    simp only [BookingWhere.test, Bool.and_eq_true, beq_iff_eq] at htest
    exact congrArg Key.booking (htest.1.1.trans hid)

/-- A call that wants one row, and waits for it, holds versions only. -/
theorem pending_of_single {held : Nat → Key → Prop} (hheld : Holding Stmt.locks c held) {q : Nat}
    (hQ : c.procs[q]? = some Q) {key key' : Key} (hkey : held q key) (hfree : ¬ held q key')
    (hsingle : ∀ x, Wants c Q x → x = key') : ∃ r ∈ Q.pending, r.key = key :=
  hheld.versions_of_waiting hQ hkey hfree fun x hx => hsingle x (wants_of_mem hx)

/-- **What a waiting call holds** of bookings and payments. -/
theorem waiting_of_held (hrun : Run (program host) Ok ⟨db, []⟩ c) {held : Nat → Key → Prop}
    (hheld : Holding Stmt.locks c held) {q : Nat} (hQ : c.procs[q]? = some Q) {key key' : Key}
    (hkey : held q key) (hkind : (∃ id, key = .booking id) ∨ ∃ id, key = .payment id)
    (hwanted : Wants c Q key') (hfree : ¬ held q key') : Waiting c Q key := by
  have hmem : Q ∈ c.procs := List.mem_of_getElem? hQ
  have hlocks := locks_of_run hrun Q hmem
  have hwrites := writes_of_run hrun Q hmem
  cases hwanted with
  | booking hk =>
      rename_i id data k
      rw [hk] at hlocks
      obtain ⟨r, hr, rfl⟩ := pending_of_single hheld hQ hkey hfree <| by
        intro x hx
        cases hx with
        | booking h => cases hk.symm.trans h; rfl
        | bookings h => cases hk.symm.trans h
        | payment h => cases hk.symm.trans h
        | payments h _ _ => cases hk.symm.trans h
      rcases hlocks.1 with ⟨hbooking, hpayment⟩ | ⟨_, p, a, data', h', hhist, hopen, _, _⟩
      · -- it holds nothing yet
        rcases hkind with ⟨x, hx⟩ | ⟨x, hx⟩
        · exact absurd (isBooking_of_key hx) (not_pending_of_not_took hrun hmem hbooking r hr)
        · exact absurd (isPayment_of_key hx) (not_pending_of_not_took hrun hmem hpayment r hr)
      · have hpending : Q.pending = [.payment a] := by
          rw [Proc.pending, hrun.tx_eq rfl Q hmem, hhist]
          simp [sinceBegin, hopen, rowsOf, Txn.Database.written, Stmt.written]
        rw [hpending] at hr
        obtain rfl := List.mem_singleton.mp hr
        have hdue : due Q = some id := by simp [due, hk, hpending, Row.isPayment]
        exact .afterPayment hdue
  | bookings hk =>
      rename_i w data k
      rw [hk] at hwrites
      obtain ⟨_, found, hopen⟩ := hwrites.1
      obtain ⟨r, hr, rfl⟩ := pending_of_single hheld hQ hkey hfree <| by
        intro x hx
        cases hx with
        | booking h => cases hk.symm.trans h
        | bookings h => cases hk.symm.trans h; rfl
        | payment h => cases hk.symm.trans h
        | payments h _ _ => cases hk.symm.trans h
      have hpending : Q.pending = [] := by
        rw [Proc.pending, hrun.tx_eq rfl Q hmem, hopen]
        rfl
      rw [hpending] at hr
      exact absurd hr List.not_mem_nil
  | payment hk =>
      rename_i id data k
      rw [hk] at hlocks
      obtain ⟨r, hr, rfl⟩ := pending_of_single hheld hQ hkey hfree <| by
        intro x hx
        cases hx with
        | booking h => cases hk.symm.trans h
        | bookings h => cases hk.symm.trans h
        | payment h => cases hk.symm.trans h; rfl
        | payments h _ _ => cases hk.symm.trans h
      obtain ⟨hpayment, hfirst⟩ := hlocks.1
      rcases hkind with ⟨x, hx⟩ | ⟨x, hx⟩
      · obtain ⟨y, hy, hw⟩ := hrun.written_of_pending rfl hmem hr
        rw [hx]
        exact .afterBooking (by simp [rank, hk]) (hfirst ⟨y, hy, r, hw, isBooking_of_key hx⟩) hr hx
      · exact absurd (isPayment_of_key hx) (not_pending_of_not_took hrun hmem hpayment r hr)
  | payments hk hfind hbooking =>
      obtain ⟨hop, hpayment, _⟩ := pending_of_updatePayments hrun hmem hk
      rcases hheld.only q key hkey with ⟨Q', hQ', r, hr, hrkey⟩ | ⟨Q', hQ', hwants⟩
      · obtain rfl := Option.some.inj (hQ.symm.trans hQ')
        rcases hkind with ⟨x, rfl⟩ | ⟨x, rfl⟩
        · exact .afterBooking (by simp [rank, hk]) hop hr hrkey
        · exact absurd (isPayment_of_key hrkey) (hpayment r hr)
      · obtain rfl := Option.some.inj (hQ.symm.trans hQ')
        cases wants_of_mem hwants with
        | payments h hfind' hbooking' => exact .amongPayments h hfind' hbooking'
        | booking h => cases hk.symm.trans h
        | bookings h => cases hk.symm.trans h
        | payment h => cases hk.symm.trans h

/-- What is read of a payment by a call that has changed none is committed. -/
theorem find?_view {P : Caller} (h : ∀ r ∈ P.pending, ¬ r.isPayment) (id : Uuid) :
    (view c.db P).payments.find? id = c.db.payments.find? id := by
  rcases Db.find?_payment_puts c.db P.pending id with ⟨p, hp, _⟩ | ⟨_, hfind⟩
  · exact absurd rfl (h _ hp)
  · exact hfind

/-- **Along an edge that leads on, the rank goes down.** -/
theorem rank_lt (hrun : Run (program host) InOrder ⟨db, []⟩ c) {held : Nat → Key → Prop}
    (hheld : Holding Stmt.locks c held) {p q : Nat} {P : Caller} (hP : c.procs[p]? = some P)
    (hQ : c.procs[q]? = some Q) {key key' : Key} (hwants : Wants c P key) (hfree : ¬ held p key)
    (hkey : held q key) (hwanted : Wants c Q key') (hfree' : ¬ held q key') :
    rank Q < rank P := by
  have hmem : P ∈ c.procs := List.mem_of_getElem? hP
  have hpq : p ≠ q := fun hpq => hfree (hpq ▸ hkey)
  have hkind : (∃ id, key = .booking id) ∨ ∃ id, key = .payment id := by
    cases hwants with
    | booking _ | bookings _ => exact Or.inl ⟨_, rfl⟩
    | payment _ | payments _ _ _ => exact Or.inr ⟨_, rfl⟩
  have hwaiting := waiting_of_held hrun hheld hQ hkey hkind hwanted hfree'
  cases hwants with
  | booking hk =>
      rename_i id data k
      cases hwaiting with
      | afterBooking hrank hop hr hrkey =>
          by_cases hpaid : P.pending.any Row.isPayment
          · -- the booking is due, and nobody gets in between
            have hdue : due P = some id := by simp [due, hk, hpaid]
            exact absurd hrkey (clear_of_run hrun p q P Q hpq hP hQ id hdue hop _ hr)
          · simpa [rank, hk, hpaid] using hrank
  | bookings hk =>
      cases hwaiting with
      | afterBooking hrank _ _ _ => simpa [rank, hk] using hrank
  | payment hk =>
      cases hwaiting with
      | afterPayment hdue =>
          rw [rank_of_due hdue]
          simp [rank, hk]
      | amongPayments hk' _ _ => simp [rank, hk, hk']
  | payments hk hfind hbooking =>
      rename_i w data k x
      generalize hx : x.id = id at hwaiting
      cases hwaiting with
      | afterPayment hdue =>
          rw [rank_of_due hdue]
          simp [rank, hk]
      | amongPayments hk' hfind' hbooking' =>
          rename_i w' data' k' x'
          obtain ⟨_, hnone, r, hr, hrkey⟩ := pending_of_updatePayments hrun hmem hk
          obtain ⟨_, hnone', r', hr', hrkey'⟩ :=
            pending_of_updatePayments hrun (List.mem_of_getElem? hQ) hk'
          -- both would have changed the booking of the payment
          rw [find?_view hnone, hx] at hfind
          rw [find?_view hnone'] at hfind'
          obtain rfl : x = x' := Option.some.inj (hfind.symm.trans hfind')
          refine absurd ?_ (Run.apart rfl hrun p q P Q hpq hP hQ r hr r' hr')
          exact hrkey.trans ((congrArg Key.booking (hbooking.symm.trans hbooking')).trans hrkey'.symm)

end

/-- **No deadlock**: in every run in which nobody gets between the two updates
of a transaction that changes the payment first, no cycle of transactions is
reached each of which waits for a booking or payment that the next one holds. -/
theorem no_deadlock (host : Host) (db : Db) (c : System) (held : Nat → Key → Prop) (p : Nat)
    (hrun : Run (program host) InOrder ⟨db, []⟩ c) (hheld : Holding Stmt.locks c held) :
    ¬ Relation.TransGen (WaitsFor Stmt.locks c held) p p := by
  refine not_cycle_of_rank (fun p => (c.procs[p]?.map rank).getD 0) ?_ p
  rintro p q r ⟨P, key, hP, hwants, hfree, hkey⟩ ⟨Q, key', hQ, hwants', hfree', _⟩
  simpa [hP, hQ] using rank_lt hrun hheld hP hQ (wants_of_mem hwants) hfree hkey
    (wants_of_mem hwants') hfree'

/-! ## Two runs -/

namespace Sample

/-- The webhook has confirmed the booking, and is not through yet; the payment
window ends meanwhile. -/
def expiryWaits : List (Event Op Exn) :=
  .spawn (deliver 1 "payment.captured") :: steps 0 7 ++ .spawn (expire 2) :: steps 1 2

/-- The payment window ends between the two updates of `verifyClientPayment`. -/
def expiryBetween : List (Event Op Exn) :=
  .spawn (verify 1) :: steps 0 4 ++ .spawn (expire 2) :: steps 1 3

/-- A version of the `q`-th call is what the `p`-th one wants. -/
def blocked (c : System) (p q : Nat) : Prop :=
  ∃ P ∈ c.procs[p]?, ∃ Q ∈ c.procs[q]?, ∃ r ∈ Q.pending, r.key ∈ P.wants Stmt.locks c.db

instance (c : System) (p q : Nat) : Decidable (blocked c p q) :=
  inferInstanceAs (Decidable (∃ P ∈ c.procs[p]?, ∃ Q ∈ c.procs[q]?, ∃ r ∈ Q.pending,
    r.key ∈ P.wants Stmt.locks c.db))

theorem blocked.waitsFor {c : System} {p q : Nat} (h : blocked c p q) (hpq : p ≠ q)
    (hap : Apart c) : WaitsFor Stmt.locks c (Holds c) p q := by
  obtain ⟨P, hP, Q, hQ, r, hr, hwants⟩ := h
  exact waitsFor_of_version hap hpq hP hQ hr hwants

end Sample

/-- The expiry waits for the webhook, and not the other way round. -/
theorem no_deadlock_sample : ∃ c,
    runChecked (program Sample.host) InOrder ⟨Sample.booked, []⟩ Sample.expiryWaits = some c ∧
    WaitsFor Stmt.locks c (Holds c) 1 0 ∧
    ¬ Relation.TransGen (WaitsFor Stmt.locks c (Holds c)) 1 1 := by
  obtain ⟨c, hc⟩ := Option.isSome_iff_exists.mp
    (show (runChecked (program Sample.host) InOrder ⟨Sample.booked, []⟩
      Sample.expiryWaits).isSome by decide +kernel)
  have hblocked : ∀ c ∈ runChecked (program Sample.host) InOrder ⟨Sample.booked, []⟩
      Sample.expiryWaits, Sample.blocked c 1 0 := by decide +kernel
  have hrun := Run.of_runChecked _ _ hc
  have hap := Run.apart rfl hrun
  exact ⟨c, hc, (hblocked c hc).waitsFor (by decide) hap,
    no_deadlock _ _ c _ 1 hrun (holding_versions hap)⟩

/-- `verifyClientPayment` has the payment and waits for the booking, which
`expireBooking` has, and that waits for the payment.  Neither can go on. -/
theorem not_no_deadlock : ∃ c,
    runChecked (program Sample.host) (fun _ _ => True) ⟨Sample.booked, []⟩ Sample.expiryBetween
      = some c ∧
    Holding Stmt.locks c (Holds c) ∧ WaitsFor Stmt.locks c (Holds c) 0 1 ∧
    WaitsFor Stmt.locks c (Holds c) 1 0 ∧
    Relation.TransGen (WaitsFor Stmt.locks c (Holds c)) 0 0 ∧
    (next (program Sample.host) c (.exec 0)).isNone ∧
    (next (program Sample.host) c (.exec 1)).isNone := by
  obtain ⟨c, hc⟩ := Option.isSome_iff_exists.mp
    (show (runChecked (program Sample.host) (fun _ _ => True) ⟨Sample.booked, []⟩
      Sample.expiryBetween).isSome by decide +kernel)
  have hblocked : ∀ c ∈ runChecked (program Sample.host) (fun _ _ => True) ⟨Sample.booked, []⟩
      Sample.expiryBetween, Sample.blocked c 0 1 ∧ Sample.blocked c 1 0 ∧
        (next (program Sample.host) c (.exec 0)).isNone ∧
        (next (program Sample.host) c (.exec 1)).isNone := by decide +kernel
  obtain ⟨hfirst, hsecond, hstuck, hstuck'⟩ := hblocked c hc
  have hap := Run.apart rfl (Run.of_runChecked _ _ hc)
  have hwaits := hfirst.waitsFor (by decide) hap
  have hwaits' := hsecond.waitsFor (by decide) hap
  exact ⟨c, hc, holding_versions hap, hwaits, hwaits',
    .tail (.single hwaits) hwaits', hstuck, hstuck'⟩

end ServiceHub
