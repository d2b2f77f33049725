/-
# `Refunds` — what the gateway pays back

`refundPayment` reads the payment, calls the gateway, and only then writes that
the payment is REFUNDED.  Nothing is reserved in between: a second call that
reads the payment before that write, or after it was rolled back, goes to the
gateway as well.

`FindsReserved` excludes this: a call finds a payment refundable only if no
other call that the gateway accepts has found it so.  Then what is paid back
never exceeds what was captured (`refunded_le`).
-/
import ServiceHub.Interleaving
import Mathlib.Algebra.BigOperators.Group.List.Basic
import Mathlib.Algebra.Order.Field.Rat

namespace ServiceHub

open Data Txn Prog

/-- The refund of the payment that the call is to make, if the gateway accepts
it. -/
def Op.refundOf (op : Op) (id : Uuid) : Option RefundPaymentDto :=
  match op.request with
  | .refundPayment _ paymentId dto => if paymentId = id ∧ op.ctx.createRefund.isOk then some dto else none
  | _ => none

/-- What the gateway has paid back for the payment because of a call. -/
def refundedBy (id : Uuid) (P : Caller) : ℚ :=
  if (P.op.refundOf id).isSome then ((refundsAsked P.hist).map (·.amount)).sum else 0

/-- What the gateway has paid back for the payment. -/
def refunded (c : System) (id : Uuid) : ℚ := (c.procs.map (refundedBy id)).sum

/-- The call has found the payment refundable, the gateway accepts, and the
call has been at the gateway or is still on its way. -/
def Reserves (host : Host) (id : Uuid) (P : Caller) : Prop :=
  ∃ dto ∈ P.op.refundOf id, ∃ payment ∈ paymentFound id P.hist, Refundable host dto payment ∧
    (P.prog.head.isSome ∨ ¬ (refundsAsked P.hist).isEmpty)

instance (host : Host) (id : Uuid) (P : Caller) : Decidable (Reserves host id P) :=
  inferInstanceAs (Decidable (∃ dto ∈ P.op.refundOf id, ∃ payment ∈ paymentFound id P.hist,
    Refundable host dto payment ∧ (P.prog.head.isSome ∨ ¬ (refundsAsked P.hist).isEmpty)))

/-- The payment that a call is about to read by its id. -/
def nextPayment : Call Response → Option Uuid
  | .ask (.stmt (.findPayment id)) _ => some id
  | _ => none

/-- The call is about to find the payment refundable. -/
def Reserving (host : Host) (id : Uuid) (db : Db) (P : Caller) : Prop :=
  nextPayment P.prog = some id ∧ ∃ dto ∈ P.op.refundOf id,
    ∃ payment ∈ (view db P).payments.find? id, Refundable host dto payment

instance (host : Host) (id : Uuid) (db : Db) (P : Caller) : Decidable (Reserving host id db P) :=
  inferInstanceAs (Decidable (_ ∧ ∃ dto ∈ P.op.refundOf id,
    ∃ payment ∈ (view db P).payments.find? id, Refundable host dto payment))

/-- A call finds the payment refundable only while no call has it reserved. -/
def FindsUnreserved (host : Host) (id : Uuid) (c : System) : Event Op Exn → Prop
  | .exec p => ∀ P ∈ c.procs[p]?, Reserving host id c.db P →
      ∀ Q ∈ c.procs, ¬ Reserves host id Q
  | _ => True

instance (host : Host) (id : Uuid) (c : System) : ∀ e, Decidable (FindsUnreserved host id c e)
  | .exec p => inferInstanceAs (Decidable (∀ P ∈ c.procs[p]?, Reserving host id c.db P →
      ∀ Q ∈ c.procs, ¬ Reserves host id Q))
  | .spawn _ | .fail _ _ => .isTrue trivial

/-! ## One call -/

section
variable {host : Host} {op : Op} {id : Uuid} {dto : RefundPaymentDto} {h : CallHist}

theorem refundAmount_le {capturedAmount : ℚ}
    (h : checkRefundAmount host capturedAmount dto.amount = none) :
    refundAmount capturedAmount dto ≤ capturedAmount := by
  unfold refundAmount
  cases hd : dto.amount with
  | none => exact le_refl _
  | some x =>
      simp only [checkRefundAmount, hd] at h
      split at h
      · cases h
      · rename_i hpos
        split at h
        · cases h
        · rename_i hle
          have hne : x ≠ 0 := fun hx => hpos (le_of_eq hx)
          simpa [Option.filter, hne] using hle

theorem request_of_refundOf (hop : op.refundOf id = some dto) :
    ∃ adminUserId, op.request = .refundPayment adminUserId id dto := by
  unfold Op.refundOf at hop
  split at hop
  · rename_i adminUserId paymentId dto' hrequest
    obtain ⟨⟨rfl, _⟩, rfl⟩ := Option.ite_some_none_eq_some.mp hop
    exact ⟨adminUserId, hrequest⟩
  · cases hop

/-- A call goes to the gateway at most once, with the amount of the payment that
it has found. -/
theorem refundsAsked_of_asked (hop : op.refundOf id = some dto)
    (hasked : Obeyed (Asks host op) h) : refundsAsked h = [] ∨
      ∃ params payment, refundsAsked h = [params] ∧ paymentFound id h = some payment ∧
        Refundable host dto payment ∧ params.amount = refundAmount payment.amount dto := by
  induction h with
  | nil => exact Or.inl rfl
  | cons entry h ih =>
      obtain ⟨i, r⟩ := entry
      obtain ⟨hasks, hobeyed⟩ := hasked
      cases i with
      | call x =>
          cases x with
          | createRefund params =>
              obtain ⟨hnone, _, _, _, payment, hrequest, hfound, hrefundable, hamount⟩ := hasks
              obtain ⟨_, hrequest'⟩ := request_of_refundOf hop
              cases hrequest.symm.trans hrequest'
              exact Or.inr ⟨params, payment, congrArg _ hnone, hfound, hrefundable, hamount⟩
          | _ => exact ih hobeyed
      | stmt s =>
          cases s with
          | findPayment id' =>
              -- the payment is read first of all
              left
              obtain rfl : h = [] := hasks.1
              rfl
          | _ => exact ih hobeyed
      | _ => exact ih hobeyed

/-- The payment as it was found is an answer in the history. -/
theorem mem_of_paymentFound {payment : Payment} (hfound : paymentFound id h = some payment) :
    (⟨.stmt (.findPayment id), .ok (some payment)⟩ :
      (i : Instr Stmt Ext) × Except Exn (i.Ans Ans)) ∈ h := by
  induction h with
  | nil => cases hfound
  | cons entry h ih =>
      obtain ⟨i, r⟩ := entry
      cases i with
      | stmt s =>
          cases s with
          | findPayment id' =>
              simp only [paymentFound] at hfound
              split at hfound
              · rename_i hid
                subst hid
                cases r with
                | error e => cases hfound
                | ok found =>
                    obtain rfl : found = some payment := hfound
                    exact List.mem_cons_self
              · exact List.mem_cons_of_mem _ (ih hfound)
          | _ => exact List.mem_cons_of_mem _ (ih hfound)
      | _ => exact List.mem_cons_of_mem _ (ih hfound)

end

/-! ## Reservations -/

section
variable {host : Host} {id : Uuid} {db : Db} {c c' : System} {e : Event Op Exn}

/-- A call has the payment reserved from the moment it finds it refundable. -/
theorem reserves_of_next (h : next (program host) c e = some c') {q : Nat} {Q' : Caller}
    (hQ' : c'.procs[q]? = some Q') (hreserves : Reserves host id Q') :
    (∃ Q, c.procs[q]? = some Q ∧ Reserves host id Q) ∨
      (e = .exec q ∧ ∃ Q, c.procs[q]? = some Q ∧ Reserving host id c.db Q) := by
  obtain ⟨dto, hdto, payment, hfound, hrefundable, hgoes⟩ := hreserves
  rcases proc_of_next h hQ' with hQ | ⟨o, _, _, rfl⟩ | ⟨Q, i, k, r, tx, hQ, hk, heff, rfl⟩
  · exact Or.inl ⟨Q', hQ, dto, hdto, payment, hfound, hrefundable, hgoes⟩
  · cases hfound
  · -- the call was on its way already, unless this is the answer that it found
    have hbefore : ∀ payment', paymentFound id Q.hist = some payment' → payment' = payment →
        ∃ Q, c.procs[q]? = some Q ∧ Reserves host id Q := by
      rintro payment' hfound' rfl
      exact ⟨Q, hQ, dto, hdto, payment', hfound', hrefundable, Or.inl (by rw [hk]; rfl)⟩
    cases i with
    | stmt s =>
        cases s with
        | findPayment id' =>
            simp only [Proc.advance, paymentFound, Option.mem_def] at hfound
            split at hfound
            · rename_i hid
              subst hid
              cases r with
              | error e => cases hfound
              | ok found =>
                  obtain rfl : found = some payment := hfound
                  obtain ⟨rfl, hexec⟩ := heff.exec_of_ok
                  refine Or.inr ⟨rfl, Q, hQ, by rw [hk]; rfl, dto, hdto, payment, ?_, hrefundable⟩
                  exact Except.ok.inj hexec
            · exact Or.inl (hbefore _ hfound rfl)
        | _ => exact Or.inl (hbefore _ hfound rfl)
    | _ => exact Or.inl (hbefore _ hfound rfl)

/-- No two calls have the payment reserved. -/
def ReservedOnce (host : Host) (id : Uuid) (c : System) : Prop :=
  ∀ (p q : Nat) (P Q : Caller), p ≠ q → c.procs[p]? = some P → c.procs[q]? = some Q →
    Reserves host id P → ¬ Reserves host id Q

theorem ReservedOnce.next (hone : ReservedOnce host id c) (hok : FindsUnreserved host id c e)
    (h : next (program host) c e = some c') : ReservedOnce host id c' := by
  intro p q P' Q' hpq hP' hQ' hreservesP hreservesQ
  rcases reserves_of_next h hP' hreservesP with ⟨P, hP, hold⟩ | ⟨rfl, P, hP, hfinds⟩
  · rcases reserves_of_next h hQ' hreservesQ with ⟨Q, hQ, holdQ⟩ | ⟨rfl, Q, hQ, hfinds⟩
    · exact hone p q P Q hpq hP hQ hold holdQ
    · exact hok Q hQ hfinds P (List.mem_of_getElem? hP) hold
  · rcases reserves_of_next h hQ' hreservesQ with ⟨Q, hQ, holdQ⟩ | ⟨hpq', _⟩
    · exact hok P hP hfinds Q (List.mem_of_getElem? hQ) holdQ
    · cases hpq'
      exact hpq rfl

theorem reservedOnce_of_run (hrun : Run (program host) (FindsUnreserved host id) ⟨db, []⟩ c) :
    ReservedOnce host id c := by
  induction hrun with
  | start =>
      intro p q P Q _ hP
      simp at hP
  | step _ hok hn ih => exact ih.next hok hn

/-- The captured amount stays. -/
theorem payment_of_run {Ok : System → Event Op Exn → Prop} {p : Payment}
    (hrun : Run (program host) Ok ⟨db, []⟩ c) (hrun' : Run (program host) Ok c c')
    (hp : c.db.payments.find? id = some p) :
    ∃ p', c'.db.payments.find? id = some p' ∧ p'.amount = p.amount := by
  obtain ⟨r, hr, hrevises⟩ := revises_of_run hrun hrun' (k := .payment id) (r := .payment p)
    (Option.map_eq_some_iff.mpr ⟨p, hp, rfl⟩)
  obtain ⟨p', hp', rfl⟩ := Option.map_eq_some_iff.mp hr
  exact ⟨p', hp', amount_of_revises hrevises⟩

/-- Whatever is found of the payment has that amount. -/
def FindsAmount (id : Uuid) (amount : ℚ) : (s : Stmt) → Ans s → Prop
  | .findPayment id', found => id' = id → ∀ q ∈ found, q.amount = amount
  | _, _ => True

/-- Every call finds the payment with the captured amount. -/
theorem amount_of_paymentFound {Ok : System → Event Op Exn → Prop} {p payment : Payment}
    (hrun : Run (program host) Ok ⟨db, []⟩ c) (hp : db.payments.find? id = some p) {P : Caller}
    (hP : P ∈ c.procs) (hfound : paymentFound id P.hist = some payment) :
    payment.amount = p.amount := by
  have hanswered := hrun.answered (T := fun _ s a => FindsAmount id p.amount s a) ?_ rfl P hP
  · obtain ⟨_, hamount⟩ := hanswered.of_mem (mem_of_paymentFound hfound)
    exact hamount rfl payment rfl
  · intro c q P s k a hrun _ hP _ hexec
    cases s with
    | findPayment id' =>
        rintro rfl q hq
        obtain rfl : (view c.db P).payments.find? id' = a := Except.ok.inj hexec
        obtain ⟨p₁, hp₁, hsame⟩ := payment_of_run .start hrun hp
        have hrevises : Revises (.payment p₁) (.payment q) :=
          revises_view hrun (List.mem_of_getElem? hP) (k := .payment id')
            (Option.map_eq_some_iff.mpr ⟨p₁, hp₁, rfl⟩) (Option.map_eq_some_iff.mpr ⟨q, hq, rfl⟩)
        exact (amount_of_revises hrevises).trans hsame
    | _ => trivial

/-- A call that has been at the gateway has the payment reserved, for no more
than was captured. -/
theorem refundedBy_spec {Ok : System → Event Op Exn → Prop} {p : Payment}
    (hrun : Run (program host) Ok ⟨db, []⟩ c) (hp : db.payments.find? id = some p) {P : Caller}
    (hP : P ∈ c.procs) :
    refundedBy id P = 0 ∨ Reserves host id P ∧ refundedBy id P ≤ p.amount := by
  unfold refundedBy
  cases hop : P.op.refundOf id with
  | none => exact Or.inl rfl
  | some dto =>
      rcases refundsAsked_of_asked hop (asked_of_run hrun P hP) with
        hnone | ⟨params, payment, hasked, hfound, hrefundable, hamount⟩
      · left
        simp [hnone]
      · right
        have hcaptured : payment.amount = p.amount :=
          amount_of_paymentFound hrun hp hP hfound
        refine ⟨⟨dto, hop, payment, hfound, hrefundable, Or.inr (by simp [hasked])⟩, ?_⟩
        have hle := refundAmount_le hrefundable.2.1
        simpa [hasked, hamount, hcaptured] using hcaptured ▸ hle

end

/-- A sum to which at most one element contributes. -/
theorem sum_map_le {α : Type} {f : α → ℚ} {b : ℚ} (hb : 0 ≤ b) {l : List α}
    (hle : ∀ x ∈ l, f x ≤ b) (hone : l.Pairwise fun x y => f x = 0 ∨ f y = 0) :
    (l.map f).sum ≤ b := by
  induction l with
  | nil => exact hb
  | cons x l ih =>
      obtain ⟨hx, hl⟩ := List.pairwise_cons.mp hone
      rw [List.map_cons, List.sum_cons]
      by_cases hzero : f x = 0
      · rw [hzero, zero_add]
        exact ih (fun y hy => hle y (List.mem_cons_of_mem _ hy)) hl
      · have hrest : (l.map f).sum = 0 := by
          refine List.sum_eq_zero fun v hv => ?_
          obtain ⟨y, hy, rfl⟩ := List.mem_map.mp hv
          exact (hx y hy).resolve_left hzero
        rw [hrest, add_zero]
        exact hle x List.mem_cons_self

/-- **What the gateway pays back never exceeds what was captured**, in every run
in which a call finds the payment refundable only while none has it
reserved. -/
theorem refunded_le (host : Host) (db : Db) (c : System) (id : Uuid) (p : Payment)
    (hrun : Run (program host) (FindsUnreserved host id) ⟨db, []⟩ c)
    (hp : db.payments.find? id = some p) (hamount : 0 ≤ p.amount) :
    ∃ p', c.db.payments.find? id = some p' ∧ p'.amount = p.amount ∧
      refunded c id ≤ p'.amount := by
  obtain ⟨p', hp', hsame⟩ := payment_of_run .start hrun hp
  refine ⟨p', hp', hsame, hsame ▸ sum_map_le hamount ?_ ?_⟩
  · intro P hP
    rcases refundedBy_spec hrun hp hP with hzero | ⟨_, hle⟩
    · rw [hzero]
      exact hamount
    · exact hle
  · refine List.pairwise_iff_getElem.mpr fun i j hi hj hij => ?_
    rcases refundedBy_spec hrun hp (List.getElem_mem hi) with hzero | ⟨hreservesP, _⟩
    · exact Or.inl hzero
    · rcases refundedBy_spec hrun hp (List.getElem_mem hj) with hzero | ⟨hreservesQ, _⟩
      · exact Or.inr hzero
      · exact absurd hreservesQ (reservedOnce_of_run hrun i j _ _ (by omega)
          (List.getElem?_eq_getElem hi) (List.getElem?_eq_getElem hj) hreservesP)

/-! ## Two runs -/

namespace Sample

/-- A payment of 500 has been captured. -/
def paid : Db := runAll host db [book, deliver 1 "payment.captured"]

/-- A refund of 200, and a second one that comes after it. -/
def refunds : List (Event Op Exn) :=
  .spawn ⟨ctx 2, .refundPayment "admin" paymentId ⟨some 200, none⟩⟩ :: steps 0 8 ++
    .spawn (refund 3) :: steps 1 2

/-- Two refunds that both read the payment before either writes it. -/
def bothRead : List (Event Op Exn) :=
  .spawn (refund 2) :: steps 0 2 ++ .spawn (refund 3) :: steps 1 3 ++ steps 0 1

end Sample

/-- One refund after the other: the second is refused. -/
theorem refunded_le_sample : ∃ c p p',
    runChecked (program Sample.host) (FindsUnreserved Sample.host Sample.paymentId)
      ⟨Sample.paid, []⟩ Sample.refunds = some c ∧
    Sample.paid.payments.find? Sample.paymentId = some p ∧ 0 ≤ p.amount ∧
    c.db.payments.find? Sample.paymentId = some p' ∧ p'.amount = p.amount ∧
      refunded c Sample.paymentId ≤ p'.amount := by
  obtain ⟨c, hc⟩ := Option.isSome_iff_exists.mp
    (show (runChecked (program Sample.host) (FindsUnreserved Sample.host Sample.paymentId)
      ⟨Sample.paid, []⟩ Sample.refunds).isSome by decide +kernel)
  obtain ⟨p, hp⟩ := Option.isSome_iff_exists.mp
    (show (Sample.paid.payments.find? Sample.paymentId).isSome by decide +kernel)
  have hamount : ∀ p ∈ Sample.paid.payments.find? Sample.paymentId, 0 ≤ p.amount := by
    decide +kernel
  obtain ⟨p', hp', hle⟩ := refunded_le _ _ c _ p (Run.of_runChecked _ _ hc) hp (hamount p hp)
  exact ⟨c, p, p', hc, hp, hamount p hp, hp', hle⟩

/-- Two refunds of the whole amount at the same time: both are paid. -/
theorem not_refunded_le : ∃ c p,
    runEvents (program Sample.host) ⟨Sample.paid, []⟩ Sample.bothRead = some c ∧
    c.db.payments.find? Sample.paymentId = some p ∧ ¬ refunded c Sample.paymentId ≤ p.amount := by
  obtain ⟨c, hc⟩ := Option.isSome_iff_exists.mp
    (show (runEvents (program Sample.host) ⟨Sample.paid, []⟩ Sample.bothRead).isSome by
      decide +kernel)
  have hpaid : ∀ c ∈ runEvents (program Sample.host) ⟨Sample.paid, []⟩ Sample.bothRead,
      (c.db.payments.find? Sample.paymentId).map
        (fun p => decide (refunded c Sample.paymentId ≤ p.amount)) = some false := by
    decide +kernel
  obtain ⟨p, hp, hle⟩ := Option.map_eq_some_iff.mp (hpaid c hc)
  exact ⟨c, p, hc, hp, of_decide_eq_false hle⟩

end ServiceHub
