/-
# `Txn.Prog` — a call as a tree of the instructions it issues

A call to a service is a sequential program that issues instructions one at a
time and branches on their answers.  `Prog I A ε α` is the tree of everything
the program can do: at an `ask` node it issues the instruction `i : I` and goes
on with the subtree for the answer it gets, `Except ε (A i)`, so that a failing
instruction is an answer like any other and the program may catch it or let it
propagate.  Trees are finite along every path, hence every program ends after
finitely many instructions whatever the answers are.

Two instruction sets are used.

| | |
| :-- | :-- |
| `Stmt` | the statements of a database: the body of a transaction |
| `Instr Stmt Ext` | statements, the three transaction controls, and calls to the outside: a whole call |

`transaction` and `autocommit` embed the first in the second.  A body has no
control instruction, so a program built with them never nests transactions and
never calls the outside while one is open.

`Obeys Q R h p` is the program logic of one call on its own: whatever answers
`p` gets, each instruction it issues stands in the relation `Q` to what was
asked and answered before, and so does its result in the relation `R`.  What
the database and the other calls do is no part of it; that is
`Txn.ReadCommitted`.
-/
import Mathlib.Tactic.Basic

namespace Txn

/-- A program issuing instructions `i : I`, each answered by `A i` or refused
with an error `ε`, and ending with a value `α` or an error. -/
inductive Prog (I : Type) (A : I → Type) (ε α : Type) where
  | ret (a : α)
  | throw (e : ε)
  | ask (i : I) (k : Except ε (A i) → Prog I A ε α)

namespace Prog

variable {I : Type} {A : I → Type} {ε α β γ : Type}

/-- Run `p`, then `f` on its value or `g` on its error. -/
def cont (f : α → Prog I A ε β) (g : ε → Prog I A ε β) : Prog I A ε α → Prog I A ε β
  | ret a => f a
  | throw e => g e
  | ask i k => ask i fun r => cont f g (k r)

instance : Monad (Prog I A ε) where
  pure := ret
  bind p f := p.cont f throw

def map (f : α → β) (p : Prog I A ε α) : Prog I A ε β := p.cont (fun a => ret (f a)) throw

/-- Issue one instruction and let its error propagate. -/
def perform (i : I) : Prog I A ε (A i) :=
  ask i fun
    | .ok a => ret a
    | .error e => throw e

/-- `if (c) throw e`. -/
def throwIf (c : Prop) [Decidable c] (e : ε) : Prog I A ε Unit :=
  if c then throw e else ret ()

/-- `if (!o) throw e`, and the value otherwise. -/
def orThrow (o : Option α) (e : ε) : Prog I A ε α :=
  match o with
  | some a => ret a
  | none => throw e

/-- `try p catch g`. -/
def catching (p : Prog I A ε α) (g : ε → Prog I A ε α) : Prog I A ε α := p.cont ret g

/-- The instruction that comes next. -/
def head : Prog I A ε α → Option I
  | ask i _ => some i
  | _ => none

/-! ## Equations -/

theorem bind_def (p : Prog I A ε α) (f : α → Prog I A ε β) : (p >>= f) = p.cont f throw := rfl

@[simp] theorem cont_ret (f : α → Prog I A ε β) (g : ε → Prog I A ε β) (a : α) :
    cont f g (ret a) = f a := rfl

@[simp] theorem cont_throw (f : α → Prog I A ε β) (g : ε → Prog I A ε β) (e : ε) :
    cont f g (throw e) = g e := rfl

theorem cont_ask (f : α → Prog I A ε β) (g : ε → Prog I A ε β) (i : I)
    (k : Except ε (A i) → Prog I A ε α) :
    cont f g (ask i k) = ask i fun r => cont f g (k r) := rfl

/-- Continuations compose: the second one is pushed into both ends of the
first. -/
theorem cont_cont (f : α → Prog I A ε β) (g : ε → Prog I A ε β)
    (f' : β → Prog I A ε γ) (g' : ε → Prog I A ε γ) (p : Prog I A ε α) :
    (p.cont f g).cont f' g' = p.cont (fun a => (f a).cont f' g') (fun e => (g e).cont f' g') := by
  induction p with
  | ret a => rfl
  | throw e => rfl
  | ask i k ih =>
      simp only [cont_ask]
      congr 1
      funext r
      exact ih r

end Prog

/-! ## Transactions -/

/-- The instructions of a whole call. -/
inductive Instr (Stmt Ext : Type) where
  | begin
  | commit
  | rollback
  | stmt (s : Stmt)
  | call (c : Ext)

/-- Only a statement has an informative answer. -/
abbrev Instr.Ans {Stmt Ext : Type} (A : Stmt → Type) : Instr Stmt Ext → Type
  | .stmt s => A s
  | _ => Unit

section Transaction
variable {Stmt : Type} (Ext : Type) {A : Stmt → Type} {ε α : Type}

/-- The body of a transaction that has begun: its statements, then `commit` if
it returned, `rollback` if it threw.  A failed commit is the call's error. -/
def inTransaction : Prog Stmt A ε α → Prog (Instr Stmt Ext) (Instr.Ans A) ε α
  | .ret a => .ask .commit fun
      | .ok _ => .ret a
      | .error e => .throw e
  | .throw e => .ask .rollback fun _ => .throw e
  | .ask s k => .ask (.stmt s) fun r => inTransaction (k r)

/-- `$transaction(body)`. -/
def transaction (body : Prog Stmt A ε α) : Prog (Instr Stmt Ext) (Instr.Ans A) ε α :=
  .ask .begin fun
    | .ok _ => inTransaction Ext body
    | .error e => .throw e

/-- Statements issued outside a transaction: each is committed on its own. -/
def autocommit : Prog Stmt A ε α → Prog (Instr Stmt Ext) (Instr.Ans A) ε α
  | .ret a => .ret a
  | .throw e => .throw e
  | .ask s k => .ask (.stmt s) fun r => autocommit (k r)

end Transaction

/-! ## What a call may issue -/

/-- What was asked and answered so far, the latest first. -/
abbrev Hist (I : Type) (A : I → Type) (ε : Type) : Type := List ((i : I) × Except ε (A i))

section Obeys
variable {I : Type} {A : I → Type} {ε α β : Type}

/-- Whatever the answers are, every instruction issued from the history `h` on
satisfies `Q` and the result satisfies `R`. -/
def Obeys (Q : Hist I A ε → I → Prop) (R : Hist I A ε → Except ε α → Prop) :
    Hist I A ε → Prog I A ε α → Prop
  | h, .ret a => R h (.ok a)
  | h, .throw e => R h (.error e)
  | h, .ask i k => Q h i ∧ ∀ r, Obeys Q R (⟨i, r⟩ :: h) (k r)

variable {Q : Hist I A ε → I → Prop} {R : Hist I A ε → Except ε α → Prop}
  {S : Hist I A ε → Except ε β → Prop} {h : Hist I A ε}

theorem Obeys.mono {Q' : Hist I A ε → I → Prop} {R' : Hist I A ε → Except ε α → Prop}
    (hQ : ∀ h i, Q h i → Q' h i) (hR : ∀ h r, R h r → R' h r) :
    ∀ {p : Prog I A ε α} {h : Hist I A ε}, Obeys Q R h p → Obeys Q' R' h p
  | .ret _, h, hp => hR h _ hp
  | .throw _, h, hp => hR h _ hp
  | .ask _ _, h, hp => ⟨hQ h _ hp.1, fun r => Obeys.mono hQ hR (hp.2 r)⟩

/-- Where the conditions hold anyway. -/
theorem Obeys.of_forall (hQ : ∀ h i, Q h i) (hR : ∀ h r, R h r) :
    ∀ (p : Prog I A ε α) (h : Hist I A ε), Obeys Q R h p
  | .ret _, h => hR h _
  | .throw _, h => hR h _
  | .ask i k, h => ⟨hQ h i, fun r => Obeys.of_forall hQ hR (k r) _⟩

theorem Obeys.and {Q' : Hist I A ε → I → Prop} {R' : Hist I A ε → Except ε α → Prop} :
    ∀ {p : Prog I A ε α} {h : Hist I A ε}, Obeys Q R h p → Obeys Q' R' h p →
      Obeys (fun h i => Q h i ∧ Q' h i) (fun h r => R h r ∧ R' h r) h p
  | .ret _, _, hp, hp' => ⟨hp, hp'⟩
  | .throw _, _, hp, hp' => ⟨hp, hp'⟩
  | .ask _ _, _, hp, hp' => ⟨⟨hp.1, hp'.1⟩, fun r => (hp.2 r).and (hp'.2 r)⟩

@[simp] theorem obeys_ret {a : α} : Obeys Q R h (.ret a) ↔ R h (.ok a) := Iff.rfl

@[simp] theorem obeys_pure {a : α} : Obeys Q R h (pure a) ↔ R h (.ok a) := Iff.rfl

@[simp] theorem obeys_throw {e : ε} : Obeys Q R h (.throw e) ↔ R h (.error e) := Iff.rfl

theorem obeys_cont {f : α → Prog I A ε β} {g : ε → Prog I A ε β} :
    ∀ {p : Prog I A ε α} {h : Hist I A ε}, Obeys Q S h (p.cont f g) ↔
      Obeys Q (fun h' r =>
        match r with
        | .ok a => Obeys Q S h' (f a)
        | .error e => Obeys Q S h' (g e)) h p
  | .ret _, _ => Iff.rfl
  | .throw _, _ => Iff.rfl
  | .ask _ _, _ => and_congr Iff.rfl (forall_congr' fun _ => obeys_cont)

theorem obeys_bind {p : Prog I A ε α} {f : α → Prog I A ε β} : Obeys Q S h (p >>= f) ↔
    Obeys Q (fun h' r =>
      match r with
      | .ok a => Obeys Q S h' (f a)
      | .error e => S h' (.error e)) h p := by
  rw [Prog.bind_def, obeys_cont]
  rfl

theorem obeys_map {p : Prog I A ε α} {f : α → β} : Obeys Q S h (p.map f) ↔
    Obeys Q (fun h' r =>
      match r with
      | .ok a => S h' (.ok (f a))
      | .error e => S h' (.error e)) h p := obeys_cont

theorem obeys_catching {p : Prog I A ε α} {g : ε → Prog I A ε α} : Obeys Q R h (p.catching g) ↔
    Obeys Q (fun h' r =>
      match r with
      | .ok a => R h' (.ok a)
      | .error e => Obeys Q R h' (g e)) h p := obeys_cont

/-- Where nothing is known of the first part but that it obeys. -/
theorem Obeys.bind {p : Prog I A ε α} {f : α → Prog I A ε β} (hp : Obeys Q (fun _ _ => True) h p)
    (hf : ∀ h a, Obeys Q S h (f a)) (hg : ∀ h e, S h (.error e)) : Obeys Q S h (p >>= f) := by
  refine obeys_bind.mpr (hp.mono (fun _ _ hq => hq) ?_)
  rintro h' (e | a) _
  · exact hg h' e
  · exact hf h' a

theorem Obeys.map {p : Prog I A ε α} {f : α → β} (hp : Obeys Q (fun _ _ => True) h p) :
    Obeys Q (fun _ _ => True) h (p.map f) := by
  refine obeys_map.mpr (hp.mono (fun _ _ hq => hq) ?_)
  rintro h' (e | a) _ <;> trivial

theorem forall_except {P : Except ε α → Prop} :
    (∀ r, P r) ↔ (∀ a, P (.ok a)) ∧ ∀ e, P (.error e) := by
  constructor
  · exact fun h => ⟨fun a => h _, fun e => h _⟩
  · rintro ⟨hok, herror⟩ (e | a)
    · exact herror e
    · exact hok a

theorem obeys_perform {i : I} {R : Hist I A ε → Except ε (A i) → Prop} :
    Obeys Q R h (Prog.perform i) ↔
      Q h i ∧ (∀ a, R (⟨i, .ok a⟩ :: h) (.ok a)) ∧ ∀ e, R (⟨i, .error e⟩ :: h) (.error e) :=
  and_congr Iff.rfl forall_except

theorem obeys_throwIf {c : Prop} [Decidable c] {e : ε} {R : Hist I A ε → Except ε Unit → Prop} :
    Obeys Q R h (Prog.throwIf c e) ↔ (c → R h (.error e)) ∧ (¬ c → R h (.ok ())) := by
  unfold Prog.throwIf
  split
  · rename_i hc
    exact ⟨fun hr => ⟨fun _ => hr, fun hn => absurd hc hn⟩, fun hr => hr.1 hc⟩
  · rename_i hc
    exact ⟨fun hr => ⟨fun h' => absurd h' hc, fun _ => hr⟩, fun hr => hr.2 hc⟩

theorem obeys_orThrow {o : Option α} {e : ε} : Obeys Q R h (Prog.orThrow o e) ↔
    (o = none → R h (.error e)) ∧ ∀ a, o = some a → R h (.ok a) := by
  cases o with
  | none => simp [Prog.orThrow]
  | some a => simp [Prog.orThrow]

theorem obeys_ite {c : Prop} [Decidable c] {p q : Prog I A ε α} :
    Obeys Q R h (if c then p else q) ↔ (c → Obeys Q R h p) ∧ (¬ c → Obeys Q R h q) := by
  split
  · rename_i hc
    exact ⟨fun hp => ⟨fun _ => hp, fun hn => absurd hc hn⟩, fun hp => hp.1 hc⟩
  · rename_i hc
    exact ⟨fun hq => ⟨fun h' => absurd h' hc, fun _ => hq⟩, fun hq => hq.2 hc⟩

end Obeys

/-! ### Bodies of transactions

A body is judged as the statements it issues on their own, between `begin` and
`commit` or `rollback`. -/

section
variable {Stmt Ext : Type} {A : Stmt → Type} {ε α β : Type}

@[simp] theorem autocommit_pure (a : α) :
    autocommit Ext (pure a : Prog Stmt A ε α) = pure a := rfl

@[simp] theorem autocommit_throw (e : ε) :
    autocommit Ext (.throw e : Prog Stmt A ε α) = .throw e := rfl

theorem autocommit_bind (f : α → Prog Stmt A ε β) : ∀ p : Prog Stmt A ε α,
    autocommit Ext (p >>= f) = autocommit Ext p >>= fun a => autocommit Ext (f a)
  | .ret _ => rfl
  | .throw _ => rfl
  | .ask _ k => congrArg (Prog.ask _) (funext fun r => autocommit_bind f (k r))

theorem autocommit_ite {c : Prop} [Decidable c] (p q : Prog Stmt A ε α) :
    autocommit Ext (if c then p else q) = if c then autocommit Ext p else autocommit Ext q := by
  split <;> rfl

theorem autocommit_throwIf (c : Prop) [Decidable c] (e : ε) :
    autocommit Ext (Prog.throwIf c e : Prog Stmt A ε Unit) = Prog.throwIf c e :=
  autocommit_ite _ _

theorem autocommit_orThrow (o : Option α) (e : ε) :
    autocommit Ext (Prog.orThrow o e : Prog Stmt A ε α) = Prog.orThrow o e := by
  cases o <;> rfl

variable {Q : Hist (Instr Stmt Ext) (Instr.Ans A) ε → Instr Stmt Ext → Prop}
  {R : Hist (Instr Stmt Ext) (Instr.Ans A) ε → Except ε α → Prop}

/-- One statement. -/
theorem obeys_stmt {s : Stmt} {h : Hist (Instr Stmt Ext) (Instr.Ans A) ε}
    {R : Hist (Instr Stmt Ext) (Instr.Ans A) ε → Except ε (A s) → Prop} :
    Obeys Q R h (autocommit Ext (Prog.perform s)) ↔
      Q h (.stmt s) ∧ (∀ a, R (⟨.stmt s, .ok a⟩ :: h) (.ok a)) ∧
        ∀ e, R (⟨.stmt s, .error e⟩ :: h) (.error e) :=
  and_congr Iff.rfl forall_except

theorem obeys_inTransaction : ∀ {body : Prog Stmt A ε α}
    {h : Hist (Instr Stmt Ext) (Instr.Ans A) ε}, Obeys Q R h (inTransaction Ext body) ↔
      Obeys Q (fun h' r =>
        match r with
        | .ok a => Q h' .commit ∧ R (⟨.commit, .ok ()⟩ :: h') (.ok a) ∧
            ∀ e, R (⟨.commit, .error e⟩ :: h') (.error e)
        | .error e => Q h' .rollback ∧ ∀ r', R (⟨.rollback, r'⟩ :: h') (.error e))
        h (autocommit Ext body)
  | .ret a, h => by
      refine and_congr Iff.rfl (forall_except.trans ?_)
      exact and_congr ⟨fun hr => hr (), fun hr _ => hr⟩ Iff.rfl
  | .throw _, _ => Iff.rfl
  | .ask _ _, _ => and_congr Iff.rfl (forall_congr' fun _ => obeys_inTransaction)

theorem obeys_transaction {body : Prog Stmt A ε α}
    {h : Hist (Instr Stmt Ext) (Instr.Ans A) ε} : Obeys Q R h (transaction Ext body) ↔
      Q h .begin ∧ (∀ e, R (⟨.begin, .error e⟩ :: h) (.error e)) ∧
      Obeys Q (fun h' r =>
        match r with
        | .ok a => Q h' .commit ∧ R (⟨.commit, .ok ()⟩ :: h') (.ok a) ∧
            ∀ e, R (⟨.commit, .error e⟩ :: h') (.error e)
        | .error e => Q h' .rollback ∧ ∀ r', R (⟨.rollback, r'⟩ :: h') (.error e))
        (⟨.begin, .ok ()⟩ :: h) (autocommit Ext body) := by
  refine and_congr Iff.rfl (forall_except.trans ?_)
  rw [and_comm]
  exact and_congr Iff.rfl ⟨fun hb => obeys_inTransaction.mp (hb ()),
    fun hb _ => obeys_inTransaction.mpr hb⟩

end

end Txn
