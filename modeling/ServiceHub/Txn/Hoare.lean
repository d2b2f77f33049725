/-
# `Txn.Hoare` — what a serial program returns, throws and leaves behind

Judgments about a program run alone.

| | |
| :-- | :-- |
| `Returns p db Q` | if the body `p` returns `a` and leaves `db'`, then `Q db' a` |
| `Throws p db E` | if the body `p` throws `e` and leaves `db'`, then `E db' e` |
| `Ends p db Q` | the call `p`, started outside a transaction, ends outside one, and its final state and result satisfy `Q` |
| `CallsOnlyIf p db C` | the call `p`, started outside a transaction, calls the outside only if `C` |

The rules are equations, one for each way of building a program, so that `simp`
with them turns a judgment about a body into one about its statements.  A body
is judged by what it returns and throws separately, since what it leaves behind
when it throws is rolled back (`Ends.transaction`).
-/
import ServiceHub.Txn.Store

namespace Txn

namespace Prog

open Database

section Bodies
variable {Db Row Key Stmt ε : Type} {A : Stmt → Type} [Database Db Row Key Stmt ε A]
  {α β : Type}

/-- If the program returns, `Q` holds of what is left and what is returned. -/
def Returns (p : Prog Stmt A ε α) (db : Db) (Q : Db → α → Prop) : Prop :=
  ∀ db' a, p.eval db = (db', .ok a) → Q db' a

/-- If it throws, `E` holds of what is left and of the error. -/
def Throws (p : Prog Stmt A ε α) (db : Db) (E : Db → ε → Prop) : Prop :=
  ∀ db' e, p.eval db = (db', .error e) → E db' e

variable {Q : Db → β → Prop} {E : Db → ε → Prop} {db : Db}

theorem Returns.mono {p : Prog Stmt A ε α} {Q Q' : Db → α → Prop} (h : p.Returns db Q)
    (hQ : ∀ db' a, Q db' a → Q' db' a) : p.Returns db Q' :=
  fun db' a he => hQ db' a (h db' a he)

theorem Throws.mono {p : Prog Stmt A ε α} {E E' : Db → ε → Prop} (h : p.Throws db E)
    (hE : ∀ db' e, E db' e → E' db' e) : p.Throws db E' :=
  fun db' e he => hE db' e (h db' e he)

@[simp] theorem returns_pure {b : β} :
    (pure b : Prog Stmt A ε β).Returns db Q ↔ Q db b := by
  constructor
  · intro h
    exact h db b rfl
  · rintro h db' a he
    cases he
    exact h

@[simp] theorem returns_throw {e : ε} :
    (throw e : Prog Stmt A ε β).Returns db Q ↔ True := by
  refine iff_true_intro ?_
  rintro db' a he
  cases he

theorem returns_bind {p : Prog Stmt A ε α} {f : α → Prog Stmt A ε β} :
    (p >>= f).Returns db Q ↔ p.Returns db fun db' a => (f a).Returns db' Q := by
  unfold Returns
  rw [eval_bind]
  rcases p.eval db with ⟨db', r⟩
  cases r with
  | ok a =>
      constructor
      · rintro h db₁ a₁ ⟨⟩ db₂ b hb
        exact h db₂ b hb
      · intro h db₂ b hb
        exact h db' a rfl db₂ b hb
  | error e =>
      constructor
      · rintro _ db₁ a₁ ⟨⟩
      · rintro _ db₂ b ⟨⟩

theorem returns_perform {s : Stmt} {Q : Db → A s → Prop} :
    (perform s : Prog Stmt A ε (A s)).Returns db Q ↔
      ∀ a, exec s db = .ok a → Q (puts db (written Db s a)) a := by
  unfold Returns
  rw [eval_perform]
  cases exec s db with
  | ok a =>
      constructor
      · rintro h a₁ ⟨⟩
        exact h _ _ rfl
      · rintro h db' a₁ ⟨⟩
        exact h a rfl
  | error e =>
      constructor
      · rintro _ a₁ ⟨⟩
      · rintro _ db' a₁ ⟨⟩

theorem returns_throwIf {c : Prop} [Decidable c] {e : ε} {Q : Db → Unit → Prop} :
    (throwIf c e : Prog Stmt A ε Unit).Returns db Q ↔ (¬ c → Q db ()) := by
  by_cases hc : c
  · rw [throwIf, if_pos hc]
    exact ⟨fun _ h => absurd hc h, fun _ => returns_throw.mpr trivial⟩
  · rw [throwIf, if_neg hc]
    exact returns_pure.trans ⟨fun h _ => h, fun h => h hc⟩

theorem returns_orThrow {o : Option β} {e : ε} :
    (orThrow o e : Prog Stmt A ε β).Returns db Q ↔ ∀ b, o = some b → Q db b := by
  cases o with
  | none => exact ⟨fun _ b hb => absurd hb (by simp), fun _ => returns_throw.mpr trivial⟩
  | some b =>
      constructor
      · rintro h b₁ ⟨⟩
        exact returns_pure.mp h
      · intro h
        exact returns_pure.mpr (h b rfl)

theorem returns_ite {c : Prop} [Decidable c] {p q : Prog Stmt A ε β} :
    (if c then p else q).Returns db Q ↔ (c → p.Returns db Q) ∧ (¬ c → q.Returns db Q) := by
  by_cases hc : c <;> simp [hc]

@[simp] theorem throws_pure {b : β} : (pure b : Prog Stmt A ε β).Throws db E ↔ True := by
  refine iff_true_intro ?_
  rintro db' e he
  cases he

@[simp] theorem throws_throw {e : ε} : (throw e : Prog Stmt A ε β).Throws db E ↔ E db e := by
  constructor
  · intro h
    exact h db e rfl
  · rintro h db' e₁ he
    cases he
    exact h

theorem throws_bind {p : Prog Stmt A ε α} {f : α → Prog Stmt A ε β} :
    (p >>= f).Throws db E ↔
      p.Throws db E ∧ p.Returns db fun db' a => (f a).Throws db' E := by
  unfold Returns Throws
  rw [eval_bind]
  rcases p.eval db with ⟨db', r⟩
  cases r with
  | ok a =>
      constructor
      · intro h
        refine ⟨?_, ?_⟩
        · rintro db₁ e ⟨⟩
        · rintro db₁ a₁ ⟨⟩ db₂ e he
          exact h db₂ e he
      · rintro ⟨_, h⟩ db₂ e he
        exact h db' a rfl db₂ e he
  | error x =>
      constructor
      · intro h
        refine ⟨?_, ?_⟩
        · rintro db₁ e ⟨⟩
          exact h _ _ rfl
        · rintro db₁ a₁ ⟨⟩
      · rintro ⟨h, _⟩ db₂ e ⟨⟩
        exact h _ _ rfl

theorem throws_perform {s : Stmt} :
    (perform s : Prog Stmt A ε (A s)).Throws db E ↔ ∀ e, exec s db = .error e → E db e := by
  unfold Throws
  rw [eval_perform]
  cases exec s db with
  | ok a =>
      constructor
      · rintro _ e ⟨⟩
      · rintro _ db' e ⟨⟩
  | error x =>
      constructor
      · rintro h e ⟨⟩
        exact h _ _ rfl
      · rintro h db' e ⟨⟩
        exact h x rfl

theorem throws_throwIf {c : Prop} [Decidable c] {e : ε} {E : Db → ε → Prop} :
    (throwIf c e : Prog Stmt A ε Unit).Throws db E ↔ (c → E db e) := by
  by_cases hc : c
  · rw [throwIf, if_pos hc]
    exact throws_throw.trans ⟨fun h _ => h, fun h => h hc⟩
  · rw [throwIf, if_neg hc]
    exact ⟨fun _ h => absurd h hc, fun _ => throws_pure.mpr trivial⟩

theorem throws_orThrow {o : Option β} {e : ε} :
    (orThrow o e : Prog Stmt A ε β).Throws db E ↔ (o = none → E db e) := by
  cases o with
  | none => exact ⟨fun h _ => throws_throw.mp h, fun h => throws_throw.mpr (h rfl)⟩
  | some b => exact ⟨fun _ hb => absurd hb (by simp), fun _ => throws_pure.mpr trivial⟩

theorem throws_ite {c : Prop} [Decidable c] {p q : Prog Stmt A ε β} :
    (if c then p else q).Throws db E ↔ (c → p.Throws db E) ∧ (¬ c → q.Throws db E) := by
  by_cases hc : c <;> simp [hc]

end Bodies

section Calls
variable {Db Row Key Stmt Ext ε : Type} {A : Stmt → Type} [Database Db Row Key Stmt ε A]
  {α β : Type}

/-- A call that runs alone ends, and `Q` holds of what is left and of how. -/
def Ends (p : Prog (Instr Stmt Ext) (Instr.Ans A) ε α) (db : Db)
    (Q : Db → Except ε α → Prop) : Prop :=
  ∀ log : List Ext, ∃ db' log' r, p.serial ⟨none, db, log⟩ = (⟨none, db', log'⟩, r) ∧ Q db' r

variable {Q : Db → Except ε β → Prop} {db : Db}

theorem Ends.mono {p : Prog (Instr Stmt Ext) (Instr.Ans A) ε β} {Q' : Db → Except ε β → Prop}
    (h : p.Ends db Q) (hQ : ∀ db' r, Q db' r → Q' db' r) : p.Ends db Q' := by
  intro log
  obtain ⟨db', log', r, hs, hr⟩ := h log
  exact ⟨db', log', r, hs, hQ db' r hr⟩

theorem Ends.pure {b : β} (h : Q db (.ok b)) :
    (Pure.pure b : Prog (Instr Stmt Ext) (Instr.Ans A) ε β).Ends db Q :=
  fun log => ⟨db, log, .ok b, rfl, h⟩

theorem Ends.throw {e : ε} (h : Q db (.error e)) :
    (Prog.throw e : Prog (Instr Stmt Ext) (Instr.Ans A) ε β).Ends db Q :=
  fun log => ⟨db, log, .error e, rfl, h⟩

theorem Ends.cont {p : Prog (Instr Stmt Ext) (Instr.Ans A) ε α}
    {f : α → Prog (Instr Stmt Ext) (Instr.Ans A) ε β}
    {g : ε → Prog (Instr Stmt Ext) (Instr.Ans A) ε β}
    (h : p.Ends db fun db' r => match r with
      | .ok a => (f a).Ends db' Q
      | .error e => (g e).Ends db' Q) : (p.cont f g).Ends db Q := by
  intro log
  obtain ⟨db', log', r, hs, hr⟩ := h log
  rw [serial_cont, hs]
  cases r with
  | ok a => exact hr log'
  | error e => exact hr log'

theorem Ends.bind {p : Prog (Instr Stmt Ext) (Instr.Ans A) ε α}
    {f : α → Prog (Instr Stmt Ext) (Instr.Ans A) ε β}
    (h : p.Ends db fun db' r => match r with
      | .ok a => (f a).Ends db' Q
      | .error e => Q db' (.error e)) : (p >>= f).Ends db Q := by
  rw [bind_def]
  refine Ends.cont (h.mono ?_)
  intro db' r hr
  cases r with
  | ok a => exact hr
  | error e => exact Ends.throw hr

/-- Statements outside a transaction keep what they wrote. -/
theorem Ends.autocommit {p : Prog Stmt A ε β} (hok : p.Returns db fun db' b => Q db' (.ok b))
    (herr : p.Throws db fun db' e => Q db' (.error e)) :
    (Txn.autocommit Ext p).Ends db Q := by
  intro log
  refine ⟨(p.eval db).1, log, (p.eval db).2, serial_autocommit p db log, ?_⟩
  rcases hp : p.eval db with ⟨db', r⟩
  cases r with
  | ok b => exact hok db' b hp
  | error e => exact herr db' e hp

/-- A transaction keeps what its body wrote if the body returned. -/
theorem Ends.transaction {p : Prog Stmt A ε β} (hok : p.Returns db fun db' b => Q db' (.ok b))
    (herr : p.Throws db fun _ e => Q db (.error e)) : (Txn.transaction Ext p).Ends db Q := by
  intro log
  rcases hp : p.eval db with ⟨db', r⟩
  cases r with
  | ok b =>
      refine ⟨db', log, .ok b, ?_, hok db' b hp⟩
      rw [serial_transaction, hp]
  | error e =>
      refine ⟨db, log, .error e, ?_, herr db' e hp⟩
      rw [serial_transaction, hp]

theorem Ends.autocommit_bind {p : Prog Stmt A ε α}
    {f : α → Prog (Instr Stmt Ext) (Instr.Ans A) ε β}
    (hok : p.Returns db fun db' a => (f a).Ends db' Q)
    (herr : p.Throws db fun db' e => Q db' (.error e)) :
    (Txn.autocommit Ext p >>= f).Ends db Q :=
  Ends.bind (Ends.autocommit hok herr)

/-- One statement outside a transaction. -/
theorem Ends.stmt {s : Stmt} {Q : Db → Except ε (A s) → Prop}
    (hok : ∀ a, exec s db = .ok a → Q (puts db (written Db s a)) (.ok a))
    (herr : ∀ e, exec s db = .error e → Q db (.error e)) :
    (Txn.autocommit Ext (Prog.perform s)).Ends db Q :=
  Ends.autocommit (returns_perform.mpr hok) (throws_perform.mpr herr)

theorem Ends.stmt_bind {s : Stmt} {f : A s → Prog (Instr Stmt Ext) (Instr.Ans A) ε β}
    (hok : ∀ a, exec s db = .ok a → (f a).Ends (puts db (written Db s a)) Q)
    (herr : ∀ e, exec s db = .error e → Q db (.error e)) :
    (Txn.autocommit Ext (Prog.perform s) >>= f).Ends db Q :=
  Ends.bind (Ends.stmt hok herr)

theorem Ends.catching {p : Prog (Instr Stmt Ext) (Instr.Ans A) ε β}
    {g : ε → Prog (Instr Stmt Ext) (Instr.Ans A) ε β}
    (h : p.Ends db fun db' r => match r with
      | .ok a => Q db' (.ok a)
      | .error e => (g e).Ends db' Q) : (p.catching g).Ends db Q := by
  refine Ends.cont (h.mono ?_)
  intro db' r hr
  cases r with
  | ok a => exact Ends.pure hr
  | error e => exact hr

theorem Ends.transaction_bind {p : Prog Stmt A ε α}
    {f : α → Prog (Instr Stmt Ext) (Instr.Ans A) ε β}
    (hok : p.Returns db fun db' a => (f a).Ends db' Q)
    (herr : p.Throws db fun _ e => Q db (.error e)) :
    (Txn.transaction Ext p >>= f).Ends db Q :=
  Ends.bind (Ends.transaction hok herr)

theorem Ends.throwIf_bind {c : Prop} [Decidable c] {e : ε}
    {f : Unit → Prog (Instr Stmt Ext) (Instr.Ans A) ε β} (hok : ¬ c → (f ()).Ends db Q)
    (herr : c → Q db (.error e)) : (Prog.throwIf c e >>= f).Ends db Q := by
  unfold Prog.throwIf
  by_cases hc : c
  · rw [if_pos hc]
    exact Ends.throw (herr hc)
  · rw [if_neg hc]
    exact hok hc

theorem Ends.orThrow_bind {o : Option α} {e : ε}
    {f : α → Prog (Instr Stmt Ext) (Instr.Ans A) ε β} (hok : ∀ a, o = some a → (f a).Ends db Q)
    (herr : o = none → Q db (.error e)) : (Prog.orThrow o e >>= f).Ends db Q := by
  cases o with
  | none => exact Ends.throw (herr rfl)
  | some a => exact hok a rfl

theorem Ends.map {p : Prog (Instr Stmt Ext) (Instr.Ans A) ε α} {f : α → β}
    (h : p.Ends db fun db' r => Q db' (r.map f)) : (p.map f).Ends db Q := by
  refine Ends.cont (h.mono ?_)
  intro db' r hr
  cases r with
  | ok a => exact Ends.pure hr
  | error e => exact Ends.throw hr

theorem Ends.call {c : Ext} {Q : Db → Except ε Unit → Prop} (h : Q db (.ok ())) :
    (Prog.perform (Instr.call c) : Prog (Instr Stmt Ext) (Instr.Ans A) ε Unit).Ends db Q :=
  fun log => ⟨db, log ++ [c], .ok (), rfl, h⟩

/-! ### Calls to the outside -/

/-- The call, run alone, calls the outside only if `C`. -/
def CallsOnlyIf (p : Prog (Instr Stmt Ext) (Instr.Ans A) ε α) (db : Db) (C : Prop) : Prop :=
  ∀ log : List Ext, (p.serial ⟨none, db, log⟩).1.log = log ∨ C

theorem CallsOnlyIf.of {p : Prog (Instr Stmt Ext) (Instr.Ans A) ε α} {C : Prop} (h : C) :
    p.CallsOnlyIf db C := fun _ => Or.inr h

theorem CallsOnlyIf.throw {e : ε} {C : Prop} :
    (Prog.throw e : Prog (Instr Stmt Ext) (Instr.Ans A) ε α).CallsOnlyIf db C :=
  fun _ => Or.inl rfl

theorem CallsOnlyIf.autocommit_bind {p : Prog Stmt A ε α}
    {f : α → Prog (Instr Stmt Ext) (Instr.Ans A) ε β} {C : Prop}
    (h : p.Returns db fun db' a => (f a).CallsOnlyIf db' C) :
    (Txn.autocommit Ext p >>= f).CallsOnlyIf db C := by
  intro log
  rw [serial_bind, serial_autocommit]
  rcases hp : p.eval db with ⟨db', e | a⟩
  · exact Or.inl rfl
  · exact h db' a hp log

theorem CallsOnlyIf.throwIf_bind {c : Prop} [Decidable c] {e : ε} {C : Prop}
    {f : Unit → Prog (Instr Stmt Ext) (Instr.Ans A) ε β} (h : ¬ c → (f ()).CallsOnlyIf db C) :
    (Prog.throwIf c e >>= f).CallsOnlyIf db C := by
  unfold Prog.throwIf
  by_cases hc : c
  · rw [if_pos hc]
    exact CallsOnlyIf.throw
  · rw [if_neg hc]
    exact h hc

theorem CallsOnlyIf.orThrow_bind {o : Option α} {e : ε} {C : Prop}
    {f : α → Prog (Instr Stmt Ext) (Instr.Ans A) ε β}
    (h : ∀ a, o = some a → (f a).CallsOnlyIf db C) : (Prog.orThrow o e >>= f).CallsOnlyIf db C := by
  cases o with
  | none => exact CallsOnlyIf.throw
  | some a => exact h a rfl

end Calls

end Prog

end Txn
