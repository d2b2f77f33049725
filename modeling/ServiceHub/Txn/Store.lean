/-
# `Txn.Store` — rows, statements, and one call on its own

A database is a set of rows addressed by keys, together with statements that
read a snapshot of it.  What a statement does is fixed here by three functions,
and nothing else is assumed:

| | |
| :-- | :-- |
| `exec s db` | the answer of statement `s` on the snapshot `db`, or its error |
| `written s a` | the row versions that the statement wrote when its answer was `a` |
| `waits s db others` | whether it has to wait for the uncommitted row versions `others` of other transactions |

`Lawful` collects what the rules below need: a version is found under its own
key and disturbs no other key, a statement never writes a row that another
transaction has an uncommitted version of, and nothing waits when nothing is
uncommitted.

`Prog.serial` runs a call alone, from begin to end.  Its reading of a
transaction is `serial_transaction`: the body's effect is kept when it returns
and dropped when it throws.
-/
import ServiceHub.Txn.Prog

namespace Txn

/-- Rows addressed by keys, and statements over them. -/
class Database (Db : Type) (Row Key Stmt ε : outParam Type) (A : outParam (Stmt → Type)) where
  key : Row → Key
  get : Db → Key → Option Row
  put : Db → Row → Db
  exec : (s : Stmt) → Db → Except ε (A s)
  written : (s : Stmt) → A s → List Row
  waits : Stmt → Db → List Row → Bool

open Database

/-- What the rules of this library ask of a database. -/
class Lawful (Db : Type) {Row Key Stmt ε : Type} {A : Stmt → Type} [DecidableEq Key]
    [Database Db Row Key Stmt ε A] : Prop where
  get_put : ∀ (db : Db) (r : Row) (k : Key),
    get (put db r) k = if key Db r = k then some r else get db k
  apart : ∀ (s : Stmt) (db : Db) (others : List Row) (a : A s),
    waits s db others = false → exec s db = .ok a →
      ∀ r ∈ written Db s a, ∀ o ∈ others, key Db o ≠ key Db r
  alone : ∀ (s : Stmt) (db : Db), waits s db [] = false

section Puts
variable {Db Row Key Stmt ε : Type} {A : Stmt → Type} [Database Db Row Key Stmt ε A]

/-- Write the versions in order; the last one under a key stays. -/
def puts (db : Db) (ws : List Row) : Db := ws.foldl put db

@[simp] theorem puts_nil (db : Db) : puts db ([] : List Row) = db := rfl

@[simp] theorem puts_cons (db : Db) (w : Row) (ws : List Row) :
    puts db (w :: ws) = puts (put db w) ws := rfl

theorem puts_append (db : Db) (ws ws' : List Row) :
    puts db (ws ++ ws') = puts (puts db ws) ws' := List.foldl_append

variable [DecidableEq Key] [Lawful Db]

/-- A key that no version is written under keeps its row. -/
theorem get_puts_of_notMem (k : Key) :
    ∀ (ws : List Row) (db : Db), (∀ w ∈ ws, key Db w ≠ k) → get (puts db ws) k = get db k
  | [], _, _ => rfl
  | w :: ws, db, h => by
      rw [puts_cons, get_puts_of_notMem k ws _ fun x hx => h x (List.mem_cons_of_mem _ hx),
        Lawful.get_put, if_neg (h w List.mem_cons_self)]

/-- A key that some version is written under has the same row whatever was
there before. -/
theorem get_puts_of_mem (k : Key) :
    ∀ (ws : List Row) (db db' : Db), (∃ w ∈ ws, key Db w = k) →
      get (puts db ws) k = get (puts db' ws) k
  | [], _, _, h => by
      obtain ⟨_, hw, _⟩ := h
      exact absurd hw List.not_mem_nil
  | w :: ws, db, db', h => by
      by_cases hlater : ∃ x ∈ ws, key Db x = k
      · exact get_puts_of_mem k ws (put db w) (put db' w) hlater
      · have hnone : ∀ x ∈ ws, key Db x ≠ k := fun x hx hk => hlater ⟨x, hx, hk⟩
        obtain ⟨x, hx, hk⟩ := h
        obtain rfl : x = w := (List.mem_cons.mp hx).resolve_right fun hx => hnone x hx hk
        rw [puts_cons, puts_cons, get_puts_of_notMem k ws _ hnone, get_puts_of_notMem k ws _ hnone,
          Lawful.get_put, Lawful.get_put, if_pos hk, if_pos hk]

/-- What is found under a key is one of the versions written, or the old row
when no version is under that key. -/
theorem get_puts (k : Key) :
    ∀ (ws : List Row) (db : Db),
      (∃ w ∈ ws, key Db w = k ∧ get (puts db ws) k = some w) ∨
      ((∀ w ∈ ws, key Db w ≠ k) ∧ get (puts db ws) k = get db k)
  | [], _ => Or.inr ⟨fun _ h => absurd h List.not_mem_nil, rfl⟩
  | w :: ws, db => by
      rcases get_puts k ws (put db w) with ⟨x, hx, hk, hg⟩ | ⟨hn, hg⟩
      · exact Or.inl ⟨x, List.mem_cons_of_mem _ hx, hk, hg⟩
      · by_cases hw : key Db w = k
        · refine Or.inl ⟨w, List.mem_cons_self, hw, ?_⟩
          rw [puts_cons, hg, Lawful.get_put, if_pos hw]
        · refine Or.inr ⟨fun x hx => ?_, ?_⟩
          · rcases List.mem_cons.mp hx with rfl | hx'
            · exact hw
            · exact hn x hx'
          · rw [puts_cons, hg, Lawful.get_put, if_neg hw]

/-- A key that has a row keeps one. -/
theorem isSome_get_puts {k : Key} {db : Db} (rows : List Row) (h : (get db k).isSome) :
    (get (puts db rows) k).isSome := by
  rcases get_puts k rows db with ⟨w, _, _, hg⟩ | ⟨_, hg⟩
  · simp [hg]
  · rwa [hg]

end Puts

/-! ## One call on its own -/

/-- The database during a serial run: the state to go back to while a
transaction is open, the current state, and the calls made to the outside. -/
structure SerialState (Db Ext : Type) where
  saved : Option Db
  db : Db
  log : List Ext

namespace Prog

variable {Db Row Key Stmt ε : Type} {A : Stmt → Type} [Database Db Row Key Stmt ε A]
  {Ext α β : Type}

/-- The body of a transaction, on the state its transaction sees. -/
def eval : Prog Stmt A ε α → Db → Db × Except ε α
  | .ret a, db => (db, .ok a)
  | .throw e, db => (db, .error e)
  | .ask s k, db =>
      match exec s db with
      | .ok a => (k (.ok a)).eval (puts db (written Db s a))
      | .error e => (k (.error e)).eval db

/-- A whole call, run alone. -/
def serial : Prog (Instr Stmt Ext) (Instr.Ans A) ε α → SerialState Db Ext →
    SerialState Db Ext × Except ε α
  | .ret a, σ => (σ, .ok a)
  | .throw e, σ => (σ, .error e)
  | .ask .begin k, σ => (k (.ok ())).serial { σ with saved := some (σ.saved.getD σ.db) }
  | .ask .commit k, σ => (k (.ok ())).serial { σ with saved := none }
  | .ask .rollback k, σ =>
      (k (.ok ())).serial { σ with saved := none, db := σ.saved.getD σ.db }
  | .ask (.call c) k, σ => (k (.ok ())).serial { σ with log := σ.log ++ [c] }
  | .ask (.stmt s) k, σ =>
      match exec s σ.db with
      | .ok a => (k (.ok a)).serial { σ with db := puts σ.db (written Db s a) }
      | .error e => (k (.error e)).serial σ

/-! ### Bodies -/

@[simp] theorem eval_ret (a : α) (db : Db) : (ret a : Prog Stmt A ε α).eval db = (db, .ok a) := rfl

@[simp] theorem eval_pure (a : α) (db : Db) :
    (pure a : Prog Stmt A ε α).eval db = (db, .ok a) := rfl

@[simp] theorem eval_throw (e : ε) (db : Db) :
    (throw e : Prog Stmt A ε α).eval db = (db, .error e) := rfl

theorem eval_cont (f : α → Prog Stmt A ε β) (g : ε → Prog Stmt A ε β) (p : Prog Stmt A ε α) :
    ∀ db : Db, (p.cont f g).eval db =
      match p.eval db with
      | (db', .ok a) => (f a).eval db'
      | (db', .error e) => (g e).eval db' := by
  induction p with
  | ret a => intro db; rfl
  | throw e => intro db; rfl
  | ask s k ih =>
      intro db
      simp only [cont_ask, eval]
      cases exec s db with
      | ok a => exact ih _ _
      | error e => exact ih _ _

theorem eval_bind (p : Prog Stmt A ε α) (f : α → Prog Stmt A ε β) (db : Db) :
    (p >>= f).eval db =
      match p.eval db with
      | (db', .ok a) => (f a).eval db'
      | (db', .error e) => (db', .error e) := by
  rw [bind_def, eval_cont]
  rfl

@[simp] theorem eval_perform (s : Stmt) (db : Db) :
    (perform s : Prog Stmt A ε (A s)).eval db =
      match exec s db with
      | .ok a => (puts db (written Db s a), .ok a)
      | .error e => (db, .error e) := by
  simp only [perform, eval]

/-! ### Calls -/

@[simp] theorem serial_ret (a : α) (σ : SerialState Db Ext) :
    (ret a : Prog (Instr Stmt Ext) (Instr.Ans A) ε α).serial σ = (σ, .ok a) := rfl

@[simp] theorem serial_pure (a : α) (σ : SerialState Db Ext) :
    (pure a : Prog (Instr Stmt Ext) (Instr.Ans A) ε α).serial σ = (σ, .ok a) := rfl

@[simp] theorem serial_throw (e : ε) (σ : SerialState Db Ext) :
    (throw e : Prog (Instr Stmt Ext) (Instr.Ans A) ε α).serial σ = (σ, .error e) := rfl

theorem serial_cont (f : α → Prog (Instr Stmt Ext) (Instr.Ans A) ε β)
    (g : ε → Prog (Instr Stmt Ext) (Instr.Ans A) ε β)
    (p : Prog (Instr Stmt Ext) (Instr.Ans A) ε α) :
    ∀ σ : SerialState Db Ext, (p.cont f g).serial σ =
      match p.serial σ with
      | (σ', .ok a) => (f a).serial σ'
      | (σ', .error e) => (g e).serial σ' := by
  induction p with
  | ret a => intro σ; rfl
  | throw e => intro σ; rfl
  | ask i k ih =>
      intro σ
      rw [cont_ask]
      cases i with
      | begin => exact ih _ _
      | commit => exact ih _ _
      | rollback => exact ih _ _
      | call c => exact ih _ _
      | stmt s =>
          simp only [serial]
          cases exec s σ.db with
          | ok a => exact ih _ _
          | error e => exact ih _ _

theorem serial_bind (p : Prog (Instr Stmt Ext) (Instr.Ans A) ε α)
    (f : α → Prog (Instr Stmt Ext) (Instr.Ans A) ε β) (σ : SerialState Db Ext) :
    (p >>= f).serial σ =
      match p.serial σ with
      | (σ', .ok a) => (f a).serial σ'
      | (σ', .error e) => (σ', .error e) := by
  rw [bind_def, serial_cont]
  rfl

theorem serial_inTransaction (body : Prog Stmt A ε α) :
    ∀ (base db : Db) (log : List Ext),
      (inTransaction Ext body).serial ⟨some base, db, log⟩ =
        match body.eval db with
        | (db', .ok a) => (⟨none, db', log⟩, .ok a)
        | (_, .error e) => (⟨none, base, log⟩, .error e) := by
  induction body with
  | ret a => intro base db log; rfl
  | throw e => intro base db log; rfl
  | ask s k ih =>
      intro base db log
      simp only [inTransaction, serial, eval]
      cases exec s db with
      | ok a => exact ih _ _ _ _
      | error e => exact ih _ _ _ _

/-- A transaction keeps its body's effect when the body returns and drops it
when the body throws. -/
theorem serial_transaction (body : Prog Stmt A ε α) (db : Db) (log : List Ext) :
    (transaction Ext body).serial ⟨none, db, log⟩ =
      match body.eval db with
      | (db', .ok a) => (⟨none, db', log⟩, .ok a)
      | (_, .error e) => (⟨none, db, log⟩, .error e) :=
  serial_inTransaction body db db log

theorem serial_autocommit (body : Prog Stmt A ε α) :
    ∀ (db : Db) (log : List Ext),
      (autocommit Ext body).serial ⟨none, db, log⟩ =
        (⟨none, (body.eval db).1, log⟩, (body.eval db).2) := by
  induction body with
  | ret a => intro db log; rfl
  | throw e => intro db log; rfl
  | ask s k ih =>
      intro db log
      simp only [autocommit, serial, eval]
      cases exec s db with
      | ok a => exact ih _ _ _
      | error e => exact ih _ _ _

/-- What no statement breaks, no call breaks. -/
theorem serial_invariant {I : Db → Prop}
    (hexec : ∀ s db a, exec s db = .ok a → I db → I (puts db (written Db s a)))
    (p : Prog (Instr Stmt Ext) (Instr.Ans A) ε α) :
    ∀ σ : SerialState Db Ext, I σ.db → (∀ db ∈ σ.saved, I db) → I (p.serial σ).1.db := by
  induction p with
  | ret a => exact fun σ h _ => h
  | throw e => exact fun σ h _ => h
  | ask i k ih =>
      intro σ h hsaved
      have hback : I (σ.saved.getD σ.db) := by
        cases hs : σ.saved with
        | none => exact h
        | some db => exact hsaved db hs
      cases i with
      | begin =>
          refine ih _ _ h fun db hdb => ?_
          exact Option.some.inj hdb ▸ hback
      | commit => exact ih _ _ h fun _ hdb => by cases hdb
      | rollback => exact ih _ _ hback fun _ hdb => by cases hdb
      | call c => exact ih _ _ h hsaved
      | stmt s =>
          simp only [serial]
          cases hex : exec s σ.db with
          | ok a => exact ih _ _ (hexec s _ a hex h) hsaved
          | error e => exact ih _ _ h hsaved

end Prog

end Txn
