/-
# `Txn.Alike` — two states that a call cannot tell apart

`I` relates two states in which every statement that a call may issue is
answered alike, and which it leaves related.  From two such states the call has
one and the same result (`result_alike`).
-/
import ServiceHub.Txn.Store

namespace Txn

open Database

section
variable {Db Row Key Stmt Ext ε α : Type} {A : Stmt → Type} [Database Db Row Key Stmt ε A]

/-- The statement is answered alike in related states, and leaves them
related. -/
def AnsweredAlike (I : Db → Db → Prop) (s : Stmt) : Prop :=
  ∀ db db', I db db' → exec s db = exec s db' ∧
    ∀ a, exec s db = .ok a → I (puts db (written Db s a)) (puts db' (written Db s a))

/-- The states of two runs, and those that they would go back to. -/
structure SerialState.Alike (I : Db → Db → Prop) (σ σ' : SerialState Db Ext) : Prop where
  db : I σ.db σ'.db
  saved : I (σ.saved.getD σ.db) (σ'.saved.getD σ'.db)
  opened : σ.saved.isSome = σ'.saved.isSome

/-- **Related states give the same result.** -/
theorem result_alike {I : Db → Db → Prop} {May : Stmt → Prop}
    (halike : ∀ s, May s → AnsweredAlike I s) {p : Prog (Instr Stmt Ext) (Instr.Ans A) ε α}
    {h : Hist (Instr Stmt Ext) (Instr.Ans A) ε}
    (hp : Obeys (fun _ i => ∀ s, i = .stmt s → May s) (fun _ _ => True) h p)
    {σ σ' : SerialState Db Ext} (hσ : σ.Alike I σ') : (p.serial σ).2 = (p.serial σ').2 := by
  induction p generalizing h σ σ' with
  | ret a => rfl
  | throw e => rfl
  | ask i k ih =>
      cases i with
      | begin => exact ih _ (hp.2 (.ok ())) ⟨hσ.db, hσ.saved, rfl⟩
      | commit => exact ih _ (hp.2 (.ok ())) ⟨hσ.db, hσ.db, rfl⟩
      | rollback => exact ih _ (hp.2 (.ok ())) ⟨hσ.saved, hσ.saved, rfl⟩
      | call c => exact ih _ (hp.2 (.ok ())) ⟨hσ.db, hσ.saved, hσ.opened⟩
      | stmt s =>
          obtain ⟨hexec, hkept⟩ := halike s (hp.1 s rfl) _ _ hσ.db
          simp only [Prog.serial, ← hexec]
          cases hs : exec s σ.db with
          | error e => exact ih _ (hp.2 (.error e)) hσ
          | ok a =>
              refine ih _ (hp.2 (.ok a)) ⟨hkept a hs, ?_, hσ.opened⟩
              have hopened := hσ.opened
              have hsaved := hσ.saved
              cases hl : σ.saved with
              | none =>
                  cases hr : σ'.saved with
                  | none => exact hkept a hs
                  | some db' => simp [hl, hr] at hopened
              | some db =>
                  cases hr : σ'.saved with
                  | none => simp [hl, hr] at hopened
                  | some db' => simpa [hl, hr] using hsaved

/-- Outside a transaction. -/
theorem SerialState.Alike.of_db {I : Db → Db → Prop} {db db' : Db} (h : I db db') (log : List Ext) :
    (⟨none, db, log⟩ : SerialState Db Ext).Alike I ⟨none, db', log⟩ := ⟨h, h, rfl⟩

end

end Txn
