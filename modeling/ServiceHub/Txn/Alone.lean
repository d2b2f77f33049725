/-
# `Txn.Alone` — what a call that runs alone has asked

`Prog.asked` is the history of a serial run.  The program logic of a call speaks
of it as it does of the histories of interleaved calls (`obeyed_asked`,
`result_asked`).
-/
import ServiceHub.Txn.History

namespace Txn

open Database

section
variable {Db Row Key Stmt Ext ε α : Type} {A : Stmt → Type} [Database Db Row Key Stmt ε A]

/-- The history of a serial run that goes on from the history `h`. -/
def Prog.asked : Prog (Instr Stmt Ext) (Instr.Ans A) ε α → SerialState Db Ext →
    Hist (Instr Stmt Ext) (Instr.Ans A) ε → Hist (Instr Stmt Ext) (Instr.Ans A) ε
  | .ret _, _, h => h
  | .throw _, _, h => h
  | .ask .begin k, σ, h =>
      (k (.ok ())).asked { σ with saved := some (σ.saved.getD σ.db) } (⟨.begin, .ok ()⟩ :: h)
  | .ask .commit k, σ, h => (k (.ok ())).asked { σ with saved := none } (⟨.commit, .ok ()⟩ :: h)
  | .ask .rollback k, σ, h =>
      (k (.ok ())).asked { σ with saved := none, db := σ.saved.getD σ.db } (⟨.rollback, .ok ()⟩ :: h)
  | .ask (.call c) k, σ, h =>
      (k (.ok ())).asked { σ with log := σ.log ++ [c] } (⟨.call c, .ok ()⟩ :: h)
  | .ask (.stmt s) k, σ, h =>
      match exec s σ.db with
      | .ok a => (k (.ok a)).asked { σ with db := puts σ.db (written Db s a) } (⟨.stmt s, .ok a⟩ :: h)
      | .error e => (k (.error e)).asked σ (⟨.stmt s, .error e⟩ :: h)

variable {Q : Hist (Instr Stmt Ext) (Instr.Ans A) ε → Instr Stmt Ext → Prop}
  {R : Hist (Instr Stmt Ext) (Instr.Ans A) ε → Except ε α → Prop}

/-- What the program logic says of the result holds of the serial run. -/
theorem result_asked {p : Prog (Instr Stmt Ext) (Instr.Ans A) ε α} :
    ∀ {h : Hist (Instr Stmt Ext) (Instr.Ans A) ε} (σ : SerialState Db Ext), Obeys Q R h p →
      R (p.asked σ h) (p.serial σ).2 := by
  induction p with
  | ret a => exact fun _ hp => hp
  | throw e => exact fun _ hp => hp
  | ask i k ih =>
      intro h σ hp
      cases i with
      | stmt s =>
          simp only [Prog.asked, Prog.serial]
          cases exec s σ.db with
          | ok a => exact ih _ _ (hp.2 (.ok a))
          | error e => exact ih _ _ (hp.2 (.error e))
      | _ => exact ih _ _ (hp.2 (.ok ()))

/-- What a call asks, it was to ask. -/
theorem obeyed_asked {p : Prog (Instr Stmt Ext) (Instr.Ans A) ε α} :
    ∀ {h : Hist (Instr Stmt Ext) (Instr.Ans A) ε} (σ : SerialState Db Ext), Obeys Q R h p →
      Obeyed Q h → Obeyed Q (p.asked σ h) := by
  induction p with
  | ret a => exact fun _ _ hh => hh
  | throw e => exact fun _ _ hh => hh
  | ask i k ih =>
      intro h σ hp hh
      cases i with
      | stmt s =>
          simp only [Prog.asked]
          cases exec s σ.db with
          | ok a => exact ih _ _ (hp.2 (.ok a)) ⟨hp.1, hh⟩
          | error e => exact ih _ _ (hp.2 (.error e)) ⟨hp.1, hh⟩
      | _ => exact ih _ _ (hp.2 (.ok ())) ⟨hp.1, hh⟩

/-- What `called` holds of was asked, and nothing that `changes` holds of since. -/
def askedSince (called changes : ((i : Instr Stmt Ext) × Except ε (i.Ans A)) → Bool) :
    Hist (Instr Stmt Ext) (Instr.Ans A) ε → Bool
  | [] => false
  | x :: h => called x || (!changes x && askedSince called changes h)

/-- What was never to be asked was not asked. -/
theorem askedSince_of_obeyed {called changes : ((i : Instr Stmt Ext) × Except ε (i.Ans A)) → Bool}
    (hnever : ∀ h x, Q h x.1 → called x = false) :
    ∀ {h : Hist (Instr Stmt Ext) (Instr.Ans A) ε}, Obeyed Q h → askedSince called changes h = false
  | [], _ => rfl
  | x :: h, ⟨hasked, hbefore⟩ => by
      rw [askedSince, hnever h x hasked, askedSince_of_obeyed hnever hbefore, Bool.and_false]
      rfl

end

end Txn
