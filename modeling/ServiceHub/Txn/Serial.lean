/-
# `Txn.Serial` — calls made one after another

A program is closed if it leaves no transaction open, whatever it is answered
and whichever way it ends.  Closed calls that are made one after another, each
let go on alone until it has ended, are one of the interleavings: every call
ends with the result of its serial run, on the database that the calls before it
have left (`Run.serial_all`).  What is proved of every interleaving holds of
them, and what fails of them fails of some interleaving.
-/
import ServiceHub.Txn.History

namespace Txn

open Database

/-! ## Closed programs -/

section
variable {Stmt Ext ε α β : Type} {A : Stmt → Type}

/-- The program leaves no transaction open. -/
def Closed (p : Prog (Instr Stmt Ext) (Instr.Ans A) ε α) : Prop :=
  ∀ h, sinceBegin h = none → Obeys (fun _ _ => True) (fun h' _ => sinceBegin h' = none) h p

theorem closed_pure (a : α) :
    Closed (pure a : Prog (Instr Stmt Ext) (Instr.Ans A) ε α) := fun _ hout => hout

theorem closed_throw (e : ε) :
    Closed (.throw e : Prog (Instr Stmt Ext) (Instr.Ans A) ε α) := fun _ hout => hout

theorem Closed.bind {p : Prog (Instr Stmt Ext) (Instr.Ans A) ε α}
    {f : α → Prog (Instr Stmt Ext) (Instr.Ans A) ε β} (hp : Closed p) (hf : ∀ a, Closed (f a)) :
    Closed (p >>= f) := by
  intro h hout
  refine obeys_bind.mpr ((hp h hout).mono (fun _ _ hq => hq) ?_)
  rintro h' (e | a) hout'
  · exact hout'
  · exact hf a h' hout'

theorem Closed.catching {p : Prog (Instr Stmt Ext) (Instr.Ans A) ε α}
    {g : ε → Prog (Instr Stmt Ext) (Instr.Ans A) ε α} (hp : Closed p) (hg : ∀ e, Closed (g e)) :
    Closed (p.catching g) := by
  intro h hout
  refine obeys_catching.mpr ((hp h hout).mono (fun _ _ hq => hq) ?_)
  rintro h' (e | a) hout'
  · exact hg e h' hout'
  · exact hout'

theorem Closed.map {p : Prog (Instr Stmt Ext) (Instr.Ans A) ε α} {f : α → β} (hp : Closed p) :
    Closed (p.map f) := by
  intro h hout
  refine obeys_map.mpr ((hp h hout).mono (fun _ _ hq => hq) ?_)
  rintro h' (e | a) hout' <;> exact hout'

theorem closed_ite {c : Prop} [Decidable c] {p q : Prog (Instr Stmt Ext) (Instr.Ans A) ε α}
    (hp : c → Closed p) (hq : ¬ c → Closed q) : Closed (if c then p else q) := by
  split
  · exact hp ‹_›
  · exact hq ‹_›

theorem closed_throwIf {c : Prop} [Decidable c] {e : ε} :
    Closed (Prog.throwIf c e : Prog (Instr Stmt Ext) (Instr.Ans A) ε Unit) := by
  intro h hout
  exact obeys_throwIf.mpr ⟨fun _ => hout, fun _ => hout⟩

theorem closed_orThrow {o : Option α} {e : ε} :
    Closed (Prog.orThrow o e : Prog (Instr Stmt Ext) (Instr.Ans A) ε α) := by
  intro h hout
  exact obeys_orThrow.mpr ⟨fun _ => hout, fun _ _ => hout⟩

theorem closed_call (x : Ext) :
    Closed (Prog.perform (Instr.call x) : Prog (Instr Stmt Ext) (Instr.Ans A) ε Unit) := by
  intro h hout
  exact obeys_perform.mpr ⟨trivial, fun _ => hout, fun _ => hout⟩

/-- Statements on their own open nothing. -/
theorem closed_autocommit (p : Prog Stmt A ε α) : Closed (autocommit Ext p) := by
  induction p with
  | ret a => exact fun _ hout => hout
  | throw e => exact fun _ hout => hout
  | ask s k ih =>
      intro h hout
      refine ⟨trivial, ?_⟩
      rintro (e | a)
      · exact ih _ _ hout
      · refine ih _ _ ?_
        simp [sinceBegin, hout]

/-- A transaction ends with a commit or a rollback, or has not begun. -/
theorem closed_transaction (body : Prog Stmt A ε α) : Closed (transaction Ext body) := by
  intro h hout
  refine obeys_transaction.mpr ⟨trivial, fun e => hout, ?_⟩
  refine Obeys.of_forall (fun _ _ => trivial) ?_ _ _
  rintro h' (e | a)
  · exact ⟨trivial, fun _ => rfl⟩
  · exact ⟨trivial, rfl, fun _ => rfl⟩

end

/-! ## One after another -/

section
variable {Op Db Row Key Stmt Ext ε Res : Type} {A : Stmt → Type} [Database Db Row Key Stmt ε A]
  {program : Op → Prog (Instr Stmt Ext) (Instr.Ans A) ε Res}
  {c₀ c c' : Config Op Db Row Stmt Ext A ε Res}

theorem Run.of_runEvents : ∀ {es : List (Event Op ε)} {c : Config Op Db Row Stmt Ext A ε Res},
    runEvents program c es = some c' → Run program (fun _ _ => True) c c' := by
  intro es
  induction es with
  | nil =>
      intro c h
      obtain rfl : c = c' := Option.some.inj h
      exact .start
  | cons e es ih =>
      intro c h
      simp only [runEvents] at h
      split at h
      · rename_i c₁ hn
        exact (Run.step .start trivial hn).trans (ih h)
      · cases h

/-- The call has ended with the result. -/
def Ended (P : Proc Op Row Stmt Ext A ε Res) (r : Except ε Res) : Prop :=
  P.prog = Prog.ended r ∧ P.tx = none

/-- The database that the operations leave one after another. -/
def serialDb (program : Op → Prog (Instr Stmt Ext) (Instr.Ans A) ε Res) (db : Db) (os : List Op) : Db :=
  os.foldl (fun db o => ((program o).serial ⟨none, db, []⟩).1.db) db

/-- Their results. -/
def serialResults (program : Op → Prog (Instr Stmt Ext) (Instr.Ans A) ε Res) (db : Db) :
    List Op → List (Except ε Res)
  | [] => []
  | o :: os => ((program o).serial ⟨none, db, []⟩).2 ::
      serialResults program ((program o).serial ⟨none, db, []⟩).1.db os

variable [DecidableEq Key] [Lawful Db]

/-- A call that is made while all others have ended, and let go on alone. -/
theorem Run.serial_one (hclosed : ∀ o, Closed (program o)) (hc₀ : c₀.procs = [])
    (hrun : Run program (fun _ _ => True) c₀ c) (hidle : ∀ P ∈ c.procs, P.tx = none) (o : Op) :
    ∃ c' P, Run program (fun _ _ => True) c c' ∧ c'.procs = c.procs ++ [P] ∧ P.op = o ∧
      Ended P ((program o).serial ⟨none, c.db, []⟩).2 ∧
      c'.db = ((program o).serial ⟨none, c.db, []⟩).1.db := by
  have hspawn : next program c (.spawn o) = some ⟨c.db, c.procs ++ [Proc.start program o]⟩ := rfl
  have hstart : (c.procs ++ [Proc.start program o])[c.procs.length]? = some (Proc.start program o) := by
    simp
  have hquiet : Quiet ⟨c.db, c.procs ++ [Proc.start program o]⟩ c.procs.length := by
    intro q Q _ hQ
    rcases List.mem_append.mp (List.mem_of_getElem? hQ) with hQ | hQ
    · exact hidle Q hQ
    · rw [List.mem_singleton.mp hQ]
      rfl
  obtain ⟨n, c', P, log, hevents, hothers, hP, hop, hprog, hstate⟩ :=
    serial_run c.procs.length (program o) _ _ [] rfl hstart hquiet
  have hone : Run program (fun _ _ => True) c c' :=
    (Run.step .start trivial hspawn).trans (Run.of_runEvents hevents)
  have hmem := List.mem_of_getElem? hP
  have hobeys := (hrun.trans hone).obeys (R := fun _ h _ => sinceBegin h = none)
    (fun _ o _ => hclosed o [] rfl) hc₀ P hmem
  -- the call has ended, so its transaction is closed
  have hout : sinceBegin P.hist = none := by
    rw [hprog] at hobeys
    cases hresult : ((program o).serial ((Proc.start program o).serialState c.db [])).2 with
    | ok a =>
        rw [hresult] at hobeys
        exact hobeys
    | error e =>
        rw [hresult] at hobeys
        exact hobeys
  have htx : P.tx = none := by
    rw [(hrun.trans hone).tx_eq hc₀ P hmem, hout]
    rfl
  refine ⟨c', P, hone, ?_, hop, ⟨hprog, htx⟩, ?_⟩
  · refine List.ext_getElem? fun q => ?_
    by_cases hq : q = c.procs.length
    · rw [hq, hP]
      simp
    · rw [hothers q hq]
      by_cases hlt : q < c.procs.length
      · simp [List.getElem?_append_left hlt]
      · have hnone : ∀ Q : Proc Op Row Stmt Ext A ε Res, (c.procs ++ [Q])[q]? = none := by
          intro Q
          refine List.getElem?_eq_none ?_
          simp
          omega
        rw [hnone, hnone]
  · have hdb := congrArg SerialState.db hstate
    simp only [Proc.serialState, view, Proc.pending, htx] at hdb
    exact hdb.symm

/-- **Calls made one after another are one of the interleavings.** -/
theorem Run.serial_all (hclosed : ∀ o, Closed (program o)) (hc₀ : c₀.procs = []) :
    ∀ (os : List Op) (c : Config Op Db Row Stmt Ext A ε Res),
      Run program (fun _ _ => True) c₀ c → (∀ P ∈ c.procs, P.tx = none) →
        ∃ c' Ps, Run program (fun _ _ => True) c c' ∧ c'.procs = c.procs ++ Ps ∧
          List.map Proc.op Ps = os ∧ List.Forall₂ Ended Ps (serialResults program c.db os) ∧
          c'.db = serialDb program c.db os := by
  intro os
  induction os with
  | nil => exact fun c _ _ => ⟨c, [], .start, (List.append_nil _).symm, rfl, .nil, rfl⟩
  | cons o os ih =>
      intro c hrun hidle
      obtain ⟨c₁, P, hrun₁, hprocs₁, hop, hended, hdb₁⟩ :=
        hrun.serial_one hclosed hc₀ hidle o
      have hidle₁ : ∀ Q ∈ c₁.procs, Q.tx = none := by
        intro Q hQ
        rw [hprocs₁] at hQ
        rcases List.mem_append.mp hQ with hQ | hQ
        · exact hidle Q hQ
        · rw [List.mem_singleton.mp hQ]
          exact hended.2
      obtain ⟨c', Ps, hrun', hprocs', hops, hall, hdb'⟩ := ih c₁ (hrun.trans hrun₁) hidle₁
      refine ⟨c', P :: Ps, hrun₁.trans hrun', ?_, ?_, ?_, ?_⟩
      · rw [hprocs', hprocs₁, List.append_assoc]
        rfl
      · rw [List.map_cons, hop, hops]
      · exact .cons hended (hdb₁ ▸ hall)
      · rw [hdb', hdb₁]
        rfl

end

end Txn
