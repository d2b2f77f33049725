/-
# `Txn.Debts` — what a call has yet to do after it has written

Something that is derived from the rows is kept beside them, and is out of date
when they are written, until the call that wrote them mends it by a later
statement.  A statement that writes such rows incurs a debt, and the one that
mends settles it.

    `debt`     the history ends with a debt that is not settled
    `lapsed`   a statement failed while there was one
    `owes`     the call has committed what it has not settled

**Proved here.**  If nothing but such statements makes the rest stale, then
whenever it is stale some call owes (`Run.owed`); and if no statement fails
while its call has a debt, nothing is stale when all calls have ended
(`Run.not_stale`).
-/
import ServiceHub.Txn.Refusals

namespace Txn

open Database

section
variable {Op Db Row Key Stmt Ext ε Res : Type} {A : Stmt → Type}
  (incurs : (s : Stmt) → A s → Bool) (settles : Stmt → Bool)

/-- What the call has written since it last settled; what is rolled back was
never written. -/
def debt : Hist (Instr Stmt Ext) (Instr.Ans A) ε → Bool
  | [] => false
  | ⟨.stmt s, .ok a⟩ :: h => !settles s && (incurs s a || debt h)
  | ⟨.stmt _, .error _⟩ :: h => debt h
  | ⟨.begin, _⟩ :: h => debt h
  | ⟨.call _, _⟩ :: h => debt h
  | ⟨.commit, .ok _⟩ :: h => debt h
  | ⟨.commit, .error _⟩ :: _ => false
  | ⟨.rollback, _⟩ :: _ => false

/-- A statement failed while there was a debt. -/
def lapsed : Hist (Instr Stmt Ext) (Instr.Ans A) ε → Bool
  | [] => false
  | ⟨.stmt _, .error _⟩ :: h => debt incurs settles h || lapsed h
  | _ :: h => lapsed h

/-- A debt of what is committed. -/
def Proc.owes (P : Proc Op Row Stmt Ext A ε Res) : Bool :=
  P.tx.isNone && debt incurs settles P.hist

/-- A transaction begins without a debt, and some statements are never part of
one. -/
def Orderly (alone : Stmt → Bool) (h : Hist (Instr Stmt Ext) (Instr.Ans A) ε) :
    Instr Stmt Ext → Prop
  | .begin => debt incurs settles h = false
  | .commit => (sinceBegin h).isSome = true
  | .rollback => (sinceBegin h).isSome = true
  | .stmt s => alone s = true → sinceBegin h = none
  | .call _ => True

/-- The statement that the call issues next. -/
def Proc.stmt? (P : Proc Op Row Stmt Ext A ε Res) : Option Stmt :=
  match P.prog.head with
  | some (.stmt s) => some s
  | _ => none

theorem Proc.stmt?_eq {P : Proc Op Row Stmt Ext A ε Res} {s : Stmt}
    {k : Except ε (A s) → Prog (Instr Stmt Ext) (Instr.Ans A) ε Res}
    (hk : P.prog = .ask (.stmt s) k) : P.stmt? = some s := by
  simp only [Proc.stmt?, hk, Prog.head]

variable [Database Db Row Key Stmt ε A]

/-- No statement of a call that has a debt fails. -/
def Undisturbed (c : Config Op Db Row Stmt Ext A ε Res) : Event Op ε → Prop
  | .spawn _ => True
  | .exec p => ∀ P ∈ c.procs[p]?, debt incurs settles P.hist = true → ∀ s ∈ P.stmt?,
      (exec s (view c.db P)).isOk = true
  | .fail p _ => ∀ P ∈ c.procs[p]?, debt incurs settles P.hist = true → P.stmt?.isNone = true

instance (c : Config Op Db Row Stmt Ext A ε Res) :
    ∀ e, Decidable (Undisturbed incurs settles c e)
  | .spawn _ => .isTrue trivial
  | .exec p => inferInstanceAs (Decidable (∀ P ∈ c.procs[p]?, _ → ∀ s ∈ P.stmt?, _))
  | .fail p _ => inferInstanceAs (Decidable (∀ P ∈ c.procs[p]?, _ → _))

variable {incurs settles} {alone : Stmt → Bool} {program : Op → Prog (Instr Stmt Ext) (Instr.Ans A) ε Res}
  {Ok : Config Op Db Row Stmt Ext A ε Res → Event Op ε → Prop}
  {c₀ c : Config Op Db Row Stmt Ext A ε Res}

/-! ## Nothing lapses -/

theorem Run.not_lapsed (hok : ∀ c e, Ok c e → Undisturbed incurs settles c e)
    (hc₀ : c₀.procs = []) (hrun : Run program Ok c₀ c) :
    ∀ P ∈ c.procs, lapsed incurs settles P.hist = false := by
  induction hrun with
  | start => simp [hc₀]
  | @step c c' e hrun hstep hn ih =>
      intro Q hQ
      obtain ⟨q, hq⟩ := List.mem_iff_getElem?.mp hQ
      rcases proc_of_next hn hq with hold | ⟨o, _, _, rfl⟩ | ⟨P, i, k, r, tx, hP, hk, heff, rfl⟩
      · exact ih Q (List.mem_of_getElem? hold)
      · rfl
      have hbefore := ih P (List.mem_of_getElem? hP)
      have hundisturbed := hok c e hstep
      cases i with
      | stmt s =>
          cases r with
          | ok a => exact hbefore
          | error x =>
              show (debt incurs settles P.hist || lapsed incurs settles P.hist) = false
              rw [hbefore, Bool.or_false, ← Bool.not_eq_true]
              intro hdebt
              rcases heff.refused with rfl | ⟨s', rfl, hs', hex⟩
              · have hnone := hundisturbed P hP hdebt
                rw [Proc.stmt?_eq hk] at hnone
                cases hnone
              · cases hs'
                have hsome := hundisturbed P hP hdebt s (Proc.stmt?_eq hk)
                rw [view, Proc.pending, hex] at hsome
                cases hsome
      | _ => exact hbefore

/-! ## What is stale is owed -/

/-- What is in the open transaction may be part of one. -/
theorem alone_of_mem {h : Hist (Instr Stmt Ext) (Instr.Ans A) ε}
    (hobeyed : Obeyed (Orderly incurs settles alone) h) {x : (s : Stmt) × A s}
    (hx : x ∈ (sinceBegin h).getD []) : alone x.1 = false := by
  obtain ⟨h', hq, hopen⟩ := hobeyed.inside hx
  by_contra halone
  rw [hq (by simpa using halone)] at hopen
  cases hopen

/-- In the open transaction a debt was incurred, and nothing was settled. -/
theorem debt_of_mem (halone : ∀ s, settles s = true → alone s = true)
    {h : Hist (Instr Stmt Ext) (Instr.Ans A) ε} {l : List ((s : Stmt) × A s)} (hobeyed : Obeyed (Orderly incurs settles alone) h) (hopen : sinceBegin h = some l)
    {x : (s : Stmt) × A s} (hx : x ∈ l) (hincurs : incurs x.1 x.2 = true) :
    debt incurs settles h = true := by
  induction h generalizing l with
  | nil => cases hopen
  | cons entry h ih =>
      obtain ⟨i, r⟩ := entry
      cases i with
      | begin =>
          cases r with
          | ok _ =>
              cases hbefore : sinceBegin h with
              | none =>
                  simp only [sinceBegin, hbefore, Option.getD_none, Option.some.injEq] at hopen
                  subst hopen
                  cases hx
              | some l' =>
                  simp only [sinceBegin, hbefore, Option.getD_some, Option.some.injEq] at hopen
                  subst hopen
                  exact ih hobeyed.2 hbefore hx
          | error _ => exact ih hobeyed.2 hopen hx
      | commit => cases hopen
      | rollback => cases hopen
      | call _ => exact ih hobeyed.2 hopen hx
      | stmt s =>
          cases r with
          | error _ => exact ih hobeyed.2 hopen hx
          | ok a =>
              cases hbefore : sinceBegin h with
              | none => simp [sinceBegin, hbefore] at hopen
              | some l' =>
                  simp only [sinceBegin, hbefore, Option.map_some, Option.some.injEq] at hopen
                  subst hopen
                  have hsettles : settles s = false := by
                    by_contra hs
                    rw [hobeyed.1 (halone s (by simpa using hs))] at hbefore
                    cases hbefore
                  simp only [debt, hsettles, Bool.not_false, Bool.true_and, Bool.or_eq_true]
                  rcases List.mem_cons.mp hx with rfl | hx
                  · exact Or.inl hincurs
                  · exact Or.inr (ih hobeyed.2 hbefore hx)

/-- A call goes on owing, unless it settles. -/
theorem owes_advance {db db' : Db} {wf : List Row} {p : Nat} {P : Proc Op Row Stmt Ext A ε Res}
    {i : Instr Stmt Ext} {k : Except ε (i.Ans A) → Prog (Instr Stmt Ext) (Instr.Ans A) ε Res}
    {e : Event Op ε} {r : Except ε (i.Ans A)} {tx : Option (List Row)}
    (htx : P.tx = (sinceBegin P.hist).map (rowsOf Db)) (horderly : Orderly incurs settles alone P.hist i)
    (heff : Effect db wf P.tx p i e r tx db') (howes : P.owes incurs settles = true) :
    (P.advance i k r tx).owes incurs settles = true ∨ ∃ s a, settles s = true ∧
      (⟨i, r⟩ : (i : Instr Stmt Ext) × Except ε (i.Ans A)) = ⟨.stmt s, .ok a⟩ := by
  simp only [Proc.owes, Bool.and_eq_true, Option.isNone_iff_eq_none] at howes ⊢
  obtain ⟨hnone, hdebt⟩ := howes
  have hout : sinceBegin P.hist = none := Option.map_eq_none_iff.mp (htx.symm.trans hnone)
  rw [hnone] at heff
  cases i with
  | begin => exact absurd (horderly.symm.trans hdebt) (by simp)
  | commit => simp [Orderly, hout] at horderly
  | rollback => simp [Orderly, hout] at horderly
  | call x =>
      cases heff with
      | failed hf => cases hf
      | answered he =>
          cases he
          exact Or.inl ⟨rfl, hdebt⟩
  | stmt s =>
      cases r with
      | error x =>
          refine Or.inl ⟨?_, hdebt⟩
          rcases heff.refused with rfl | ⟨s', rfl, _, _⟩
          · cases heff with
            | failed hf =>
                cases hf
                rfl
          · cases heff with
            | answered he =>
                simp only [effect] at he
                split at he
                · cases he
                · split at he <;> cases he
                  rfl
      | ok a =>
          by_cases hs : settles s = true
          · exact Or.inr ⟨s, a, hs, rfl⟩
          · obtain ⟨rfl, _⟩ := heff.after_ok.1 rfl
            exact Or.inl ⟨rfl, by simp [Proc.advance, debt, hs, hdebt]⟩

/-- **What is stale is owed**: if only a statement that incurs makes the rest
stale where nobody owes, and what settles leaves nothing stale. -/
theorem Run.owed (Stale : Db → Prop) (halone : ∀ s, settles s = true → alone s = true)
    (h₀ : ¬ Stale c₀.db) (hc₀ : c₀.procs = [])
    (horderly : ∀ c, Run program Ok c₀ c → ∀ P ∈ c.procs,
      Obeys (Orderly incurs settles alone) (fun _ _ => True) P.hist P.prog ∧
        Obeyed (Orderly incurs settles alone) P.hist)
    (hstmt : ∀ c p P s k a, Run program Ok c₀ c → Ok c (.exec p) → c.procs[p]? = some P →
      P.prog = .ask (.stmt s) k → sinceBegin P.hist = none → exec s c.db = .ok a →
      settles s = true ∨ incurs s a = false → Stale (puts c.db (written Db s a)) →
        settles s = false ∧ (Stale c.db ∨ ∃ Q ∈ c.procs, Q.owes incurs settles = true))
    (hcommit : ∀ c P l, Run program Ok c₀ c → P ∈ c.procs → sinceBegin P.hist = some l →
      (∀ x ∈ l, incurs x.1 x.2 = false) → Stale (puts c.db (rowsOf Db l)) → Stale c.db)
    (hrun : Run program Ok c₀ c) (hstale : Stale c.db) :
    ∃ P ∈ c.procs, P.owes incurs settles = true := by
  induction hrun with
  | start => exact absurd hstale h₀
  | @step c c' e hrun hok hn ih =>
  rcases next_cases program hn with ⟨o, rfl, rfl⟩ | ⟨p, P, i, k, r, tx, db, hP, hk, heff, rfl⟩
  · obtain ⟨Q, hQ, howes⟩ := ih hstale
    exact ⟨Q, List.mem_append_left _ hQ, howes⟩
  have hmem := List.mem_of_getElem? hP
  have htx := Run.tx_eq hc₀ hrun P hmem
  obtain ⟨hobeys, hobeyed⟩ := horderly c hrun P hmem
  rw [hk] at hobeys
  have hlt : p < c.procs.length := (List.getElem?_eq_some_iff.mp hP).1
  have hmem' : P.advance i k r tx ∈ c.procs.set p (P.advance i k r tx) :=
    List.mem_of_getElem? (List.getElem?_set_self hlt)
  -- whoever owed before goes on owing, unless the step settles
  have hkeep : (∀ s a, (⟨i, r⟩ : (i : Instr Stmt Ext) × Except ε (i.Ans A)) = ⟨.stmt s, .ok a⟩ →
      settles s = false) → (∃ Q ∈ c.procs, Q.owes incurs settles = true) →
        ∃ Q ∈ c.procs.set p (P.advance i k r tx), Q.owes incurs settles = true := by
    rintro hnot ⟨Q, hQ, howes⟩
    obtain ⟨q, hq⟩ := List.mem_iff_getElem?.mp hQ
    by_cases hpq : p = q
    · subst hpq
      obtain rfl := Option.some.inj (hP.symm.trans hq)
      refine ⟨_, hmem', (owes_advance htx hobeys.1 heff howes).resolve_right ?_⟩
      rintro ⟨s, a, hsettles, hs⟩
      rw [hnot s a hs] at hsettles
      cases hsettles
    · exact ⟨Q, List.mem_of_getElem? ((List.getElem?_set_ne hpq).trans hq), howes⟩
  cases r with
  | error x =>
      rw [heff.db_of_error] at hstale
      exact hkeep (fun s a hs => by cases hs) (ih hstale)
  | ok a =>
  cases i with
  | begin =>
      cases heff with
      | answered he =>
          cases he
          exact hkeep (fun s a hs => by cases hs) (ih hstale)
  | rollback =>
      cases heff with
      | answered he =>
          cases he
          exact hkeep (fun s a hs => by cases hs) (ih hstale)
  | call x =>
      cases heff with
      | answered he =>
          cases he
          exact hkeep (fun s a hs => by cases hs) (ih hstale)
  | commit =>
      obtain ⟨l, hl⟩ := Option.isSome_iff_exists.mp hobeys.1
      rw [hl, Option.map_some] at htx
      cases heff with
      | answered he =>
          rw [htx] at he
          cases he
          by_cases hincurs : ∃ x ∈ l, incurs x.1 x.2 = true
          · obtain ⟨x, hx, hincurs⟩ := hincurs
            exact ⟨_, hmem', debt_of_mem (h := P.hist) halone hobeyed hl hx hincurs⟩
          · refine hkeep (fun s a hs => by cases hs) (ih (hcommit c P l hrun hmem hl ?_ hstale))
            exact fun x hx => by simpa using fun h => hincurs ⟨x, hx, h⟩
  | stmt s =>
      obtain ⟨rfl, hex⟩ := heff.exec_of_ok
      have hafter := heff.after_ok
      cases hopen : sinceBegin P.hist with
      | some l =>
          rw [hopen, Option.map_some] at htx
          obtain rfl := hafter.2 (by rw [htx]; rfl)
          refine hkeep (fun s' a' hs => ?_) (ih hstale)
          cases hs
          by_contra hsettles
          rw [hobeys.1 (halone s (by simpa using hsettles))] at hopen
          cases hopen
      | none =>
          rw [hopen, Option.map_none] at htx
          rw [htx] at hex
          obtain ⟨rfl, rfl⟩ := hafter.1 htx
          by_cases hfree : settles s = true ∨ incurs s a = false
          · obtain ⟨hsettles, hrest⟩ := hstmt c p P s k a hrun hok hP hk hopen hex hfree hstale
            refine hkeep (fun s' a' hs => ?_) (hrest.elim ih id)
            cases hs
            exact hsettles
          · refine ⟨_, hmem', ?_⟩
            simp only [not_or, Bool.not_eq_true, Bool.not_eq_false] at hfree
            simp [Proc.owes, Proc.advance, debt, hfree.1, hfree.2]

/-- **When all calls have ended**, and each has settled what it owes unless a
statement failed, nothing is stale. -/
theorem Run.not_stale (Stale : Db → Prop)
    (howed : Stale c.db → ∃ P ∈ c.procs, P.owes incurs settles = true)
    (hok : ∀ c e, Ok c e → Undisturbed incurs settles c e) (hc₀ : c₀.procs = [])
    (hrun : Run program Ok c₀ c)
    (hends : ∀ P ∈ c.procs, debt incurs settles P.hist = true →
      lapsed incurs settles P.hist = true) : ¬ Stale c.db := by
  intro hstale
  obtain ⟨P, hP, howes⟩ := howed hstale
  have hlapsed := hends P hP (Bool.and_eq_true_iff.mp howes).2
  rw [Run.not_lapsed hok hc₀ hrun P hP] at hlapsed
  cases hlapsed

/-! ## Programs that settle -/

section
variable {T : Hist (Instr Stmt Ext) (Instr.Ans A) ε → (s : Stmt) → A s → Prop} {G : Prop}
  {α β : Type} {h : Hist (Instr Stmt Ext) (Instr.Ans A) ε} {s : Stmt}

omit [Database Db Row Key Stmt ε A]

variable (incurs settles T) in
/-- How a call ends: a debt is left only where a statement failed. -/
def Squared (h : Hist (Instr Stmt Ext) (Instr.Ans A) ε) (_ : Except ε α) : Prop :=
  Answered T h → debt incurs settles h = true → lapsed incurs settles h = true

variable (incurs settles) in
/-- Outside a transaction, and without a debt. -/
def Clean (h : Hist (Instr Stmt Ext) (Instr.Ans A) ε) : Prop :=
  sinceBegin h = none ∧ debt incurs settles h = false

variable (incurs settles T G) in
/-- Outside a transaction, with a debt only where `G` holds or a statement
failed. -/
def Owing (h : Hist (Instr Stmt Ext) (Instr.Ans A) ε) : Prop :=
  sinceBegin h = none ∧
    (Answered T h → debt incurs settles h = true → lapsed incurs settles h = true ∨ G)

theorem Clean.owing (hh : Clean incurs settles h) : Owing incurs settles T G h :=
  ⟨hh.1, fun _ hdebt => absurd (hh.2.symm.trans hdebt) (by simp)⟩

theorem Clean.squared {r : Except ε α} (hh : Clean incurs settles h) :
    Squared incurs settles T h r :=
  fun _ hdebt => absurd (hh.2.symm.trans hdebt) (by simp)

theorem Owing.squared {r : Except ε α} (hh : Owing incurs settles T False h) :
    Squared incurs settles T h r :=
  fun ht hdebt => (hh.2 ht hdebt).resolve_right id

theorem Clean.stmt (hh : Clean incurs settles h) (hincurs : ∀ a, incurs s a = false)
    (r : Except ε (A s)) : Clean incurs settles (⟨.stmt s, r⟩ :: h) := by
  cases r with
  | ok a => exact ⟨by simp [sinceBegin, hh.1], by simp [debt, hincurs, hh.2]⟩
  | error e => exact ⟨hh.1, hh.2⟩

theorem Owing.failed (hh : Owing incurs settles T G h) (e : ε) :
    Owing incurs settles T False (⟨.stmt s, .error e⟩ :: h) :=
  ⟨hh.1, fun _ hdebt => Or.inl (Bool.or_eq_true_iff.mpr (Or.inl hdebt))⟩

theorem Owing.answered (hh : Owing incurs settles T G h) {a : A s}
    (hincurs : T h s a → incurs s a = true → G) :
    Owing incurs settles T G (⟨.stmt s, .ok a⟩ :: h) := by
  refine ⟨by simp [sinceBegin, hh.1], fun ht hdebt => ?_⟩
  simp only [debt, Bool.and_eq_true, Bool.or_eq_true] at hdebt
  rcases hdebt.2 with hnew | hold
  · exact Or.inr (hincurs ht.1 hnew)
  · exact hh.2 ht.2 hold

/-- What settles, settles what is owed. -/
theorem Owing.settled (hh : Owing incurs settles T G h) (hsettles : G → settles s = true)
    (hincurs : ∀ a, incurs s a = false) (r : Except ε (A s)) :
    Owing incurs settles T False (⟨.stmt s, r⟩ :: h) := by
  cases r with
  | error e => exact hh.failed e
  | ok a =>
      refine ⟨by simp [sinceBegin, hh.1], fun ht hdebt => Or.inl ?_⟩
      simp only [debt, hincurs, Bool.false_or, Bool.and_eq_true, Bool.not_eq_true'] at hdebt
      exact (hh.2 ht.2 hdebt.2).resolve_right fun hg =>
        absurd ((hsettles hg).symm.trans hdebt.1) (by simp)

/-! ### Rules -/

variable {f : A s → Prog (Instr Stmt Ext) (Instr.Ans A) ε β}

theorem Clean.obeys_stmt (hh : Clean incurs settles h) (hincurs : ∀ a, incurs s a = false)
    (hf : ∀ a, Clean incurs settles (⟨.stmt s, .ok a⟩ :: h) →
      Obeys (Orderly incurs settles alone) (Squared incurs settles T) (⟨.stmt s, .ok a⟩ :: h) (f a)) :
    Obeys (Orderly incurs settles alone) (Squared incurs settles T) h
      (autocommit Ext (Prog.perform s) >>= f) :=
  obeys_bind.mpr (Txn.obeys_stmt.mpr ⟨fun _ => hh.1, fun a => hf a (hh.stmt hincurs _),
    fun _ => (hh.stmt hincurs _).squared⟩)

theorem Owing.obeys_stmt (hh : Owing incurs settles T G h)
    (hincurs : ∀ a, T h s a → incurs s a = true → G)
    (hf : ∀ a, Owing incurs settles T G (⟨.stmt s, .ok a⟩ :: h) →
      Obeys (Orderly incurs settles alone) (Squared incurs settles T) (⟨.stmt s, .ok a⟩ :: h) (f a)) :
    Obeys (Orderly incurs settles alone) (Squared incurs settles T) h
      (autocommit Ext (Prog.perform s) >>= f) :=
  obeys_bind.mpr (Txn.obeys_stmt.mpr ⟨fun _ => hh.1, fun a => hf a (hh.answered (hincurs a)),
    fun e => (hh.failed e).squared⟩)

variable (incurs settles T G) in
/-- In a transaction, with a debt only where `G` holds. -/
def Inside (h : Hist (Instr Stmt Ext) (Instr.Ans A) ε) : Prop :=
  (sinceBegin h).isSome = true ∧ (Answered T h → debt incurs settles h = true → G)

theorem Inside.obeys_stmt {f : A s → Prog Stmt A ε β} (hh : Inside incurs settles T G h)
    (halone : alone s = false) (hincurs : ∀ a, T h s a → incurs s a = true → G)
    (hf : ∀ a, Inside incurs settles T G (⟨.stmt s, .ok a⟩ :: h) →
      Obeys (Orderly incurs settles alone) (fun h _ => Inside incurs settles T G h)
        (⟨.stmt s, .ok a⟩ :: h) (autocommit Ext (f a))) :
    Obeys (Orderly incurs settles alone) (fun h _ => Inside incurs settles T G h) h
      (autocommit Ext (Prog.perform s >>= f)) := by
  rw [autocommit_bind]
  refine obeys_bind.mpr (Txn.obeys_stmt.mpr ⟨fun hs => ?_, fun a => hf a ⟨?_, fun ht hdebt => ?_⟩,
    fun e => ⟨hh.1, hh.2⟩⟩)
  · rw [halone] at hs
    cases hs
  · obtain ⟨l, hl⟩ := Option.isSome_iff_exists.mp hh.1
    rw [sinceBegin, hl]
    rfl
  · simp only [debt, Bool.and_eq_true, Bool.or_eq_true] at hdebt
    rcases hdebt.2 with hnew | hold
    · exact hincurs a ht.1 hnew
    · exact hh.2 ht.2 hold

theorem Clean.obeys_transaction {body : Prog Stmt A ε α}
    {f : α → Prog (Instr Stmt Ext) (Instr.Ans A) ε β} (hh : Clean incurs settles h)
    (hbody : Obeys (Orderly incurs settles alone) (fun h _ => Inside incurs settles T G h)
      (⟨.begin, .ok ()⟩ :: h) (autocommit Ext body))
    (hf : ∀ a h, Owing incurs settles T G h →
      Obeys (Orderly incurs settles alone) (Squared incurs settles T) h (f a)) :
    Obeys (Orderly incurs settles alone) (Squared incurs settles T) h (transaction Ext body >>= f) := by
  refine obeys_bind.mpr (Txn.obeys_transaction.mpr ⟨hh.2, fun e _ hdebt => ?_, ?_⟩)
  · exact absurd (hh.2.symm.trans hdebt) (by simp)
  · refine hbody.mono (fun _ _ hq => hq) ?_
    rintro h' (e | a) hinside
    · exact ⟨hinside.1, fun _ _ hdebt => absurd hdebt (by simp [debt])⟩
    · exact ⟨hinside.1, hf a _ ⟨rfl, fun ht hdebt => Or.inr (hinside.2 ht hdebt)⟩,
        fun _ _ hdebt => absurd hdebt (by simp [debt])⟩

theorem Clean.inside (hh : Clean incurs settles h) :
    Inside incurs settles T G (⟨.begin, .ok ()⟩ :: h) :=
  ⟨by simp [sinceBegin], fun _ hdebt => absurd (hh.2.symm.trans hdebt) (by simp)⟩

end

end

end Txn
