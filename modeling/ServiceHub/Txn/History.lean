/-
# `Txn.History` — what the history of a call says

The history of a call is what it asked and was answered.  Three things can be
read off it in every configuration of a run.

    every instruction in it was one that the program may issue           (`Run.obeyed`)
    every answer in it was true of the state in which it was given       (`Run.answered`)
    the call's open transaction is what it has written since it began    (`Run.tx_eq`)
-/
import ServiceHub.Txn.ReadCommitted

namespace Txn

open Database

section
variable {Op Db Row Key Stmt Ext ε Res : Type} {A : Stmt → Type} [Database Db Row Key Stmt ε A]
  {program : Op → Prog (Instr Stmt Ext) (Instr.Ans A) ε Res}
  {Ok : Config Op Db Row Stmt Ext A ε Res → Event Op ε → Prop}
  {c₀ c c' : Config Op Db Row Stmt Ext A ε Res} {e : Event Op ε}

/-! ## What was asked -/

/-- Every instruction asked so far satisfied `Q` when it was issued. -/
def Obeyed (Q : Hist (Instr Stmt Ext) (Instr.Ans A) ε → Instr Stmt Ext → Prop) :
    Hist (Instr Stmt Ext) (Instr.Ans A) ε → Prop
  | [] => True
  | ⟨i, _⟩ :: h => Q h i ∧ Obeyed Q h

/-- What a call has asked, it was to ask. -/
theorem Run.obeyed {Q : Op → Hist (Instr Stmt Ext) (Instr.Ans A) ε → Instr Stmt Ext → Prop}
    {R : Op → Hist (Instr Stmt Ext) (Instr.Ans A) ε → Except ε Res → Prop}
    (hprog : ∀ c o, Ok c (.spawn o) → Obeys (Q o) (R o) [] (program o)) (hc₀ : c₀.procs = [])
    (hrun : Run program Ok c₀ c) : ∀ P ∈ c.procs, Obeyed (Q P.op) P.hist := by
  have hboth : ∀ P ∈ c.procs,
      Obeys (Q P.op) (R P.op) P.hist P.prog ∧ Obeyed (Q P.op) P.hist := by
    refine hrun.forall_procs (fun c o hok => ⟨hprog c o hok, trivial⟩) ?_ (by simp [hc₀])
    intro P i k r tx _ _ _ _ _ ⟨hP, hobeyed⟩ hk _
    rw [hk] at hP
    exact ⟨hP.2 r, hP.1, hobeyed⟩
  exact fun P hP => (hboth P hP).2

theorem Obeyed.mono {Q Q' : Hist (Instr Stmt Ext) (Instr.Ans A) ε → Instr Stmt Ext → Prop}
    (hq : ∀ h i, Q h i → Q' h i) : ∀ {h : Hist (Instr Stmt Ext) (Instr.Ans A) ε},
      Obeyed Q h → Obeyed Q' h
  | [], _ => trivial
  | ⟨i, _⟩ :: h, ⟨hasked, hbefore⟩ => ⟨hq h i hasked, hbefore.mono hq⟩

/-- What is in the history satisfied `Q` at some time. -/
theorem Obeyed.of_mem {Q : Hist (Instr Stmt Ext) (Instr.Ans A) ε → Instr Stmt Ext → Prop}
    {x : (i : Instr Stmt Ext) × Except ε (i.Ans A)} :
    ∀ {h : Hist (Instr Stmt Ext) (Instr.Ans A) ε}, Obeyed Q h → x ∈ h →
      ∃ h', (x :: h') <:+ h ∧ Q h' x.1
  | y :: h, ⟨hasked, hbefore⟩, hmem => by
      rcases List.mem_cons.mp hmem with rfl | hmem
      · exact ⟨h, List.suffix_rfl, hasked⟩
      · obtain ⟨h', hsuffix, hq⟩ := hbefore.of_mem hmem
        exact ⟨h', hsuffix.trans (List.suffix_cons _ _), hq⟩

/-- A statement that was answered was executed on what its call sees. -/
theorem Effect.exec_of_ok {db db' : Db} {wf : List Row} {tx tx' : Option (List Row)} {p : Nat}
    {s : Stmt} {a : A s} (h : Effect db wf tx p (.stmt s : Instr Stmt Ext) e (.ok a) tx' db') :
    e = .exec p ∧ exec s (puts db (tx.getD [])) = .ok a := by
  cases h with
  | answered he =>
      refine ⟨rfl, ?_⟩
      simp only [effect] at he
      split at he
      · exact absurd he (by simp)
      · split at he
        · rename_i hex
          cases he
          exact hex
        · rename_i hex
          cases he
          exact hex
        · cases he

/-- What fails commits nothing. -/
theorem Effect.db_of_error {db db' : Db} {wf : List Row} {tx tx' : Option (List Row)} {p : Nat}
    {i : Instr Stmt Ext} {x : ε} (h : Effect db wf tx p i e (.error x) tx' db') : db' = db := by
  cases h with
  | failed _ => rfl
  | answered he =>
      cases i with
      | stmt s =>
          simp only [effect] at he
          split at he
          · exact absurd he (by simp)
          · split at he <;> cases he
            rfl
      | _ => cases he

/-- What a statement that was answered leaves. -/
theorem Effect.after_ok {db db' : Db} {wf : List Row} {tx tx' : Option (List Row)} {p : Nat}
    {s : Stmt} {a : A s} {e : Event Op ε}
    (h : Effect db wf tx p (.stmt s : Instr Stmt Ext) e (.ok a) tx' db') :
    (tx = none → tx' = none ∧ db' = puts db (written Db s a)) ∧ (tx.isSome → db' = db) := by
  cases h with
  | answered he =>
      simp only [effect] at he
      split at he
      · cases he
      · split at he
        · cases he
          exact ⟨fun _ => ⟨rfl, rfl⟩, fun hsome => absurd hsome (by simp)⟩
        · cases he
          exact ⟨fun hnone => absurd hnone (by simp), fun _ => rfl⟩
        · cases he

/-- A statement that was answered did not have to wait. -/
theorem Effect.waits_of_ok {db db' : Db} {wf : List Row} {tx tx' : Option (List Row)} {p : Nat}
    {s : Stmt} {a : A s} (h : Effect db wf tx p (.stmt s : Instr Stmt Ext) e (.ok a) tx' db') :
    waits s (puts db (tx.getD [])) wf = false := by
  cases h with
  | answered he =>
      simp only [effect] at he
      split at he
      · exact absurd he (by simp)
      · rename_i hwait
        simpa using hwait

/-! ## What was answered -/

/-- Every answer to a statement satisfied `T` when it was given. -/
def Answered (T : Hist (Instr Stmt Ext) (Instr.Ans A) ε → (s : Stmt) → A s → Prop) :
    Hist (Instr Stmt Ext) (Instr.Ans A) ε → Prop
  | [] => True
  | ⟨.stmt s, .ok a⟩ :: h => T h s a ∧ Answered T h
  | _ :: h => Answered T h

section
variable {T : Hist (Instr Stmt Ext) (Instr.Ans A) ε → (s : Stmt) → A s → Prop}

theorem Answered.tail {entry : (i : Instr Stmt Ext) × Except ε (i.Ans A)}
    {h : Hist (Instr Stmt Ext) (Instr.Ans A) ε} (ha : Answered T (entry :: h)) : Answered T h := by
  obtain ⟨i, r⟩ := entry
  cases i with
  | stmt s =>
      cases r with
      | ok a => exact ha.2
      | error e => exact ha
  | _ => exact ha

/-- An answer in the history was given at some time. -/
theorem Answered.of_mem {s : Stmt} {a : A s} :
    ∀ {h : Hist (Instr Stmt Ext) (Instr.Ans A) ε}, Answered T h →
      (⟨.stmt s, .ok a⟩ : (i : Instr Stmt Ext) × Except ε (i.Ans A)) ∈ h → ∃ h', T h' s a
  | entry :: h, ha, hmem => by
      rcases List.mem_cons.mp hmem with rfl | hmem
      · exact ⟨h, ha.1⟩
      · exact ha.tail.of_mem hmem

/-- What holds of every answer when it is given, holds of the answers in the
histories. -/
theorem Run.answered
    (htrue : ∀ c p P s k a, Run program Ok c₀ c → Ok c (.exec p) → c.procs[p]? = some P →
      P.prog = .ask (.stmt s) k → exec s (view c.db P) = .ok a → T P.hist s a)
    (hc₀ : c₀.procs = []) (hrun : Run program Ok c₀ c) : ∀ P ∈ c.procs, Answered T P.hist := by
  induction hrun with
  | start => simp [hc₀]
  | step hrun hok hn ih =>
      intro Q hQ
      obtain ⟨q, hq⟩ := List.mem_iff_getElem?.mp hQ
      rcases proc_of_next hn hq with hold | ⟨o, _, _, rfl⟩ | ⟨P, i, k, r, tx, hP, hk, heff, rfl⟩
      · exact ih Q (List.mem_of_getElem? hold)
      · trivial
      · have hbefore := ih P (List.mem_of_getElem? hP)
        cases i with
        | stmt s =>
            cases r with
            | ok a =>
                obtain ⟨rfl, hexec⟩ := heff.exec_of_ok
                exact ⟨htrue _ q P s k a hrun hok hP hk hexec, hbefore⟩
            | error x => exact hbefore
        | _ => exact hbefore

end

/-- Every answer in a history was given in some state. -/
theorem Run.executed (hc₀ : c₀.procs = []) (hrun : Run program Ok c₀ c) {P : Proc Op Row Stmt Ext A ε Res}
    (hP : P ∈ c.procs) {s : Stmt} {a : A s}
    (hmem : (⟨.stmt s, .ok a⟩ : (i : Instr Stmt Ext) × Except ε (i.Ans A)) ∈ P.hist) :
    ∃ db : Db, exec s db = .ok a := by
  have hall := Run.answered (T := fun _ s a => ∃ db : Db, exec s db = .ok a)
    (fun _ _ _ _ _ _ _ _ _ _ hex => ⟨_, hex⟩) hc₀ hrun P hP
  obtain ⟨_, h⟩ := hall.of_mem hmem
  exact h

/-! ## The open transaction -/

/-- The statements answered since the transaction began, the latest first;
`none` outside a transaction. -/
def sinceBegin : Hist (Instr Stmt Ext) (Instr.Ans A) ε → Option (List ((s : Stmt) × A s))
  | [] => none
  | ⟨.begin, .ok _⟩ :: h => some ((sinceBegin h).getD [])
  | ⟨.begin, .error _⟩ :: h => sinceBegin h
  | ⟨.commit, _⟩ :: _ => none
  | ⟨.rollback, _⟩ :: _ => none
  | ⟨.call _, _⟩ :: h => sinceBegin h
  | ⟨.stmt s, .ok a⟩ :: h => (sinceBegin h).map (⟨s, a⟩ :: ·)
  | ⟨.stmt _, .error _⟩ :: h => sinceBegin h

/-- Statements alone begin nothing. -/
theorem sinceBegin_of_stmts : ∀ {h : Hist (Instr Stmt Ext) (Instr.Ans A) ε},
    (∀ x ∈ h, ∃ s, x.1 = .stmt s) → sinceBegin h = none
  | [], _ => rfl
  | ⟨i, r⟩ :: h, hall => by
      have hout := sinceBegin_of_stmts fun x hx => hall x (List.mem_cons_of_mem _ hx)
      obtain ⟨s, rfl⟩ := hall _ List.mem_cons_self
      cases r with
      | error e => exact hout
      | ok a => rw [sinceBegin, hout, Option.map_none]

theorem mem_of_sinceBegin {x : (s : Stmt) × A s} : ∀ {h : Hist (Instr Stmt Ext) (Instr.Ans A) ε},
    x ∈ (sinceBegin h).getD [] →
      (⟨.stmt x.1, .ok x.2⟩ : (i : Instr Stmt Ext) × Except ε (i.Ans A)) ∈ h
  | ⟨.begin, .ok _⟩ :: _, hx => List.mem_cons_of_mem _ (mem_of_sinceBegin hx)
  | ⟨.begin, .error _⟩ :: _, hx => List.mem_cons_of_mem _ (mem_of_sinceBegin hx)
  | ⟨.call _, _⟩ :: _, hx => List.mem_cons_of_mem _ (mem_of_sinceBegin hx)
  | ⟨.stmt _, .error _⟩ :: _, hx => List.mem_cons_of_mem _ (mem_of_sinceBegin hx)
  | ⟨.stmt s, .ok a⟩ :: h, hx => by
      cases hopen : sinceBegin h with
      | none => simp [sinceBegin, hopen] at hx
      | some l =>
          simp only [sinceBegin, hopen, Option.map_some, Option.getD_some] at hx
          rcases List.mem_cons.mp hx with rfl | hx
          · exact List.mem_cons_self
          · exact List.mem_cons_of_mem _ (mem_of_sinceBegin (by rwa [hopen]))

/-- What is in the open transaction was asked when it was open. -/
theorem Obeyed.inside {Q : Hist (Instr Stmt Ext) (Instr.Ans A) ε → Instr Stmt Ext → Prop}
    {x : (s : Stmt) × A s} : ∀ {h : Hist (Instr Stmt Ext) (Instr.Ans A) ε}, Obeyed Q h →
      x ∈ (sinceBegin h).getD [] → ∃ h', Q h' (.stmt x.1) ∧ (sinceBegin h').isSome = true
  | ⟨.begin, .ok _⟩ :: _, ho, hx => ho.2.inside hx
  | ⟨.begin, .error _⟩ :: _, ho, hx => ho.2.inside hx
  | ⟨.call _, _⟩ :: _, ho, hx => ho.2.inside hx
  | ⟨.stmt _, .error _⟩ :: _, ho, hx => ho.2.inside hx
  | ⟨.stmt s, .ok a⟩ :: h, ho, hx => by
      cases hopen : sinceBegin h with
      | none => simp [sinceBegin, hopen] at hx
      | some l =>
          simp only [sinceBegin, hopen, Option.map_some, Option.getD_some] at hx
          rcases List.mem_cons.mp hx with rfl | hx
          · exact ⟨h, ho.1, by rw [hopen]; rfl⟩
          · exact ho.2.inside (by rwa [hopen])

/-- What was written since the transaction began, in order. -/
def rowsOf (Db : Type) [Database Db Row Key Stmt ε A] (l : List ((s : Stmt) × A s)) : List Row :=
  l.reverse.flatMap fun x => written Db x.1 x.2

theorem rowsOf_cons (s : Stmt) (a : A s) (l : List ((s : Stmt) × A s)) :
    rowsOf Db (⟨s, a⟩ :: l) = rowsOf Db l ++ written Db s a := by
  simp [rowsOf]

theorem rowsOf_append (l l' : List ((s : Stmt) × A s)) :
    rowsOf Db (l ++ l') = rowsOf Db l' ++ rowsOf Db l := by
  simp [rowsOf]

theorem mem_rowsOf {r : Row} {l : List ((s : Stmt) × A s)} :
    r ∈ rowsOf Db l ↔ ∃ x ∈ l, r ∈ written Db x.1 x.2 := by
  simp [rowsOf]

/-- `h'` goes on from `h` by statements only, and each satisfied `Q` when it was
issued. -/
inductive Since (Q : Hist (Instr Stmt Ext) (Instr.Ans A) ε → Instr Stmt Ext → Prop)
    (h : Hist (Instr Stmt Ext) (Instr.Ans A) ε) : Hist (Instr Stmt Ext) (Instr.Ans A) ε → Prop where
  | refl : Since Q h h
  | stmt {h' : Hist (Instr Stmt Ext) (Instr.Ans A) ε} {s : Stmt} {r : Except ε (A s)} :
      Since Q h h' → Q h' (.stmt s) → Since Q h (⟨.stmt s, r⟩ :: h')

section
variable {Q : Hist (Instr Stmt Ext) (Instr.Ans A) ε → Instr Stmt Ext → Prop}
  {h h' : Hist (Instr Stmt Ext) (Instr.Ans A) ε}

theorem Since.suffix (hs : Since Q h h') : h <:+ h' := by
  induction hs with
  | refl => exact List.suffix_rfl
  | stmt _ _ ih => exact ih.trans (List.suffix_cons _ _)

/-- The statements go on in the transaction that is open. -/
theorem Since.sinceBegin (hs : Since Q h h') {l : List ((s : Stmt) × A s)}
    (hl : sinceBegin h = some l) : ∃ new, sinceBegin h' = some (new ++ l) ∧
      ∀ x ∈ new, ∃ h'', Since Q h h'' ∧ Q h'' (.stmt x.1) := by
  induction hs with
  | refl => exact ⟨[], hl, fun x hx => absurd hx List.not_mem_nil⟩
  | stmt hs hq ih =>
      rename_i s r
      obtain ⟨new, hnew, hall⟩ := ih
      cases r with
      | error e => exact ⟨new, hnew, hall⟩
      | ok a =>
          refine ⟨⟨s, a⟩ :: new, by simp [Txn.sinceBegin, hnew], fun x hx => ?_⟩
          rcases List.mem_cons.mp hx with rfl | hx
          · exact ⟨_, hs, hq⟩
          · exact hall x hx

/-- A program that issues statements only goes on by statements only. -/
theorem Obeys.since {α : Type} {R : Hist (Instr Stmt Ext) (Instr.Ans A) ε → Except ε α → Prop}
    (hstmt : ∀ h i, Q h i → ∃ s, i = .stmt s) {p : Prog (Instr Stmt Ext) (Instr.Ans A) ε α}
    {h₀ : Hist (Instr Stmt Ext) (Instr.Ans A) ε} (hs : Since Q h₀ h) (hp : Obeys Q R h p) :
    Obeys (fun h' i => Since Q h₀ h' ∧ Q h' i) (fun h' r => Since Q h₀ h' ∧ R h' r) h p := by
  induction p generalizing h with
  | ret a => exact ⟨hs, hp⟩
  | throw e => exact ⟨hs, hp⟩
  | ask i k ih =>
      obtain ⟨s, rfl⟩ := hstmt h i hp.1
      exact ⟨⟨hs, hp.1⟩, fun r => ih r (.stmt hs hp.1) (hp.2 r)⟩

end

/-- The open transaction of every call is in its history. -/
theorem Run.tx_eq (hc₀ : c₀.procs = []) (hrun : Run program Ok c₀ c) :
    ∀ P ∈ c.procs, P.tx = (sinceBegin P.hist).map (rowsOf Db) := by
  refine hrun.forall_procs (fun _ _ _ => rfl) ?_ (by simp [hc₀])
  intro P i k r tx db db' wf p e hP _ heff
  simp only [Proc.advance]
  rw [hP] at heff
  cases heff with
  | failed hf =>
      cases i with
      | begin => cases hf; rfl
      | commit => cases hf; rfl
      | stmt s => cases hf; rfl
      | rollback => cases hf
      | call x => cases hf
  | answered he =>
      cases i with
      | begin => cases he; cases hopen : sinceBegin P.hist <;> simp [sinceBegin, hopen, rowsOf]
      | commit => cases he; rfl
      | rollback => cases he; rfl
      | call x => cases he; rfl
      | stmt s =>
          simp only [effect] at he
          split at he
          · exact absurd he (by simp)
          cases hopen : sinceBegin P.hist with
          | none =>
              simp only [hopen, Option.map_none] at he
              split at he <;> cases he <;> simp_all [sinceBegin]
          | some l =>
              simp only [hopen, Option.map_some] at he
              split at he <;> cases he <;> simp_all [sinceBegin, rowsOf_cons]

/-- **What a step commits**: nothing, the statements of a transaction, or one
statement outside a transaction. -/
theorem Run.db_next (hc₀ : c₀.procs = []) (hrun : Run program Ok c₀ c)
    (hn : next program c e = some c') : c'.db = c.db ∨
    ∃ (p : Nat) (P : Proc Op Row Stmt Ext A ε Res), c.procs[p]? = some P ∧ e = .exec p ∧
      ((∃ k l, P.prog = .ask .commit k ∧ sinceBegin P.hist = some l ∧
          c'.db = puts c.db (rowsOf Db l)) ∨
        ∃ s k a, P.prog = .ask (.stmt s) k ∧ sinceBegin P.hist = none ∧ exec s c.db = .ok a ∧
          c'.db = puts c.db (written Db s a)) := by
  rcases next_cases program hn with ⟨o, rfl, rfl⟩ | ⟨p, P, i, k, r, tx, db, hP, hk, heff, rfl⟩
  · exact Or.inl rfl
  · have htx := Run.tx_eq hc₀ hrun P (List.mem_of_getElem? hP)
    rcases heff.spec with ⟨rfl, _⟩ | ⟨rfl, rfl, rfl, _⟩ |
        ⟨rfl, s, a, rfl, _, hex, ⟨rfl, _⟩ | ⟨hnone, rfl, _⟩⟩
    · exact Or.inl rfl
    · cases hopen : sinceBegin P.hist with
      | none => simp [htx, hopen, puts]
      | some l => exact Or.inr ⟨p, P, hP, rfl, Or.inl ⟨k, l, hk, hopen, by simp [htx, hopen]⟩⟩
    · exact Or.inl rfl
    · have hout : sinceBegin P.hist = none := Option.map_eq_none_iff.mp (htx.symm.trans hnone)
      rw [hnone] at hex
      exact Or.inr ⟨p, P, hP, rfl, Or.inr ⟨s, k, a, hk, hout, hex, rfl⟩⟩

/-! ## Where an answer comes from -/

section
variable {p : Nat} {P : Proc Op Row Stmt Ext A ε Res}

variable (program Ok c₀ c p) in
/-- In a step of the run from `c₀` to `c`, call number `p`, made with `o`, was
answered `r` to `i` after the history `h`. -/
inductive Traced (o : Op) (h : Hist (Instr Stmt Ext) (Instr.Ans A) ε) (i : Instr Stmt Ext)
    (r : Except ε (i.Ans A)) : Prop where
  | mk {c₁ c₂ : Config Op Db Row Stmt Ext A ε Res} {e : Event Op ε}
      {P : Proc Op Row Stmt Ext A ε Res}
      {k : Except ε (i.Ans A) → Prog (Instr Stmt Ext) (Instr.Ans A) ε Res}
      {tx : Option (List Row)} (before : Run program Ok c₀ c₁) (ok : Ok c₁ e)
      (step : next program c₁ e = some c₂) (after : Run program Ok c₂ c)
      (proc : c₁.procs[p]? = some P) (op : P.op = o) (hist : P.hist = h) (prog : P.prog = .ask i k)
      (effect : Effect c₁.db (others c₁.procs p) P.tx p i e r tx c₂.db) : Traced o h i r

/-- Every answer in the history of a call was given in a step. -/
theorem Run.traced (hc₀ : c₀.procs = []) (hrun : Run program Ok c₀ c)
    (hP : c.procs[p]? = some P) {h : Hist (Instr Stmt Ext) (Instr.Ans A) ε} {i : Instr Stmt Ext}
    {r : Except ε (i.Ans A)} (hmem : (⟨i, r⟩ :: h) <:+ P.hist) :
    Traced program Ok c₀ c p P.op h i r := by
  induction hrun generalizing P with
  | start => simp [hc₀] at hP
  | @step c c' e hrun hok hn ih =>
      have hbefore : ∀ P, c.procs[p]? = some P → (⟨i, r⟩ :: h) <:+ P.hist →
          Traced program Ok c₀ c' p P.op h i r := by
        intro P hP hmem
        obtain ⟨before, ok, step, after, proc, op, hist, prog, effect⟩ := ih hP hmem
        exact ⟨before, ok, step, .step after hok hn, proc, op, hist, prog, effect⟩
      rcases proc_of_next hn hP with hold | ⟨o, _, _, rfl⟩ | ⟨Q, j, k, x, tx, hQ, hk, heff, rfl⟩
      · exact hbefore P hold hmem
      · exact absurd (List.suffix_nil.mp hmem) (by simp)
      · rcases List.suffix_cons_iff.mp hmem with hnew | hold
        · injection hnew with hentry htail
          subst htail
          cases hentry
          exact ⟨hrun, hok, hn, .start, hQ, rfl, rfl, hk, heff⟩
        · exact hbefore Q hQ hold

variable (program Ok c₀ c p) in
/-- From `c₁` the run from `c₀` to `c` went on with a step of call number `p`,
which committed `rows`. -/
structure Commits (c₁ : Config Op Db Row Stmt Ext A ε Res) (rows : List Row) : Prop where
  before : Run program Ok c₀ c₁
  ok : Ok c₁ (.exec p)
  step : ∃ c₂, next program c₁ (.exec p) = some c₂ ∧ c₂.db = puts c₁.db rows ∧ Run program Ok c₂ c

theorem Commits.after {c₁ : Config Op Db Row Stmt Ext A ε Res} {rows : List Row}
    (h : Commits program Ok c₀ c p c₁ rows) : Run program Ok c₁ c := by
  obtain ⟨c₂, hn, _, hafter⟩ := h.step
  exact .trans (.step .start h.ok hn) hafter

/-- A statement that was answered outside a transaction has committed what it
wrote. -/
theorem Traced.commits (hc₀ : c₀.procs = []) {o : Op}
    {h : Hist (Instr Stmt Ext) (Instr.Ans A) ε} {s : Stmt} {a : A s}
    (ht : Traced program Ok c₀ c p o h (.stmt s) (.ok a)) (hout : sinceBegin h = none) :
    ∃ (c₁ : Config Op Db Row Stmt Ext A ε Res) (P : Proc Op Row Stmt Ext A ε Res)
      (k : Except ε (A s) → Prog (Instr Stmt Ext) (Instr.Ans A) ε Res),
      Commits program Ok c₀ c p c₁ (written Db s a) ∧ exec s c₁.db = .ok a ∧
        c₁.procs[p]? = some P ∧ P.op = o ∧ P.hist = h ∧ P.prog = .ask (.stmt s) k := by
  obtain @⟨c₁, c₂, e, P, k, tx, before, ok, step, after, proc, op, hist, prog, heff⟩ := ht
  have htx : P.tx = none := by
    rw [Run.tx_eq hc₀ before P (List.mem_of_getElem? proc), hist, hout]
    rfl
  rw [htx] at heff
  obtain ⟨rfl, hexec⟩ := heff.exec_of_ok
  have hdb := (heff.after_ok.1 rfl).2
  exact ⟨c₁, P, k, ⟨before, ok, c₂, step, hdb, after⟩, hexec, proc, op, hist, prog⟩

/-- What was answered outside a transaction was read from an earlier committed
state. -/
theorem Run.seen (hc₀ : c₀.procs = []) (hrun : Run program Ok c₀ c) (hP : P ∈ c.procs) {s : Stmt}
    {a : A s} {h : Hist (Instr Stmt Ext) (Instr.Ans A) ε} (hmem : (⟨.stmt s, .ok a⟩ :: h) <:+ P.hist)
    (hout : sinceBegin h = none) :
    ∃ c₁, Run program Ok c₀ c₁ ∧ Run program Ok c₁ c ∧ exec s c₁.db = .ok a := by
  obtain ⟨p, hp⟩ := List.mem_iff_getElem?.mp hP
  obtain ⟨c₁, _, _, hcommits, hexec, _⟩ := (hrun.traced hc₀ hp hmem).commits hc₀ hout
  exact ⟨c₁, hcommits.before, hcommits.after, hexec⟩

end

/-- What an answer makes of the open transaction: it is closed, or as it was, or
one statement longer. -/
theorem sinceBegin_cons_cases (h : Hist (Instr Stmt Ext) (Instr.Ans A) ε) (i : Instr Stmt Ext)
    (r : Except ε (i.Ans A)) :
    (sinceBegin (⟨i, r⟩ :: h)).getD [] = [] ∨
    (sinceBegin (⟨i, r⟩ :: h)).getD [] = (sinceBegin h).getD [] ∨
    ∃ s a, (⟨i, r⟩ : (i : Instr Stmt Ext) × Except ε (i.Ans A)) = ⟨.stmt s, .ok a⟩ ∧
      (sinceBegin h).isSome = true ∧
      (sinceBegin (⟨i, r⟩ :: h)).getD [] = ⟨s, a⟩ :: (sinceBegin h).getD [] := by
  cases i with
  | begin => cases r <;> exact Or.inr (Or.inl rfl)
  | commit => exact Or.inl rfl
  | rollback => exact Or.inl rfl
  | call _ => exact Or.inr (Or.inl rfl)
  | stmt s =>
      cases r with
      | error _ => exact Or.inr (Or.inl rfl)
      | ok a =>
          cases hopen : sinceBegin h with
          | none => exact Or.inl (by simp [sinceBegin, hopen])
          | some l => exact Or.inr (Or.inr ⟨s, a, rfl, rfl, by simp [sinceBegin, hopen]⟩)

/-- A statement is in the open transaction because it was, or because it was
just answered. -/
theorem mem_sinceBegin_cons {h : Hist (Instr Stmt Ext) (Instr.Ans A) ε} {i : Instr Stmt Ext}
    {r : Except ε (i.Ans A)} {x : (s : Stmt) × A s}
    (hx : x ∈ (sinceBegin (⟨i, r⟩ :: h)).getD []) : x ∈ (sinceBegin h).getD [] ∨
      (⟨i, r⟩ : (i : Instr Stmt Ext) × Except ε (i.Ans A)) = ⟨.stmt x.1, .ok x.2⟩ := by
  cases i with
  | begin =>
      cases r with
      | ok _ => exact Or.inl hx
      | error _ => exact Or.inl hx
  | commit => exact absurd hx List.not_mem_nil
  | rollback => exact absurd hx List.not_mem_nil
  | call _ => exact Or.inl hx
  | stmt s =>
      cases r with
      | error _ => exact Or.inl hx
      | ok a =>
          cases hopen : sinceBegin h with
          | none => simp [sinceBegin, hopen] at hx
          | some l =>
              simp only [sinceBegin, hopen, Option.map_some, Option.getD_some] at hx
              rcases List.mem_cons.mp hx with rfl | hx
              · exact Or.inr rfl
              · exact Or.inl hx

/-- As long as the transaction is open, nothing is taken out of it. -/
theorem sinceBegin_subset {h : Hist (Instr Stmt Ext) (Instr.Ans A) ε} {i : Instr Stmt Ext}
    {r : Except ε (i.Ans A)} {x y : (s : Stmt) × A s}
    (hx : x ∈ (sinceBegin (⟨i, r⟩ :: h)).getD []) (hy : y ∈ (sinceBegin h).getD []) :
    y ∈ (sinceBegin (⟨i, r⟩ :: h)).getD [] := by
  cases i with
  | begin => cases r <;> exact hy
  | commit => exact absurd hx List.not_mem_nil
  | rollback => exact absurd hx List.not_mem_nil
  | call _ => exact hy
  | stmt s =>
      cases r with
      | error _ => exact hy
      | ok a =>
          cases hopen : sinceBegin h with
          | none => simp [hopen] at hy
          | some l =>
              rw [hopen] at hy
              simpa [sinceBegin, hopen] using Or.inr hy

/-- What was written in the open transaction is among the call's versions. -/
theorem Run.mem_pending (hc₀ : c₀.procs = []) (hrun : Run program Ok c₀ c)
    {P : Proc Op Row Stmt Ext A ε Res} (hP : P ∈ c.procs) {x : (s : Stmt) × A s}
    (hx : x ∈ (sinceBegin P.hist).getD []) {w : Row} (hw : w ∈ written Db x.1 x.2) :
    w ∈ P.pending := by
  cases hopen : sinceBegin P.hist with
  | none => simp [hopen] at hx
  | some l =>
      rw [hopen] at hx
      simp only [Proc.pending, Run.tx_eq hc₀ hrun P hP, hopen]
      exact mem_rowsOf.mpr ⟨x, hx, hw⟩

/-- And nothing else is. -/
theorem Run.written_of_pending (hc₀ : c₀.procs = []) (hrun : Run program Ok c₀ c)
    {P : Proc Op Row Stmt Ext A ε Res} (hP : P ∈ c.procs) {w : Row} (hw : w ∈ P.pending) :
    ∃ x ∈ (sinceBegin P.hist).getD [], w ∈ written Db x.1 x.2 := by
  rw [Proc.pending, Run.tx_eq hc₀ hrun P hP] at hw
  cases hopen : sinceBegin P.hist with
  | none => simp [hopen] at hw
  | some l =>
      rw [hopen] at hw
      exact mem_rowsOf.mp hw

/-- **A lock keeps what was found.**  What holds between a statement and the
committed rows under the keys it writes when it is answered, holds as long as
its transaction is open, since nobody else commits these rows. -/
theorem Run.locked [DecidableEq Key] [Lawful Db]
    {L : (s : Stmt) → A s → Row → Option Row → Prop} (hc₀ : c₀.procs = [])
    (hL : ∀ c p P s k a, Run program Ok c₀ c → Ok c (.exec p) → c.procs[p]? = some P →
      P.prog = .ask (.stmt s) k → exec s (view c.db P) = .ok a →
        ∀ w ∈ written Db s a, L s a w (get c.db (key Db w)))
    (hrun : Run program Ok c₀ c) : ∀ P ∈ c.procs, ∀ x ∈ (sinceBegin P.hist).getD [],
      ∀ w ∈ written Db x.1 x.2, L x.1 x.2 w (get c.db (key Db w)) := by
  induction hrun with
  | start => simp [hc₀]
  | @step _ _ e hrun hok hn ih =>
      intro Q hQ x hx w hw
      have hafter := Run.mem_pending hc₀ (.step hrun hok hn) hQ hx hw
      have hstep := hn
      rcases next_cases program hn with ⟨o, rfl, rfl⟩ | ⟨p, P, i, k, r, tx, db, hP, hk, heff, rfl⟩
      · rcases List.mem_append.mp hQ with hQ | hQ
        · exact ih Q hQ x hx w hw
        · rw [List.mem_singleton.mp hQ] at hx
          exact absurd hx List.not_mem_nil
      have hmem := List.mem_of_getElem? hP
      obtain ⟨q, hq⟩ := List.mem_iff_getElem?.mp hQ
      by_cases hpq : p = q
      · subst hpq
        simp only [List.getElem?_set_self (List.getElem?_eq_some_iff.mp hP).1,
          Option.some.injEq] at hq
        subst hq
        rw [heff.db_of_mem hafter]
        rcases mem_sinceBegin_cons hx with hold | hnew
        · exact ih P hmem x hold w hw
        · cases hnew
          obtain ⟨rfl, hex⟩ := heff.exec_of_ok
          exact hL _ p P x.1 k x.2 hrun hok hP hk hex w hw
      · simp only [List.getElem?_set_ne hpq] at hq
        have hne : e ≠ .exec q := by
          rintro rfl
          rcases heff.actor with he | ⟨_, he⟩ <;> cases he
          exact hpq rfl
        rw [get_next_of_pending (Run.apart hc₀ hrun) hstep hq hafter hne]
        exact ih Q (List.mem_of_getElem? hq) x hx w hw

end

end Txn
