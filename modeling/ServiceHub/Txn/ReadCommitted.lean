/-
# `Txn.ReadCommitted` — calls interleaved statement by statement

Any number of calls run against one database at isolation level READ COMMITTED.
A configuration is the committed state and, for each call started so far, what
is left of its program, the row versions its open transaction has written, and
what it has asked and been answered.

**The rules.**  `next` lets one call issue its next instruction.

    begin      the call's transaction is open, with no version written
    statement  runs on the committed state under the call's own versions;
               its versions stay private while a transaction is open and are
               committed at once outside one; not enabled while it has to wait
               for the versions of another transaction
    commit     the versions are committed together
    rollback   the versions are dropped
    call       the outside is called; the database does not change

A statement thus sees what was committed before it started together with its
own transaction's writes, and one that had to wait is evaluated again on what
it then finds.  Instead of being answered, `begin`, a statement or `commit` may
also fail at any time (`Event.fail`): a lost connection, a time-out, a deadlock
victim.  A failed commit commits nothing.

**Proved here.**

    what one step does                                                 (`next_cases`)
    every call obeys its program logic in every configuration          (`Run.obeys`)
    uncommitted versions of two calls are under different keys         (`Run.apart`)
    a committed row changes only by its own writer                     (`get_next`, `get_next_of_pending`)
    a serial run is one of the interleavings                           (`serial_run`)
-/
import ServiceHub.Txn.Store
import Mathlib.Data.List.Basic

namespace Txn

open Database

/-- A call in progress. -/
structure Proc (Op Row Stmt Ext : Type) (A : Stmt → Type) (ε Res : Type) where
  op : Op
  prog : Prog (Instr Stmt Ext) (Instr.Ans A) ε Res
  tx : Option (List Row)
  hist : Hist (Instr Stmt Ext) (Instr.Ans A) ε

/-- The committed state and the calls started so far. -/
structure Config (Op Db Row Stmt Ext : Type) (A : Stmt → Type) (ε Res : Type) where
  db : Db
  procs : List (Proc Op Row Stmt Ext A ε Res)

/-- What the scheduler lets happen next. -/
inductive Event (Op ε : Type) where
  | spawn (o : Op)
  | exec (p : Nat)
  | fail (p : Nat) (e : ε)

section
variable {Op Db Row Key Stmt Ext ε Res : Type} {A : Stmt → Type}

/-- The uncommitted versions of a call. -/
def Proc.pending (P : Proc Op Row Stmt Ext A ε Res) : List Row := P.tx.getD []

/-- The uncommitted versions of all calls but the `p`-th. -/
def others (procs : List (Proc Op Row Stmt Ext A ε Res)) (p : Nat) : List Row :=
  (procs.eraseIdx p).flatMap Proc.pending

theorem mem_others {procs : List (Proc Op Row Stmt Ext A ε Res)} {p : Nat} {r : Row} :
    r ∈ others procs p ↔ ∃ q Q, q ≠ p ∧ procs[q]? = some Q ∧ r ∈ Q.pending := by
  simp only [others, List.mem_flatMap, List.mem_eraseIdx_iff_getElem?]
  constructor
  · rintro ⟨Q, ⟨q, hq, hQ⟩, hr⟩
    exact ⟨q, Q, hq, hQ, hr⟩
  · rintro ⟨q, Q, hq, hQ, hr⟩
    exact ⟨Q, ⟨q, hq, hQ⟩, hr⟩

variable [Database Db Row Key Stmt ε A]

/-- The state a call's statements see: the committed one under its own
versions. -/
def view (db : Db) (P : Proc Op Row Stmt Ext A ε Res) : Db := puts db P.pending

/-- The answer to an instruction, and the transaction and committed state after
it; `none` while it has to wait. -/
def effect (db : Db) (waitFor : List Row) (tx : Option (List Row)) :
    (i : Instr Stmt Ext) → Option (Except ε (i.Ans A) × Option (List Row) × Db)
  | .begin => some (.ok (), some (tx.getD []), db)
  | .commit => some (.ok (), none, puts db (tx.getD []))
  | .rollback => some (.ok (), none, db)
  | .call _ => some (.ok (), tx, db)
  | .stmt s =>
      if waits s (puts db (tx.getD [])) waitFor then none
      else match exec s (puts db (tx.getD [])), tx with
        | .ok a, none => some (.ok a, none, puts db (written Db s a))
        | .ok a, some w => some (.ok a, some (w ++ written Db s a), db)
        | .error e, tx => some (.error e, tx, db)

/-- The transaction after an instruction that failed on its way; rollbacks and
calls to the outside do not fail so. -/
def afterFailure (tx : Option (List Row)) : Instr Stmt Ext → Option (Option (List Row))
  | .begin => some tx
  | .stmt _ => some tx
  | .commit => some none
  | .rollback => none
  | .call _ => none

/-- The call after the answer `r` to its instruction `i`. -/
def Proc.advance (P : Proc Op Row Stmt Ext A ε Res) (i : Instr Stmt Ext)
    (k : Except ε (i.Ans A) → Prog (Instr Stmt Ext) (Instr.Ans A) ε Res)
    (r : Except ε (i.Ans A)) (tx : Option (List Row)) : Proc Op Row Stmt Ext A ε Res :=
  ⟨P.op, k r, tx, ⟨i, r⟩ :: P.hist⟩

variable (program : Op → Prog (Instr Stmt Ext) (Instr.Ans A) ε Res)

/-- A call that has just been made. -/
def Proc.start (o : Op) : Proc Op Row Stmt Ext A ε Res := ⟨o, program o, none, []⟩

/-- One step of the interleaving, `none` where it is not enabled. -/
def next (c : Config Op Db Row Stmt Ext A ε Res) :
    Event Op ε → Option (Config Op Db Row Stmt Ext A ε Res)
  | .spawn o => some ⟨c.db, c.procs ++ [Proc.start program o]⟩
  | .exec p =>
      match c.procs[p]? with
      | none => none
      | some P =>
          match P.prog with
          | .ask i k =>
              match effect c.db (others c.procs p) P.tx i with
              | some (r, tx, db) => some ⟨db, c.procs.set p (P.advance i k r tx)⟩
              | none => none
          | _ => none
  | .fail p e =>
      match c.procs[p]? with
      | none => none
      | some P =>
          match P.prog with
          | .ask i k =>
              match afterFailure P.tx i with
              | some tx => some ⟨c.db, c.procs.set p (P.advance i k (.error e) tx)⟩
              | none => none
          | _ => none

/-- Everything an event of call `p` can do to its instruction `i`: have it
answered, or have it fail. -/
inductive Effect (db : Db) (waitFor : List Row) (tx : Option (List Row)) (p : Nat)
    (i : Instr Stmt Ext) :
    Event Op ε → Except ε (i.Ans A) → Option (List Row) → Db → Prop where
  | answered {r : Except ε (i.Ans A)} {tx' : Option (List Row)} {db' : Db} :
      effect db waitFor tx i = some (r, tx', db') → Effect db waitFor tx p i (.exec p) r tx' db'
  | failed {e : ε} {tx' : Option (List Row)} :
      afterFailure tx i = some tx' → Effect db waitFor tx p i (.fail p e) (.error e) tx' db

/-- **What one step does.**  Either a call is made, or one call issues its next
instruction. -/
theorem next_cases {c c' : Config Op Db Row Stmt Ext A ε Res} {e : Event Op ε}
    (h : next program c e = some c') :
    (∃ o, e = .spawn o ∧ c' = ⟨c.db, c.procs ++ [Proc.start program o]⟩) ∨
    (∃ p P i k r tx db, c.procs[p]? = some P ∧ P.prog = .ask i k ∧
      Effect c.db (others c.procs p) P.tx p i e r tx db ∧
      c' = ⟨db, c.procs.set p (P.advance i k r tx)⟩) := by
  cases e with
  | spawn o => exact Or.inl ⟨o, rfl, (Option.some.inj h).symm⟩
  | exec p =>
      right
      simp only [next] at h
      split at h
      · exact absurd h (by simp)
      · rename_i P hP
        split at h
        · rename_i i k hk
          split at h
          · rename_i r tx db he
            exact ⟨p, P, i, k, r, tx, db, hP, hk, .answered he, (Option.some.inj h).symm⟩
          · exact absurd h (by simp)
        · exact absurd h (by simp)
  | fail p x =>
      right
      simp only [next] at h
      split at h
      · exact absurd h (by simp)
      · rename_i P hP
        split at h
        · rename_i i k hk
          split at h
          · rename_i tx he
            exact ⟨p, P, i, k, .error x, tx, c.db, hP, hk, .failed he, (Option.some.inj h).symm⟩
          · exact absurd h (by simp)
        · exact absurd h (by simp)

theorem Effect.actor {db db' : Db} {wf : List Row} {tx tx' : Option (List Row)} {p : Nat}
    {i : Instr Stmt Ext} {e : Event Op ε} {r : Except ε (i.Ans A)}
    (h : Effect db wf tx p i e r tx' db') : e = .exec p ∨ ∃ x, e = .fail p x := by
  cases h with
  | answered _ => exact Or.inl rfl
  | failed _ => exact Or.inr ⟨_, rfl⟩

/-- An event moves one call. -/
theorem Effect.actor_unique {db₁ db₁' db₂ db₂' : Db} {wf₁ wf₂ : List Row}
    {tx₁ tx₁' tx₂ tx₂' : Option (List Row)} {p q : Nat} {i j : Instr Stmt Ext} {e : Event Op ε}
    {r : Except ε (i.Ans A)} {r' : Except ε (j.Ans A)} (h : Effect db₁ wf₁ tx₁ p i e r tx₁' db₁')
    (h' : Effect db₂ wf₂ tx₂ q j e r' tx₂' db₂') : p = q := by
  rcases h.actor with rfl | ⟨x, rfl⟩
  · rcases h'.actor with hq | ⟨y, hq⟩ <;> cases hq
    rfl
  · rcases h'.actor with hq | ⟨y, hq⟩ <;> cases hq
    rfl

/-- What an event of a call changes: nothing, except that it may drop the call's
versions; its versions are committed; or a statement writes, to the open
transaction or, outside one, to the committed state. -/
theorem Effect.spec {db db' : Db} {wf : List Row} {tx tx' : Option (List Row)} {p : Nat}
    {i : Instr Stmt Ext} {e : Event Op ε} {r : Except ε (i.Ans A)}
    (h : Effect db wf tx p i e r tx' db') :
    (db' = db ∧ (tx'.getD [] = tx.getD [] ∨ tx'.getD [] = [])) ∨
    (e = .exec p ∧ i = .commit ∧ db' = puts db (tx.getD []) ∧ tx'.getD [] = []) ∨
    (e = .exec p ∧ ∃ s a, i = .stmt s ∧ waits s (puts db (tx.getD [])) wf = false ∧
      exec s (puts db (tx.getD [])) = .ok a ∧
      ((db' = db ∧ tx'.getD [] = tx.getD [] ++ written Db s a) ∨
        (tx = none ∧ db' = puts db (written Db s a) ∧ tx'.getD [] = []))) := by
  cases h with
  | failed hf =>
      left
      cases i with
      | begin => cases hf; exact ⟨rfl, Or.inl rfl⟩
      | stmt s => cases hf; exact ⟨rfl, Or.inl rfl⟩
      | commit => cases hf; exact ⟨rfl, Or.inr rfl⟩
      | rollback => exact absurd hf (by simp [afterFailure])
      | call c => exact absurd hf (by simp [afterFailure])
  | answered he =>
      cases i with
      | begin => cases he; exact Or.inl ⟨rfl, Or.inl rfl⟩
      | rollback => cases he; exact Or.inl ⟨rfl, Or.inr rfl⟩
      | call c => cases he; exact Or.inl ⟨rfl, Or.inl rfl⟩
      | commit => cases he; exact Or.inr (Or.inl ⟨rfl, rfl, rfl, rfl⟩)
      | stmt s =>
          simp only [effect] at he
          split at he
          · exact absurd he (by simp)
          · rename_i hwait
            split at he
            · rename_i a hex
              cases he
              exact Or.inr (Or.inr ⟨rfl, s, a, rfl, by simpa using hwait, hex,
                Or.inr ⟨rfl, rfl, rfl⟩⟩)
            · rename_i a w hex
              cases he
              exact Or.inr (Or.inr ⟨rfl, s, a, rfl, by simpa using hwait, hex,
                Or.inl ⟨rfl, rfl⟩⟩)
            · cases he; exact Or.inl ⟨rfl, Or.inl rfl⟩

/-! ## Runs -/

/-- The configurations reached from `c₀` by steps that all meet `Ok`. -/
inductive Run (Ok : Config Op Db Row Stmt Ext A ε Res → Event Op ε → Prop)
    (c₀ : Config Op Db Row Stmt Ext A ε Res) : Config Op Db Row Stmt Ext A ε Res → Prop where
  | start : Run Ok c₀ c₀
  | step {c c' : Config Op Db Row Stmt Ext A ε Res} {e : Event Op ε} :
      Run Ok c₀ c → Ok c e → next program c e = some c' → Run Ok c₀ c'

/-- The run of a list of events. -/
def runEvents (c : Config Op Db Row Stmt Ext A ε Res) :
    List (Event Op ε) → Option (Config Op Db Row Stmt Ext A ε Res)
  | [] => some c
  | e :: es =>
      match next program c e with
      | some c' => runEvents c' es
      | none => none

variable {program} {Ok : Config Op Db Row Stmt Ext A ε Res → Event Op ε → Prop}
  {c₀ c c' : Config Op Db Row Stmt Ext A ε Res} {e : Event Op ε}

theorem Run.trans {c₁ : Config Op Db Row Stmt Ext A ε Res} (h : Run program Ok c₀ c₁)
    (h' : Run program Ok c₁ c) : Run program Ok c₀ c := by
  induction h' with
  | start => exact h
  | step _ hok hn ih => exact .step ih hok hn

/-- The run of a list of events, as long as each of them meets `Ok`. -/
def runChecked (program : Op → Prog (Instr Stmt Ext) (Instr.Ans A) ε Res)
    (Ok : Config Op Db Row Stmt Ext A ε Res → Event Op ε → Prop) [∀ c e, Decidable (Ok c e)]
    (c : Config Op Db Row Stmt Ext A ε Res) :
    List (Event Op ε) → Option (Config Op Db Row Stmt Ext A ε Res)
  | [] => some c
  | e :: es =>
      if Ok c e then
        match next program c e with
        | some c' => runChecked program Ok c' es
        | none => none
      else none

theorem Run.of_runChecked [∀ c e, Decidable (Ok c e)] :
    ∀ (es : List (Event Op ε)) (c₁ : Config Op Db Row Stmt Ext A ε Res),
      runChecked program Ok c₁ es = some c → Run program Ok c₁ c
  | [], c₁, h => by
      cases h
      exact .start
  | e :: es, c₁, h => by
      simp only [runChecked] at h
      split at h
      · rename_i hok
        split at h
        · rename_i c₂ hn
          exact Run.trans (.step .start hok hn) (Run.of_runChecked es c₂ h)
        · exact absurd h (by simp)
      · exact absurd h (by simp)

/-- The calls after a step: those before it, the one just made, and the one
that issued an instruction. -/
theorem proc_of_next (h : next program c e = some c') {q : Nat}
    {Q' : Proc Op Row Stmt Ext A ε Res} (hQ' : c'.procs[q]? = some Q') :
    c.procs[q]? = some Q' ∨
    (∃ o, e = .spawn o ∧ q = c.procs.length ∧ Q' = Proc.start program o) ∨
    (∃ P i k r tx, c.procs[q]? = some P ∧ P.prog = .ask i k ∧
      Effect c.db (others c.procs q) P.tx q i e r tx c'.db ∧ Q' = P.advance i k r tx) := by
  rcases next_cases program h with ⟨o, rfl, rfl⟩ | ⟨p, P, i, k, r, tx, db, hP, hk, heff, rfl⟩
  · rcases Nat.lt_trichotomy q c.procs.length with hq | hq | hq
    · left
      rwa [List.getElem?_append_left hq] at hQ'
    · subst hq
      right; left
      simp only [List.getElem?_append_right (Nat.le_refl _), Nat.sub_self] at hQ'
      exact ⟨o, rfl, rfl, (Option.some.inj hQ').symm⟩
    · have hnone : (c.procs ++ [Proc.start program o])[q]? = none :=
        List.getElem?_eq_none (by simp only [List.length_append, List.length_singleton]; omega)
      exact absurd (hnone.symm.trans hQ') (by simp)
  · by_cases hq : p = q
    · subst hq
      have hlt : p < c.procs.length := (List.getElem?_eq_some_iff.mp hP).1
      right; right
      simp only [List.getElem?_set_self hlt] at hQ'
      exact ⟨P, i, k, r, tx, hP, hk, heff, (Option.some.inj hQ').symm⟩
    · left
      simp only [List.getElem?_set_ne hq] at hQ'
      exact hQ'

/-- A property of a call that holds when it is made and survives each of its
answers holds of every call of every configuration. -/
theorem Run.forall_procs {I : Proc Op Row Stmt Ext A ε Res → Prop}
    (hstart : ∀ c o, Ok c (.spawn o) → I (Proc.start program o))
    (hstep : ∀ (P : Proc Op Row Stmt Ext A ε Res) (i : Instr Stmt Ext)
      (k : Except ε (i.Ans A) → Prog (Instr Stmt Ext) (Instr.Ans A) ε Res)
      (r : Except ε (i.Ans A)) (tx : Option (List Row)) (db db' : Db) (wf : List Row) (p : Nat)
      (e : Event Op ε), I P → P.prog = .ask i k → Effect db wf P.tx p i e r tx db' →
        I (P.advance i k r tx))
    (hc₀ : ∀ P ∈ c₀.procs, I P) (hrun : Run program Ok c₀ c) : ∀ P ∈ c.procs, I P := by
  induction hrun with
  | start => exact hc₀
  | step _ hok hn ih =>
      intro Q hQ
      obtain ⟨q, hq⟩ := List.mem_iff_getElem?.mp hQ
      rcases proc_of_next hn hq with hold | ⟨o, rfl, _, rfl⟩ | ⟨P, i, k, r, tx, hP, hk, heff, rfl⟩
      · exact ih Q (List.mem_of_getElem? hold)
      · exact hstart _ o hok
      · exact hstep P i k r tx _ _ _ _ _ (ih P (List.mem_of_getElem? hP)) hk heff

/-- Every call obeys in every configuration what its program obeys on its
own. -/
theorem Run.obeys {Q : Op → Hist (Instr Stmt Ext) (Instr.Ans A) ε → Instr Stmt Ext → Prop}
    {R : Op → Hist (Instr Stmt Ext) (Instr.Ans A) ε → Except ε Res → Prop}
    (hprog : ∀ c o, Ok c (.spawn o) → Obeys (Q o) (R o) [] (program o)) (hc₀ : c₀.procs = [])
    (hrun : Run program Ok c₀ c) : ∀ P ∈ c.procs, Obeys (Q P.op) (R P.op) P.hist P.prog := by
  refine hrun.forall_procs hprog ?_ (by simp [hc₀])
  intro P i k r tx _ _ _ _ _ hP hk _
  rw [hk] at hP
  exact hP.2 r

/-! ## Locks

An uncommitted version is a lock on its row: a statement that would write the
row waits. -/

/-- Uncommitted versions of different calls are under different keys. -/
def Apart (c : Config Op Db Row Stmt Ext A ε Res) : Prop :=
  ∀ (p q : Nat) (P Q : Proc Op Row Stmt Ext A ε Res), p ≠ q → c.procs[p]? = some P →
    c.procs[q]? = some Q → ∀ r ∈ P.pending, ∀ r' ∈ Q.pending, key Db r ≠ key Db r'

/-- Where the uncommitted versions after an instruction come from. -/
theorem Effect.mem_tx {db db' : Db} {wf : List Row} {tx tx' : Option (List Row)} {p : Nat}
    {i : Instr Stmt Ext} {r : Except ε (i.Ans A)} (h : Effect db wf tx p i e r tx' db') {w : Row}
    (hw : w ∈ tx'.getD []) :
    w ∈ tx.getD [] ∨ ∃ s a, i = .stmt s ∧ waits s (puts db (tx.getD [])) wf = false ∧
      exec s (puts db (tx.getD [])) = .ok a ∧ w ∈ written Db s a := by
  have hempty : tx'.getD [] = [] → w ∈ tx.getD [] := by
    intro hnil
    rw [hnil] at hw
    exact absurd hw List.not_mem_nil
  rcases h.spec with ⟨_, hsame | hnil⟩ | ⟨_, _, _, hnil⟩ |
      ⟨_, s, a, rfl, hwait, hex, ⟨_, happend⟩ | ⟨_, _, hnil⟩⟩
  · exact Or.inl (hsame ▸ hw)
  · exact Or.inl (hempty hnil)
  · exact Or.inl (hempty hnil)
  · rw [happend] at hw
    rcases List.mem_append.mp hw with h | h
    · exact Or.inl h
    · exact Or.inr ⟨s, a, rfl, hwait, hex, h⟩
  · exact Or.inl (hempty hnil)

variable [DecidableEq Key] [Lawful Db]

/-- A statement's versions are apart from the uncommitted ones of the other
calls. -/
theorem apart_others {p q : Nat} (hpq : p ≠ q) {db : Db} {Q : Proc Op Row Stmt Ext A ε Res}
    (hQ : c.procs[q]? = some Q) {s : Stmt} {a : A s}
    (hwait : waits s db (others c.procs p) = false) (hex : exec s db = .ok a) {w r : Row}
    (hw : w ∈ written Db s a) (hr : r ∈ Q.pending) : key Db w ≠ key Db r :=
  fun hk => Lawful.apart s db _ a hwait hex w hw r
    (mem_others.mpr ⟨q, Q, fun h => hpq h.symm, hQ, hr⟩) hk.symm

theorem Apart.next (hap : Apart c) (h : next program c e = some c') : Apart c' := by
  intro p q P' Q' hpq hP' hQ' r hr r' hr'
  -- an event moves one call, so at most one of the two has new versions
  rcases proc_of_next h hP' with hP | ⟨o, _, _, rfl⟩ | ⟨P, i, k, rr, tx, hP, hk, heff, rfl⟩
  · rcases proc_of_next h hQ' with hQ | ⟨o, _, _, rfl⟩ | ⟨Q, i, k, rr, tx, hQ, hk, heff, rfl⟩
    · exact hap p q P' Q' hpq hP hQ r hr r' hr'
    · exact absurd hr' List.not_mem_nil
    · rcases heff.mem_tx hr' with hold | ⟨s, a, rfl, hwait, hex, hw⟩
      · exact hap p q P' Q hpq hP hQ r hr r' hold
      · exact fun hk => apart_others (fun h => hpq h.symm) hP hwait hex hw hr hk.symm
  · exact absurd hr List.not_mem_nil
  · rcases proc_of_next h hQ' with hQ | ⟨o, _, _, rfl⟩ | ⟨Q, j, _, _, _, _, _, heff', _⟩
    · rcases heff.mem_tx hr with hold | ⟨s, a, rfl, hwait, hex, hw⟩
      · exact hap p q P Q' hpq hP hQ r hold r' hr'
      · exact apart_others hpq hQ hwait hex hw hr'
    · exact absurd hr' List.not_mem_nil
    · exact absurd (heff.actor_unique heff') hpq

theorem Run.apart (hc₀ : c₀.procs = []) (hrun : Run program Ok c₀ c) : Apart c := by
  induction hrun with
  | start =>
      intro p q P Q _ hP
      simp [hc₀] at hP
  | step _ _ hn ih => exact ih.next hn

/-! ## What a step commits -/

/-- The versions that an instruction commits: all uncommitted ones at `commit`,
a statement's own outside a transaction. -/
theorem Effect.get {db db' : Db} {wf : List Row} {tx tx' : Option (List Row)} {p : Nat}
    {i : Instr Stmt Ext} {r : Except ε (i.Ans A)} (h : Effect db wf tx p i e r tx' db')
    (k : Key) :
    get db' k = get db k ∨
    (e = .exec p ∧ i = .commit ∧ ∃ w ∈ tx.getD [], key Db w = k ∧ get db' k = some w) ∨
    (e = .exec p ∧ tx = none ∧ ∃ s a, i = .stmt s ∧ waits s db wf = false ∧ exec s db = .ok a ∧
      ∃ w ∈ written Db s a, key Db w = k ∧ get db' k = some w) := by
  rcases h.spec with ⟨rfl, _⟩ | ⟨he, hi, rfl, _⟩ |
      ⟨he, s, a, hi, hwait, hex, ⟨rfl, _⟩ | ⟨rfl, rfl, _⟩⟩
  · exact Or.inl rfl
  · rcases get_puts k (tx.getD []) db with ⟨w, hw, hk, hg⟩ | ⟨_, hg⟩
    · exact Or.inr (Or.inl ⟨he, hi, w, hw, hk, hg⟩)
    · exact Or.inl hg
  · exact Or.inl rfl
  · rcases get_puts k (written Db s a) db with ⟨w, hw, hk, hg⟩ | ⟨_, hg⟩
    · exact Or.inr (Or.inr ⟨he, rfl, s, a, hi, hwait, hex, w, hw, hk, hg⟩)
    · exact Or.inl hg

omit [DecidableEq Key] [Lawful Db] in
/-- An instruction that leaves uncommitted versions commits nothing. -/
theorem Effect.db_of_mem {db db' : Db} {wf : List Row} {tx tx' : Option (List Row)} {p : Nat}
    {i : Instr Stmt Ext} {r : Except ε (i.Ans A)} (h : Effect db wf tx p i e r tx' db') {w : Row}
    (hw : w ∈ tx'.getD []) : db' = db := by
  rcases h.spec with ⟨hdb, _⟩ | ⟨_, _, _, hnil⟩ | ⟨_, s, a, _, _, _, ⟨hdb, _⟩ | ⟨_, _, hnil⟩⟩
  · exact hdb
  · rw [hnil] at hw
    exact absurd hw List.not_mem_nil
  · exact hdb
  · rw [hnil] at hw
    exact absurd hw List.not_mem_nil

/-- A row that a call has an uncommitted version of is committed by no other
event than that call's own. -/
theorem get_next_of_pending (hap : Apart c) (h : next program c e = some c') {q : Nat}
    {Q : Proc Op Row Stmt Ext A ε Res} (hQ : c.procs[q]? = some Q) {w : Row} (hw : w ∈ Q.pending)
    (he : e ≠ .exec q) : get c'.db (key Db w) = get c.db (key Db w) := by
  rcases next_cases program h with ⟨o, rfl, rfl⟩ | ⟨p, P, i, k, r, tx, db, hP, hk, heff, rfl⟩
  · rfl
  · rcases heff.get (key Db w) with hg | ⟨rfl, rfl, v, hv, hkey, _⟩ |
        ⟨rfl, _, s, a, rfl, hwait, hex, v, hv, hkey, _⟩
    · exact hg
    · have hpq : p ≠ q := fun hpq => he (by rw [hpq])
      exact absurd hkey (hap p q P Q hpq hP hQ v hv w hw)
    · have hpq : p ≠ q := fun hpq => he (by rw [hpq])
      exact absurd hkey (apart_others hpq hQ hwait hex hv hw)

/-! ## Versions against the committed rows -/

/-- Every uncommitted version stands in `Rel` to the committed row under its
key. -/
def Versions (Rel : Row → Row → Prop) (c : Config Op Db Row Stmt Ext A ε Res) : Prop :=
  ∀ P ∈ c.procs, ∀ w ∈ P.pending, ∀ r, get c.db (key Db w) = some r → Rel r w

/-- Every version that the event writes stands in `Rel` to the committed row
under its key. -/
def WritesIn (Rel : Row → Row → Prop) (c : Config Op Db Row Stmt Ext A ε Res)
    (e : Event Op ε) : Prop :=
  ∀ p P s k a, e = .exec p → c.procs[p]? = some P → P.prog = .ask (.stmt s) k →
    exec s (view c.db P) = .ok a → ∀ w ∈ written Db s a, ∀ r,
      get c.db (key Db w) = some r → Rel r w

section
variable {Rel : Row → Row → Prop}

/-- What holds between every version and the committed row when it is written
still holds when it is committed, since nobody else commits the row meanwhile.
Thus a step changes a row in `Rel` or not at all. -/
theorem Versions.next (hver : Versions Rel c) (hap : Apart c) (h : next program c e = some c')
    (hwrite : WritesIn Rel c e) :
    Versions Rel c' ∧
      ∀ k r, get c.db k = some r → ∃ r', get c'.db k = some r' ∧ (r' = r ∨ Rel r r') := by
  have hstep := h
  rcases next_cases program h with ⟨o, rfl, rfl⟩ | ⟨p, P, i, k, r, tx, db, hP, hk, heff, rfl⟩
  · refine ⟨fun Q hQ w hw => ?_, fun k r hr => ⟨r, hr, Or.inl rfl⟩⟩
    rcases List.mem_append.mp hQ with hQ | hQ
    · exact hver Q hQ w hw
    · rw [List.mem_singleton.mp hQ] at hw
      exact absurd hw List.not_mem_nil
  have hlt : p < c.procs.length := (List.getElem?_eq_some_iff.mp hP).1
  have hmem : P ∈ c.procs := List.mem_of_getElem? hP
  constructor
  · intro Q hQ w hw r' hr'
    obtain ⟨q, hq⟩ := List.mem_iff_getElem?.mp hQ
    by_cases hpq : p = q
    · subst hpq
      simp only [List.getElem?_set_self hlt, Option.some.injEq] at hq
      subst hq
      rw [heff.db_of_mem hw] at hr'
      rcases heff.mem_tx hw with hold | ⟨s, a, rfl, _, hex, hwritten⟩
      · exact hver P hmem w hold r' hr'
      · cases heff with
        | failed hf => exact hver P hmem w (by cases hf; exact hw) r' hr'
        | answered _ => exact hwrite p P s k a rfl hP hk hex w hwritten r' hr'
    · simp only [List.getElem?_set_ne hpq] at hq
      have hne : e ≠ .exec q := by
        rintro rfl
        rcases heff.actor with he | ⟨x, he⟩ <;> cases he
        exact hpq rfl
      have hkept := get_next_of_pending hap hstep hq hw hne
      rw [hkept] at hr'
      exact hver Q (List.mem_of_getElem? hq) w hw r' hr'
  · intro key₀ r₀ hr₀
    rcases heff.get key₀ with hg | ⟨rfl, rfl, w, hw, rfl, hg⟩ |
        ⟨rfl, htx, s, a, rfl, _, hex, w, hw, rfl, hg⟩
    · exact ⟨r₀, hg.trans hr₀, Or.inl rfl⟩
    · exact ⟨w, hg, Or.inr (hver P hmem w hw r₀ hr₀)⟩
    · have hview : view c.db P = c.db := by simp [view, Proc.pending, htx]
      exact ⟨w, hg, Or.inr (hwrite p P s k a rfl hP hk (hview.symm ▸ hex) w hw r₀ hr₀)⟩

/-- So does what a call sees. -/
theorem Versions.seen (hrefl : ∀ r, Rel r r) (hver : Versions Rel c)
    {P : Proc Op Row Stmt Ext A ε Res} (hP : P ∈ c.procs) {k : Key} {r w : Row}
    (hw : get (view c.db P) k = some w) (hr : get c.db k = some r) : Rel r w := by
  rcases get_puts k P.pending c.db with ⟨v, hv, hkey, hown⟩ | ⟨_, hcommitted⟩
  · obtain rfl := Option.some.inj (hown.symm.trans hw)
    exact hver P hP v hv r (hkey ▸ hr)
  · obtain rfl := Option.some.inj ((hcommitted.trans hr).symm.trans hw)
    exact hrefl r

/-- What holds between a version and the row that its statement finds under its
key holds between the version and the committed row. -/
theorem Versions.writesIn (htrans : ∀ r r' r'', Rel r r' → Rel r' r'' → Rel r r'')
    (hwrite : ∀ (s : Stmt) (db : Db) (a : A s), exec s db = .ok a → ∀ w ∈ written Db s a,
      get db (key Db w) = none ∨ ∃ r, get db (key Db w) = some r ∧ Rel r w)
    (hver : Versions Rel c) : WritesIn Rel c e := by
  intro p P s k a _ hP _ hexec w hw r hr
  rcases get_puts (key Db w) P.pending c.db with ⟨v, hv, hkey, hown⟩ | ⟨_, hcommitted⟩
  · rcases hwrite s _ a hexec w hw with hnone | ⟨r', hr', hrel⟩
    · exact absurd (hown.symm.trans hnone) (by simp)
    · obtain rfl := Option.some.inj (hown.symm.trans hr')
      exact htrans _ _ _ (hver P (List.mem_of_getElem? hP) v hv r (hkey ▸ hr)) hrel
  · rcases hwrite s _ a hexec w hw with hnone | ⟨r', hr', hrel⟩
    · exact absurd ((hcommitted.trans hr).symm.trans hnone) (by simp)
    · obtain rfl := Option.some.inj ((hcommitted.trans hr).symm.trans hr')
      exact hrel

theorem Run.versions (hc₀ : c₀.procs = [])
    (hwrite : ∀ c e, Run program Ok c₀ c → Versions Rel c → Ok c e → WritesIn Rel c e)
    (hrun : Run program Ok c₀ c) : Versions Rel c := by
  induction hrun with
  | start => exact fun P hP => by simp [hc₀] at hP
  | step hrun hok hn ih => exact (ih.next (Run.apart hc₀ hrun) hn (hwrite _ _ hrun ih hok)).1

/-- A committed row goes on in `Rel`, through any number of steps. -/
theorem Run.related (hrefl : ∀ r, Rel r r) (htrans : ∀ r r' r'', Rel r r' → Rel r' r'' → Rel r r'')
    (hc₀ : c₀.procs = [])
    (hwrite : ∀ c e, Run program Ok c₀ c → Versions Rel c → Ok c e → WritesIn Rel c e)
    (hrun : Run program Ok c₀ c) (hrun' : Run program Ok c c') {k : Key} {r : Row}
    (hr : get c.db k = some r) : ∃ r', get c'.db k = some r' ∧ Rel r r' := by
  induction hrun' with
  | start => exact ⟨r, hr, hrefl r⟩
  | step hrun' hok hn ih =>
      obtain ⟨r₁, hr₁, hrel₁⟩ := ih
      have hbefore := hrun.trans hrun'
      have hver := Run.versions hc₀ hwrite hbefore
      obtain ⟨r₂, hr₂, hkept⟩ := (hver.next (Run.apart hc₀ hbefore) hn
        (hwrite _ _ hbefore hver hok)).2 k r₁ hr₁
      refine ⟨r₂, hr₂, ?_⟩
      rcases hkept with rfl | hrel₂
      · exact hrel₁
      · exact htrans _ _ _ hrel₁ hrel₂

/-- A committed row that no statement writes over stays. -/
theorem Run.stays {kind : Row → Prop} (hfixed : ∀ (s : Stmt) (db : Db) (a : A s), exec s db = .ok a →
      ∀ w ∈ written Db s a, ∀ r, get db (key Db w) = some r → ¬ kind r)
    (hc₀ : c₀.procs = []) (hrun : Run program Ok c₀ c) (hrun' : Run program Ok c c') {k : Key}
    {r : Row} (hr : get c.db k = some r) (hkind : kind r) : get c'.db k = some r := by
  have htrans : ∀ r r' r'' : Row, (kind r → r' = r) → (kind r' → r'' = r') → kind r → r'' = r := by
    intro r r' r'' h h' hkind
    obtain rfl := h hkind
    exact h' hkind
  have hwrite : ∀ (s : Stmt) (db : Db) (a : A s), exec s db = .ok a → ∀ w ∈ written Db s a,
      get db (key Db w) = none ∨ ∃ r, get db (key Db w) = some r ∧ (kind r → w = r) := by
    intro s db a hexec w hw
    cases hget : get db (key Db w) with
    | none => exact Or.inl rfl
    | some r => exact Or.inr ⟨r, rfl, fun hkind => absurd hkind (hfixed s db a hexec w hw r hget)⟩
  obtain ⟨r', hr', hsame⟩ := Run.related (fun _ _ => rfl) htrans hc₀
    (fun _ _ _ hver _ => hver.writesIn htrans hwrite) hrun hrun' hr
  rw [hr', hsame hkind]

end

/-! ## Rows wherever they are -/

/-- The row is committed, or an uncommitted version of some call. -/
def Present (c : Config Op Db Row Stmt Ext A ε Res) (r : Row) : Prop :=
  (∃ k, get c.db k = some r) ∨ ∃ P ∈ c.procs, r ∈ P.pending

/-- What a call sees is present. -/
theorem present_of_view {P : Proc Op Row Stmt Ext A ε Res} (hP : P ∈ c.procs) {k : Key} {r : Row}
    (h : get (view c.db P) k = some r) : Present c r := by
  rcases get_puts k P.pending c.db with ⟨w, hw, _, hg⟩ | ⟨_, hg⟩
  · obtain rfl := Option.some.inj (hg.symm.trans h)
    exact Or.inr ⟨P, hP, hw⟩
  · exact Or.inl ⟨k, hg.symm.trans h⟩

/-- The event has a call write the row, by a statement that need not wait. -/
def WrittenBy (c : Config Op Db Row Stmt Ext A ε Res) (e : Event Op ε) (w : Row) : Prop :=
  ∃ (p : Nat) (P : Proc Op Row Stmt Ext A ε Res) (s : Stmt)
    (k : Except ε (A s) → Prog (Instr Stmt Ext) (Instr.Ans A) ε Res) (a : A s),
    e = .exec p ∧ c.procs[p]? = some P ∧ P.prog = .ask (.stmt s) k ∧
      waits s (view c.db P) (others c.procs p) = false ∧ exec s (view c.db P) = .ok a ∧
      w ∈ written Db s a

/-- A step makes no row present but those that it writes. -/
theorem present_next (h : next program c e = some c') {r : Row} (hr : Present c' r) :
    Present c r ∨ WrittenBy c e r := by
  rcases next_cases program h with ⟨o, rfl, rfl⟩ | ⟨p, P, i, k, x, tx, db, hP, hk, heff, rfl⟩
  · rcases hr with hcommitted | ⟨Q, hQ, hr⟩
    · exact Or.inl (Or.inl hcommitted)
    · rcases List.mem_append.mp hQ with hQ | hQ
      · exact Or.inl (Or.inr ⟨Q, hQ, hr⟩)
      · rw [List.mem_singleton.mp hQ] at hr
        exact absurd hr List.not_mem_nil
  have hmem : P ∈ c.procs := List.mem_of_getElem? hP
  rcases hr with ⟨k₀, hr⟩ | ⟨Q, hQ, hr⟩
  · rcases heff.get k₀ with hg | ⟨_, _, w, hw, _, hg⟩ | ⟨he, htx, s, a, rfl, hwait, hex, w, hw, _, hg⟩
    · exact Or.inl (Or.inl ⟨k₀, hg.symm.trans hr⟩)
    · obtain rfl := Option.some.inj (hg.symm.trans hr)
      exact Or.inl (Or.inr ⟨P, hmem, hw⟩)
    · obtain rfl := Option.some.inj (hg.symm.trans hr)
      have hview : view c.db P = c.db := by simp [view, Proc.pending, htx]
      exact Or.inr ⟨p, P, s, k, a, he, hP, hk, hview.symm ▸ hwait, hview.symm ▸ hex, hw⟩
  · rcases List.mem_or_eq_of_mem_set hQ with hold | rfl
    · exact Or.inl (Or.inr ⟨Q, hold, hr⟩)
    · rcases heff.mem_tx hr with hold | ⟨s, a, rfl, hwait, hex, hw⟩
      · exact Or.inl (Or.inr ⟨P, hmem, hold⟩)
      · cases heff with
        | failed hf =>
            cases hf
            exact Or.inl (Or.inr ⟨P, hmem, hr⟩)
        | answered _ => exact Or.inr ⟨p, P, s, k, a, rfl, hP, hk, hwait, hex, hw⟩

/-- Every committed row and every uncommitted version satisfies `I`. -/
structure Everywhere (I : Row → Prop) (c : Config Op Db Row Stmt Ext A ε Res) : Prop where
  committed : ∀ k r, get c.db k = some r → I r
  pending : ∀ P ∈ c.procs, ∀ w ∈ P.pending, I w

section
variable {I : Row → Prop}

omit [DecidableEq Key] [Lawful Db] in
theorem Everywhere.of_present (h : Everywhere I c) {r : Row} (hr : Present c r) : I r := by
  rcases hr with ⟨k, hr⟩ | ⟨P, hP, hr⟩
  · exact h.committed k r hr
  · exact h.pending P hP r hr

theorem Everywhere.view (h : Everywhere I c) {P : Proc Op Row Stmt Ext A ε Res}
    (hP : P ∈ c.procs) {k : Key} {r : Row} (hr : get (view c.db P) k = some r) : I r :=
  h.of_present (present_of_view hP hr)

/-- It is enough that a statement writes such rows when it sees only such
rows. -/
theorem Everywhere.next (hall : Everywhere I c) (h : next program c e = some c')
    (hwrite : ∀ P ∈ c.procs, ∀ s k a, P.prog = .ask (.stmt s) k →
      exec s (Txn.view c.db P) = .ok a → ∀ w ∈ written Db s a, I w) : Everywhere I c' := by
  have hpresent : ∀ r, Present c' r → I r := by
    intro r hr
    rcases present_next h hr with hold | ⟨p, P, s, k, a, _, hP, hk, _, hex, hw⟩
    · exact hall.of_present hold
    · exact hwrite P (List.mem_of_getElem? hP) s k a hk hex r hw
  exact ⟨fun k r hr => hpresent r (Or.inl ⟨k, hr⟩), fun P hP w hw => hpresent w (Or.inr ⟨P, hP, hw⟩)⟩

end

omit [DecidableEq Key] [Lawful Db] in
/-- Every call goes on, with what it has asked before. -/
theorem hist_of_next (h : next program c e = some c') {P : Proc Op Row Stmt Ext A ε Res}
    (hP : P ∈ c.procs) : ∃ P' ∈ c'.procs, P'.op = P.op ∧ P.hist <:+ P'.hist := by
  rcases next_cases program h with ⟨o, rfl, rfl⟩ | ⟨p, Q, i, k, r, tx, db, hQ, hk, heff, rfl⟩
  · exact ⟨P, List.mem_append_left _ hP, rfl, List.suffix_rfl⟩
  · obtain ⟨q, hq⟩ := List.mem_iff_getElem?.mp hP
    have hlt : p < c.procs.length := (List.getElem?_eq_some_iff.mp hQ).1
    by_cases hpq : p = q
    · subst hpq
      obtain rfl := Option.some.inj (hQ.symm.trans hq)
      exact ⟨_, List.mem_of_getElem? (List.getElem?_set_self hlt), rfl, List.suffix_cons _ _⟩
    · exact ⟨P, List.mem_of_getElem? ((List.getElem?_set_ne hpq).trans hq), rfl, List.suffix_rfl⟩

omit [DecidableEq Key] [Lawful Db] in
/-- Every call goes on, as the same operation. -/
theorem op_of_next (h : next program c e = some c') {P : Proc Op Row Stmt Ext A ε Res}
    (hP : P ∈ c.procs) : ∃ P' ∈ c'.procs, P'.op = P.op := by
  obtain ⟨P', hP', hop, _⟩ := hist_of_next h hP
  exact ⟨P', hP', hop⟩

/-- What holds of the rows at first, is not lost from one configuration to the
next, and is kept by the statements that write, holds of all rows. -/
theorem Run.everywhere {I : Config Op Db Row Stmt Ext A ε Res → Row → Prop}
    (h₀ : ∀ k r, get c₀.db k = some r → I c₀ r) (hc₀ : c₀.procs = [])
    (hmono : ∀ c c' e, next program c e = some c' → ∀ r, I c r → I c' r)
    (hwrite : ∀ c, Run program Ok c₀ c → ∀ P ∈ c.procs, ∀ s k a, P.prog = .ask (.stmt s) k →
      exec s (view c.db P) = .ok a → (∀ k r, get (view c.db P) k = some r → I c r) →
        ∀ w ∈ written Db s a, I c w)
    (hrun : Run program Ok c₀ c) : Everywhere (I c) c := by
  induction hrun with
  | start => exact ⟨h₀, fun P hP => by simp [hc₀] at hP⟩
  | step hrun _ hn ih =>
      have hnext := ih.next hn fun P hP s k a hk hex =>
        hwrite _ hrun P hP s k a hk hex fun _ _ hr => ih.view hP hr
      exact ⟨fun k r hr => hmono _ _ _ hn r (hnext.committed k r hr),
        fun P hP w hw => hmono _ _ _ hn w (hnext.pending P hP w hw)⟩

/-! ## Serial runs are interleavings -/

/-- Every other call is outside a transaction. -/
def Quiet (c : Config Op Db Row Stmt Ext A ε Res) (p : Nat) : Prop :=
  ∀ (q : Nat) (Q : Proc Op Row Stmt Ext A ε Res), q ≠ p → c.procs[q]? = some Q → Q.tx = none

omit [DecidableEq Key] [Lawful Db] in
theorem Quiet.others {p : Nat} (h : Quiet c p) : others c.procs p = [] := by
  refine List.eq_nil_iff_forall_not_mem.mpr fun r hr => ?_
  obtain ⟨q, Q, hq, hQ, hr⟩ := mem_others.mp hr
  simp [Proc.pending, h q Q hq hQ] at hr

/-- The program of a call that has ended. -/
def Prog.ended : Except ε Res → Prog (Instr Stmt Ext) (Instr.Ans A) ε Res
  | .ok a => .ret a
  | .error e => .throw e

/-- The state a call's serial run goes on from. -/
def Proc.serialState (db : Db) (P : Proc Op Row Stmt Ext A ε Res) (log : List Ext) :
    SerialState Db Ext :=
  ⟨P.tx.map fun _ => db, view db P, log⟩

/-- **A serial run is one of the interleavings.**  While every other call is
outside a transaction, letting one call go on alone ends it, with the result
and the state of its serial run. -/
theorem serial_run (p : Nat) :
    ∀ (prog : Prog (Instr Stmt Ext) (Instr.Ans A) ε Res)
      (c : Config Op Db Row Stmt Ext A ε Res) (P : Proc Op Row Stmt Ext A ε Res) (log : List Ext),
      P.prog = prog → c.procs[p]? = some P → Quiet c p →
        ∃ n c' P' log', runEvents program c (List.replicate n (.exec p)) = some c' ∧
          (∀ q, q ≠ p → c'.procs[q]? = c.procs[q]?) ∧ c'.procs[p]? = some P' ∧ P'.op = P.op ∧
          P'.prog = Prog.ended (prog.serial (P.serialState c.db log)).2 ∧
          (prog.serial (P.serialState c.db log)).1 = P'.serialState c'.db log' := by
  intro prog
  induction prog with
  | ret a =>
      intro c P log hprog hP _
      exact ⟨0, c, P, log, rfl, fun _ _ => rfl, hP, rfl, hprog, rfl⟩
  | throw x =>
      intro c P log hprog hP _
      exact ⟨0, c, P, log, rfl, fun _ _ => rfl, hP, rfl, hprog, rfl⟩
  | ask i k ih =>
      intro c P log hprog hP hquiet
      have hlt : p < c.procs.length := (List.getElem?_eq_some_iff.mp hP).1
      -- it is enough to show the one step that issues `i`
      suffices hone : ∃ r tx db log', effect c.db [] P.tx i = some (r, tx, db) ∧
          (Prog.ask i k).serial (P.serialState c.db log)
            = (k r).serial ((P.advance i k r tx).serialState db log') by
        obtain ⟨r, tx, db, log', heff, hser⟩ := hone
        have hnext : next program c (.exec p) = some ⟨db, c.procs.set p (P.advance i k r tx)⟩ := by
          simp only [next, hP, hprog, hquiet.others, heff]
        have hquiet' : Quiet ⟨db, c.procs.set p (P.advance i k r tx)⟩ p := by
          intro q Q hq hQ
          rw [List.getElem?_set_ne (Ne.symm hq)] at hQ
          exact hquiet q Q hq hQ
        obtain ⟨n, c', P', log'', hrun, hoth, hP', hop, hend, hst⟩ :=
          ih r ⟨db, c.procs.set p (P.advance i k r tx)⟩ (P.advance i k r tx) log' rfl
            (List.getElem?_set_self hlt) hquiet'
        refine ⟨n + 1, c', P', log'', ?_, ?_, hP', hop, ?_, ?_⟩
        · simp only [List.replicate_succ, runEvents, hnext]
          exact hrun
        · intro q hq
          rw [hoth q hq, List.getElem?_set_ne (Ne.symm hq)]
        · rw [hser]; exact hend
        · rw [hser]; exact hst
      cases i with
      | begin =>
          refine ⟨.ok (), some (P.tx.getD []), c.db, log, rfl, ?_⟩
          cases htx : P.tx <;>
            simp [Prog.serial, Proc.serialState, Proc.advance, view, Proc.pending, htx]
      | commit =>
          exact ⟨.ok (), none, puts c.db (P.tx.getD []), log, rfl, rfl⟩
      | rollback =>
          refine ⟨.ok (), none, c.db, log, rfl, ?_⟩
          cases htx : P.tx <;>
            simp [Prog.serial, Proc.serialState, Proc.advance, view, Proc.pending, htx]
      | call x => exact ⟨.ok (), P.tx, c.db, log ++ [x], rfl, rfl⟩
      | stmt s =>
          have hwait : waits s (puts c.db (P.tx.getD [])) ([] : List Row) = false :=
            Lawful.alone s _
          cases hex : exec s (puts c.db (P.tx.getD [])) with
          | error x =>
              refine ⟨.error x, P.tx, c.db, log, ?_, ?_⟩
              · simp [effect, hwait, hex]
              · simp only [Prog.serial, Proc.serialState, view, Proc.pending, hex]
                rfl
          | ok a =>
              cases htx : P.tx with
              | none =>
                  rw [htx] at hex hwait
                  refine ⟨.ok a, none, puts c.db (written Db s a), log, ?_, ?_⟩
                  · simp only [effect]
                    rw [hwait, hex]
                    rfl
                  · simp only [Prog.serial, Proc.serialState, view, Proc.pending, htx, hex]
                    rfl
              | some w =>
                  rw [htx] at hex hwait
                  refine ⟨.ok a, some (w ++ written Db s a), c.db, log, ?_, ?_⟩
                  · simp only [effect]
                    rw [hwait, hex]
                    rfl
                  · simp only [Prog.serial, Proc.serialState, view, Proc.pending, htx, hex]
                    simp [Proc.advance, puts_append]

end

end Txn
