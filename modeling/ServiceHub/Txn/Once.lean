/-
# `Txn.Once` — what a call has committed, and what is done at most once

A statement counts when it was answered outside a transaction, or in one that
was committed (`kept`); it stands when it counts or its transaction is open
(`standing`).  Only the statements that count have changed the committed state
(`Run.kept_next`).

**At most once.**  Some statements are done at most once, whoever issues them:
an insert of a row that a unique index keeps apart from its like, an update
with a condition that no row meets any more afterwards.  `Blocking` says what
they have in common: they leave a marked row behind, they are not done where a
marked row is seen, and they wait for one that is uncommitted.  If no statement
takes the mark away, then no two calls have such a statement standing
(`Run.once`).
-/
import ServiceHub.Txn.History

namespace Txn

open Database

section
variable {Op Db Row Key Stmt Ext ε Res : Type} {A : Stmt → Type}

/-- The statements that count, the latest first. -/
def kept : Hist (Instr Stmt Ext) (Instr.Ans A) ε → List ((s : Stmt) × A s)
  | [] => []
  | ⟨.commit, .ok _⟩ :: h => (sinceBegin h).getD [] ++ kept h
  | ⟨.commit, .error _⟩ :: h => kept h
  | ⟨.stmt s, .ok a⟩ :: h => if (sinceBegin h).isSome then kept h else ⟨s, a⟩ :: kept h
  | ⟨.stmt _, .error _⟩ :: h => kept h
  | ⟨.begin, _⟩ :: h => kept h
  | ⟨.rollback, _⟩ :: h => kept h
  | ⟨.call _, _⟩ :: h => kept h

/-- The statements that count or may still count. -/
def standing (h : Hist (Instr Stmt Ext) (Instr.Ans A) ε) : List ((s : Stmt) × A s) :=
  (sinceBegin h).getD [] ++ kept h

theorem mem_of_kept {x : (s : Stmt) × A s} : ∀ {h : Hist (Instr Stmt Ext) (Instr.Ans A) ε},
    x ∈ kept h → (⟨.stmt x.1, .ok x.2⟩ : (i : Instr Stmt Ext) × Except ε (i.Ans A)) ∈ h
  | ⟨.commit, .ok _⟩ :: h, hx => by
      rcases List.mem_append.mp hx with hx | hx
      · exact List.mem_cons_of_mem _ (mem_of_sinceBegin hx)
      · exact List.mem_cons_of_mem _ (mem_of_kept hx)
  | ⟨.commit, .error _⟩ :: _, hx => List.mem_cons_of_mem _ (mem_of_kept hx)
  | ⟨.begin, _⟩ :: _, hx => List.mem_cons_of_mem _ (mem_of_kept hx)
  | ⟨.rollback, _⟩ :: _, hx => List.mem_cons_of_mem _ (mem_of_kept hx)
  | ⟨.call _, _⟩ :: _, hx => List.mem_cons_of_mem _ (mem_of_kept hx)
  | ⟨.stmt _, .error _⟩ :: _, hx => List.mem_cons_of_mem _ (mem_of_kept hx)
  | ⟨.stmt s, .ok a⟩ :: h, hx => by
      cases hopen : sinceBegin h with
      | some l => exact List.mem_cons_of_mem _ (mem_of_kept (by simpa [kept, hopen] using hx))
      | none =>
          simp only [kept, hopen, Option.isSome_none, Bool.false_eq_true, if_false] at hx
          rcases List.mem_cons.mp hx with rfl | hx
          · exact List.mem_cons_self
          · exact List.mem_cons_of_mem _ (mem_of_kept hx)

/-- What an answer makes count: nothing, the open transaction, or one statement
outside of one. -/
theorem kept_cons_cases {h : Hist (Instr Stmt Ext) (Instr.Ans A) ε} {i : Instr Stmt Ext}
    {r : Except ε (i.Ans A)} {new : List ((s : Stmt) × A s)}
    (hkept : kept (⟨i, r⟩ :: h) = new ++ kept h) :
    new = [] ∨ (i = .commit ∧ new = (sinceBegin h).getD []) ∨
    ∃ s a, (⟨i, r⟩ : (i : Instr Stmt Ext) × Except ε (i.Ans A)) = ⟨.stmt s, .ok a⟩ ∧
      sinceBegin h = none ∧ new = [⟨s, a⟩] := by
  have hnothing : kept h = new ++ kept h → new = [] := fun heq => List.self_eq_append_left.mp heq
  cases i with
  | begin => exact Or.inl (hnothing hkept)
  | rollback => exact Or.inl (hnothing hkept)
  | call _ => exact Or.inl (hnothing hkept)
  | commit =>
      cases r with
      | error _ => exact Or.inl (hnothing hkept)
      | ok _ => exact Or.inr (Or.inl ⟨rfl, (List.append_cancel_right hkept).symm⟩)
  | stmt s =>
      cases r with
      | error _ => exact Or.inl (hnothing hkept)
      | ok a =>
          cases hopen : sinceBegin h with
          | some l =>
              simp only [kept, hopen, Option.isSome_some, if_true] at hkept
              exact Or.inl (hnothing hkept)
          | none =>
              simp only [kept, hopen, Option.isSome_none, Bool.false_eq_true, if_false] at hkept
              have hone : [⟨s, a⟩] ++ kept h = new ++ kept h := hkept
              exact Or.inr (Or.inr ⟨s, a, rfl, rfl, (List.append_cancel_right hone).symm⟩)

/-! ### What a call leaves -/

section
variable [Database Db Row Key Stmt ε A] {h : Hist (Instr Stmt Ext) (Instr.Ans A) ε}

variable (Db) in
/-- The rows of a kind that the call has committed, in order. -/
def left (kind : Row → Bool) (h : Hist (Instr Stmt Ext) (Instr.Ans A) ε) : List Row :=
  (rowsOf Db (kept h)).filter kind

variable {kind : Row → Bool}

theorem left_ok {s : Stmt} {a : A s} (hout : sinceBegin h = none) :
    left Db kind (⟨.stmt s, .ok a⟩ :: h) = left Db kind h ++ (written Db s a).filter kind := by
  simp [left, kept, hout, rowsOf_cons]

/-- What writes nothing of the kind leaves nothing of it. -/
theorem left_cons {s : Stmt} {r : Except ε (A s)} (hout : sinceBegin h = none)
    (hnone : ∀ a, (written Db s a).filter kind = []) :
    left Db kind (⟨.stmt s, r⟩ :: h) = left Db kind h := by
  cases r with
  | error e => rfl
  | ok a => rw [left_ok hout, hnone, List.append_nil]

end

section
variable {h : Hist (Instr Stmt Ext) (Instr.Ans A) ε} {x : (s : Stmt) × A s}

/-- A statement stands because it did, or because it was just answered. -/
theorem mem_standing_cons {i : Instr Stmt Ext} {r : Except ε (i.Ans A)}
    (hx : x ∈ standing (⟨i, r⟩ :: h)) : x ∈ standing h ∨
      (⟨i, r⟩ : (i : Instr Stmt Ext) × Except ε (i.Ans A)) = ⟨.stmt x.1, .ok x.2⟩ := by
  cases i with
  | begin =>
      cases r with
      | ok _ => exact Or.inl hx
      | error _ => exact Or.inl hx
  | commit =>
      cases r with
      | ok _ => exact Or.inl hx
      | error _ => exact Or.inl (List.mem_append_right _ hx)
  | rollback => exact Or.inl (List.mem_append_right _ hx)
  | call _ => exact Or.inl hx
  | stmt s =>
      cases r with
      | error _ => exact Or.inl hx
      | ok a =>
          rcases hopen : sinceBegin h with _ | l <;>
            simp only [standing, sinceBegin, kept, hopen, Option.isSome_none, Option.isSome_some,
              Option.map_none, Option.map_some, Option.getD_none, Option.getD_some, if_true,
              List.nil_append, List.cons_append, List.mem_cons, Bool.false_eq_true, if_false] at hx ⊢
          all_goals
            rcases hx with rfl | hx
            · exact Or.inr rfl
            · exact Or.inl hx

/-- In an open transaction nothing begins to count. -/
theorem Since.kept {Q : Hist (Instr Stmt Ext) (Instr.Ans A) ε → Instr Stmt Ext → Prop}
    {h' : Hist (Instr Stmt Ext) (Instr.Ans A) ε} (hs : Since Q h h')
    {l : List ((s : Stmt) × A s)} (hopen : Txn.sinceBegin h = some l) :
    Txn.kept h' = Txn.kept h := by
  induction hs with
  | refl => rfl
  | @stmt h' s r hs _ ih =>
      obtain ⟨new, hnew, _⟩ := hs.sinceBegin hopen
      cases r with
      | error e => exact ih
      | ok a => simpa [Txn.kept, hnew] using ih

/-- A body goes on by statements only. -/
theorem obeys_autocommit_since {Q : Hist (Instr Stmt Ext) (Instr.Ans A) ε → Instr Stmt Ext → Prop}
    {α : Type} {R : Hist (Instr Stmt Ext) (Instr.Ans A) ε → Except ε α → Prop}
    {h₀ : Hist (Instr Stmt Ext) (Instr.Ans A) ε} :
    ∀ {p : Prog Stmt A ε α} {h : Hist (Instr Stmt Ext) (Instr.Ans A) ε}, Since Q h₀ h →
      Obeys Q R h (autocommit Ext p) →
      Obeys Q (fun h' r => Since Q h₀ h' ∧ R h' r) h (autocommit Ext p)
  | .ret _, _, hs, hp => ⟨hs, hp⟩
  | .throw _, _, hs, hp => ⟨hs, hp⟩
  | .ask _ _, _, hs, hp => ⟨hp.1, fun r => obeys_autocommit_since (.stmt hs hp.1) (hp.2 r)⟩

/-- **A transaction** commits what its body has done, or nothing; whatever `f`
counts of the calls to the outside stays. -/
theorem obeys_transaction_kept {α β : Type} {body : Prog Stmt A ε α}
    {R : List ((s : Stmt) × A s) → α → Prop} {f : Hist (Instr Stmt Ext) (Instr.Ans A) ε → β}
    (hf : ∀ h i r, (∀ x, i ≠ .call x) → f (⟨i, r⟩ :: h) = f h) (hout : Txn.sinceBegin h = none)
    (hbody : Obeys (fun _ _ => True)
      (fun h' r => ∀ a, r = .ok a → ∃ l, Txn.sinceBegin h' = some l ∧ R l a)
      (⟨.begin, .ok ()⟩ :: h) (autocommit Ext body)) :
    Obeys (fun _ _ => True) (fun h' r => f h' = f h ∧
      match r with
      | .ok a => ∃ l, Txn.kept h' = l ++ Txn.kept h ∧ R l a
      | .error _ => Txn.kept h' = Txn.kept h) h (transaction Ext body) := by
  have hopen : Txn.sinceBegin (⟨.begin, .ok ()⟩ :: h : Hist (Instr Stmt Ext) (Instr.Ans A) ε) =
      some [] := by simp [Txn.sinceBegin, hout]
  have hsame : ∀ {h' : Hist (Instr Stmt Ext) (Instr.Ans A) ε},
      Since (fun _ _ => True) (⟨.begin, .ok ()⟩ :: h) h' → f h' = f h := by
    intro h' hs
    induction hs with
    | refl => exact hf _ _ _ (by simp)
    | stmt _ _ ih => exact (hf _ _ _ (by simp)).trans ih
  refine obeys_transaction.mpr ⟨trivial, fun e => ⟨hf _ _ _ (by simp), rfl⟩, ?_⟩
  refine (obeys_autocommit_since .refl hbody).mono (fun _ _ hq => hq) ?_
  rintro h' (e | a) ⟨hs, hr⟩
  · have hkept : Txn.kept h' = Txn.kept h := hs.kept hopen
    exact ⟨trivial, fun _ => ⟨(hf _ _ _ (by simp)).trans (hsame hs), hkept⟩⟩
  · obtain ⟨l, hl, hla⟩ := hr a rfl
    have hkept : Txn.kept h' = Txn.kept h := hs.kept hopen
    refine ⟨trivial, ⟨(hf _ _ _ (by simp)).trans (hsame hs), l, ?_, hla⟩, fun _ =>
      ⟨(hf _ _ _ (by simp)).trans (hsame hs), hkept⟩⟩
    rw [← hkept]
    simp [Txn.kept, hl]

end

variable [Database Db Row Key Stmt ε A] [DecidableEq Key] [Lawful Db]
  {program : Op → Prog (Instr Stmt Ext) (Instr.Ans A) ε Res}
  {Ok : Config Op Db Row Stmt Ext A ε Res → Event Op ε → Prop}
  {c₀ c c' : Config Op Db Row Stmt Ext A ε Res} {e : Event Op ε}

/-! ## What is committed -/

omit [DecidableEq Key] [Lawful Db] in
/-- What an event of a call commits are the statements that begin to count. -/
theorem Effect.kept {db db' : Db} {wf : List Row} {tx : Option (List Row)} {p : Nat}
    {h : Hist (Instr Stmt Ext) (Instr.Ans A) ε} {i : Instr Stmt Ext} {r : Except ε (i.Ans A)}
    (heff : Effect db wf ((sinceBegin h).map (rowsOf Db)) p i e r tx db') :
    ∃ new, kept (⟨i, r⟩ :: h) = new ++ kept h ∧ db' = puts db (rowsOf Db new) := by
  cases heff with
  | failed hf =>
      cases i with
      | rollback => cases hf
      | call x => cases hf
      | _ => exact ⟨[], rfl, rfl⟩
  | answered he =>
      cases i with
      | begin => cases he; exact ⟨[], rfl, rfl⟩
      | rollback => cases he; exact ⟨[], rfl, rfl⟩
      | call x => cases he; exact ⟨[], rfl, rfl⟩
      | commit =>
          cases he
          refine ⟨(sinceBegin h).getD [], rfl, ?_⟩
          cases sinceBegin h <;> rfl
      | stmt s =>
          simp only [effect] at he
          split at he
          · exact absurd he (by simp)
          cases hopen : sinceBegin h with
          | none =>
              simp only [hopen, Option.map_none] at he
              split at he <;> cases he
              · rename_i a _ _
                exact ⟨[⟨s, a⟩], by simp [Txn.kept, hopen], by simp [rowsOf]⟩
              · simp_all
              · exact ⟨[], rfl, rfl⟩
          | some l =>
              simp only [hopen, Option.map_some] at he
              split at he <;> cases he
              · simp_all
              · exact ⟨[], by simp [Txn.kept, hopen], rfl⟩
              · exact ⟨[], rfl, rfl⟩

omit [DecidableEq Key] [Lawful Db] in
/-- **The committed state changes only by statements that begin to count.** -/
theorem Run.kept_next (hc₀ : c₀.procs = []) (hrun : Run program Ok c₀ c)
    (hn : next program c e = some c') :
    (∃ o, e = .spawn o ∧ c'.db = c.db) ∨
    ∃ (p : Nat) (P P' : Proc Op Row Stmt Ext A ε Res) (new : List ((s : Stmt) × A s)),
      c.procs[p]? = some P ∧ c'.procs[p]? = some P' ∧ P'.op = P.op ∧
        kept P'.hist = new ++ kept P.hist ∧ c'.db = puts c.db (rowsOf Db new) := by
  rcases next_cases program hn with ⟨o, rfl, rfl⟩ | ⟨p, P, i, k, r, tx, db, hP, hk, heff, rfl⟩
  · exact Or.inl ⟨o, rfl, rfl⟩
  · rw [Run.tx_eq hc₀ hrun P (List.mem_of_getElem? hP)] at heff
    obtain ⟨new, hkept, hdb⟩ := heff.kept
    have hlt : p < c.procs.length := (List.getElem?_eq_some_iff.mp hP).1
    exact Or.inr ⟨p, P, _, new, hP, List.getElem?_set_self hlt, rfl, hkept, hdb⟩

/-- What a call has committed is in the database, in this version or a later
one. -/
theorem Run.isSome_of_kept (hc₀ : c₀.procs = []) (hrun : Run program Ok c₀ c)
    {P : Proc Op Row Stmt Ext A ε Res} (hP : P ∈ c.procs) {w : Row}
    (hw : w ∈ rowsOf Db (kept P.hist)) : (get c.db (key Db w)).isSome := by
  induction hrun generalizing P with
  | start => simp [hc₀] at hP
  | @step c c' e hrun _ hn ih =>
      have hstay : ∀ k, (get c.db k).isSome → (get c'.db k).isSome := by
        intro k hk
        rcases hrun.kept_next hc₀ hn with ⟨_, _, hdb⟩ | ⟨_, _, _, new, _, _, _, _, hdb⟩
        · rwa [hdb]
        · rw [hdb]
          exact isSome_get_puts _ hk
      obtain ⟨q, hq⟩ := List.mem_iff_getElem?.mp hP
      rcases proc_of_next hn hq with hold | ⟨_, _, _, rfl⟩ | ⟨P, i, k, r, tx, hold, _, heff, rfl⟩
      · exact hstay _ (ih (List.mem_of_getElem? hold) hw)
      · exact absurd hw List.not_mem_nil
      · rw [Run.tx_eq hc₀ hrun P (List.mem_of_getElem? hold)] at heff
        obtain ⟨new, hkept, hdb⟩ := heff.kept
        have hw : w ∈ rowsOf Db (kept (⟨i, r⟩ :: P.hist)) := hw
        rw [hkept, rowsOf_append] at hw
        rcases List.mem_append.mp hw with hw | hw
        · exact hstay _ (ih (List.mem_of_getElem? hold) hw)
        · rw [hdb]
          rcases get_puts (key Db w) (rowsOf Db new) c.db with ⟨_, _, _, hg⟩ | ⟨hnone, _⟩
          · rw [hg]
            rfl
          · exact absurd rfl (hnone w hw)

/-! ## At most once -/

/-- The statements of a kind leave marked rows behind, are not done where a
marked row is seen, and wait for an uncommitted one. -/
structure Blocking (Db : Type) {Row Key Stmt ε : Type} {A : Stmt → Type}
    [Database Db Row Key Stmt ε A] (did : (s : Stmt) → A s → Prop) (mark : Row → Prop) : Prop where
  marks : ∀ (s : Stmt) (db : Db) (a : A s), exec s db = .ok a → did s a →
    written Db s a ≠ [] ∧ ∀ w ∈ written Db s a, mark w
  finds : ∀ (s : Stmt) (db : Db) (a : A s), exec s db = .ok a → did s a →
    ∀ k r, get db k = some r → ¬ mark r
  waits : ∀ (s : Stmt) (db : Db) (others : List Row) (a : A s), waits s db others = false →
    exec s db = .ok a → did s a → ∀ o ∈ others, ¬ mark o

/-- Some statement of the list is of the kind. -/
def Did (did : (s : Stmt) → A s → Prop) (l : List ((s : Stmt) × A s)) : Prop :=
  ∃ x ∈ l, did x.1 x.2

section
variable {did : (s : Stmt) → A s → Prop} {mark : Row → Prop}

/-- What is done is marked: in the committed state if it counts, in an
uncommitted version that its call sees if its transaction is open.  And it is
done once. -/
structure Marked (did : (s : Stmt) → A s → Prop) (mark : Row → Prop)
    (c : Config Op Db Row Stmt Ext A ε Res) : Prop where
  committed : ∀ P ∈ c.procs, Did did (kept P.hist) → ∃ k r, get c.db k = some r ∧ mark r
  pending : ∀ P ∈ c.procs, Did did ((sinceBegin P.hist).getD []) →
    ∃ w ∈ P.pending, mark w ∧ get (view c.db P) (key Db w) = some w
  once : ∀ (p q : Nat) (P Q : Proc Op Row Stmt Ext A ε Res), p ≠ q → c.procs[p]? = some P →
    c.procs[q]? = some Q → Did did (standing P.hist) → ¬ Did did (standing Q.hist)

omit [Database Db Row Key Stmt ε A] [DecidableEq Key] [Lawful Db] in
theorem did_standing {h : Hist (Instr Stmt Ext) (Instr.Ans A) ε} :
    Did did (standing h) ↔ Did did ((sinceBegin h).getD []) ∨ Did did (kept h) := by
  simp only [Did, standing, List.mem_append, or_and_right, exists_or]

omit [Database Db Row Key Stmt ε A] [DecidableEq Key] [Lawful Db] in
/-- A call has done it because it had, or because it just did. -/
theorem did_standing_cons {h : Hist (Instr Stmt Ext) (Instr.Ans A) ε} {i : Instr Stmt Ext}
    {r : Except ε (i.Ans A)} (hdid : Did did (standing (⟨i, r⟩ :: h))) :
    Did did (standing h) ∨ ∃ s a, did s a ∧
      (⟨i, r⟩ : (i : Instr Stmt Ext) × Except ε (i.Ans A)) = ⟨.stmt s, .ok a⟩ := by
  obtain ⟨x, hx, hdx⟩ := hdid
  rcases mem_standing_cons hx with hold | hnew
  · exact Or.inl ⟨x, hold, hdx⟩
  · exact Or.inr ⟨x.1, x.2, hdx, hnew⟩

/-- While a call has done it, no other does. -/
theorem Marked.not_did (hblock : Blocking Db did mark) (hm : Marked did mark c)
    (hver : Versions (fun r w => mark r → mark w) c) {p q : Nat} (hpq : p ≠ q)
    {P Q : Proc Op Row Stmt Ext A ε Res} (hP : c.procs[p]? = some P) (hQ : c.procs[q]? = some Q)
    (hdone : Did did (standing Q.hist)) {s : Stmt} {a : A s}
    (hwait : waits s (view c.db P) (others c.procs p) = false)
    (hex : exec s (view c.db P) = .ok a) : ¬ did s a := by
  intro hdid
  rcases did_standing.mp hdone with hopen | hkept
  · obtain ⟨w, hw, hmark, _⟩ := hm.pending Q (List.mem_of_getElem? hQ) hopen
    exact hblock.waits s _ _ a hwait hex hdid w
      (mem_others.mpr ⟨q, Q, fun h => hpq h.symm, hQ, hw⟩) hmark
  · obtain ⟨k, r, hr, hmark⟩ := hm.committed Q (List.mem_of_getElem? hQ) hkept
    -- the call sees the marked row, or its own version of it
    rcases get_puts k P.pending c.db with ⟨w, hw, rfl, hfound⟩ | ⟨_, hfound⟩
    · exact hblock.finds s _ a hex hdid _ w hfound
        (hver P (List.mem_of_getElem? hP) w hw r hr hmark)
    · exact hblock.finds s _ a hex hdid k r (hfound.trans hr) hmark

/-- What a statement of an open transaction leaves is marked, if it was or if
the statement is of the kind. -/
theorem mark_of_append (hblock : Blocking Db did mark) {db : Db} {ws : List Row} {s : Stmt}
    {a : A s} (hex : exec s (puts db ws) = .ok a)
    (hkeep : ∀ w ∈ written Db s a, ∀ r, get (puts db ws) (key Db w) = some r → mark r → mark w)
    (h : did s a ∨ ∃ w ∈ ws, mark w ∧ get (puts db ws) (key Db w) = some w) :
    ∃ w ∈ ws ++ written Db s a, mark w ∧
      get (puts db (ws ++ written Db s a)) (key Db w) = some w := by
  rw [puts_append]
  rcases h with hdid | ⟨w, hw, hmark, hget⟩
  · obtain ⟨hne, hall⟩ := hblock.marks s _ a hex hdid
    obtain ⟨w, hw⟩ := List.exists_mem_of_ne_nil _ hne
    rcases get_puts (key Db w) (written Db s a) (puts db ws) with ⟨w', hw', hk, hg⟩ | ⟨hnone, _⟩
    · exact ⟨w', List.mem_append_right _ hw', hall w' hw', hk ▸ hg⟩
    · exact absurd rfl (hnone w hw)
  · rcases get_puts (key Db w) (written Db s a) (puts db ws) with ⟨w', hw', hk, hg⟩ | ⟨_, hg⟩
    · refine ⟨w', List.mem_append_right _ hw', hkeep w' hw' w ?_ hmark, hk ▸ hg⟩
      rw [hk]
      exact hget
    · exact ⟨w, List.mem_append_left _ hw, hmark, hg.trans hget⟩

/-- One instruction of a call: what it has committed is marked. -/
theorem Marked.committed_advance (hblock : Blocking Db did mark) (hm : Marked did mark c)
    {db' : Db} (hstay : ∀ k r, get c.db k = some r →
      ∃ r', get db' k = some r' ∧ (r' = r ∨ (mark r → mark r')))
    {p : Nat} {P : Proc Op Row Stmt Ext A ε Res} (hP : P ∈ c.procs) {wf : List Row}
    {i : Instr Stmt Ext} {r : Except ε (i.Ans A)} {tx : Option (List Row)}
    (heff : Effect c.db wf P.tx p i e r tx db')
    (htx : P.tx = (sinceBegin P.hist).map (rowsOf Db)) (hdid : Did did (kept (⟨i, r⟩ :: P.hist))) :
    ∃ k r, get db' k = some r ∧ mark r := by
  have hold : Did did (kept P.hist) → ∃ k r, get db' k = some r ∧ mark r := by
    intro hkept
    obtain ⟨k, r, hr, hmark⟩ := hm.committed P hP hkept
    obtain ⟨r', hr', rfl | hkeep⟩ := hstay k r hr
    · exact ⟨k, r', hr', hmark⟩
    · exact ⟨k, r', hr', hkeep hmark⟩
  cases heff with
  | failed hf =>
      cases i with
      | rollback => cases hf
      | call x => cases hf
      | _ => exact hold hdid
  | answered he =>
      cases i with
      | begin => cases he; exact hold hdid
      | rollback => cases he; exact hold hdid
      | call x => cases he; exact hold hdid
      | commit =>
          cases he
          obtain ⟨x, hx, hdx⟩ := hdid
          rcases List.mem_append.mp hx with hopen | hkept
          · obtain ⟨w, _, hmark, hget⟩ := hm.pending P hP ⟨x, hopen, hdx⟩
            exact ⟨_, w, hget, hmark⟩
          · exact hold ⟨x, hkept, hdx⟩
      | stmt s =>
          simp only [effect] at he
          split at he
          · exact absurd he (by simp)
          cases hopen : sinceBegin P.hist with
          | some l =>
              have hsame : kept (⟨.stmt s, r⟩ :: P.hist) = kept P.hist := by
                cases r <;> simp [kept, hopen]
              exact hold (hsame ▸ hdid)
          | none =>
              rw [hopen] at htx
              simp only [htx, Option.map_none] at he
              split at he
              · rename_i a hex _
                cases he
                simp only [kept, hopen, Option.isSome_none, Bool.false_eq_true, if_false] at hdid
                obtain ⟨x, hx, hdx⟩ := hdid
                rcases List.mem_cons.mp hx with rfl | hx
                · obtain ⟨hne, hall⟩ := hblock.marks s _ a hex hdx
                  obtain ⟨w, hw⟩ := List.exists_mem_of_ne_nil _ hne
                  rcases get_puts (key Db w) (written Db s a) c.db with
                    ⟨w', hw', _, hg⟩ | ⟨hnone, _⟩
                  · exact ⟨_, w', hg, hall w' hw'⟩
                  · exact absurd rfl (hnone w hw)
                · exact hold ⟨x, hx, hdx⟩
              · simp_all
              · cases he
                exact hold hdid

/-- One instruction of a call: what is done in its open transaction is
marked. -/
theorem Marked.pending_advance (hblock : Blocking Db did mark) (hm : Marked did mark c)
    {p : Nat} {P : Proc Op Row Stmt Ext A ε Res} (hP : P ∈ c.procs) {wf : List Row}
    {i : Instr Stmt Ext} {r : Except ε (i.Ans A)} {tx : Option (List Row)} {db' : Db}
    (heff : Effect c.db wf P.tx p i e r tx db')
    (hopen : P.tx = (sinceBegin P.hist).map (rowsOf Db))
    (hkeep : ∀ s a, i = .stmt s → exec s (view c.db P) = .ok a → ∀ w ∈ written Db s a, ∀ r,
      get (view c.db P) (key Db w) = some r → mark r → mark w)
    (hdid : Did did ((sinceBegin (⟨i, r⟩ :: P.hist)).getD [])) :
    ∃ w ∈ tx.getD [], mark w ∧ get (puts db' (tx.getD [])) (key Db w) = some w := by
  have hold := hm.pending P hP
  have hnone : ∀ {P : Prop}, Did did ((none : Option (List ((s : Stmt) × A s))).getD []) → P := by
    rintro P ⟨x, hx, _⟩
    exact absurd hx List.not_mem_nil
  cases heff with
  | failed hf =>
      cases i with
      | rollback => cases hf
      | call x => cases hf
      | commit => exact hnone hdid
      | begin => cases hf; exact hold hdid
      | stmt s => cases hf; exact hold hdid
  | answered he =>
      cases i with
      | begin => cases he; exact hold hdid
      | rollback => exact hnone hdid
      | call x => cases he; exact hold hdid
      | commit => cases he; exact hnone hdid
      | stmt s =>
          simp only [effect] at he
          split at he
          · exact absurd he (by simp)
          split at he
          · -- outside a transaction
            rename_i a hex htx
            have hout : sinceBegin P.hist = none := Option.map_eq_none_iff.mp (hopen.symm.trans htx)
            cases he
            simp only [sinceBegin, hout, Option.map_none] at hdid
            exact hnone hdid
          · rename_i a ws hex htx
            cases he
            have hview : view c.db P = puts c.db ws := by simp [view, Proc.pending, htx]
            obtain ⟨l, hl, _⟩ := Option.map_eq_some_iff.mp (hopen.symm.trans htx)
            rw [htx] at hex
            refine mark_of_append hblock hex (hview ▸ hkeep s a rfl (hview ▸ hex)) ?_
            simp only [sinceBegin, hl, Option.map_some, Option.getD_some] at hdid
            obtain ⟨x, hx, hdx⟩ := hdid
            rcases List.mem_cons.mp hx with rfl | hx
            · exact Or.inl hdx
            · obtain ⟨w, hw, hmark, hget⟩ := hold ⟨x, by rwa [hl], hdx⟩
              refine Or.inr ⟨w, ?_, hmark, hview ▸ hget⟩
              simpa [Proc.pending, htx] using hw
          · cases he
            exact hold hdid

theorem Marked.next (hblock : Blocking Db did mark) (hm : Marked did mark c)
    (hver : Versions (fun r w => mark r → mark w) c) (hap : Apart c)
    (hopen : ∀ P ∈ c.procs, P.tx = (sinceBegin P.hist).map (rowsOf Db))
    (hkeep : ∀ P ∈ c.procs, ∀ s k a, P.prog = .ask (.stmt s) k → exec s (view c.db P) = .ok a →
      ∀ w ∈ written Db s a, ∀ r, get (view c.db P) (key Db w) = some r → mark r → mark w)
    (hwrite : WritesIn (fun r w => mark r → mark w) c e) (hn : next program c e = some c') :
    Marked did mark c' := by
  have hstay := (hver.next hap hn hwrite).2
  refine ⟨fun Q hQ hdid => ?_, fun Q hQ hdid => ?_, fun p q P Q hpq hP hQ hdone hdid => ?_⟩
  · obtain ⟨q, hq⟩ := List.mem_iff_getElem?.mp hQ
    rcases proc_of_next hn hq with hold | ⟨o, _, _, rfl⟩ | ⟨P, i, k, r, tx, hP, hk, heff, rfl⟩
    · obtain ⟨k, r, hr, hmark⟩ := hm.committed Q (List.mem_of_getElem? hold) hdid
      obtain ⟨r', hr', rfl | hkept⟩ := hstay k r hr
      · exact ⟨k, r', hr', hmark⟩
      · exact ⟨k, r', hr', hkept hmark⟩
    · obtain ⟨x, hx, _⟩ := hdid
      exact absurd hx List.not_mem_nil
    · have hmem := List.mem_of_getElem? hP
      exact hm.committed_advance hblock hstay hmem heff (hopen P hmem) hdid
  · obtain ⟨q, hq⟩ := List.mem_iff_getElem?.mp hQ
    rcases proc_of_next hn hq with hold | ⟨o, _, _, rfl⟩ | ⟨P, i, k, r, tx, hP, hk, heff, rfl⟩
    · obtain ⟨w, hw, hmark, hget⟩ := hm.pending Q (List.mem_of_getElem? hold) hdid
      exact ⟨w, hw, hmark, (get_puts_of_mem _ Q.pending _ _ ⟨w, hw, rfl⟩).trans hget⟩
    · obtain ⟨x, hx, _⟩ := hdid
      exact absurd hx List.not_mem_nil
    · have hmem := List.mem_of_getElem? hP
      refine hm.pending_advance hblock hmem heff (hopen P hmem) ?_ hdid
      rintro s a rfl hex
      exact hkeep P hmem s k a hk hex
  · -- a call has done it before, or does it with this event
    have hsplit : ∀ (p : Nat) (P' : Proc Op Row Stmt Ext A ε Res), c'.procs[p]? = some P' →
        Did did (standing P'.hist) → ∃ P, c.procs[p]? = some P ∧ (Did did (standing P.hist) ∨
          e = .exec p ∧ ∃ s a, did s a ∧ waits s (view c.db P) (others c.procs p) = false ∧
            exec s (view c.db P) = .ok a) := by
      intro p P' hP' hdone
      rcases proc_of_next hn hP' with hold | ⟨o, _, _, rfl⟩ | ⟨P, i, k, r, tx, hP, hk, heff, rfl⟩
      · exact ⟨P', hold, Or.inl hdone⟩
      · obtain ⟨x, hx, _⟩ := hdone
        exact absurd hx List.not_mem_nil
      · refine ⟨P, hP, ?_⟩
        rcases did_standing_cons hdone with hbefore | ⟨s, a, hdid, heq⟩
        · exact Or.inl hbefore
        · cases heq
          obtain ⟨he, hex⟩ := heff.exec_of_ok
          exact Or.inr ⟨he, s, a, hdid, heff.waits_of_ok, hex⟩
    obtain ⟨P₀, hP₀, hbefore | ⟨he, s, a, hdids, hwait, hex⟩⟩ := hsplit p P hP hdone
    · obtain ⟨Q₀, hQ₀, hbefore' | ⟨he, s, a, hdids, hwait, hex⟩⟩ := hsplit q Q hQ hdid
      · exact hm.once p q P₀ Q₀ hpq hP₀ hQ₀ hbefore hbefore'
      · exact hm.not_did hblock hver (Ne.symm hpq) hQ₀ hP₀ hbefore hwait hex hdids
    · obtain ⟨Q₀, hQ₀, hbefore' | ⟨he', _⟩⟩ := hsplit q Q hQ hdid
      · exact hm.not_did hblock hver hpq hP₀ hQ₀ hbefore' hwait hex hdids
      · rw [he] at he'
        exact hpq (Event.exec.inj he')

/-- If no statement takes the mark away, it is done at most once. -/
theorem Run.marked (hblock : Blocking Db did mark) (hc₀ : c₀.procs = [])
    (hkeep : ∀ c, Run program Ok c₀ c → ∀ P ∈ c.procs, ∀ s k a, P.prog = .ask (.stmt s) k →
      exec s (view c.db P) = .ok a → ∀ w ∈ written Db s a, ∀ r,
        get (view c.db P) (key Db w) = some r → mark r → mark w)
    (hrun : Run program Ok c₀ c) : Marked did mark c := by
  have hwrite : ∀ c e, Run program Ok c₀ c → Versions (fun r w => mark r → mark w) c →
      WritesIn (fun r w => mark r → mark w) c e := by
    intro c e hrun hver p P s k a _ hP hk hex w hw r hr hmark
    have hmem := List.mem_of_getElem? hP
    rcases get_puts (key Db w) P.pending c.db with ⟨v, hv, hkey, hfound⟩ | ⟨_, hfound⟩
    · exact hkeep c hrun P hmem s k a hk hex w hw v hfound
        (hver P hmem v hv r (hkey ▸ hr) hmark)
    · exact hkeep c hrun P hmem s k a hk hex w hw r (hfound.trans hr) hmark
  induction hrun with
  | start => exact ⟨by simp [hc₀], by simp [hc₀], fun p q P Q _ hP => by simp [hc₀] at hP⟩
  | step hrun _ hn ih =>
      have hver := Run.versions hc₀ (fun c e hrun hver _ => hwrite c e hrun hver) hrun
      exact ih.next hblock hver (Run.apart hc₀ hrun) (Run.tx_eq hc₀ hrun) (hkeep _ hrun)
        (hwrite _ _ hrun hver) hn

end

end

end Txn
