/-
# `Txn.Later` — what a call does after a point of the run

A call that is made after a configuration `c₁` sees nothing that is older than
`c₁`: what it is answered before it has written anything of its own, it is
answered from a state that was committed after `c₁` (`Run.seen_after`).  What is
stable from there on still holds when the answer is used.

A mark on rows that no statement takes away lasts: where a call has written a
marked row, the row under its key is marked from then on, in what the call sees
until it commits and in the committed state afterwards (`Run.lasting`).

`obeys_of_quiet` is for the instructions that only a call to the outside is
judged by: a transaction makes none.
-/
import ServiceHub.Txn.Once

namespace Txn

open Database

section
variable {Stmt Ext ε α : Type} {A : Stmt → Type}
  {Q : Hist (Instr Stmt Ext) (Instr.Ans A) ε → Instr Stmt Ext → Prop}

theorem obeys_autocommit_of_quiet (hquiet : ∀ h s, Q h (.stmt s)) (p : Prog Stmt A ε α) :
    ∀ h, Obeys Q (fun _ _ => True) h (autocommit Ext p) := by
  induction p with
  | ret a => exact fun _ => trivial
  | throw e => exact fun _ => trivial
  | ask s k ih => exact fun h => ⟨hquiet h s, fun r => ih r _⟩

/-- A transaction calls nothing. -/
theorem obeys_of_quiet (hquiet : ∀ h i, (∀ x, i ≠ .call x) → Q h i) (body : Prog Stmt A ε α)
    (h : Hist (Instr Stmt Ext) (Instr.Ans A) ε) :
    Obeys Q (fun _ _ => True) h (transaction Ext body) := by
  refine obeys_transaction.mpr ⟨hquiet _ _ fun _ hi => (by cases hi), fun _ => trivial, ?_⟩
  refine (obeys_autocommit_of_quiet (fun h s => hquiet h _ fun _ hi => (by cases hi)) body _).mono
    (fun _ _ hq => hq) ?_
  rintro h' (e | a) -
  · exact ⟨hquiet _ _ fun _ hi => (by cases hi), fun _ => trivial⟩
  · exact ⟨hquiet _ _ fun _ hi => (by cases hi), trivial, fun _ => trivial⟩

end

section
variable {Op Db Row Key Stmt Ext ε Res : Type} {A : Stmt → Type} [Database Db Row Key Stmt ε A]
  {program : Op → Prog (Instr Stmt Ext) (Instr.Ans A) ε Res}
  {Ok : Config Op Db Row Stmt Ext A ε Res → Event Op ε → Prop}
  {c₀ c₁ c : Config Op Db Row Stmt Ext A ε Res}

/-- What a call made after `c₁` was answered, with nothing written by itself
yet, it read from a state committed after `c₁`. -/
theorem Run.seen_after (hc₀ : c₀.procs = []) (hrun : Run program Ok c₀ c₁)
    (hrun' : Run program Ok c₁ c) : ∀ {p : Nat} {P : Proc Op Row Stmt Ext A ε Res},
      c.procs[p]? = some P → c₁.procs.length ≤ p →
      ∀ {h : Hist (Instr Stmt Ext) (Instr.Ans A) ε} {s : Stmt} {a : A s},
        (⟨.stmt s, .ok a⟩ :: h) <:+ P.hist → rowsOf Db ((sinceBegin h).getD []) = [] →
          ∃ c₂, Run program Ok c₁ c₂ ∧ Run program Ok c₂ c ∧ exec s c₂.db = .ok a := by
  induction hrun' with
  | start =>
      intro p P hP hp
      rw [List.getElem?_eq_none hp] at hP
      cases hP
  | @step c₂ c₃ e hrun₂ hok hn ih =>
      intro p P hP hp h s a hmem hclean
      have hstep : Run program Ok c₂ c₃ := .step .start hok hn
      rcases proc_of_next hn hP with hP | ⟨o, _, _, rfl⟩ | ⟨P₂, i, k, r, tx, hP₂, _, heff, rfl⟩
      · obtain ⟨c', hbefore, hafter, hexec⟩ := ih hP hp hmem hclean
        exact ⟨c', hbefore, hafter.trans hstep, hexec⟩
      · cases List.suffix_nil.mp hmem
      · rcases List.suffix_cons_iff.mp hmem with heq | hmem
        · -- the answer was given in this step
          obtain ⟨hentry, rfl⟩ := List.cons.inj heq
          cases hentry
          have hexec := heff.exec_of_ok.2
          have htx := (hrun.trans hrun₂).tx_eq hc₀ P₂ (List.mem_of_getElem? hP₂)
          have hnone : P₂.tx.getD [] = [] := by
            rw [htx]
            cases hopen : sinceBegin P₂.hist with
            | none => rfl
            | some l => simpa [hopen] using hclean
          rw [hnone] at hexec
          exact ⟨c₂, hrun₂, hstep, hexec⟩
        · obtain ⟨c', hbefore, hafter, hexec⟩ := ih hP₂ hp hmem hclean
          exact ⟨c', hbefore, hafter.trans hstep, hexec⟩

/-- The events of a run can happen. -/
theorem Run.enabled (hrun : Run program Ok c₀ c) :
    Run program (fun c e => Ok c e ∧ (next program c e).isSome) c₀ c := by
  induction hrun with
  | start => exact .start
  | step _ hok hn ih => exact .step ih ⟨hok, by rw [hn]; rfl⟩ hn

/-- A statement that can be executed does not wait. -/
theorem waits_of_enabled {p : Nat} {P : Proc Op Row Stmt Ext A ε Res} {s : Stmt}
    {k : Except ε (A s) → Prog (Instr Stmt Ext) (Instr.Ans A) ε Res} (hP : c.procs[p]? = some P)
    (hk : P.prog = .ask (.stmt s) k) (henabled : (next program c (.exec p)).isSome) :
    waits s (view c.db P) (others c.procs p) = false := by
  cases hwait : waits s (view c.db P) (others c.procs p) with
  | false => rfl
  | true =>
      have hwait : waits s (puts c.db (P.tx.getD [])) (others c.procs p) = true := hwait
      simp [next, hP, hk, effect, hwait] at henabled

/-- What no row is part of stays as it is. -/
theorem Run.untouched {β : Type} {f : Db → β} (hput : ∀ db r, f (put db r) = f db)
    (hc₀ : c₀.procs = []) (hrun : Run program Ok c₀ c₁) (hrun' : Run program Ok c₁ c) :
    f c.db = f c₁.db := by
  have hputs : ∀ (rows : List Row) (db : Db), f (puts db rows) = f db := by
    intro rows
    induction rows with
    | nil => exact fun _ => rfl
    | cons r rows ih => exact fun db => (ih (put db r)).trans (hput db r)
  induction hrun' with
  | start => rfl
  | step hrun' _ hn ih =>
      rcases (hrun.trans hrun').kept_next hc₀ hn with ⟨_, _, hdb⟩ | ⟨_, _, _, new, _, _, _, _, hdb⟩
      · rw [hdb, ih]
      · rw [hdb, hputs, ih]

omit [Database Db Row Key Stmt ε A] in
/-- An answer takes nothing away from what counts. -/
theorem kept_suffix_cons (entry : (i : Instr Stmt Ext) × Except ε (i.Ans A))
    (h : Hist (Instr Stmt Ext) (Instr.Ans A) ε) : kept h <:+ kept (entry :: h) := by
  obtain ⟨i, r⟩ := entry
  cases i with
  | stmt s =>
      cases r with
      | error e => exact List.suffix_rfl
      | ok a =>
          simp only [kept]
          split
          · exact List.suffix_rfl
          · exact List.suffix_cons _ _
  | commit =>
      cases r with
      | error e => exact List.suffix_rfl
      | ok a => exact List.suffix_append _ _
  | _ => exact List.suffix_rfl

omit [Database Db Row Key Stmt ε A] in
/-- What counts goes on to count. -/
theorem kept_subset {h h' : Hist (Instr Stmt Ext) (Instr.Ans A) ε} (hs : h <:+ h') :
    kept h ⊆ kept h' := by
  induction h' with
  | nil => rw [List.suffix_nil.mp hs]; exact fun _ hx => hx
  | cons entry h' ih =>
      rcases List.suffix_cons_iff.mp hs with rfl | hs
      · exact fun _ hx => hx
      · exact fun _ hx => (kept_suffix_cons entry h').subset (ih hs hx)

omit [Database Db Row Key Stmt ε A] in
/-- What was done outside a transaction counts. -/
theorem mem_kept_of_outside {h h' : Hist (Instr Stmt Ext) (Instr.Ans A) ε} {s : Stmt} {a : A s}
    (hs : (⟨.stmt s, .ok a⟩ :: h) <:+ h') (hout : sinceBegin h = none) :
    (⟨s, a⟩ : (s : Stmt) × A s) ∈ kept h' := by
  refine kept_subset hs ?_
  rw [kept, hout]
  exact List.mem_cons_self

omit [Database Db Row Key Stmt ε A] in
/-- Who begins no transaction has none open at any time. -/
theorem outside_of_obeyed {Q : Hist (Instr Stmt Ext) (Instr.Ans A) ε → Instr Stmt Ext → Prop}
    (hbegin : ∀ h, ¬ Q h .begin) : ∀ {h h' : Hist (Instr Stmt Ext) (Instr.Ans A) ε},
      Obeyed Q h → h' <:+ h → sinceBegin h' = none := by
  intro h
  induction h with
  | nil =>
      intro h' _ hsuffix
      rw [List.suffix_nil.mp hsuffix]
      rfl
  | cons entry h ih =>
      intro h' hobeyed hsuffix
      rcases List.suffix_cons_iff.mp hsuffix with rfl | hbefore
      · have hout := ih hobeyed.2 List.suffix_rfl
        obtain ⟨i, r⟩ := entry
        cases i with
        | begin => exact absurd hobeyed.1 (hbegin h)
        | stmt s => cases r <;> simp [sinceBegin, hout]
        | call x => exact hout
        | commit => rfl
        | rollback => rfl
      · exact ih hobeyed.2 hbefore

omit [Database Db Row Key Stmt ε A] in
/-- What is in the open transaction was asked when what was done before it in
the transaction was all in it. -/
theorem Obeyed.of_open {Q : Hist (Instr Stmt Ext) (Instr.Ans A) ε → Instr Stmt Ext → Prop}
    {x : (s : Stmt) × A s} : ∀ {h : Hist (Instr Stmt Ext) (Instr.Ans A) ε}, Obeyed Q h →
      x ∈ (sinceBegin h).getD [] → ∃ h', h' <:+ h ∧ Q h' (.stmt x.1) ∧
        (sinceBegin h').getD [] ⊆ (sinceBegin h).getD [] := by
  intro h
  induction h with
  | nil => exact fun _ hx => absurd hx List.not_mem_nil
  | cons entry h ih =>
      intro hobeyed hx
      obtain ⟨i, r⟩ := entry
      rcases mem_sinceBegin_cons hx with hbefore | hentry
      · obtain ⟨h', hsuffix, hq, hsubset⟩ := ih hobeyed.2 hbefore
        exact ⟨h', hsuffix.trans (List.suffix_cons _ _), hq,
          fun _ hy => sinceBegin_subset hx (hsubset hy)⟩
      · cases hentry
        exact ⟨h, List.suffix_cons _ _, hobeyed.1, fun _ hy => sinceBegin_subset hx hy⟩

omit [Database Db Row Key Stmt ε A] in
/-- What counts was asked when what was done before it in its transaction was to
count as well. -/
theorem Obeyed.of_kept {Q : Hist (Instr Stmt Ext) (Instr.Ans A) ε → Instr Stmt Ext → Prop}
    {x : (s : Stmt) × A s} : ∀ {h : Hist (Instr Stmt Ext) (Instr.Ans A) ε}, Obeyed Q h →
      x ∈ kept h → ∃ h', h' <:+ h ∧ Q h' (.stmt x.1) ∧ (sinceBegin h').getD [] ⊆ kept h := by
  intro h
  induction h with
  | nil => exact fun _ hx => absurd hx List.not_mem_nil
  | cons entry h ih =>
      intro hobeyed hx
      obtain ⟨i, r⟩ := entry
      obtain ⟨new, hnew⟩ := kept_suffix_cons ⟨i, r⟩ h
      have hnew := hnew.symm
      have hx' : x ∈ new ++ kept h := hnew ▸ hx
      rcases List.mem_append.mp hx' with hx' | hx'
      · rcases kept_cons_cases hnew with rfl | ⟨_, rfl⟩ | ⟨s, a, hentry, hout, rfl⟩
        · exact absurd hx' List.not_mem_nil
        · obtain ⟨h', hsuffix, hq, hsubset⟩ := hobeyed.2.of_open hx'
          exact ⟨h', hsuffix.trans (List.suffix_cons _ _), hq,
            fun _ hy => hnew ▸ List.mem_append_left _ (hsubset hy)⟩
        · obtain rfl := List.mem_singleton.mp hx'
          cases hentry
          exact ⟨h, List.suffix_cons _ _, hobeyed.1, by simp [hout]⟩
      · obtain ⟨h', hsuffix, hq, hsubset⟩ := ih hobeyed.2 hx'
        exact ⟨h', hsuffix.trans (List.suffix_cons _ _), hq,
          fun _ hy => kept_subset (List.suffix_cons _ _) (hsubset hy)⟩

/-! ## Marks -/

variable [DecidableEq Key] [Lawful Db] {mark : Row → Prop}

/-- Where a call has written a marked row, a marked row is found. -/
structure Lasting (mark : Row → Prop) (c : Config Op Db Row Stmt Ext A ε Res) : Prop where
  committed : ∀ P ∈ c.procs, ∀ w ∈ rowsOf Db (kept P.hist), mark w →
    ∃ r, get c.db (key Db w) = some r ∧ mark r
  pending : ∀ P ∈ c.procs, ∀ w ∈ P.pending, mark w →
    ∃ r, get (view c.db P) (key Db w) = some r ∧ mark r

/-- After a statement, if it marks all of its rows under a key or none. -/
theorem marked_of_written {s : Stmt} {db db' : Db} {a : A s} (hex : exec s db = .ok a)
    (hsame : ∀ (s : Stmt) (db : Db) (a : A s), exec s db = .ok a → ∀ w ∈ written Db s a,
      ∀ w' ∈ written Db s a, key Db w' = key Db w → mark w → mark w') {w : Row}
    (hw : w ∈ written Db s a) (hmark : mark w) :
    ∃ r, get (puts db' (written Db s a)) (key Db w) = some r ∧ mark r := by
  rcases get_puts (key Db w) (written Db s a) db' with ⟨w', hw', hkey, hget⟩ | ⟨hnone, _⟩
  · exact ⟨w', hget, hsame s db a hex w hw w' hw' hkey hmark⟩
  · exact absurd rfl (hnone w hw)

/-- A marked row that is found is found marked after a statement that keeps the
mark. -/
theorem marked_of_found {s : Stmt} {db : Db} {a : A s} {k : Key} {r : Row}
    (hkeep : ∀ w ∈ written Db s a, ∀ r, get db (key Db w) = some r → mark r → mark w)
    (hr : get db k = some r) (hmark : mark r) :
    ∃ r', get (puts db (written Db s a)) k = some r' ∧ mark r' := by
  rcases get_puts k (written Db s a) db with ⟨w, hw, rfl, hget⟩ | ⟨_, hget⟩
  · exact ⟨w, hget, hkeep w hw r hr hmark⟩
  · exact ⟨r, hget.trans hr, hmark⟩

theorem Lasting.next {e : Event Op ε} {c' : Config Op Db Row Stmt Ext A ε Res}
    (hlast : Lasting mark c)
    (hsame : ∀ (s : Stmt) (db : Db) (a : A s), exec s db = .ok a → ∀ w ∈ written Db s a,
      ∀ w' ∈ written Db s a, key Db w' = key Db w → mark w → mark w')
    (hstay : ∀ k r, get c.db k = some r →
      ∃ r', get c'.db k = some r' ∧ (r' = r ∨ (mark r → mark r')))
    (hopen : ∀ P ∈ c.procs, P.tx = (sinceBegin P.hist).map (rowsOf Db))
    (hkeep : ∀ P ∈ c.procs, ∀ s k a, P.prog = .ask (.stmt s) k → exec s (view c.db P) = .ok a →
      ∀ w ∈ written Db s a, ∀ r, get (view c.db P) (key Db w) = some r → mark r → mark w)
    (hn : next program c e = some c') : Lasting mark c' := by
  have hlater : ∀ k r, get c.db k = some r → mark r → ∃ r', get c'.db k = some r' ∧ mark r' := by
    intro k r hr hmark
    obtain ⟨r', hr', rfl | hkept⟩ := hstay k r hr
    · exact ⟨r', hr', hmark⟩
    · exact ⟨r', hr', hkept hmark⟩
  refine ⟨fun Q hQ w hw hmark => ?_, fun Q hQ w hw hmark => ?_⟩
  · obtain ⟨q, hq⟩ := List.mem_iff_getElem?.mp hQ
    have hold : ∀ P ∈ c.procs, w ∈ rowsOf Db (kept P.hist) →
        ∃ r, get c'.db (key Db w) = some r ∧ mark r := by
      intro P hP hw
      obtain ⟨r, hr, hmark⟩ := hlast.committed P hP w hw hmark
      exact hlater _ r hr hmark
    rcases proc_of_next hn hq with hQ' | ⟨o, _, _, rfl⟩ | ⟨P, i, k, r, tx, hP, hk, heff, rfl⟩
    · exact hold Q (List.mem_of_getElem? hQ') hw
    · exact absurd hw List.not_mem_nil
    · have hmem := List.mem_of_getElem? hP
      have htx := hopen P hmem
      rw [htx] at heff
      obtain ⟨new, hnew, hdb⟩ := heff.kept
      have hrows : w ∈ rowsOf Db (kept (⟨i, r⟩ :: P.hist)) := hw
      clear hw hq hQ
      rw [hnew, rowsOf_append] at hrows
      rcases List.mem_append.mp hrows with hbefore | hnow
      · exact hold P hmem hbefore
      · clear hrows
        rcases kept_cons_cases hnew with rfl | ⟨_, rfl⟩ | ⟨s, a, hentry, hout, rfl⟩
        · exact absurd hnow List.not_mem_nil
        · -- what the call saw is what is committed
          have hpending : rowsOf Db ((sinceBegin P.hist).getD []) = P.pending := by
            rw [Proc.pending, htx]
            cases sinceBegin P.hist <;> rfl
          rw [hpending] at hnow hdb
          obtain ⟨r, hr, hmark⟩ := hlast.pending P hmem w hnow hmark
          exact ⟨r, hdb ▸ hr, hmark⟩
        · cases hentry
          rw [hdb]
          have hrows : rowsOf Db [(⟨s, a⟩ : (s : Stmt) × A s)] = written Db s a := by simp [rowsOf]
          rw [hrows] at hnow ⊢
          exact marked_of_written heff.exec_of_ok.2 hsame hnow hmark
  · obtain ⟨q, hq⟩ := List.mem_iff_getElem?.mp hQ
    rcases proc_of_next hn hq with hQ' | ⟨o, _, _, rfl⟩ | ⟨P, i, k, r, tx, hP, hk, heff, rfl⟩
    · obtain ⟨r, hr, hmark⟩ := hlast.pending Q (List.mem_of_getElem? hQ') w hw hmark
      exact ⟨r, (get_puts_of_mem _ Q.pending _ _ ⟨w, hw, rfl⟩).trans hr, hmark⟩
    · exact absurd hw List.not_mem_nil
    · have hmem := List.mem_of_getElem? hP
      have hnow : w ∈ tx.getD [] := hw
      clear hw hq hQ
      show ∃ r', get (puts c'.db (tx.getD [])) (key Db w) = some r' ∧ mark r'
      rcases heff.spec with ⟨hdb, hown | hnil⟩ | ⟨_, _, _, hnil⟩ |
          ⟨_, s, a, hi, _, hex, ⟨hdb, happend⟩ | ⟨_, _, hnil⟩⟩
      · rw [hown] at hnow ⊢
        rw [hdb]
        exact hlast.pending P hmem w hnow hmark
      · rw [hnil] at hnow
        exact absurd hnow List.not_mem_nil
      · rw [hnil] at hnow
        exact absurd hnow List.not_mem_nil
      · subst hi
        rw [happend] at hnow ⊢
        rw [hdb, puts_append]
        rcases List.mem_append.mp hnow with hbefore | hnow
        · obtain ⟨v, hv, hmark⟩ := hlast.pending P hmem w hbefore hmark
          exact marked_of_found (hkeep P hmem s k a hk hex) hv hmark
        · exact marked_of_written hex hsame hnow hmark
      · rw [hnil] at hnow
        exact absurd hnow List.not_mem_nil

section
variable (hkeep : ∀ c, Run program Ok c₀ c → ∀ P ∈ c.procs, ∀ s k a, P.prog = .ask (.stmt s) k →
  exec s (view c.db P) = .ok a → ∀ w ∈ written Db s a, ∀ r,
    get (view c.db P) (key Db w) = some r → mark r → mark w)
include hkeep

/-- What keeps the mark of the row that is seen keeps the one of the committed
row. -/
theorem writesIn_of_keep {e : Event Op ε} (hrun : Run program Ok c₀ c)
    (hver : Versions (fun r w => mark r → mark w) c) :
    WritesIn (fun r w => mark r → mark w) c e := by
  intro p P s k a _ hP hk hex w hw r hr hmark
  have hmem := List.mem_of_getElem? hP
  rcases get_puts (key Db w) P.pending c.db with ⟨v, hv, hkey, hfound⟩ | ⟨_, hfound⟩
  · exact hkeep c hrun P hmem s k a hk hex w hw v hfound
      (hver P hmem v hv r (hkey ▸ hr) hmark)
  · exact hkeep c hrun P hmem s k a hk hex w hw r (hfound.trans hr) hmark

/-- **Marks last.** -/
theorem Run.lasting (hsame : ∀ (s : Stmt) (db : Db) (a : A s), exec s db = .ok a →
      ∀ w ∈ written Db s a, ∀ w' ∈ written Db s a, key Db w' = key Db w → mark w → mark w')
    (hc₀ : c₀.procs = []) (hrun : Run program Ok c₀ c) : Lasting mark c := by
  induction hrun with
  | start => exact ⟨by simp [hc₀], by simp [hc₀]⟩
  | step hrun _ hn ih =>
      have hver := Run.versions hc₀ (fun c e hrun hver _ => writesIn_of_keep hkeep hrun hver) hrun
      exact ih.next hsame (hver.next (Run.apart hc₀ hrun) hn (writesIn_of_keep hkeep hrun hver)).2
        (Run.tx_eq hc₀ hrun) (hkeep _ hrun) hn

/-- A committed row that is marked stays marked. -/
theorem Run.stays_marked (hc₀ : c₀.procs = []) (hrun : Run program Ok c₀ c₁)
    (hrun' : Run program Ok c₁ c) {k : Key} {r : Row} (hr : get c₁.db k = some r) (hmark : mark r) :
    ∃ r', get c.db k = some r' ∧ mark r' := by
  have hwrite : ∀ c e, Run program Ok c₀ c → Versions (fun r w => mark r → mark w) c → Ok c e →
      WritesIn (fun r w => mark r → mark w) c e :=
    fun c e hrun hver _ => writesIn_of_keep hkeep hrun hver
  obtain ⟨r', hr', hkept⟩ := Run.related (fun _ h => h) (fun _ _ _ h h' hmark => h' (h hmark)) hc₀
    hwrite hrun hrun' hr
  exact ⟨r', hr', hkept hmark⟩

end

/-- **What counts is related to what is found**, where a statement writes rows
that are related to those it writes them over. -/
theorem Run.related_of_kept {Rel : Row → Row → Prop} (hrefl : ∀ r, Rel r r)
    (htrans : ∀ r r' r'', Rel r r' → Rel r' r'' → Rel r r'')
    (hwrite : ∀ (s : Stmt) (db : Db) (a : A s), exec s db = .ok a → ∀ w ∈ written Db s a,
      get db (key Db w) = none ∨ ∃ r, get db (key Db w) = some r ∧ Rel r w)
    (honce : ∀ (s : Stmt) (db : Db) (a : A s), exec s db = .ok a → ∀ w ∈ written Db s a,
      ∀ w' ∈ written Db s a, key Db w' = key Db w → w' = w)
    (hc₀ : c₀.procs = []) (hrun : Run program Ok c₀ c) {P : Proc Op Row Stmt Ext A ε Res}
    (hP : P ∈ c.procs) {w : Row} (hw : w ∈ rowsOf Db (kept P.hist)) :
    ∃ r, get c.db (key Db w) = some r ∧ Rel w r := by
  have hlast : Lasting (Rel w) c := by
    refine Run.lasting ?_ ?_ hc₀ hrun
    · intro c _ P _ s k a _ hexec w' hw' r hr hrel
      rcases hwrite s _ a hexec w' hw' with hnone | ⟨r', hfound, hrel'⟩
      · exact absurd (hr.symm.trans hnone) (Option.some_ne_none r)
      · obtain rfl := Option.some.inj (hr.symm.trans hfound)
        exact htrans _ _ _ hrel hrel'
    · intro s db a hexec w₁ hw₁ w₂ hw₂ hkey hmark
      exact (honce s db a hexec w₁ hw₁ w₂ hw₂ hkey).symm ▸ hmark
  exact hlast.committed P hP w hw (hrefl w)

end

end Txn
