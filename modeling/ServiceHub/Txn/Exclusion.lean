/-
# `Txn.Exclusion` — constraints between rows, under concurrency

A relation `clash` between rows is excluded by a database when no statement
stores a row that clashes with another one it can see, and when it waits for
the uncommitted rows that its own ones clash with (`Excludes`).  Neither test
sees all of the committed state that a transaction ends in: the first is made
on the snapshot of one statement, the second only while both transactions are
open.

Together they are enough: if no two rows clash at first, no two committed rows
ever do (`Run.exclusive`).  The invariant is about every state that some call
sees, and about the uncommitted rows of any two calls (`Excluded`).
-/
import ServiceHub.Txn.ReadCommitted

namespace Txn

open Database

section
variable {Op Db Row Key Stmt Ext ε Res : Type} {A : Stmt → Type} [Database Db Row Key Stmt ε A]

/-- What the statements of a database have to check. -/
structure Excludes (Db : Type) {Row Key Stmt ε : Type} {A : Stmt → Type}
    [Database Db Row Key Stmt ε A] (clash : Row → Row → Prop) : Prop where
  symm : ∀ r r', clash r r' → clash r' r
  snapshot : ∀ (s : Stmt) (db : Db) (a : A s), exec s db = .ok a → ∀ w ∈ written Db s a,
    ∀ k r, key Db w ≠ k → get db k = some r → ¬ clash w r
  together : ∀ (s : Stmt) (db : Db) (a : A s), exec s db = .ok a → ∀ w ∈ written Db s a,
    ∀ w' ∈ written Db s a, key Db w ≠ key Db w' → ¬ clash w w'
  waits : ∀ (s : Stmt) (db : Db) (others : List Row) (a : A s), waits s db others = false →
    exec s db = .ok a → ∀ w ∈ written Db s a, ∀ o ∈ others, ¬ clash w o

/-- No two rows clash. -/
def Exclusive (clash : Row → Row → Prop) (db : Db) : Prop :=
  ∀ k k' r r', k ≠ k' → get db k = some r → get db k' = some r' → ¬ clash r r'

/-- No two rows clash that some call sees together, and no two uncommitted rows
of different calls. -/
structure Excluded (clash : Row → Row → Prop) (c : Config Op Db Row Stmt Ext A ε Res) :
    Prop where
  committed : Exclusive clash c.db
  views : ∀ P ∈ c.procs, Exclusive clash (view c.db P)
  pending : ∀ (p q : Nat) (P Q : Proc Op Row Stmt Ext A ε Res), p ≠ q → c.procs[p]? = some P →
    c.procs[q]? = some Q → ∀ r ∈ P.pending, ∀ r' ∈ Q.pending, ¬ clash r r'

variable [DecidableEq Key] [Lawful Db] {clash : Row → Row → Prop} {db : Db}

/-- Rows are added that clash neither with each other nor with the others. -/
theorem Exclusive.puts (hsymm : ∀ r r', clash r r' → clash r' r) (h : Exclusive clash db)
    {ws : List Row} (hold : ∀ w ∈ ws, ∀ k r, key Db w ≠ k → get db k = some r → ¬ clash w r)
    (hnew : ∀ w ∈ ws, ∀ w' ∈ ws, key Db w ≠ key Db w' → ¬ clash w w') :
    Exclusive clash (puts db ws) := by
  intro k k' r r' hk hr hr'
  rcases get_puts k ws db with ⟨w, hw, rfl, hfound⟩ | ⟨_, hfound⟩
  · obtain rfl := Option.some.inj (hfound.symm.trans hr)
    rcases get_puts k' ws db with ⟨w', hw', rfl, hfound'⟩ | ⟨_, hfound'⟩
    · obtain rfl := Option.some.inj (hfound'.symm.trans hr')
      exact hnew w hw w' hw' hk
    · exact hold w hw k' r' hk (hfound'.symm.trans hr')
  · rcases get_puts k' ws db with ⟨w', hw', rfl, hfound'⟩ | ⟨_, hfound'⟩
    · obtain rfl := Option.some.inj (hfound'.symm.trans hr')
      exact fun hc => hold w' hw' k r (Ne.symm hk) (hfound.symm.trans hr) (hsymm _ _ hc)
    · exact h k k' r r' hk (hfound.symm.trans hr) (hfound'.symm.trans hr')

/-- Rows `ws` are committed under the uncommitted rows `us` of a call. -/
theorem Exclusive.commit (hsymm : ∀ r r', clash r r' → clash r' r) {ws us : List Row}
    (hdb : Exclusive clash (Txn.puts db ws)) (hview : Exclusive clash (Txn.puts db us))
    (hapart : ∀ w ∈ ws, ∀ u ∈ us, ¬ clash w u) :
    Exclusive clash (Txn.puts (Txn.puts db ws) us) := by
  -- a row of the call and a row that it does not hold
  have hmixed : ∀ k k' u r, k ≠ k' → (∃ v ∈ us, key Db v = k) → (∀ v ∈ us, key Db v ≠ k') →
      get (Txn.puts db us) k = some u → get (Txn.puts db ws) k' = some r → ¬ clash u r := by
    intro k k' u r hk hown hfree hu hr
    rcases get_puts k' ws db with ⟨w, hw, _, hfound⟩ | ⟨_, hfound⟩
    · obtain rfl := Option.some.inj (hfound.symm.trans hr)
      rcases get_puts k us db with ⟨v, hv, _, hfound'⟩ | ⟨hnone, _⟩
      · obtain rfl := Option.some.inj (hfound'.symm.trans hu)
        exact fun hc => hapart w hw v hv (hsymm _ _ hc)
      · obtain ⟨v, hv, hkey⟩ := hown
        exact absurd hkey (hnone v hv)
    · refine hview k k' u r hk hu ?_
      rw [get_puts_of_notMem k' us db hfree]
      exact hfound.symm.trans hr
  intro k k' r r' hk hr hr'
  by_cases hown : ∃ v ∈ us, key Db v = k
  · rw [get_puts_of_mem k us _ db hown] at hr
    by_cases hown' : ∃ v ∈ us, key Db v = k'
    · rw [get_puts_of_mem k' us _ db hown'] at hr'
      exact hview k k' r r' hk hr hr'
    · have hfree : ∀ v ∈ us, key Db v ≠ k' := fun v hv hkey => hown' ⟨v, hv, hkey⟩
      rw [get_puts_of_notMem k' us _ hfree] at hr'
      exact hmixed k k' r r' hk hown hfree hr hr'
  · have hfree : ∀ v ∈ us, key Db v ≠ k := fun v hv hkey => hown ⟨v, hv, hkey⟩
    rw [get_puts_of_notMem k us _ hfree] at hr
    by_cases hown' : ∃ v ∈ us, key Db v = k'
    · rw [get_puts_of_mem k' us _ db hown'] at hr'
      exact fun hc => hmixed k' k r' r (Ne.symm hk) hown' hfree hr' hr (hsymm _ _ hc)
    · have hfree' : ∀ v ∈ us, key Db v ≠ k' := fun v hv hkey => hown' ⟨v, hv, hkey⟩
      rw [get_puts_of_notMem k' us _ hfree'] at hr'
      exact hdb k k' r r' hk hr hr'

variable {program : Op → Prog (Instr Stmt Ext) (Instr.Ans A) ε Res}
  {Ok : Config Op Db Row Stmt Ext A ε Res → Event Op ε → Prop}
  {c₀ c c' : Config Op Db Row Stmt Ext A ε Res} {e : Event Op ε}

/-- The rows that a statement writes fit into what its call sees. -/
theorem Excludes.puts (hx : Excludes Db clash) (h : Exclusive clash db) {s : Stmt} {a : A s}
    (hex : exec s db = .ok a) : Exclusive clash (Txn.puts db (written Db s a)) :=
  Exclusive.puts hx.symm h (hx.snapshot s db a hex) (hx.together s db a hex)

omit [DecidableEq Key] [Lawful Db] in
/-- One call has moved. -/
theorem Excluded.set (hsymm : ∀ r r', clash r r' → clash r' r) (h : Excluded clash c) {p : Nat}
    {P' : Proc Op Row Stmt Ext A ε Res} (hcommitted : Exclusive clash db)
    (hown : Exclusive clash (view db P'))
    (hothers : ∀ q Q, q ≠ p → c.procs[q]? = some Q → Exclusive clash (view db Q))
    (hpending : ∀ q Q, q ≠ p → c.procs[q]? = some Q →
      ∀ r ∈ P'.pending, ∀ r' ∈ Q.pending, ¬ clash r r') :
    Excluded clash ⟨db, c.procs.set p P'⟩ := by
  have hget : ∀ q Q, (c.procs.set p P')[q]? = some Q →
      (q = p ∧ Q = P') ∨ (q ≠ p ∧ c.procs[q]? = some Q) := by
    intro q Q hQ
    by_cases hq : q = p
    · subst hq
      rw [List.getElem?_set_self (by simpa using (List.getElem?_eq_some_iff.mp hQ).1)] at hQ
      exact Or.inl ⟨rfl, (Option.some.inj hQ).symm⟩
    · rw [List.getElem?_set_ne (Ne.symm hq)] at hQ
      exact Or.inr ⟨hq, hQ⟩
  refine ⟨hcommitted, fun Q hQ => ?_, fun q q' Q Q' hqq hQ hQ' r hr r' hr' => ?_⟩
  · obtain ⟨q, hq⟩ := List.mem_iff_getElem?.mp hQ
    rcases hget q Q hq with ⟨_, rfl⟩ | ⟨hne, hold⟩
    · exact hown
    · exact hothers q Q hne hold
  · rcases hget q Q hQ with ⟨rfl, rfl⟩ | ⟨hne, hold⟩
    · rcases hget q' Q' hQ' with ⟨rfl, _⟩ | ⟨hne', hold'⟩
      · exact absurd rfl hqq
      · exact hpending q' Q' hne' hold' r hr r' hr'
    · rcases hget q' Q' hQ' with ⟨rfl, rfl⟩ | ⟨_, hold'⟩
      · exact fun hc => hpending q Q hne hold r' hr' r hr (hsymm _ _ hc)
      · exact h.pending q q' Q Q' hqq hold hold' r hr r' hr'

theorem Excluded.next (hx : Excludes Db clash) (h : Excluded clash c)
    (hn : next program c e = some c') : Excluded clash c' := by
  rcases next_cases program hn with ⟨o, rfl, rfl⟩ | ⟨p, P, i, k, r, tx, db, hP, hk, heff, rfl⟩
  · -- a new call holds nothing, and sees what is committed
    refine ⟨h.committed, fun Q hQ => ?_, fun q q' Q Q' hqq hQ hQ' r hr r' hr' => ?_⟩
    · rcases List.mem_append.mp hQ with hQ | hQ
      · exact h.views Q hQ
      · rw [List.mem_singleton.mp hQ]
        exact h.committed
    · rcases proc_of_next hn hQ with hold | ⟨_, _, _, rfl⟩ | ⟨_, _, _, _, _, _, _, heff, _⟩
      · rcases proc_of_next hn hQ' with hold' | ⟨_, _, _, rfl⟩ | ⟨_, _, _, _, _, _, _, heff, _⟩
        · exact h.pending q q' Q Q' hqq hold hold' r hr r' hr'
        · exact absurd hr' List.not_mem_nil
        · rcases heff.actor with he | ⟨_, he⟩ <;> cases he
      · exact absurd hr List.not_mem_nil
      · rcases heff.actor with he | ⟨_, he⟩ <;> cases he
  have hmem := List.mem_of_getElem? hP
  have hview := h.views P hmem
  have hothers : ∀ q Q, q ≠ p → c.procs[q]? = some Q → Exclusive clash (view c.db Q) :=
    fun q Q _ hQ => h.views Q (List.mem_of_getElem? hQ)
  have hpending : ∀ q Q, q ≠ p → c.procs[q]? = some Q →
      ∀ r ∈ P.pending, ∀ r' ∈ Q.pending, ¬ clash r r' :=
    fun q Q hq hQ => h.pending p q P Q (Ne.symm hq) hP hQ
  have hnone : ∀ {P' : Proc Op Row Stmt Ext A ε Res} {db : Db}, P'.pending = [] →
      Exclusive clash db → Exclusive clash (view db P') := by
    intro P' db hnil hdb
    rwa [view, hnil]
  have hdropped : ∀ {P' : Proc Op Row Stmt Ext A ε Res}, P'.pending = [] → ∀ q Q, q ≠ p →
      c.procs[q]? = some Q → ∀ r ∈ P'.pending, ∀ r' ∈ Q.pending, ¬ clash r r' := by
    intro P' hnil q Q _ _ r hr
    rw [hnil] at hr
    exact absurd hr List.not_mem_nil
  rcases heff.spec with ⟨rfl, hsame | hnil⟩ | ⟨rfl, rfl, rfl, hnil⟩ |
      ⟨rfl, s, a, rfl, hwait, hex, ⟨rfl, happend⟩ | ⟨htx, rfl, hnil⟩⟩
  · -- nothing changes
    refine h.set hx.symm h.committed ?_ hothers ?_
    · show Exclusive clash (Txn.puts c.db (tx.getD []))
      rw [hsame]
      exact hview
    · show ∀ q Q, _ → _ → ∀ r ∈ tx.getD [], _
      rw [hsame]
      exact hpending
  · -- its versions are dropped
    exact h.set hx.symm h.committed (hnone hnil h.committed) hothers (hdropped hnil)
  · -- they are committed
    refine h.set hx.symm hview (hnone hnil hview) (fun q Q hq hQ => ?_) (hdropped hnil)
    exact Exclusive.commit hx.symm hview (hothers q Q hq hQ) (hpending q Q hq hQ)
  · -- a statement of an open transaction
    refine h.set hx.symm h.committed ?_ hothers ?_
    · show Exclusive clash (Txn.puts c.db (tx.getD []))
      rw [happend, puts_append]
      exact hx.puts hview hex
    · intro q Q hq hQ r hr r' hr'
      have hr₁ : r ∈ P.tx.getD [] ++ written Db s a := happend ▸ hr
      rcases List.mem_append.mp hr₁ with hold | hnew
      · exact hpending q Q hq hQ r hold r' hr'
      · exact hx.waits s _ _ a hwait hex r hnew r' (mem_others.mpr ⟨q, Q, hq, hQ, hr'⟩)
  · -- a statement outside a transaction
    rw [htx] at hwait hex
    have hcommitted := hx.puts h.committed hex
    refine h.set hx.symm hcommitted (hnone hnil hcommitted) (fun q Q hq hQ => ?_) (hdropped hnil)
    refine Exclusive.commit hx.symm hcommitted (hothers q Q hq hQ) fun w hw r hr => ?_
    exact hx.waits s _ _ a hwait hex w hw r (mem_others.mpr ⟨q, Q, hq, hQ, hr⟩)

/-- **No two rows ever clash** that some call sees together. -/
theorem Run.excluded (hx : Excludes Db clash) (h₀ : Exclusive clash c₀.db) (hc₀ : c₀.procs = [])
    (hrun : Run program Ok c₀ c) : Excluded clash c := by
  induction hrun with
  | start => exact ⟨h₀, by simp [hc₀], fun p q P Q _ hP => by simp [hc₀] at hP⟩
  | step _ _ hn ih => exact ih.next hx hn

theorem Run.exclusive (hx : Excludes Db clash) (h₀ : Exclusive clash c₀.db) (hc₀ : c₀.procs = [])
    (hrun : Run program Ok c₀ c) : Exclusive clash c.db :=
  (hrun.excluded hx h₀ hc₀).committed

end

end Txn
