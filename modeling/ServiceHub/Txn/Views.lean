/-
# `Txn.Views` — how the rows that are present stand to each other

A step makes no row present but those that its statement writes
(`present_next`).  So a relation that every new row keeps clear of the present
ones never holds between two present rows (`Run.pairwise`).  And a row that
stands on others, as a foreign key does, goes on to stand on them, in what its
own call sees until it is committed and in the committed state from then on
(`Run.grounded`).
-/
import ServiceHub.Txn.ReadCommitted

namespace Txn

open Database

section
variable {Op Db Row Key Stmt Ext ε Res : Type} {A : Stmt → Type} [Database Db Row Key Stmt ε A]

variable [DecidableEq Key] [Lawful Db]
  {program : Op → Prog (Instr Stmt Ext) (Instr.Ans A) ε Res}
  {Ok : Config Op Db Row Stmt Ext A ε Res → Event Op ε → Prop}
  {c₀ c c' : Config Op Db Row Stmt Ext A ε Res} {e : Event Op ε}

/-- **No two present rows clash**, if no two do at first and every row that is
written clashes neither with a present one nor with another one written. -/
theorem Run.pairwise {clash : Row → Row → Prop} (hsymm : ∀ r r', clash r r' → clash r' r)
    (h₀ : ∀ k k' r r', get c₀.db k = some r → get c₀.db k' = some r' → ¬ clash r r')
    (hc₀ : c₀.procs = [])
    (hwrite : ∀ c p P s k a, Run program Ok c₀ c → Ok c (.exec p) → c.procs[p]? = some P →
      P.prog = .ask (.stmt s) k → exec s (view c.db P) = .ok a →
      (∀ r r', Present c r → Present c r' → ¬ clash r r') →
        ∀ w ∈ written Db s a, (∀ r, Present c r → ¬ clash w r) ∧
          ∀ w' ∈ written Db s a, ¬ clash w w')
    (hrun : Run program Ok c₀ c) : ∀ r r', Present c r → Present c r' → ¬ clash r r' := by
  induction hrun with
  | start =>
      intro r r' hr hr'
      rcases hr with ⟨k, hr⟩ | ⟨P, hP, _⟩
      · rcases hr' with ⟨k', hr'⟩ | ⟨P, hP, _⟩
        · exact h₀ k k' r r' hr hr'
        · simp [hc₀] at hP
      · simp [hc₀] at hP
  | step hrun hok hn ih =>
      intro r r' hr hr'
      rcases present_next hn hr with hold | hnew
      · rcases present_next hn hr' with hold' | ⟨p, P, s, k, a, rfl, hP, hk, _, hex, hw⟩
        · exact ih r r' hold hold'
        · intro hclash
          have hclear := hwrite _ p P s k a hrun hok hP hk hex ih r' hw
          exact hclear.1 r hold (hsymm _ _ hclash)
      · obtain ⟨p, P, s, k, a, rfl, hP, hk, _, hex, hw⟩ := hnew
        have hclear := hwrite _ p P s k a hrun hok hP hk hex ih r hw
        rcases present_next hn hr' with hold' | ⟨q, Q, t, l, b, he, hQ, hl, _, hex', hw'⟩
        · exact hclear.1 r' hold'
        · -- one event is one statement with one answer
          cases he
          obtain rfl := Option.some.inj (hP.symm.trans hQ)
          cases hk.symm.trans hl
          obtain rfl := Except.ok.inj (hex.symm.trans hex')
          exact hclear.2 r' hw'

theorem isSome_get_puts_puts {k : Key} {db : Db} (ws us : List Row)
    (h : (get (puts db us) k).isSome) : (get (puts (puts db ws) us) k).isSome := by
  by_cases hown : ∃ w ∈ us, key Db w = k
  · rwa [get_puts_of_mem k us _ db hown]
  · have hnone : ∀ w ∈ us, key Db w ≠ k := fun w hw hk => hown ⟨w, hw, hk⟩
    rw [get_puts_of_notMem k us _ hnone] at h ⊢
    exact isSome_get_puts ws h

/-- Every row that a call sees stands on what the call sees, and every committed
row on what is committed. -/
structure Grounded (On : Db → Row → Prop) (c : Config Op Db Row Stmt Ext A ε Res) : Prop where
  committed : ∀ k r, get c.db k = some r → On c.db r
  pending : ∀ P ∈ c.procs, ∀ w ∈ P.pending, On (view c.db P) w

/-- **References hold**, if every statement checks those of the rows it writes,
and no later write takes away what a row stands on. -/
theorem Run.grounded {On : Db → Row → Prop} (hmono : ∀ db rows r, On db r → On (puts db rows) r)
    (hjoin : ∀ db ws us r, On (puts db us) r → On (puts (puts db ws) us) r)
    (hstmt : ∀ (s : Stmt) (db : Db) (a : A s), exec s db = .ok a →
      (∀ k r, get db k = some r → On db r) → ∀ w ∈ written Db s a, On db w)
    (h₀ : ∀ k r, get c₀.db k = some r → On c₀.db r) (hc₀ : c₀.procs = [])
    (hrun : Run program Ok c₀ c) : Grounded On c := by
  induction hrun with
  | start => exact ⟨h₀, fun P hP => by simp [hc₀] at hP⟩
  | @step c _ _ hrun hok hn ih =>
      rcases next_cases program hn with ⟨o, rfl, rfl⟩ | ⟨p, P, i, k, x, tx, db, hP, hk, heff, rfl⟩
      · refine ⟨ih.committed, fun Q hQ w hw => ?_⟩
        rcases List.mem_append.mp hQ with hQ | hQ
        · exact ih.pending Q hQ w hw
        · rw [List.mem_singleton.mp hQ] at hw
          exact absurd hw List.not_mem_nil
      have hpending := ih.pending P (List.mem_of_getElem? hP)
      have hview : ∀ k r, get (view c.db P) k = some r → On (view c.db P) r := by
        intro k r hr
        rcases get_puts k P.pending c.db with ⟨w, hw, _, hg⟩ | ⟨_, hg⟩
        · obtain rfl := Option.some.inj (hg.symm.trans hr)
          exact hpending w hw
        · exact hmono _ _ r (ih.committed k r (hg.symm.trans hr))
      -- what is committed, and the versions that the call itself goes on with
      have hmoved : (∃ ws, db = puts c.db ws ∧ ∀ w ∈ ws, On db w) ∧
          ∀ w ∈ tx.getD [], On (puts db (tx.getD [])) w := by
        rcases heff.spec with ⟨rfl, hsame | hnil⟩ | ⟨_, _, rfl, hnil⟩ |
            ⟨_, s, a, _, _, hex, ⟨rfl, happend⟩ | ⟨htx, rfl, hnil⟩⟩
        · rw [hsame]
          exact ⟨⟨[], rfl, by simp⟩, hpending⟩
        · rw [hnil]
          exact ⟨⟨[], rfl, by simp⟩, by simp⟩
        · rw [hnil]
          exact ⟨⟨_, rfl, hpending⟩, by simp⟩
        · rw [happend, puts_append]
          refine ⟨⟨[], rfl, by simp⟩, fun w hw => ?_⟩
          rcases List.mem_append.mp hw with hold | hnew
          · exact hmono _ _ w (hpending w hold)
          · exact hmono _ _ w (hstmt s _ a hex hview w hnew)
        · rw [htx] at hex
          rw [hnil]
          exact ⟨⟨_, rfl, fun w hw => hmono _ _ w (hstmt s _ a hex ih.committed w hw)⟩, by simp⟩
      obtain ⟨⟨ws, rfl, hws⟩, hown⟩ := hmoved
      refine ⟨fun k r hr => ?_, fun Q hQ w hw => ?_⟩
      · rcases get_puts k ws c.db with ⟨w, hw, _, hg⟩ | ⟨_, hg⟩
        · obtain rfl := Option.some.inj (hg.symm.trans hr)
          exact hws w hw
        · exact hmono _ ws r (ih.committed k r (hg.symm.trans hr))
      · rcases List.mem_or_eq_of_mem_set hQ with hold | rfl
        · exact hjoin c.db ws Q.pending w (ih.pending Q hold w hw)
        · exact hown w hw

end

end Txn
