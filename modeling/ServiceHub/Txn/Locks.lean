/-
# `Txn.Locks` — who waits for whom

A statement locks the rows that it changes, one after the other, and its call
holds them until the transaction ends.  While a call waits inside a statement it
may already hold some of its rows; which ones is left open here: `Holding` says
what every assignment of locks to calls has to satisfy.

A call that has an uncommitted version of a row holds it, so the versions alone
are one assignment (`holding_versions`).

A cycle of calls that wait for each other is excluded by a rank that goes down
along the edges that lead on (`not_cycle_of_rank`): in a cycle every call waits.
-/
import ServiceHub.Txn.ReadCommitted
import Mathlib.Logic.Relation

namespace Txn

open Database

/-- In a cycle every edge leads on. -/
theorem not_cycle_of_rank {α : Type} {R : α → α → Prop} (rank : α → Nat)
    (hrank : ∀ a b c, R a b → R b c → rank b < rank a) (a : α) : ¬ Relation.TransGen R a a := by
  have hpath : ∀ b, Relation.TransGen R a b → ∀ c, R b c → rank b < rank a := by
    intro b hab
    induction hab with
    | single hab =>
        intro c hbc
        exact hrank _ _ c hab hbc
    | tail _ hbc ih =>
        intro d hcd
        have hdown := hrank _ _ d hbc hcd
        exact Nat.lt_trans hdown (ih _ hbc)
  intro hcycle
  obtain ⟨b, hab, _⟩ := Relation.TransGen.head'_iff.mp hcycle
  exact absurd (hpath a hcycle b hab) (Nat.lt_irrefl _)

section
variable {Op Db Row Key Stmt Ext ε Res : Type} {A : Stmt → Type} [Database Db Row Key Stmt ε A]

/-- The rows that the next statement of the call changes; `locks` says which
those of a statement are. -/
def Proc.wants (locks : Stmt → Db → List Key) (db : Db) (P : Proc Op Row Stmt Ext A ε Res) :
    List Key :=
  match P.prog with
  | .ask (.stmt s) _ => locks s (view db P)
  | _ => []

/-- The `p`-th call has an uncommitted version of the row. -/
def Holds (c : Config Op Db Row Stmt Ext A ε Res) (p : Nat) (k : Key) : Prop :=
  ∃ P, c.procs[p]? = some P ∧ ∃ r ∈ P.pending, key Db r = k

/-- What any assignment of the locks satisfies: one call holds a row, a call
holds the rows that it has versions of, and else only rows that it is about to
change. -/
structure Holding (locks : Stmt → Db → List Key) (c : Config Op Db Row Stmt Ext A ε Res)
    (held : Nat → Key → Prop) : Prop where
  one : ∀ p q k, held p k → held q k → p = q
  versions : ∀ p k, Holds c p k → held p k
  only : ∀ p k, held p k → Holds c p k ∨ ∃ P, c.procs[p]? = some P ∧ k ∈ P.wants locks c.db

/-- The `p`-th call is about to change a row that the `q`-th one holds. -/
def WaitsFor (locks : Stmt → Db → List Key) (c : Config Op Db Row Stmt Ext A ε Res)
    (held : Nat → Key → Prop) (p q : Nat) : Prop :=
  ∃ P k, c.procs[p]? = some P ∧ k ∈ P.wants locks c.db ∧ ¬ held p k ∧ held q k

variable {locks : Stmt → Db → List Key} {c : Config Op Db Row Stmt Ext A ε Res}

/-- A call that waits at no row it wants, while it is about to change that row
only, holds nothing else than versions. -/
theorem Holding.versions_of_waiting {held : Nat → Key → Prop} (h : Holding locks c held) {p : Nat}
    {P : Proc Op Row Stmt Ext A ε Res} (hP : c.procs[p]? = some P) {k k' : Key} (hk : held p k)
    (hk' : ¬ held p k') (hwants : ∀ x ∈ P.wants locks c.db, x = k') :
    ∃ r ∈ P.pending, key Db r = k := by
  rcases h.only p k hk with ⟨Q, hQ, hheld⟩ | ⟨Q, hQ, hwanted⟩
  · obtain rfl := Option.some.inj (hP.symm.trans hQ)
    exact hheld
  · obtain rfl := Option.some.inj (hP.symm.trans hQ)
    rw [hwants k hwanted] at hk
    exact absurd hk hk'

/-- The versions are one assignment. -/
theorem holding_versions (hap : Apart c) : Holding locks c (Holds c) where
  one := by
    intro p q k ⟨P, hP, r, hr, hkey⟩ ⟨Q, hQ, r', hr', hkey'⟩
    by_contra hpq
    exact hap p q P Q hpq hP hQ r hr r' hr' (hkey.trans hkey'.symm)
  versions _ _ h := h
  only _ _ h := Or.inl h

theorem waitsFor_of_version (hap : Apart c) {p q : Nat} (hpq : p ≠ q)
    {P Q : Proc Op Row Stmt Ext A ε Res} (hP : c.procs[p]? = some P) (hQ : c.procs[q]? = some Q)
    {r : Row} (hr : r ∈ Q.pending) (hwants : key Db r ∈ P.wants locks c.db) :
    WaitsFor locks c (Holds c) p q := by
  refine ⟨P, key Db r, hP, hwants, ?_, Q, hQ, r, hr, rfl⟩
  rintro ⟨P', hP', r', hr', hkey⟩
  obtain rfl := Option.some.inj (hP.symm.trans hP')
  exact hap p q P Q hpq hP hQ r' hr' r hr hkey

end

end Txn
