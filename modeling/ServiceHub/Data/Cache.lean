/-
# `Data.Cache` — a store whose entries expire

`SET key value EX ttl`, `GET` and `DEL`: a value is there until it is deleted,
replaced, or older than the time it was given.  `Says c now k P` is what a
reader may rely on: if there is a value under `k`, `P` holds of it.
-/
import Mathlib.Logic.Function.Basic

namespace Data

/-- A value that is there until `expiresAt`. -/
structure Entry (V : Type) where
  value : V
  expiresAt : Int

/-- The type of a value depends on its key. -/
structure Cache (K : Type) (V : K → Type) where
  entries : (k : K) → Option (Entry (V k))

namespace Cache

variable {K : Type} {V : K → Type}

def empty : Cache K V := ⟨fun _ => none⟩

def get (c : Cache K V) (now : Int) (k : K) : Option (V k) :=
  ((c.entries k).filter fun e => decide (now < e.expiresAt)).map (·.value)

variable [DecidableEq K]

def set (c : Cache K V) (now : Int) (k : K) (v : V k) (ttl : Int) : Cache K V :=
  ⟨Function.update c.entries k (some ⟨v, now + ttl⟩)⟩

def del (c : Cache K V) (k : K) : Cache K V := ⟨Function.update c.entries k none⟩

/-! ## What is stored -/

variable {c : Cache K V} {now : Int} {k k' : K} {v : V k} {ttl : Int}

omit [DecidableEq K] in
@[simp] theorem get_empty : (empty : Cache K V).get now k = none := rfl

@[simp] theorem get_set_of_ne (h : k' ≠ k) : (c.set now k v ttl).get now k' = c.get now k' := by
  simp only [get, set, Function.update_of_ne h]

@[simp] theorem get_del : (c.del k).get now k = none := by
  simp only [get, del, Function.update_self]
  rfl

@[simp] theorem get_del_of_ne (h : k' ≠ k) : (c.del k).get now k' = c.get now k' := by
  simp only [get, del, Function.update_of_ne h]

omit [DecidableEq K] in
/-- What is there later was there before. -/
theorem get_of_later {now' : Int} (hle : now ≤ now') (h : c.get now' k = some v) :
    c.get now k = some v := by
  obtain ⟨e, he, hv⟩ := Option.map_eq_some_iff.mp h
  obtain ⟨hentry, hlive⟩ := Option.filter_eq_some_iff.mp he
  refine Option.map_eq_some_iff.mpr ⟨e, Option.filter_eq_some_iff.mpr ⟨hentry, ?_⟩, hv⟩
  have hbefore := of_decide_eq_true hlive
  exact decide_eq_true (by omega)

/-! ## What a reader may rely on -/

/-- `P` holds of the value under `k`, if there is one. -/
def Says (c : Cache K V) (now : Int) (k : K) (P : V k → Prop) : Prop :=
  ∀ v, c.get now k = some v → P v

variable {P : V k → Prop}

omit [DecidableEq K] in
theorem says_of_none (h : c.get now k = none) : c.Says now k P := by
  intro v hv
  rw [h] at hv
  cases hv

omit [DecidableEq K] in
theorem Says.later {now' : Int} (h : c.Says now k P) (hle : now ≤ now') : c.Says now' k P :=
  fun v hv => h v (get_of_later hle hv)

theorem says_del : (c.del k).Says now k P := says_of_none get_del

theorem says_del_of_ne {P : V k' → Prop} (h : k' ≠ k) (hholds : c.Says now k' P) :
    (c.del k).Says now k' P := by
  intro v' hv'
  rw [get_del_of_ne h] at hv'
  exact hholds v' hv'

theorem says_set_of_ne {P : V k' → Prop} (h : k' ≠ k) (hholds : c.Says now k' P) :
    (c.set now k v ttl).Says now k' P := by
  intro v' hv'
  rw [get_set_of_ne h] at hv'
  exact hholds v' hv'

theorem says_set (hv : P v) : (c.set now k v ttl).Says now k P := by
  intro v' hv'
  obtain ⟨e, he, rfl⟩ := Option.map_eq_some_iff.mp hv'
  obtain ⟨hentry, _⟩ := Option.filter_eq_some_iff.mp he
  simp only [set, Function.update_self, Option.some.injEq] at hentry
  subst hentry
  exact hv

end Cache

end Data
