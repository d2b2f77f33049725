/-
# `Data.Journal` — a journal of what became of things

A journal is a list of entries, each saying of one thing in which state it then
was.  `replay j x` is what the last entry about `x` says.  `Tells f k g` is what
a journal `k` that is written while the states go from `f` to `g` has to say so
that replaying is right afterwards: nothing that is not so at the end, and the
new state of whatever has changed.
-/
import Mathlib.Tactic.Basic

namespace Data.Journal

variable {X S : Type} [DecidableEq X]

def replay (j : List (X × S)) (x : X) : Option S :=
  ((j.filter fun e => decide (e.1 = x)).getLast?).map (·.2)

theorem replay_append (j k : List (X × S)) (x : X) :
    replay (j ++ k) x = (replay k x).or (replay j x) := by
  simp only [replay, List.filter_append, List.getLast?_append]
  cases (k.filter fun e => decide (e.1 = x)).getLast? <;> rfl

/-- What is replayed is one of the entries. -/
theorem mem_of_replay {j : List (X × S)} {x : X} {s : S} (h : replay j x = some s) :
    (x, s) ∈ j := by
  obtain ⟨⟨y, t⟩, he, rfl⟩ := Option.map_eq_some_iff.mp h
  obtain ⟨hmem, hy⟩ := List.mem_filter.mp (List.mem_of_getLast? he)
  obtain rfl : y = x := of_decide_eq_true hy
  exact hmem

theorem replay_isSome {j : List (X × S)} {x : X} {s : S} (h : (x, s) ∈ j) :
    ∃ t, replay j x = some t := by
  have hmem : (x, s) ∈ j.filter fun e => decide (e.1 = x) :=
    List.mem_filter.mpr ⟨h, decide_eq_true rfl⟩
  cases hlast : (j.filter fun e => decide (e.1 = x)).getLast? with
  | none =>
      rw [List.getLast?_eq_none_iff.mp hlast] at hmem
      exact absurd hmem List.not_mem_nil
  | some e => exact ⟨e.2, by rw [replay, hlast]; rfl⟩

/-- The states went from `f` to `g` while `k` was written. -/
structure Tells (f : X → Option S) (k : List (X × S)) (g : X → Option S) : Prop where
  truthful : ∀ x s, (x, s) ∈ k → g x = some s
  complete : ∀ x s t, f x = some s → g x = some t → s ≠ t → ∃ u, (x, u) ∈ k
  stays : ∀ x s, f x = some s → ∃ t, g x = some t

variable {f g : X → Option S} {j k : List (X × S)} {x : X}

/-- Replaying yields the state of `x`. -/
def Right (j : List (X × S)) (f : X → Option S) (x : X) : Prop :=
  ∃ s, f x = some s ∧ replay j x = some s

theorem Tells.right_of_mem {s : S} (h : Tells f k g) (hs : (x, s) ∈ k) : Right (j ++ k) g x := by
  obtain ⟨t, ht⟩ := replay_isSome hs
  refine ⟨t, h.truthful x t (mem_of_replay ht), ?_⟩
  rw [replay_append, ht]
  rfl

/-- What is replayed rightly stays so. -/
theorem Tells.right (h : Tells f k g) (hright : Right j f x) : Right (j ++ k) g x := by
  obtain ⟨s, hf, hj⟩ := hright
  obtain ⟨t, hg⟩ := h.stays x s hf
  cases hk : replay k x with
  | some u => exact h.right_of_mem (mem_of_replay hk)
  | none =>
      refine ⟨t, hg, ?_⟩
      have hsame : s = t := by
        refine Classical.byContradiction fun hne => ?_
        obtain ⟨u, hu⟩ := h.complete x s t hf hg hne
        obtain ⟨v, hv⟩ := replay_isSome hu
        rw [hk] at hv
        cases hv
      rw [replay_append, hk, ← hsame]
      exact hj

/-- What has changed is replayed rightly. -/
theorem Tells.right_of_changed {s t : S} (h : Tells f k g) (hf : f x = some s) (hg : g x = some t)
    (hne : s ≠ t) : Right (j ++ k) g x := by
  obtain ⟨u, hu⟩ := h.complete x s t hf hg hne
  exact h.right_of_mem hu

end Data.Journal
