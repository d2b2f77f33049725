/-
# `Data.Pages` — a list shown page by page

Page `i` of a list has the `L` rows from `i * L` on.  The pages, put together,
are the list.  Where each page is put in order by itself, what is put together
has every row once, and is in order exactly if the list was in order between any
two of its pages (`pairwise_sortPages_iff`).

A page that starts anywhere else behind the ones before it leaves a row out: all
pages have every row once exactly if they `Tiles` the list (`perm_sortWindows_iff`).
-/
import Mathlib.Data.List.Basic
import Mathlib.Data.List.Nodup
import Mathlib.Data.List.Perm.Basic

namespace Data

section
variable {α : Type} {R : α → α → Prop} {sort : List α → List α} {L k : Nat} {xs : List α}

def page (L : Nat) (xs : List α) (i : Nat) : List α := (xs.drop (i * L)).take L

/-- The first `k` pages. -/
theorem flatMap_page (L : Nat) (xs : List α) (k : Nat) :
    (List.range k).flatMap (page L xs) = xs.take (k * L) := by
  induction k with
  | zero => simp
  | succ k ih =>
      rw [List.range_succ, List.flatMap_append, ih, Nat.succ_mul, List.take_add]
      simp [page]

theorem flatMap_page_of_le (hk : xs.length ≤ k * L) : (List.range k).flatMap (page L xs) = xs := by
  rw [flatMap_page, List.take_of_length_le hk]

/-- The rows of a page, by their places in the list. -/
theorem mem_page_iff (hL : 0 < L) {i : Nat} {x : α} :
    x ∈ page L xs i ↔ ∃ j, xs[j]? = some x ∧ j / L = i := by
  rw [page, List.mem_iff_getElem?]
  constructor
  · rintro ⟨n, hn⟩
    have hlt : n < L := by
      by_contra hge
      rw [List.getElem?_take_eq_none (Nat.not_lt.mp hge)] at hn
      cases hn
    refine ⟨i * L + n, ?_, ?_⟩
    · rwa [List.getElem?_take_of_lt hlt, List.getElem?_drop] at hn
    · rw [Nat.add_comm, Nat.add_mul_div_right n i hL, Nat.div_eq_of_lt hlt, Nat.zero_add]
  · rintro ⟨j, hx, rfl⟩
    refine ⟨j % L, ?_⟩
    rw [List.getElem?_take_of_lt (Nat.mod_lt j hL), List.getElem?_drop, Nat.mul_comm,
      Nat.div_add_mod]
    exact hx

/-- The pages, each put in order by itself. -/
def sortPages (sort : List α → List α) (L : Nat) (xs : List α) (k : Nat) : List α :=
  (List.range k).flatMap fun i => sort (page L xs i)

theorem perm_sortPages (hsort : ∀ l, (sort l).Perm l) (hk : xs.length ≤ k * L) :
    (sortPages sort L xs k).Perm xs := by
  have hperm : (sortPages sort L xs k).Perm ((List.range k).flatMap (page L xs)) :=
    List.Perm.flatMap_left _ fun i _ => hsort (page L xs i)
  rwa [flatMap_page_of_le hk] at hperm

theorem pairwise_sortPages_iff (hL : 0 < L) (hsort : ∀ l, (sort l).Perm l)
    (hordered : ∀ l, (sort l).Pairwise R) (hk : xs.length ≤ k * L) :
    (sortPages sort L xs k).Pairwise R ↔
      ∀ i j x y, xs[i]? = some x → xs[j]? = some y → i / L < j / L → R x y := by
  rw [sortPages, List.pairwise_flatMap]
  constructor
  · rintro ⟨_, hpages⟩ i j x y hx hy hij
    have hj : j < k * L := Nat.lt_of_lt_of_le (List.getElem?_eq_some_iff.mp hy).1 hk
    have hjk : j / L < k := (Nat.div_lt_iff_lt_mul hL).mpr hj
    have hrel := List.pairwise_iff_getElem.mp hpages (i / L) (j / L)
      (by simpa using Nat.lt_trans hij hjk) (by simpa using hjk) hij
    rw [List.getElem_range, List.getElem_range] at hrel
    exact hrel x ((hsort _).mem_iff.mpr ((mem_page_iff hL).mpr ⟨i, hx, rfl⟩)) y
      ((hsort _).mem_iff.mpr ((mem_page_iff hL).mpr ⟨j, hy, rfl⟩))
  · intro h
    refine ⟨fun i _ => hordered _, List.pairwise_iff_getElem.mpr ?_⟩
    intro a b ha hb hab
    rw [List.getElem_range, List.getElem_range]
    intro x hx y hy
    obtain ⟨i, hi, rfl⟩ := (mem_page_iff hL).mp ((hsort _).mem_iff.mp hx)
    obtain ⟨j, hj, rfl⟩ := (mem_page_iff hL).mp ((hsort _).mem_iff.mp hy)
    exact h i j x y hi hj hab

/-! ## Pages that start where they are told -/

variable {start : Nat → Nat}

/-- The `L` rows from `start i` on, for each of `k` pages, each put in order by
itself. -/
def sortWindows (sort : List α → List α) (start : Nat → Nat) (L : Nat) (xs : List α) (k : Nat) :
    List α :=
  (List.range k).flatMap fun i => sort ((xs.drop (start i)).take L)

/-- The `k` pages are enough for `n` rows, and each starts where the one before
it ends. -/
structure Tiles (start : Nat → Nat) (L n k : Nat) : Prop where
  enough : n ≤ k * L
  starts : ∀ i, i * L < n → start i = i * L

/-- Pages behind the last row are empty, wherever they start. -/
theorem Tiles.sortWindows_eq (h : Tiles start L xs.length k) (hle : ∀ i < k, i * L ≤ start i) :
    sortWindows sort start L xs k = sortPages sort L xs k := by
  refine List.flatMap_congr fun i hi => congrArg sort ?_
  by_cases hlt : i * L < xs.length
  · rw [page, h.starts i hlt]
  · have hge := hle i (List.mem_range.mp hi)
    rw [page, List.drop_eq_nil_of_le (by omega), List.drop_eq_nil_of_le (by omega)]

/-- The row at a place is on a page that starts there or before, if it is on
one. -/
theorem exists_window (hsort : ∀ l, (sort l).Perm l) (hnodup : xs.Nodup) {j : Nat}
    (hj : j < xs.length) (hmem : xs[j] ∈ sortWindows sort start L xs k) :
    ∃ i < k, start i ≤ j ∧ j < start i + L := by
  obtain ⟨i, hi, hx⟩ := List.mem_flatMap.mp hmem
  obtain ⟨m, hm⟩ := List.mem_iff_getElem?.mp ((hsort _).mem_iff.mp hx)
  have hlt : m < L := by
    by_contra hge
    rw [List.getElem?_take_eq_none (Nat.not_lt.mp hge)] at hm
    cases hm
  rw [List.getElem?_take_of_lt hlt, List.getElem?_drop] at hm
  obtain ⟨hplace, hsame⟩ := List.getElem?_eq_some_iff.mp hm
  have hplace := hnodup.getElem_inj_iff.mp hsame
  exact ⟨i, List.mem_range.mp hi, by omega, by omega⟩

/-- The first row of a page is on that page: the pages before it, by induction,
end too early, and the later ones start too late. -/
theorem start_eq (hL : 0 < L) (hle : ∀ i < k, i * L ≤ start i)
    (hfound : ∀ j < xs.length, ∃ i < k, start i ≤ j ∧ j < start i + L) (i : Nat)
    (hi : i * L < xs.length) : i < k ∧ start i = i * L := by
  induction i using Nat.strongRecOn with
  | ind i ih =>
      obtain ⟨m, hm, hstart, hend⟩ := hfound (i * L) hi
      have hmi : m ≤ i := by
        refine Nat.le_of_mul_le_mul_right ?_ hL
        exact Nat.le_trans (hle m hm) hstart
      rcases Nat.lt_or_eq_of_le hmi with hlt | rfl
      · have hbefore : m * L + L ≤ i * L := by
          rw [← Nat.succ_mul]
          exact Nat.mul_le_mul_right L hlt
        have hsame := (ih m hlt (by omega)).2
        omega
      · exact ⟨hm, Nat.le_antisymm hstart (hle m hm)⟩

/-- **All pages have every row once** exactly if they tile the list. -/
theorem perm_sortWindows_iff (hL : 0 < L) (hsort : ∀ l, (sort l).Perm l) (hnodup : xs.Nodup)
    (hle : ∀ i < k, i * L ≤ start i) :
    (sortWindows sort start L xs k).Perm xs ↔ Tiles start L xs.length k := by
  constructor
  · intro hperm
    have hfound : ∀ j < xs.length, ∃ i < k, start i ≤ j ∧ j < start i + L := fun j hj =>
      exists_window hsort hnodup hj (hperm.mem_iff.mpr (List.getElem_mem hj))
    refine ⟨Nat.not_lt.mp fun hlt => ?_, fun i hi => (start_eq hL hle hfound i hi).2⟩
    exact absurd (start_eq hL hle hfound k hlt).1 (Nat.lt_irrefl k)
  · intro htiles
    rw [htiles.sortWindows_eq hle]
    exact perm_sortPages hsort htiles.enough

end

end Data
