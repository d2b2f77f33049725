/-
# `Data.Table` — tables with a primary key

A table is a list of rows, in the order of their insertion, no two of which
have the same key.  The key condition is a field, so a table with two rows
under one key cannot be built.  `put` inserts a row, or replaces the row under
the same key in its place; `filter` deletes rows.
-/
import Mathlib.Data.List.Nodup

namespace Data

/-- Rows of type `R`, no two with the same `key`. -/
structure Table (R K : Type) (key : R → K) where
  rows : List R
  nodup : (rows.map key).Nodup

namespace Table

variable {R K : Type} {key : R → K}

/-- The table with no row. -/
def empty : Table R K key := ⟨[], List.nodup_nil⟩

/-- Two rows of a table under one key are the same row. -/
theorem eq_of_key {t : Table R K key} {r r' : R} (hr : r ∈ t.rows) (hr' : r' ∈ t.rows)
    (h : key r = key r') : r = r' :=
  List.inj_on_of_nodup_map t.nodup hr hr' h

/-- A table of rows with fewer columns, under the same keys. -/
def map {R' : Type} {key' : R' → K} (t : Table R K key) (f : R → R')
    (hf : ∀ r, key' (f r) = key r) : Table R' K key' where
  rows := t.rows.map f
  nodup := by
    have hkeys : (t.rows.map f).map key' = t.rows.map key := by
      rw [List.map_map]
      exact List.map_congr_left fun r _ => hf r
    rw [hkeys]
    exact t.nodup

/-- Delete the rows that do not meet the condition. -/
def filter (t : Table R K key) (q : R → Bool) : Table R K key where
  rows := t.rows.filter q
  nodup := (List.filter_sublist.map key).nodup t.nodup

theorem mem_filter {t : Table R K key} {q : R → Bool} {r : R} :
    r ∈ (t.filter q).rows ↔ r ∈ t.rows ∧ q r = true := List.mem_filter

variable [DecidableEq K]

/-- The row under a key. -/
def find? (t : Table R K key) (k : K) : Option R := t.rows.find? fun r => decide (key r = k)

theorem key_of_find? {t : Table R K key} {k : K} {r : R} (h : t.find? k = some r) : key r = k := by
  simpa using List.find?_some h

theorem mem_of_find? {t : Table R K key} {k : K} {r : R} (h : t.find? k = some r) : r ∈ t.rows :=
  List.mem_of_find?_eq_some h

theorem find?_eq_none {t : Table R K key} {k : K} :
    t.find? k = none ↔ ∀ r ∈ t.rows, key r ≠ k := by
  simp [find?]

theorem find?_of_mem {t : Table R K key} {r : R} (h : r ∈ t.rows) : t.find? (key r) = some r := by
  cases hf : t.find? (key r) with
  | none => exact absurd rfl (find?_eq_none.mp hf r h)
  | some r' => rw [eq_of_key (mem_of_find? hf) h (key_of_find? hf)]

/-- A condition that only the row under one key can meet. -/
theorem filter_eq_singleton {t : Table R K key} {q : R → Bool} {r : R}
    (hr : t.find? (key r) = some r) (hq : q r = true) (hkey : ∀ x, q x = true → key x = key r) :
    t.rows.filter q = [r] := by
  have hmem : r ∈ t.rows.filter q := List.mem_filter.mpr ⟨mem_of_find? hr, hq⟩
  have honly : ∀ x ∈ t.rows.filter q, x = r := by
    intro x hx
    obtain ⟨hx, hqx⟩ := List.mem_filter.mp hx
    exact eq_of_key hx (mem_of_find? hr) (hkey x hqx)
  have hnodup : (t.rows.filter q).Nodup := (List.Nodup.of_map key t.nodup).filter q
  cases hl : t.rows.filter q with
  | nil => simp [hl] at hmem
  | cons x xs =>
      rw [hl] at honly hnodup
      obtain rfl := honly x List.mem_cons_self
      have hxs : xs = [] := by
        refine List.eq_nil_iff_forall_not_mem.mpr fun y hy => ?_
        obtain rfl := honly y (List.mem_cons_of_mem _ hy)
        exact (List.nodup_cons.mp hnodup).1 hy
      rw [hxs]

/-- The row under a key, if it meets the condition. -/
theorem find?_filter {t : Table R K key} {q : R → Bool} {k : K} {r : R} (h : t.find? k = some r)
    (hq : q r = true) : (t.rows.filter q).find? (fun x => decide (key x = k)) = some r := by
  have hk := key_of_find? h
  have hmem : r ∈ t.rows.filter q := List.mem_filter.mpr ⟨mem_of_find? h, hq⟩
  cases hfound : (t.rows.filter q).find? (fun x => decide (key x = k)) with
  | none => exact absurd (decide_eq_true hk) (List.find?_eq_none.mp hfound r hmem)
  | some x =>
      have hx : key x = k := by simpa using List.find?_some hfound
      have hrow := (List.mem_filter.mp (List.mem_of_find?_eq_some hfound)).1
      rw [eq_of_key hrow (mem_of_find? h) (hx.trans hk.symm)]

/-- Insert a row, or replace the one under its key. -/
def put (t : Table R K key) (r : R) : Table R K key :=
  if h : ∀ x ∈ t.rows, key x ≠ key r then
    ⟨t.rows ++ [r], by
      rw [List.map_append]
      refine List.nodup_append.mpr ⟨t.nodup, by simp, ?_⟩
      intro k hk k' hk'
      obtain ⟨x, hx, rfl⟩ := List.mem_map.mp hk
      have hr : k' = key r := by simpa using hk'
      rw [hr]
      exact h x hx⟩
  else
    ⟨t.rows.map fun x => if key x = key r then r else x, by
      have hkeys : (t.rows.map fun x => if key x = key r then r else x).map key
          = t.rows.map key := by
        rw [List.map_map]
        refine List.map_congr_left fun x _ => ?_
        by_cases hx : key x = key r <;> simp [hx]
      rw [hkeys]
      exact t.nodup⟩

theorem find?_filtered (t : Table R K key) (q : R → Bool) (k : K) :
    (t.filter q).find? k = (t.find? k).filter q := by
  cases hf : t.find? k with
  | none =>
      refine find?_eq_none.mpr fun r hr => ?_
      exact find?_eq_none.mp hf r (mem_filter.mp hr).1
  | some r =>
      have hk := key_of_find? hf
      cases hq : q r with
      | true =>
          rw [Option.filter_some, if_pos hq, ← hk]
          exact find?_of_mem (mem_filter.mpr ⟨mem_of_find? hf, hq⟩)
      | false =>
          rw [Option.filter_some, if_neg (by simp [hq])]
          refine find?_eq_none.mpr fun x hx hx' => ?_
          obtain ⟨hx, hqx⟩ := mem_filter.mp hx
          rw [eq_of_key hx (mem_of_find? hf) (hx'.trans hk.symm), hq] at hqx
          cases hqx

theorem rows_put_of_new {t : Table R K key} {r : R} (h : t.find? (key r) = none) :
    (t.put r).rows = t.rows ++ [r] := by
  rw [put, dif_pos (find?_eq_none.mp h)]

theorem rows_put_of_old {t : Table R K key} {r x : R} (h : t.find? (key r) = some x) :
    (t.put r).rows = t.rows.map fun y => if key y = key r then r else y := by
  rw [put, dif_neg]
  intro hall
  exact hall x (mem_of_find? h) (key_of_find? h)

/-- Replacing a row leaves the others where they are. -/
theorem rows_put_split {t : Table R K key} {r x : R} (h : t.find? (key r) = some x) :
    ∃ l l', t.rows = l ++ x :: l' ∧ (t.put r).rows = l ++ r :: l' ∧
      ∀ y ∈ l ++ l', key y ≠ key r := by
  obtain ⟨l, l', hrows⟩ := List.append_of_mem (mem_of_find? h)
  have hx : key x = key r := key_of_find? h
  have hnodup := t.nodup
  rw [hrows, List.map_append, List.map_cons] at hnodup
  obtain ⟨_, hright, hapart⟩ := List.nodup_append.mp hnodup
  have hne : ∀ y ∈ l ++ l', key y ≠ key r := by
    intro y hy hk
    rcases List.mem_append.mp hy with hy | hy
    · exact hapart _ (List.mem_map_of_mem hy) _ List.mem_cons_self (hk.trans hx.symm)
    · exact (List.nodup_cons.mp hright).1 (hk.trans hx.symm ▸ List.mem_map_of_mem hy)
  have hsame : ∀ m : List R, (∀ y ∈ m, key y ≠ key r) →
      m.map (fun y => if key y = key r then r else y) = m := by
    intro m hm
    calc m.map (fun y => if key y = key r then r else y) = m.map id :=
          List.map_congr_left fun y hy => if_neg (hm y hy)
      _ = m := List.map_id m
  refine ⟨l, l', hrows, ?_, hne⟩
  rw [rows_put_of_old h, hrows, List.map_append, List.map_cons, if_pos hx,
    hsame l fun y hy => hne y (List.mem_append_left _ hy),
    hsame l' fun y hy => hne y (List.mem_append_right _ hy)]

/-- A condition that neither the row nor the one it replaces meets. -/
theorem filter_put {t : Table R K key} {q : R → Bool} {r : R} (hr : q r = false)
    (hold : ∀ x, t.find? (key r) = some x → q x = false) :
    (t.put r).rows.filter q = t.rows.filter q := by
  cases h : t.find? (key r) with
  | none => rw [rows_put_of_new h, List.filter_append, List.filter_cons_of_neg (by simp [hr]),
      List.filter_nil, List.append_nil]
  | some x =>
      obtain ⟨l, l', hrows, hput, _⟩ := rows_put_split h
      rw [hput, hrows, List.filter_append, List.filter_append,
        List.filter_cons_of_neg (by simp [hr]), List.filter_cons_of_neg (by simp [hold x h])]

theorem mem_put {t : Table R K key} {r x : R} :
    x ∈ (t.put r).rows ↔ x = r ∨ (x ∈ t.rows ∧ key x ≠ key r) := by
  cases h : t.find? (key r) with
  | none =>
      rw [rows_put_of_new h, List.mem_append, List.mem_singleton, Or.comm]
      exact or_congr Iff.rfl
        ⟨fun hx => ⟨hx, find?_eq_none.mp h x hx⟩, fun hx => hx.1⟩
  | some y =>
      rw [rows_put_of_old h, List.mem_map]
      constructor
      · rintro ⟨z, hz, rfl⟩
        by_cases hzr : key z = key r
        · exact Or.inl (if_pos hzr)
        · right
          rw [if_neg hzr]
          exact ⟨hz, hzr⟩
      · rintro (rfl | ⟨hx, hne⟩)
        · exact ⟨y, mem_of_find? h, if_pos (key_of_find? h)⟩
        · exact ⟨x, hx, if_neg hne⟩

theorem find?_put (t : Table R K key) (r : R) (k : K) :
    (t.put r).find? k = if key r = k then some r else t.find? k := by
  by_cases hk : key r = k
  · rw [if_pos hk, ← hk]
    exact find?_of_mem (mem_put.mpr (Or.inl rfl))
  · rw [if_neg hk]
    cases hf : t.find? k with
    | none =>
        refine find?_eq_none.mpr fun x hx => ?_
        rcases mem_put.mp hx with rfl | ⟨hx, _⟩
        · exact hk
        · exact find?_eq_none.mp hf x hx
    | some y =>
        have hy : key y = k := key_of_find? hf
        have hmem : y ∈ (t.put r).rows :=
          mem_put.mpr (Or.inr ⟨mem_of_find? hf, fun h => hk (h.symm.trans hy)⟩)
        rw [← hy]
        exact find?_of_mem hmem

/-- The keys of the rows that meet a condition. -/
theorem mem_keys_filter {t : Table R K key} {p : R → Bool} {k : K} :
    k ∈ (t.rows.filter p).map key ↔ (t.find? k).any p = true := by
  rw [List.mem_map, Option.any_eq_true]
  constructor
  · rintro ⟨r, hr, rfl⟩
    obtain ⟨hmem, hp⟩ := List.mem_filter.mp hr
    exact ⟨r, find?_of_mem hmem, hp⟩
  · rintro ⟨r, hr, hp⟩
    exact ⟨r, List.mem_filter.mpr ⟨mem_of_find? hr, hp⟩, key_of_find? hr⟩

/-- Two tables in which the same keys meet a condition have as many rows that
do. -/
theorem countP_eq {t t' : Table R K key} {p q : R → Bool}
    (h : ∀ k, (t.find? k).any p = (t'.find? k).any q) : t.rows.countP p = t'.rows.countP q := by
  have hnodup : ∀ (t : Table R K key) (p : R → Bool), ((t.rows.filter p).map key).Nodup :=
    fun t p => (t.filter p).nodup
  have hperm : ((t.rows.filter p).map key).Perm ((t'.rows.filter q).map key) := by
    refine (List.perm_ext_iff_of_nodup (hnodup t p) (hnodup t' q)).mpr fun k => ?_
    rw [mem_keys_filter, mem_keys_filter, h k]
  have hlength := hperm.length_eq
  rwa [List.length_map, List.length_map, ← List.countP_eq_length_filter,
    ← List.countP_eq_length_filter] at hlength

end Table

end Data
