/-
# `Data.PosixPath` — absolute paths, and how a path leads from one to another

An absolute path is the list of its names.  A relative path is followed segment
by segment: nothing for an empty segment and for `.`, up for `..`, down for any
other.  `descend` follows segments that never lead above where they start, so
that they may be followed from anywhere (`walk_of_descend`); a walk that ends
below a directory it did not start in has entered it at a last time
(`entered_of_walk`).

A path is cut at its last `/` in one way only (`flat_concat_injective`).
-/
import ServiceHub.Data.Text
import Mathlib.Data.List.Induction

namespace Data

namespace PosixPath

abbrev Name : Type := List Char

/-- An absolute path; `/` stands between names only. -/
structure AbsPath where
  names : List Name
  slash_not_mem : ∀ n ∈ names, '/' ∉ n

/-! ## Following a path -/

def step (dir : List Name) (segment : Name) : List Name :=
  if segment = [] ∨ segment = ['.'] then dir
  else if segment = ['.', '.'] then dir.dropLast
  else dir ++ [segment]

def walk (dir : List Name) (segments : List Name) : List Name := segments.foldl step dir

/-- `path.resolve(base, path)`; an absolute path starts at the root. -/
def start (base : List Name) (path : List Char) : List Name :=
  if path.head? = some '/' then [] else base

def resolve (base : List Name) (path : List Char) : List Name :=
  walk (start base path) (path.splitOn '/')

/-- Follow segments that do not lead above the directory where they start. -/
def descend : List Name → List Name → Option (List Name)
  | dir, [] => some dir
  | dir, s :: ss => if s = ['.', '.'] ∧ dir = [] then none else descend (step dir s) ss

/-- A name that leads down. -/
def Proper (n : Name) : Prop := n ≠ [] ∧ n ≠ ['.'] ∧ n ≠ ['.', '.']

theorem step_proper {dir : List Name} {n : Name} (h : Proper n) : step dir n = dir ++ [n] := by
  obtain ⟨hempty, hdot, hup⟩ := h
  rw [step, if_neg (not_or.mpr ⟨hempty, hdot⟩), if_neg hup]

theorem step_append {base dir : List Name} {s : Name} (h : ¬ (s = ['.', '.'] ∧ dir = [])) :
    step (base ++ dir) s = base ++ step dir s := by
  rw [step, step]
  split
  · rfl
  · split
    · rename_i hup
      have hdir : dir ≠ [] := fun hdir => h ⟨hup, hdir⟩
      exact List.dropLast_append_of_ne_nil hdir
    · exact List.append_assoc base dir [s]

theorem walk_append (dir : List Name) (ss ts : List Name) :
    walk dir (ss ++ ts) = walk (walk dir ss) ts := List.foldl_append

theorem walk_of_descend {base dir rest : List Name} {ss : List Name}
    (h : descend dir ss = some rest) : walk (base ++ dir) ss = base ++ rest := by
  induction ss generalizing dir with
  | nil =>
      cases h
      rfl
  | cons s ss ih =>
      rw [descend] at h
      split at h
      · cases h
      · rename_i hstays
        rw [walk, List.foldl_cons, step_append hstays]
        exact ih h

theorem descend_concat {dir rest : List Name} {ss : List Name} {s : Name}
    (h : descend dir ss = some rest) (hstays : ¬ (s = ['.', '.'] ∧ rest = [])) :
    descend dir (ss ++ [s]) = some (step rest s) := by
  induction ss generalizing dir with
  | nil =>
      cases h
      rw [List.nil_append, descend, if_neg hstays]
      rfl
  | cons t ss ih =>
      rw [descend] at h
      split at h
      · cases h
      · rename_i ht
        rw [List.cons_append, descend, if_neg ht]
        exact ih h

/-- The names of a path stay free of `/`. -/
theorem slash_not_mem_walk {dir ss : List Name} (hdir : ∀ n ∈ dir, '/' ∉ n)
    (hss : ∀ s ∈ ss, '/' ∉ s) : ∀ n ∈ walk dir ss, '/' ∉ n := by
  induction ss generalizing dir with
  | nil => exact hdir
  | cons s ss ih =>
      refine ih ?_ fun t ht => hss t (List.mem_cons_of_mem s ht)
      intro n hn
      rw [step] at hn
      split at hn
      · exact hdir n hn
      · split at hn
        · exact hdir n ((List.dropLast_sublist dir).mem hn)
        · rcases List.mem_append.mp hn with hn | hn
          · exact hdir n hn
          · rw [List.mem_singleton.mp hn]
            exact hss s List.mem_cons_self

theorem slash_not_mem_split {path : List Char} {s : Name} (h : s ∈ path.splitOn '/') : '/' ∉ s := by
  induction path generalizing s with
  | nil =>
      rw [List.splitOn_nil, List.mem_singleton] at h
      rw [h]
      exact List.not_mem_nil
  | cons c path ih =>
      rw [List.splitOn_cons_eq_if_modifyHead] at h
      split at h
      · rcases List.mem_cons.mp h with rfl | h
        · exact List.not_mem_nil
        · exact ih h
      · rename_i hc
        cases hsplit : path.splitOn '/' with
        | nil => exact absurd hsplit (List.splitOn_ne_nil '/' path)
        | cons t ts =>
            rw [hsplit, List.modifyHead_cons] at h
            rcases List.mem_cons.mp h with rfl | h
            · have ht : '/' ∉ t := ih (by rw [hsplit]; exact List.mem_cons_self)
              have hne : '/' ≠ c := by
                rintro rfl
                exact hc (by decide)
              exact List.not_mem_cons_of_ne_of_not_mem hne ht
            · exact ih (by rw [hsplit]; exact List.mem_cons_of_mem t h)

/-- What a walk ends below, it was below at the start or has entered. -/
theorem entered_of_walk {dir parent rest ss : List Name} {n : Name}
    (hdir : ∀ r, dir ≠ parent ++ n :: r) (h : walk dir ss = parent ++ n :: rest) :
    ∃ before after, ss = before ++ n :: after ∧ walk dir before = parent ∧
      descend [] after = some rest := by
  induction ss using List.reverseRecOn generalizing rest with
  | nil => exact absurd h (hdir rest)
  | append_singleton ss s ih =>
      rw [walk_append] at h
      change step (walk dir ss) s = parent ++ n :: rest at h
      -- one more segment after the ones that lead from the parent
      have hmore : ∀ r, walk dir ss = parent ++ n :: r → ¬ (s = ['.', '.'] ∧ r = []) →
          step r s = rest → ∃ before after, ss ++ [s] = before ++ n :: after ∧
            walk dir before = parent ∧ descend [] after = some rest := by
        intro r hr hstays hstep
        obtain ⟨before, after, hss, hbefore, hafter⟩ := ih hr
        refine ⟨before, after ++ [s], ?_, hbefore, ?_⟩
        · rw [hss, List.append_assoc]
          rfl
        · rw [descend_concat hafter hstays, hstep]
      rw [step] at h
      split at h
      · rename_i hstay
        refine hmore rest h ?_ (if_pos hstay)
        rintro ⟨rfl, -⟩
        rcases hstay with hstay | hstay <;> cases hstay
      · split at h
        · rename_i hup
          rcases List.eq_nil_or_concat' (walk dir ss) with hnil | ⟨d, m, hd⟩
          · rw [hnil] at h
            simp at h
          · rw [hd, List.dropLast_concat] at h
            have hr : walk dir ss = parent ++ n :: (rest ++ [m]) := by
              rw [hd, h, List.append_assoc]
              rfl
            refine hmore (rest ++ [m]) hr ?_ ?_
            · rintro ⟨-, hempty⟩
              simp at hempty
            · rw [step, if_neg (by assumption), if_pos hup, List.dropLast_concat]
        · rename_i hempty hup
          rcases List.eq_nil_or_concat' rest with rfl | ⟨r, m, rfl⟩
          · obtain ⟨hparent, hs⟩ := List.append_inj' h rfl
            cases hs
            exact ⟨ss, [], rfl, hparent, rfl⟩
          · have hlast : walk dir ss ++ [s] = (parent ++ n :: r) ++ [m] := by
              rw [h, List.append_assoc]
              rfl
            obtain ⟨hr, hs⟩ := List.append_inj' hlast rfl
            cases hs
            refine hmore r hr (fun hboth => hup hboth.1) ?_
            rw [step, if_neg hempty, if_neg hup]

/-- A walk that enters a directory and does not leave it again ends below it. -/
theorem walk_of_entered {dir parent before after rest : List Name} {n : Name} (hn : Proper n)
    (hbefore : walk dir before = parent) (hafter : descend [] after = some rest) :
    walk dir (before ++ n :: after) = parent ++ n :: rest := by
  rw [walk_append, hbefore, walk, List.foldl_cons, step_proper hn]
  have h := @walk_of_descend (parent ++ [n]) _ _ _ hafter
  rw [List.append_nil] at h
  rw [← walk, h, List.append_assoc]
  rfl

/-! ## Paths as texts -/

/-- Every name with a `/` before it. -/
def flat (names : List Name) : List Char := names.flatMap fun n => '/' :: n

def render (names : List Name) : List Char := if names = [] then ['/'] else flat names

theorem flat_cons (n : Name) (names : List Name) : flat (n :: names) = '/' :: (n ++ flat names) :=
  rfl

theorem flat_append (a b : List Name) : flat (a ++ b) = flat a ++ flat b := List.flatMap_append

theorem flat_concat (dir : List Name) (n : Name) : flat (dir ++ [n]) = flat dir ++ '/' :: n := by
  rw [flat_append, flat_cons]
  simp [flat]

theorem flat_longer (dir rest : List Name) (n x : Name) :
    flat (dir ++ (n ++ x) :: rest) = flat (dir ++ [n]) ++ (x ++ flat rest) := by
  rw [flat_append, flat_cons, flat_concat]
  simp

/-- If a path goes on, it does with a `/`. -/
theorem flat_eq_nil_or (names : List Name) : flat names = [] ∨ ∃ t, flat names = '/' :: t := by
  cases names with
  | nil => exact .inl rfl
  | cons n names => exact .inr ⟨n ++ flat names, rfl⟩

/-- A name that is the beginning of a path's text begins its first name. -/
theorem prefix_of_name {n m : Name} {names : List Name} (hn : '/' ∉ n)
    (h : n <+: m ++ flat names) : n <+: m := by
  obtain ⟨t, ht⟩ := h
  rcases List.append_eq_append_iff.mp ht with ⟨x, hm, -⟩ | ⟨x, hx, hrest⟩
  · exact ⟨x, hm.symm⟩
  · rcases flat_eq_nil_or names with hnil | ⟨s, hs⟩
    · rw [hnil] at hrest
      rw [(List.append_eq_nil_iff.mp hrest.symm).1, List.append_nil] at hx
      exact ⟨[], by rw [hx, List.append_nil]⟩
    · rw [hs] at hrest
      cases x with
      | nil =>
          rw [List.append_nil] at hx
          exact ⟨[], by rw [hx, List.append_nil]⟩
      | cons c x =>
          obtain ⟨rfl, -⟩ := List.cons.inj hrest
          rw [hx] at hn
          exact absurd (List.mem_append_right m List.mem_cons_self) hn

/-- The text of a path goes on from a name with the rest of a longer name, or
with the names below. -/
theorem longer_of_prefix {dir names : List Name} {n : Name} (hdir : ∀ m ∈ dir, '/' ∉ m)
    (hn : '/' ∉ n) (hnames : ∀ m ∈ names, '/' ∉ m) (h : flat (dir ++ [n]) <+: flat names) :
    ∃ x rest, names = dir ++ (n ++ x) :: rest := by
  induction dir generalizing names with
  | nil =>
      cases names with
      | nil =>
          obtain ⟨t, ht⟩ := h
          cases ht
      | cons m names =>
          rw [flat_concat, flat_cons] at h
          have hm : n <+: m ++ flat names := (List.cons_prefix_cons.mp h).2
          obtain ⟨x, rfl⟩ := prefix_of_name hn hm
          exact ⟨x, names, rfl⟩
  | cons d dir ih =>
      cases names with
      | nil =>
          obtain ⟨t, ht⟩ := h
          cases ht
      | cons m names =>
          rw [List.cons_append, flat_cons, flat_cons] at h
          obtain ⟨t, ht⟩ := (List.cons_prefix_cons.mp h).2
          obtain ⟨s, hs⟩ : ∃ s, flat (dir ++ [n]) = '/' :: s := by
            rcases flat_eq_nil_or (dir ++ [n]) with hnil | hs
            · rw [flat_concat] at hnil
              exact absurd (List.append_eq_nil_iff.mp hnil).2 (List.cons_ne_nil _ _)
            · exact hs
          have hd := hdir d List.mem_cons_self
          have hm := hnames m List.mem_cons_self
          rcases flat_eq_nil_or names with hnil | ⟨s', hs'⟩
          · rw [hnil, List.append_nil, hs, List.append_assoc] at ht
            rw [← ht] at hm
            exact absurd (List.mem_append_right d List.mem_cons_self) hm
          · rw [hs, hs', List.append_assoc] at ht
            obtain ⟨rfl, hrest⟩ := Text.cut_injective hd hm ht
            have hbelow : flat (dir ++ [n]) <+: flat names := by
              rw [hs, hs']
              exact ⟨t, congrArg ('/' :: ·) hrest⟩
            obtain ⟨x, rest, rfl⟩ := ih (fun m hm => hdir m (List.mem_cons_of_mem d hm))
              (fun m hm => hnames m (List.mem_cons_of_mem d hm)) hbelow
            exact ⟨x, rest, rfl⟩

/-- Its text says that a path is a directory, or lies below it, just when no
name is longer. -/
theorem below_iff {dir rest : List Name} {n x : Name} (hx : '/' ∉ x) :
    (flat (dir ++ (n ++ x) :: rest) = flat (dir ++ [n]) ∨
        flat (dir ++ [n]) ++ ['/'] <+: flat (dir ++ (n ++ x) :: rest)) ↔ x = [] := by
  rw [flat_longer, List.prefix_append_right_inj]
  constructor
  · rintro (h | h)
    · have hnil : x ++ flat rest = [] := by simpa using h
      exact (List.append_eq_nil_iff.mp hnil).1
    · cases x with
      | nil => rfl
      | cons c x =>
          have hc := (List.cons_prefix_cons.mp h).1
          rw [← hc] at hx
          exact absurd List.mem_cons_self hx
  · rintro rfl
    rcases flat_eq_nil_or rest with hnil | ⟨t, ht⟩
    · left
      rw [hnil, List.append_nil, List.append_nil]
    · right
      rw [ht]
      exact ⟨t, rfl⟩

/-! ## Parts of a path -/

/-- `path.basename(path)`: the last name. -/
def basename (path : List Char) : Name := ((path.splitOn '/').filter (· ≠ [])).getLastD []

/-- `path.extname(path)`: the last name from its last dot on, where something
comes before the dot. -/
def extname (path : List Char) : List Char :=
  let name := (basename path).reverse
  if name = ['.', '.'] ∨ (name.dropWhile (· ≠ '.')).drop 1 = [] then []
  else '.' :: (name.takeWhile (· ≠ '.')).reverse

/-- `path.join(dir, path)`. -/
def join (dir : List Name) (path : List Char) : List Name := walk dir (path.splitOn '/')

theorem slash_not_mem_basename (path : List Char) : '/' ∉ basename path := by
  have hlast : basename path = [] ∨ basename path ∈ path.splitOn '/' := by
    cases hnames : (path.splitOn '/').filter (· ≠ []) with
    | nil =>
        left
        rw [basename, hnames]
        rfl
    | cons n names =>
        right
        have hmem : basename path ∈ (path.splitOn '/').filter (· ≠ []) := by
          rw [basename, hnames, List.getLastD_cons]
          exact List.getLastD_mem_cons
        exact (List.mem_filter.mp hmem).1
  rcases hlast with hnil | hmem
  · rw [hnil]
    exact List.not_mem_nil
  · exact slash_not_mem_split hmem

/-- One name leads one step. -/
theorem join_name (dir : List Name) {n : Name} (hn : '/' ∉ n) : join dir n = step dir n := by
  rw [join, List.splitOn_eq_singleton hn]
  rfl

theorem resolve_name (base : List Name) {n : Name} (hn : '/' ∉ n) : resolve base n = step base n := by
  have hstart : start base n = base := by
    refine if_neg fun hhead => hn ?_
    exact List.mem_of_mem_head? hhead
  rw [resolve, hstart, List.splitOn_eq_singleton hn]
  rfl

theorem flat_concat_injective {dir dir' : List Name} {n m : Name} (hn : '/' ∉ n) (hm : '/' ∉ m)
    (h : flat (dir ++ [n]) = flat (dir' ++ [m])) : n = m := by
  rw [flat_concat, flat_concat] at h
  have hreverse := congrArg List.reverse h
  simp only [List.reverse_append, List.reverse_cons, List.append_assoc, List.singleton_append]
    at hreverse
  have hsame := (Text.cut_injective (by simpa using hn) (by simpa using hm) hreverse).1
  exact List.reverse_injective hsame

end PosixPath

end Data
