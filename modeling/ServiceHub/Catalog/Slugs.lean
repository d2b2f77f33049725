/-
# `Catalog.Slugs` — what a slug looks like

`generateSlug` lower-cases and trims, drops what is no letter, digit, space or
hyphen, and makes one hyphen of each run of white space and then of each run of
hyphens.  The text is trimmed before anything is dropped: a space that stood
between a dropped character and the end of the text is trimmed no more, and
becomes a hyphen at the end of the slug.
-/
import ServiceHub.Catalog.Service
import Mathlib.Data.List.Chain
import Mathlib.Data.List.TakeWhile

namespace ServiceHub.Catalog

/-- A letter or a digit of a slug. -/
def isWordChar (c : Char) : Bool := c.isLower || c.isDigit

/-! ## Characters -/

theorem isSlugChar_iff {c : Char} :
    isSlugChar c = true ↔ isWordChar c = true ∨ c = ' ' ∨ c = '-' := by
  simp only [isSlugChar, isWordChar, Bool.or_eq_true, beq_iff_eq, or_assoc]

theorem toNat_of_isWordChar {c : Char} (h : isWordChar c = true) :
    (97 ≤ c.toNat ∧ c.toNat ≤ 122) ∨ (48 ≤ c.toNat ∧ c.toNat ≤ 57) := by
  rw [isWordChar, Bool.or_eq_true] at h
  rcases h with h | h
  · left
    simpa [Char.isLower, UInt32.le_iff_toNat_le] using h
  · right
    simpa [Char.isDigit, UInt32.le_iff_toNat_le] using h

theorem isWhiteSpace_of_isWordChar {c : Char} (h : isWordChar c = true) :
    isWhiteSpace c = false := by
  have hrange := toNat_of_isWordChar h
  simp only [isWhiteSpace, Bool.or_eq_false_iff, Bool.and_eq_false_iff, decide_eq_false_iff_not,
    List.mem_cons, List.not_mem_nil, or_false]
  omega

theorem hyphen_of_toLowerCase {c : Char} (h : toLowerCase c = '-') : c = '-' := by
  unfold toLowerCase at h
  split at h
  · exact absurd h (by decide)
  · split at h
    · exact absurd h (by decide)
    · unfold Char.toLower at h
      split at h
      · have hval := congrArg Char.val h
        grind
      · exact h

theorem toLowerCase_word {c : Char} (h : isWordChar c = true) : toLowerCase c = c := by
  have hrange := toNat_of_isWordChar h
  have hlower : c.toLower = c := by
    unfold Char.toLower
    refine dif_neg ?_
    intro hupper
    have hge : 65 ≤ c.toNat := hupper.1
    have hle : c.toNat ≤ 90 := hupper.2
    omega
  rw [toLowerCase, if_neg (by omega), if_neg (by omega), hlower]

/-! ## Trimming -/

theorem trim_split (l : List Char) :
    ∃ before after, l = before ++ trim l ++ after ∧
      (∀ c ∈ before, isWhiteSpace c = true) ∧ ∀ c ∈ after, isWhiteSpace c = true := by
  refine ⟨l.takeWhile isWhiteSpace,
    ((l.dropWhile isWhiteSpace).reverse.takeWhile isWhiteSpace).reverse, ?_, ?_, ?_⟩
  · have hrest := (l.dropWhile isWhiteSpace).reverse.takeWhile_append_dropWhile (p := isWhiteSpace)
    rw [trim, List.append_assoc, ← List.reverse_append, hrest, List.reverse_reverse,
      List.takeWhile_append_dropWhile]
  · intro c hc
    exact List.mem_takeWhile_imp hc
  · intro c hc
    exact List.mem_takeWhile_imp (List.mem_reverse.mp hc)

theorem trim_last (l : List Char) {c : Char} (h : (trim l).getLast? = some c) :
    isWhiteSpace c = false := by
  rw [trim, List.getLast?_reverse] at h
  have hnot := List.head?_dropWhile_not isWhiteSpace (l.dropWhile isWhiteSpace).reverse
  rwa [h] at hnot

theorem trim_head (l : List Char) {c : Char} (h : (trim l).head? = some c) :
    isWhiteSpace c = false := by
  have hnot := List.head?_dropWhile_not isWhiteSpace l
  have hsplit := (l.dropWhile isWhiteSpace).reverse.takeWhile_append_dropWhile (p := isWhiteSpace)
  have hhead : (l.dropWhile isWhiteSpace).head? = some c := by
    rw [← List.reverse_reverse (l.dropWhile isWhiteSpace), ← hsplit, List.reverse_append,
      List.head?_append, show (List.reverse _).head? = some c from h, Option.some_or]
  rwa [hhead] at hnot

theorem trim_eq_self {l : List Char} (h : ∀ c ∈ l, isWhiteSpace c = false) : trim l = l := by
  obtain ⟨before, after, hsplit, hbefore, hafter⟩ := trim_split l
  have hnil : ∀ w : List Char, (∀ c ∈ w, isWhiteSpace c = true) → (∀ c ∈ w, c ∈ l) → w = [] := by
    intro w hw hmem
    rw [List.eq_nil_iff_forall_not_mem]
    intro c hc
    exact absurd (hw c hc) (by rw [h c (hmem c hc)]; decide)
  have hb := hnil before hbefore (by
    intro c hc
    rw [hsplit]
    simp [hc])
  have ha := hnil after hafter (by
    intro c hc
    rw [hsplit]
    simp [hc])
  rw [hb, ha, List.nil_append, List.append_nil] at hsplit
  exact hsplit.symm

/-! ## Runs -/

section
variable {p : Char → Bool}

theorem mem_collapse {inRun : Bool} {l : List Char} {c : Char} (h : c ∈ collapse p inRun l) :
    c = '-' ∨ (c ∈ l ∧ p c = false) := by
  induction l generalizing inRun with
  | nil => cases h
  | cons d l ih =>
      have hrest : ∀ b, c ∈ collapse p b l → c = '-' ∨ (c ∈ d :: l ∧ p c = false) := by
        intro b hb
        rcases ih hb with h | ⟨hmem, hp⟩
        · exact .inl h
        · exact .inr ⟨List.mem_cons_of_mem d hmem, hp⟩
      rw [collapse] at h
      split at h
      · split at h
        · exact hrest true h
        · rcases List.mem_cons.mp h with rfl | h
          · exact .inl rfl
          · exact hrest true h
      · rename_i hd
        rcases List.mem_cons.mp h with rfl | h
        · exact .inr ⟨List.mem_cons_self, by simpa using hd⟩
        · exact hrest false h

theorem collapse_eq_self {l : List Char} (h : ∀ c ∈ l, p c = false) (inRun : Bool) :
    collapse p inRun l = l := by
  induction l generalizing inRun with
  | nil => rfl
  | cons c l ih =>
      rw [collapse, if_neg (by rw [h c List.mem_cons_self]; decide),
        ih (fun d hd => h d (List.mem_cons_of_mem c hd))]

/-- The hyphen that has been put down for the current run. -/
def pending (inRun : Bool) : List Char := if inRun then ['-'] else []

/-- A character of a run becomes a hyphen. -/
def hyphenate (p : Char → Bool) (c : Char) : Char := if p c then '-' else c

theorem collapse_head (l : List Char) :
    (collapse p false l).head? = l.head?.map (hyphenate p) := by
  cases l with
  | nil => rfl
  | cons c l => cases hc : p c <;> simp [collapse, hyphenate, hc]

theorem collapse_last (inRun : Bool) (l : List Char) :
    (pending inRun ++ collapse p inRun l).getLast? =
      (pending inRun ++ l).getLast?.map (hyphenate p) := by
  induction l generalizing inRun with
  | nil => cases inRun <;> simp [pending, collapse, hyphenate]
  | cons c l ih =>
      by_cases hc : p c = true
      · -- one more character of a run: the hyphen is there or is put down now
        have hrun : pending inRun ++ collapse p inRun (c :: l) =
            pending true ++ collapse p true l := by
          cases inRun <;> simp [pending, collapse, hc]
        rw [hrun, ih true, List.getLast?_append, List.getLast?_append]
        cases l with
        | nil => simp [pending, hyphenate, hc]
        | cons d l => simp [List.getLast?_cons]
      · have hnone : pending inRun ++ collapse p inRun (c :: l) =
            (pending inRun ++ [c]) ++ (pending false ++ collapse p false l) := by
          simp [pending, collapse, hc]
        rw [hnone, List.getLast?_append, ih false, List.getLast?_append]
        cases l with
        | nil => simp [pending, hyphenate, hc]
        | cons d l => simp [pending, List.getLast?_cons]

/-- No two hyphens stand side by side. -/
def Apart (l : List Char) : Prop := l.IsChain fun a b => ¬ (a = '-' ∧ b = '-')

theorem collapse_apart (inRun : Bool) (l : List Char) :
    Apart (pending inRun ++ collapse (· == '-') inRun l) := by
  induction l generalizing inRun with
  | nil => cases inRun <;> simp [pending, collapse, Apart]
  | cons c l ih =>
      by_cases hc : c = '-'
      · have hrun : pending inRun ++ collapse (· == '-') inRun (c :: l) =
            pending true ++ collapse (· == '-') true l := by
          cases inRun <;> simp [pending, collapse, hc]
        rw [hrun]
        exact ih true
      · have hnone : pending inRun ++ collapse (· == '-') inRun (c :: l) =
            pending inRun ++ c :: collapse (· == '-') false l := by
          simp [collapse, hc]
        have hrest : Apart (c :: collapse (· == '-') false l) :=
          List.isChain_cons.mpr ⟨fun d _ h => hc h.1, ih false⟩
        rw [hnone]
        cases inRun with
        | false => exact hrest
        | true => exact List.isChain_cons_cons.mpr ⟨fun h => hc h.2, hrest⟩

/-- A text without two hyphens side by side stays as it is. -/
theorem collapse_of_apart {inRun : Bool} {l : List Char} (h : Apart (pending inRun ++ l)) :
    collapse (· == '-') inRun l = l := by
  induction l generalizing inRun with
  | nil => rfl
  | cons c l ih =>
      by_cases hc : c = '-'
      · cases inRun with
        | true => exact absurd ⟨rfl, hc⟩ (List.isChain_cons_cons.mp h).1
        | false =>
            have hrest : Apart (pending true ++ l) := by
              subst hc
              exact h
            simp [collapse, hc, ih hrest]
      · have hrest : Apart (pending false ++ l) := by
          have hl : Apart (c :: l) := by
            cases inRun with
            | false => exact h
            | true => exact (List.isChain_cons_cons.mp h).2
          exact (List.isChain_cons.mp hl).2
        simp [collapse, hc, ih hrest]

end

/-! ## The passes -/

/-- The text in lower case. -/
def lowered (text : String) : List Char := text.toList.map toLowerCase

/-- What is left of it when the invalid characters are gone. -/
def kept (text : String) : List Char := (trim (lowered text)).filter isSlugChar

/-- One hyphen for each run of white space. -/
def dashed (text : String) : List Char := collapse isWhiteSpace false (kept text)

theorem generateSlug_toList (text : String) :
    (generateSlug text).toList = collapse (· == '-') false (dashed text) := by
  rw [generateSlug, String.toList_ofList]
  rfl

theorem mem_dashed {text : String} {c : Char} (h : c ∈ dashed text) :
    isWordChar c = true ∨ c = '-' := by
  rcases mem_collapse h with h | ⟨hmem, hwhite⟩
  · exact .inr h
  · rcases isSlugChar_iff.mp (List.mem_filter.mp hmem).2 with h | rfl | h
    · exact .inl h
    · exact absurd hwhite (by decide)
    · exact .inr h

theorem mem_slug {text : String} {c : Char} (h : c ∈ (generateSlug text).toList) :
    isWordChar c = true ∨ c = '-' := by
  rw [generateSlug_toList] at h
  rcases mem_collapse h with h | ⟨hmem, -⟩
  · exact .inr h
  · exact mem_dashed hmem

theorem slug_apart (text : String) : Apart (generateSlug text).toList := by
  rw [generateSlug_toList]
  exact collapse_apart false (dashed text)

/-- A text of words with single hyphens between them is its own slug. -/
theorem generateSlug_eq_self {text : String}
    (hchars : ∀ c ∈ text.toList, isWordChar c = true ∨ c = '-') (hapart : Apart text.toList) :
    generateSlug text = text := by
  have hlower : lowered text = text.toList := by
    have hsame : ∀ c ∈ text.toList, toLowerCase c = id c := by
      intro c hc
      rcases hchars c hc with h | rfl
      · exact toLowerCase_word h
      · decide
    rw [lowered, List.map_congr_left hsame, List.map_id]
  have hwhite : ∀ c ∈ text.toList, isWhiteSpace c = false := by
    intro c hc
    rcases hchars c hc with h | rfl
    · exact isWhiteSpace_of_isWordChar h
    · decide
  have hkept : kept text = text.toList := by
    rw [kept, hlower, trim_eq_self hwhite, List.filter_eq_self]
    intro c hc
    rw [isSlugChar_iff]
    rcases hchars c hc with h | h
    · exact .inl h
    · exact .inr (.inr h)
  rw [← String.toList_inj, generateSlug_toList, dashed, hkept, collapse_eq_self hwhite,
    collapse_of_apart hapart]

/-! ## Spaces at the ends -/

/-- Every space that has something other than white space before it and after it
also has a letter or a digit before it and after it. -/
def InnerSpaces (l : List Char) : Prop :=
  ∀ before after, l = before ++ ' ' :: after →
    (∃ c ∈ before, isWhiteSpace c = false) → (∃ c ∈ after, isWhiteSpace c = false) →
      (∃ c ∈ before, isWordChar c = true) ∧ ∃ c ∈ after, isWordChar c = true

/-- A space between two characters that are no white space is not trimmed. -/
theorem trim_at {l before after : List Char} (hl : l = before ++ ' ' :: after)
    (hbefore : ∃ c ∈ before, isWhiteSpace c = false)
    (hafter : ∃ c ∈ after, isWhiteSpace c = false) :
    ∃ b a, trim l = b ++ ' ' :: a ∧ (∀ c ∈ b, c ∈ before) ∧ ∀ c ∈ a, c ∈ after := by
  obtain ⟨w, v, hsplit, hw, hv⟩ := trim_split l
  obtain ⟨c, hc, hcw⟩ := hbefore
  obtain ⟨d, hd, hdw⟩ := hafter
  have heq : before ++ ' ' :: after = w ++ (trim l ++ v) :=
    hl.symm.trans (hsplit.trans (List.append_assoc w (trim l) v))
  rcases List.append_eq_append_iff.mp heq with ⟨m, hm, -⟩ | ⟨b, hb, hrest⟩
  · have hmem : c ∈ w := by
      rw [hm]
      exact List.mem_append_left m hc
    exact absurd (hw c hmem) (by rw [hcw]; decide)
  · rcases List.append_eq_append_iff.mp hrest with ⟨m, -, hm⟩ | ⟨m, hm, hend⟩
    · have hmem : d ∈ v := by
        rw [hm]
        exact List.mem_append_right m (List.mem_cons_of_mem _ hd)
      exact absurd (hv d hmem) (by rw [hdw]; decide)
    · cases m with
      | nil =>
          have hmem : d ∈ v := by
            rw [List.nil_append] at hend
            rw [← hend]
            exact List.mem_cons_of_mem _ hd
          exact absurd (hv d hmem) (by rw [hdw]; decide)
      | cons x a =>
          obtain ⟨rfl, rfl⟩ := List.cons.inj hend
          refine ⟨b, a, hm, ?_, ?_⟩
          · intro e he
            rw [hb]
            exact List.mem_append_right w he
          · intro e he
            exact List.mem_append_left v he

/-- The same, of the trimmed text: white space is no letter and no digit. -/
theorem innerSpaces_iff (l : List Char) :
    InnerSpaces l ↔ ∀ b a, trim l = b ++ ' ' :: a →
      (∃ c ∈ b, isWordChar c = true) ∧ ∃ c ∈ a, isWordChar c = true := by
  constructor
  · intro h b a htrim
    obtain ⟨w, v, hsplit, hw, hv⟩ := trim_split l
    have hbefore : ∃ c ∈ b, isWhiteSpace c = false := by
      cases b with
      | nil =>
          exact absurd (trim_head l (c := ' ') (by rw [htrim]; rfl)) (by decide)
      | cons c b =>
          exact ⟨c, List.mem_cons_self, trim_head l (by rw [htrim]; rfl)⟩
    have hafter : ∃ c ∈ a, isWhiteSpace c = false := by
      rcases List.eq_nil_or_concat a with rfl | ⟨a', c, rfl⟩
      · exact absurd (trim_last l (c := ' ') (by rw [htrim]; simp)) (by decide)
      · exact ⟨c, by simp, trim_last l (by rw [htrim]; simp [List.getLast?_cons])⟩
    have hl : l = (w ++ b) ++ ' ' :: (a ++ v) := by
      rw [hsplit, htrim]
      simp
    have hout : ∀ u : List Char, (∀ c ∈ u, isWhiteSpace c = true) →
        ∀ c ∈ u, isWordChar c = true → False := by
      intro u hu c hc hword
      have hwhite := hu c hc
      rw [isWhiteSpace_of_isWordChar hword] at hwhite
      exact absurd hwhite (by decide)
    obtain ⟨⟨c, hc, hcword⟩, d, hd, hdword⟩ := h (w ++ b) (a ++ v) hl
      (hbefore.imp fun c hc => ⟨List.mem_append_right w hc.1, hc.2⟩)
      (hafter.imp fun c hc => ⟨List.mem_append_left v hc.1, hc.2⟩)
    refine ⟨⟨c, ?_, hcword⟩, d, ?_, hdword⟩
    · exact (List.mem_append.mp hc).resolve_left fun hmem => hout w hw c hmem hcword
    · exact (List.mem_append.mp hd).resolve_right fun hmem => hout v hv d hmem hdword
  · intro h before after hl hbefore hafter
    obtain ⟨b, a, htrim, hb, ha⟩ := trim_at hl hbefore hafter
    obtain ⟨⟨c, hc, hcword⟩, d, hd, hdword⟩ := h b a htrim
    exact ⟨⟨c, hb c hc, hcword⟩, d, ha d hd, hdword⟩

/-- The first character that is kept is a space when one has neither a letter
nor a digit before it. -/
theorem first_kept_iff {l : List Char} (hhyphen : '-' ∉ l) :
    (l.filter isSlugChar).head? = some ' ' ↔
      ∃ b a, l = b ++ ' ' :: a ∧ ∀ c ∈ b, isWordChar c = false := by
  constructor
  · intro h
    rw [List.head?_filter, List.find?_eq_some_iff_append] at h
    obtain ⟨-, b, a, hl, hb⟩ := h
    refine ⟨b, a, hl, ?_⟩
    intro c hc
    have hnot := hb c hc
    cases hword : isWordChar c with
    | false => rfl
    | true => simp [isSlugChar_iff.mpr (.inl hword)] at hnot
  · rintro ⟨b, a, rfl, hb⟩
    induction b with
    | nil => rfl
    | cons c b ih =>
        rw [List.cons_append, List.mem_cons, not_or] at hhyphen
        have hrest := ih (fun d hd => hb d (List.mem_cons_of_mem c hd)) hhyphen.2
        rw [List.cons_append, List.filter_cons]
        split
        · rename_i hslug
          rcases isSlugChar_iff.mp hslug with h | rfl | rfl
          · rw [hb c List.mem_cons_self] at h
            exact absurd h (by decide)
          · rfl
          · exact absurd rfl hhyphen.1
        · exact hrest

theorem last_kept_iff {l : List Char} (hhyphen : '-' ∉ l) :
    (l.filter isSlugChar).getLast? = some ' ' ↔
      ∃ b a, l = b ++ ' ' :: a ∧ ∀ c ∈ a, isWordChar c = false := by
  rw [List.getLast?_eq_head?_reverse, ← List.filter_reverse,
    first_kept_iff (fun h => hhyphen (List.mem_reverse.mp h))]
  constructor
  · rintro ⟨b, a, hl, hb⟩
    refine ⟨a.reverse, b.reverse, ?_, fun c hc => hb c (List.mem_reverse.mp hc)⟩
    rw [← List.reverse_reverse l, hl]
    simp
  · rintro ⟨b, a, rfl, ha⟩
    exact ⟨a.reverse, b.reverse, by simp, fun c hc => ha c (List.mem_reverse.mp hc)⟩

/-! ## The ends of a slug -/

section
variable {text : String} (hhyphen : '-' ∉ text.toList)
include hhyphen

theorem hyphen_not_mem_trim : '-' ∉ trim (lowered text) := by
  intro h
  obtain ⟨w, v, hsplit, -, -⟩ := trim_split (lowered text)
  have hmem : '-' ∈ lowered text := by
    rw [hsplit]
    exact List.mem_append_left v (List.mem_append_right w h)
  obtain ⟨c, hc, hlower⟩ := List.mem_map.mp hmem
  rw [hyphen_of_toLowerCase hlower] at hc
  exact hhyphen hc

/-- A hyphen was white space, and of that only spaces are kept. -/
theorem hyphenate_kept {c : Char} (hc : c ∈ kept text) :
    hyphenate (· == '-') (hyphenate isWhiteSpace c) = '-' ↔ c = ' ' := by
  obtain ⟨hmem, hslug⟩ := List.mem_filter.mp hc
  rcases isSlugChar_iff.mp hslug with h | rfl | rfl
  · have hne : c ≠ '-' := by
      rintro rfl
      exact absurd h (by decide)
    have hspace : c ≠ ' ' := by
      rintro rfl
      exact absurd h (by decide)
    simp [hyphenate, isWhiteSpace_of_isWordChar h, hne, hspace]
  · decide
  · exact absurd hmem (hyphen_not_mem_trim hhyphen)

theorem slug_head_iff :
    (generateSlug text).toList.head? = some '-' ↔ (kept text).head? = some ' ' := by
  rw [generateSlug_toList, collapse_head, dashed, collapse_head, Option.map_map]
  cases hhead : (kept text).head? with
  | none => simp
  | some c => simpa using hyphenate_kept hhyphen (List.mem_of_mem_head? hhead)

theorem slug_last_iff :
    (generateSlug text).toList.getLast? = some '-' ↔ (kept text).getLast? = some ' ' := by
  have hdash : (dashed text).getLast? = (kept text).getLast?.map (hyphenate isWhiteSpace) :=
    collapse_last false (kept text)
  have hslug : (generateSlug text).toList.getLast? =
      (dashed text).getLast?.map (hyphenate (· == '-')) := by
    rw [generateSlug_toList]
    exact collapse_last false (dashed text)
  rw [hslug, hdash, Option.map_map]
  cases hlast : (kept text).getLast? with
  | none => simp
  | some c => simpa using hyphenate_kept hhyphen (List.mem_of_getLast? hlast)

theorem ends_iff :
    ((generateSlug text).toList.head? ≠ some '-' ∧ (generateSlug text).toList.getLast? ≠ some '-') ↔
      InnerSpaces (lowered text) := by
  have hmem := hyphen_not_mem_trim hhyphen
  have hnone : ∀ l : List Char, (¬ ∀ c ∈ l, isWordChar c = false) ↔ ∃ c ∈ l, isWordChar c = true := by
    intro l
    simp
  rw [innerSpaces_iff, ne_eq, ne_eq, slug_head_iff hhyphen, slug_last_iff hhyphen, kept,
    first_kept_iff hmem, last_kept_iff hmem]
  constructor
  · rintro ⟨hfirst, hlast⟩ b a htrim
    exact ⟨(hnone b).mp fun h => hfirst ⟨b, a, htrim, h⟩,
      (hnone a).mp fun h => hlast ⟨b, a, htrim, h⟩⟩
  · intro h
    constructor
    · rintro ⟨b, a, htrim, hb⟩
      exact (hnone b).mpr (h b a htrim).1 hb
    · rintro ⟨b, a, htrim, ha⟩
      exact (hnone a).mpr (h b a htrim).2 ha

end

/-! ## Slugs are canonical -/

/-- Words of letters and digits with single hyphens between them, and nothing
left to do for a second call. -/
structure Canonical (text : String) : Prop where
  chars : ∀ c ∈ (generateSlug text).toList, isWordChar c = true ∨ c = '-'
  apart : ¬ ['-', '-'] <:+: (generateSlug text).toList
  ends : '-' ∉ text.toList →
    (generateSlug text).toList.head? ≠ some '-' ∧ (generateSlug text).toList.getLast? ≠ some '-'
  again : generateSlug (generateSlug text) = generateSlug text

/-- Without a hyphen in the text, the slug begins or ends with one just when a
dropped character stood between a space and the letters and digits. -/
theorem canonical_iff (text : String) :
    Canonical text ↔ ('-' ∉ text.toList → InnerSpaces (lowered text)) := by
  constructor
  · intro h hhyphen
    exact (ends_iff hhyphen).mp (h.ends hhyphen)
  · intro h
    refine ⟨fun c hc => mem_slug hc, ?_, fun hhyphen => (ends_iff hhyphen).mpr (h hhyphen),
      generateSlug_eq_self (fun c hc => mem_slug hc) (slug_apart text)⟩
    intro hinfix
    have hapart : Apart ['-', '-'] := List.IsChain.infix (slug_apart text) hinfix
    exact (List.isChain_cons_cons.mp hapart).1 ⟨rfl, rfl⟩

/-- The ampersand is dropped after the text has been trimmed. -/
theorem not_canonical : generateSlug "& More" = "-more" ∧ ¬ Canonical "& More" := by
  have hslug : generateSlug "& More" = "-more" := by decide +kernel
  refine ⟨hslug, ?_⟩
  intro h
  have hends := (h.ends (by decide)).1
  rw [hslug] at hends
  exact hends (by decide)

end ServiceHub.Catalog
