/-
# `Logging.Bearer` — bearer tokens in a text

`text.replace(BEARER_REGEX, "Bearer [REDACTED]")`, where `BEARER_REGEX` is
`/Bearer\s+[A-Za-z0-9-_=.]+/gi`: the word in any letter case, white space, and a
token.  What has been replaced contains no match any more (`not_hasBearer`): the
replacement begins with the word, but goes on with a bracket, and no other word
can begin in it or end in it.
-/
import ServiceHub.Data.Text
import ServiceHub.Catalog.Service
import Mathlib.Data.List.TakeWhile

namespace ServiceHub.Logging

open Data
open ServiceHub.Catalog (isWhiteSpace)

def bearer : List Char := "bearer".toList

/-- `[A-Za-z0-9-_=.]`. -/
def isTokenChar (c : Char) : Bool :=
  c.isAlphanum || c == '-' || c == '_' || c == '=' || c == '.'

/-- White space and characters of a token exclude each other, so that the
longest run of each is what the expression matches. -/
def bearerRegex : Text.Pattern := fun text =>
  let space := (text.drop 6).takeWhile isWhiteSpace
  let token := ((text.drop 6).dropWhile isWhiteSpace).takeWhile isTokenChar
  if (text.take 6).map Char.toLower = bearer ∧ space ≠ [] ∧ token ≠ [] then
    some (6 + space.length + token.length)
  else none

def replacement : List Char := "Bearer [REDACTED]".toList

def redactBearer (text : String) : String :=
  .ofList (Text.replaceAll bearerRegex replacement 0 text.toList)

/-! ## Matches -/

/-- A match of the expression. -/
def IsBearer (m : List Char) : Prop :=
  ∃ word space token, m = word ++ space ++ token ∧ word.map Char.toLower = bearer ∧
    (space ≠ [] ∧ ∀ c ∈ space, isWhiteSpace c = true) ∧
    token ≠ [] ∧ ∀ c ∈ token, isTokenChar c = true

def HasBearer (text : List Char) : Prop := ∃ m, m <:+: text ∧ IsBearer m

/-- A text that begins with a match. -/
def HeadMatch (text : List Char) : Prop :=
  ∃ word space t after, text = word ++ (space ++ t :: after) ∧ word.map Char.toLower = bearer ∧
    (space ≠ [] ∧ ∀ c ∈ space, isWhiteSpace c = true) ∧ isTokenChar t = true

theorem hasBearer_iff {text : List Char} :
    HasBearer text ↔ ∃ rest, rest <:+ text ∧ HeadMatch rest := by
  constructor
  · rintro ⟨m, ⟨before, after, rfl⟩, word, space, token, rfl, hword, hspace, htoken, hall⟩
    cases token with
    | nil => exact absurd rfl htoken
    | cons t token =>
        refine ⟨word ++ (space ++ t :: (token ++ after)), ⟨before, by simp⟩,
          word, space, t, token ++ after, rfl, hword, hspace, hall t List.mem_cons_self⟩
  · rintro ⟨rest, ⟨before, rfl⟩, word, space, t, after, rfl, hword, hspace, ht⟩
    refine ⟨word ++ space ++ [t], ⟨before, after, by simp⟩, word, space, [t], rfl, hword, hspace,
      List.cons_ne_nil t [], ?_⟩
    intro c hc
    rwa [List.mem_singleton.mp hc]

theorem toNat_of_isTokenChar {c : Char} (h : isTokenChar c = true) :
    45 ≤ c.toNat ∧ c.toNat ≤ 122 := by
  simp only [isTokenChar, Bool.or_eq_true, beq_iff_eq] at h
  rcases h with (((h | rfl) | rfl) | rfl) | rfl
  · simp only [Char.isAlphanum, Char.isAlpha, Char.isUpper, Char.isLower, Char.isDigit,
      Bool.or_eq_true, Bool.and_eq_true, decide_eq_true_eq, UInt32.le_iff_toNat_le] at h
    change ((65 ≤ c.toNat ∧ c.toNat ≤ 90) ∨ 97 ≤ c.toNat ∧ c.toNat ≤ 122) ∨
      48 ≤ c.toNat ∧ c.toNat ≤ 57 at h
    omega
  all_goals decide

theorem not_white_of_token {c : Char} (h : isTokenChar c = true) : isWhiteSpace c = false := by
  have hrange := toNat_of_isTokenChar h
  simp only [isWhiteSpace, Bool.or_eq_false_iff, Bool.and_eq_false_iff, decide_eq_false_iff_not,
    List.mem_cons, List.not_mem_nil, or_false]
  omega

theorem length_of_word {word : List Char} (h : word.map Char.toLower = bearer) :
    word.length = 6 := by
  have hlength := congrArg List.length h
  rwa [List.length_map] at hlength

theorem bearerRegex_isSome_iff (text : List Char) :
    (bearerRegex text).isSome ↔ HeadMatch text := by
  simp only [bearerRegex, Option.isSome_ite]
  constructor
  · rintro ⟨hword, hspace, htoken⟩
    have htext := (text.drop 6).takeWhile_append_dropWhile (p := isWhiteSpace)
    generalize (text.drop 6).dropWhile isWhiteSpace = rest at htoken htext
    cases rest with
    | nil => exact absurd rfl htoken
    | cons t after =>
        rw [List.takeWhile_cons] at htoken
        split at htoken
        · rename_i ht
          refine ⟨text.take 6, (text.drop 6).takeWhile isWhiteSpace, t, after, ?_, hword,
            ⟨hspace, fun c hc => List.mem_takeWhile_imp hc⟩, ht⟩
          rw [htext, List.take_append_drop]
        · exact absurd rfl htoken
  · rintro ⟨word, space, t, after, rfl, hword, ⟨hne, hspace⟩, ht⟩
    have hlength := length_of_word hword
    have htake : (word ++ (space ++ t :: after)).take 6 = word := List.take_left' hlength
    have hdrop : (word ++ (space ++ t :: after)).drop 6 = space ++ t :: after :=
      List.drop_left' hlength
    have hwhite : ¬ isWhiteSpace t = true := by
      rw [not_white_of_token ht]
      decide
    rw [htake, hdrop, List.takeWhile_append_of_pos hspace, List.dropWhile_append_of_pos hspace,
      List.takeWhile_cons_of_neg hwhite, List.dropWhile_cons_of_neg hwhite, List.append_nil,
      List.takeWhile_cons_of_pos ht]
    exact ⟨hword, hne, List.cons_ne_nil _ _⟩

/-! ## Where a match cannot be -/

theorem hasBearer_cons {c : Char} {l : List Char} (h : HasBearer (c :: l)) :
    HeadMatch (c :: l) ∨ HasBearer l := by
  obtain ⟨rest, hsuffix, hhead⟩ := hasBearer_iff.mp h
  rcases List.suffix_cons_iff.mp hsuffix with rfl | hsuffix
  · exact .inl hhead
  · exact .inr (hasBearer_iff.mpr ⟨rest, hsuffix, hhead⟩)

/-- The rest of a match that began with a `b`. -/
def TailMatch (l : List Char) : Prop :=
  ∃ word space t after, l = word ++ (space ++ t :: after) ∧
    word.map Char.toLower = "earer".toList ∧ (space ≠ [] ∧ ∀ c ∈ space, isWhiteSpace c = true) ∧
    isTokenChar t = true

theorem headMatch_cons_iff {c : Char} {l : List Char} :
    HeadMatch (c :: l) ↔ c.toLower = 'b' ∧ TailMatch l := by
  constructor
  · rintro ⟨word, space, t, after, htext, hword, hspace, ht⟩
    cases word with
    | nil => cases hword
    | cons d word =>
        obtain ⟨rfl, rfl⟩ := List.cons.inj htext
        obtain ⟨hb, hrest⟩ := List.cons.inj hword
        exact ⟨hb, word, space, t, after, rfl, hrest, hspace, ht⟩
  · rintro ⟨hb, word, space, t, after, rfl, hword, hspace, ht⟩
    refine ⟨c :: word, space, t, after, rfl, ?_, hspace, ht⟩
    rw [List.map_cons, hb, hword]
    rfl

theorem headMatch_ne_nil {l : List Char} (h : HeadMatch l) : l ≠ [] := by
  obtain ⟨word, space, t, after, rfl, -⟩ := h
  simp

theorem isTokenChar_of_toLower {c : Char} (h : c.toLower = 'b') : isTokenChar c = true := by
  unfold Char.toLower at h
  split at h
  · have hc : c = 'B' := by
      have hval := congrArg Char.val h
      apply Char.ext
      grind
    rw [hc]
    decide
  · rw [h]
    decide

/-- No match begins in characters other than `b`. -/
theorem not_hasBearer_append {x l : List Char} (hx : x.all (fun c => c.toLower != 'b') = true)
    (hl : ¬ HasBearer l) : ¬ HasBearer (x ++ l) := by
  induction x with
  | nil => exact hl
  | cons c x ih =>
      intro h
      simp only [List.all_cons, Bool.and_eq_true, bne_iff_ne] at hx
      rcases hasBearer_cons h with hhead | hrest
      · exact hx.1 (headMatch_cons_iff.mp hhead).1
      · exact ih hx.2 hrest

/-! ## What has been replaced -/

/-- The word of the replacement is followed by a bracket. -/
theorem not_hasBearer_replacement {l : List Char} (hl : ¬ HasBearer l) :
    ¬ HasBearer (replacement ++ l) := by
  have hrest : ¬ HasBearer ("earer [REDACTED]".toList ++ l) :=
    not_hasBearer_append (by decide) hl
  intro h
  rcases hasBearer_cons h with hhead | h
  · obtain ⟨-, word, space, t, after, htext, hword, ⟨hne, hspace⟩, ht⟩ :=
      headMatch_cons_iff.mp hhead
    have hlength : "earer".toList.length = word.length := by
      rw [← hword, List.length_map]
    have hsplit : "earer".toList ++ (' ' :: '[' :: ("REDACTED]".toList ++ l)) =
        word ++ (space ++ t :: after) := htext
    obtain ⟨-, hspaces⟩ := List.append_inj hsplit hlength
    cases space with
    | nil => exact hne rfl
    | cons s space =>
        obtain ⟨-, hbracket⟩ := List.cons.inj hspaces
        cases space with
        | nil =>
            obtain ⟨rfl, -⟩ := List.cons.inj hbracket
            exact absurd ht (by decide)
        | cons s' space =>
            obtain ⟨rfl, -⟩ := List.cons.inj hbracket
            exact absurd (hspace '[' (by simp)) (by decide)
  · exact hrest h

/-- A match that begins before the first one and reaches the replacement was
there before: what was replaced began with the same letter. -/
theorem tailMatch_of_replaced {before rest after : List Char} (hrest : HeadMatch rest)
    (h : TailMatch (before ++ (replacement ++ after))) : TailMatch (before ++ rest) := by
  obtain ⟨word, space, t, last, htext, hword, ⟨hne, hspace⟩, ht⟩ := h
  have hB : 'B' ∉ word ++ space := by
    intro hmem
    rcases List.mem_append.mp hmem with hmem | hmem
    · have hlower := List.mem_map_of_mem (f := Char.toLower) hmem
      rw [hword] at hlower
      exact absurd hlower (by decide)
    · exact absurd (hspace 'B' hmem) (by decide)
  -- the replacement gives the match its last character
  have hlast : before = word ++ space → TailMatch (before ++ rest) := by
    intro hbefore
    cases rest with
    | nil => exact absurd rfl (headMatch_ne_nil hrest)
    | cons d rest =>
        have hd := isTokenChar_of_toLower (headMatch_cons_iff.mp hrest).1
        exact ⟨word, space, d, rest, by rw [hbefore, List.append_assoc], hword, ⟨hne, hspace⟩, hd⟩
  have hcut : before ++ 'B' :: ("earer [REDACTED]".toList ++ after) =
      (word ++ space) ++ t :: last := by
    rw [List.append_assoc]
    exact htext
  rcases List.append_eq_append_iff.mp hcut with ⟨x, hx, hx'⟩ | ⟨x, hx, hx'⟩
  · cases x with
    | nil => exact hlast (by rw [hx, List.append_nil])
    | cons c x =>
        obtain ⟨rfl, -⟩ := List.cons.inj hx'
        rw [hx] at hB
        exact absurd (List.mem_append_right before List.mem_cons_self) hB
  · cases x with
    | nil => exact hlast (by rw [hx, List.append_nil])
    | cons c x =>
        obtain ⟨rfl, -⟩ := List.cons.inj hx'
        exact ⟨word, space, t, x ++ rest, by rw [hx]; simp, hword, ⟨hne, hspace⟩, ht⟩

theorem not_hasBearer_replaceAll (skip : Nat) (text : List Char) :
    ¬ HasBearer (Text.replaceAll bearerRegex replacement skip text) := by
  induction text generalizing skip with
  | nil =>
      intro h
      obtain ⟨rest, hsuffix, hhead⟩ := hasBearer_iff.mp h
      exact headMatch_ne_nil hhead (List.suffix_nil.mp hsuffix)
  | cons c text ih =>
      cases skip with
      | succ skip => exact ih skip
      | zero =>
          cases hmatch : bearerRegex (c :: text) with
          | some length =>
              rw [Text.replaceAll_some hmatch]
              exact not_hasBearer_replacement (ih (length - 1))
          | none =>
              rw [Text.replaceAll_none hmatch]
              intro h
              rcases hasBearer_cons h with hhead | h
              · obtain ⟨hb, htail⟩ := headMatch_cons_iff.mp hhead
                have hbefore : TailMatch text := by
                  rcases @Text.replaceAll_cases bearerRegex replacement text with
                    hsame | ⟨before, rest, after, htext, hrest, hout⟩
                  · rwa [hsame] at htail
                  · rw [hout] at htail
                    rw [htext]
                    exact tailMatch_of_replaced ((bearerRegex_isSome_iff rest).mp hrest) htail
                have hsome := (bearerRegex_isSome_iff (c :: text)).mpr
                  (headMatch_cons_iff.mpr ⟨hb, hbefore⟩)
                rw [hmatch] at hsome
                exact absurd hsome (by decide)
              · exact ih 0 h

/-- A redacted text contains no bearer token. -/
theorem not_hasBearer (text : String) : ¬ HasBearer (redactBearer text).toList := by
  rw [redactBearer, String.toList_ofList]
  exact not_hasBearer_replaceAll 0 text.toList

end ServiceHub.Logging
