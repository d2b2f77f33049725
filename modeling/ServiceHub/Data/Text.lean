/-
# `Data.Text` — texts as lists of characters

Cutting a text at its first separator, and replacing the matches of a pattern
from left to right.  A pattern says how long its match at the beginning of a
text is, if there is one.
-/
import Mathlib.Data.List.Basic

namespace Data

namespace Text

/-- A list is cut in one way only at its first separator. -/
theorem cut_injective {α : Type} {c : α} {a b x y : List α} (ha : c ∉ a) (hb : c ∉ b)
    (h : a ++ c :: x = b ++ c :: y) : a = b ∧ x = y := by
  induction a generalizing b with
  | nil =>
      cases b with
      | nil => exact ⟨rfl, (List.cons.inj h).2⟩
      | cons d b =>
          rw [(List.cons.inj h).1] at hb
          exact absurd List.mem_cons_self hb
  | cons d a ih =>
      cases b with
      | nil =>
          rw [(List.cons.inj h).1] at ha
          exact absurd List.mem_cons_self ha
      | cons e b =>
          obtain ⟨rfl, hrest⟩ := List.cons.inj h
          obtain ⟨rfl, hxy⟩ := ih (fun hc => ha (List.mem_cons_of_mem d hc))
            (fun hc => hb (List.mem_cons_of_mem d hc)) hrest
          exact ⟨rfl, hxy⟩

/-! ## Replacing matches -/

/-- The length of the match at the beginning of a text. -/
abbrev Pattern : Type := List Char → Option Nat

/-- `text.replace(pattern, r)` with the flag `g`; the first `skip` characters
belong to a match that has been replaced. -/
def replaceAll (pattern : Pattern) (r : List Char) : Nat → List Char → List Char
  | _, [] => []
  | skip + 1, _ :: cs => replaceAll pattern r skip cs
  | 0, c :: cs =>
      match pattern (c :: cs) with
      | some length => r ++ replaceAll pattern r (length - 1) cs
      | none => c :: replaceAll pattern r 0 cs

section
variable {pattern : Pattern} {r : List Char}

theorem replaceAll_none {c : Char} {cs : List Char} (h : pattern (c :: cs) = none) :
    replaceAll pattern r 0 (c :: cs) = c :: replaceAll pattern r 0 cs := by
  rw [replaceAll, h]

theorem replaceAll_some {c : Char} {cs : List Char} {length : Nat}
    (h : pattern (c :: cs) = some length) :
    replaceAll pattern r 0 (c :: cs) = r ++ replaceAll pattern r (length - 1) cs := by
  rw [replaceAll, h]

/-- A text is left as it is, or as far as its first match. -/
theorem replaceAll_cases (text : List Char) :
    replaceAll pattern r 0 text = text ∨
      ∃ before rest after, text = before ++ rest ∧ (pattern rest).isSome ∧
        replaceAll pattern r 0 text = before ++ (r ++ after) := by
  induction text with
  | nil => exact .inl rfl
  | cons c cs ih =>
      cases h : pattern (c :: cs) with
      | some length =>
          right
          exact ⟨[], c :: cs, replaceAll pattern r (length - 1) cs, rfl, by rw [h]; rfl,
            replaceAll_some h⟩
      | none =>
          rw [replaceAll_none h]
          rcases ih with hsame | ⟨before, rest, after, hcs, hrest, hout⟩
          · left
            rw [hsame]
          · right
            refine ⟨c :: before, rest, after, ?_, hrest, ?_⟩
            · rw [hcs]
              rfl
            · rw [hout]
              rfl

end

end Text

end Data
