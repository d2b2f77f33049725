/-
# `Payment.Currency` — amounts in the smallest unit of a currency, there and back

`toSmallestCurrencyUnit` compares the code of the currency as it is written,
`fromSmallestCurrencyUnit` its upper case.  All codes but that of the yen count
hundredths, known to the `switch` or not.

**Letter case.**  J, P and Y are the upper case, as one letter, of j, p and y
only, and no character outside ASCII has one of the six as its lower case.  So
`toUpper` and `toLower`, which change no other letters than those of ASCII, tell
the code of the yen from the others as JavaScript's functions do.
-/
import ServiceHub.Runtime
import Mathlib.Data.Rat.Floor
import Mathlib.Tactic.FieldSimp
import Mathlib.Tactic.NormNum

namespace ServiceHub

def fromSmallestCurrencyUnit (amountInSmallestUnit : ℚ) (currency : String) : ℚ :=
  if currency.toUpper = "JPY" then amountInSmallestUnit else amountInSmallestUnit / 100

/-! ## Whole numbers of minor units -/

/-- `Math.round` of a whole number. -/
theorem floor_add_half (n : Int) : ((n : ℚ) + 1 / 2).floor = n := by
  show ⌊(n : ℚ) + 1 / 2⌋ = n
  rw [Int.floor_intCast_add]
  norm_num

/-- Whether the currency has no minor unit, however its code is written. -/
def IsYen (currency : String) : Prop := currency.toUpper = "JPY"

instance (currency : String) : Decidable (IsYen currency) :=
  inferInstanceAs (Decidable (currency.toUpper = "JPY"))

/-- A non-negative amount that is a whole number of minor units. -/
def MinorUnits (amount : ℚ) (currency : String) : Prop :=
  0 ≤ amount ∧ ∃ n : Int, (if IsYen currency then amount else amount * 100) = n

theorem toUpper_jpy : "JPY".toUpper = "JPY" := by decide +kernel

theorem isYen_of_eq {currency : String} (h : currency = "JPY") : IsYen currency := by
  subst h
  exact toUpper_jpy

/-- No text in lower case is the code of the yen. -/
theorem toLower_ne_jpy (currency : String) : currency.toLower ≠ "JPY" := by
  intro h
  have hmem : 'J' ∈ currency.toLower.toList := by
    rw [h]
    decide
  rw [show currency.toLower = currency.map Char.toLower from rfl, String.toList_map,
    List.mem_map] at hmem
  obtain ⟨c, -, hc⟩ := hmem
  unfold Char.toLower at hc
  split at hc
  · rename_i hupper
    have hval := congrArg Char.val hc
    grind
  · rename_i hupper
    subst hc
    exact hupper (by decide)

theorem toSmallest_of_hundredths {amount : ℚ} {currency : String} {n : Int}
    (hcode : currency ≠ "JPY") (hn : amount * 100 = n) :
    toSmallestCurrencyUnit amount currency = n := by
  rw [toSmallestCurrencyUnit, if_neg hcode, hn, floor_add_half]

theorem toSmallest_jpy (n : Int) : toSmallestCurrencyUnit n "JPY" = n := by
  rw [toSmallestCurrencyUnit, if_pos rfl, floor_add_half]

theorem fromSmallest_yen {currency : String} (h : IsYen currency) (n : ℚ) :
    fromSmallestCurrencyUnit n currency = n := if_pos h

theorem fromSmallest_hundredths {currency : String} (h : ¬ IsYen currency) (n : ℚ) :
    fromSmallestCurrencyUnit n currency = n / 100 := if_neg h

/-! ## There and back -/

/-- The amount comes back, and the letter case of the code does not matter. -/
def RoundTrips (amount : ℚ) (currency : String) : Prop :=
  fromSmallestCurrencyUnit (toSmallestCurrencyUnit amount currency : Int) currency = amount ∧
    toSmallestCurrencyUnit amount currency.toUpper = toSmallestCurrencyUnit amount currency.toLower

theorem roundTrips_of_not_isYen {amount : ℚ} {currency : String} (h : ¬ IsYen currency)
    (hunits : MinorUnits amount currency) : RoundTrips amount currency := by
  obtain ⟨-, n, hn⟩ := hunits
  rw [if_neg h] at hn
  constructor
  · rw [toSmallest_of_hundredths (fun hcode => h (isYen_of_eq hcode)) hn,
      fromSmallest_hundredths h, ← hn]
    field_simp
  · rw [toSmallest_of_hundredths h hn, toSmallest_of_hundredths (toLower_ne_jpy currency) hn]

theorem roundTrips_zero (currency : String) : RoundTrips 0 currency := by
  have hzero : ∀ code, toSmallestCurrencyUnit 0 code = 0 := by
    intro code
    by_cases hcode : code = "JPY"
    · rw [hcode]
      exact_mod_cast toSmallest_jpy 0
    · exact toSmallest_of_hundredths hcode (by norm_num)
  constructor
  · rw [hzero, fromSmallestCurrencyUnit]
    split <;> norm_num
  · rw [hzero, hzero]

/-- In lower case the yen is taken for a currency of hundredths. -/
theorem eq_zero_of_roundTrips {amount : ℚ} {currency : String} (h : IsYen currency)
    (hunits : MinorUnits amount currency) (htrips : RoundTrips amount currency) : amount = 0 := by
  obtain ⟨-, n, hn⟩ := hunits
  rw [if_pos h] at hn
  subst hn
  have hcase := htrips.2
  rw [show currency.toUpper = "JPY" from h, toSmallest_jpy,
    toSmallest_of_hundredths (n := n * 100) (toLower_ne_jpy currency) (by push_cast; rfl)] at hcase
  have hn : n = 0 := by omega
  rw [hn, Int.cast_zero]

/-- An amount in minor units survives the round trip, and does not depend on the
letter case of the code, unless it is an amount of yen. -/
theorem roundTrips_iff (amount : ℚ) (currency : String) (hunits : MinorUnits amount currency) :
    RoundTrips amount currency ↔ (IsYen currency → amount = 0) := by
  constructor
  · intro htrips h
    exact eq_zero_of_roundTrips h hunits htrips
  · intro h
    by_cases hyen : IsYen currency
    · rw [h hyen]
      exact roundTrips_zero currency
    · exact roundTrips_of_not_isYen hyen hunits

theorem roundTrips_rupees :
    RoundTrips (1999 / 4) "inr" ↔ (IsYen "inr" → (1999 / 4 : ℚ) = 0) :=
  roundTrips_iff (1999 / 4) "inr"
    ⟨by norm_num, 49975, by rw [if_neg (by decide +kernel)]; norm_num⟩

/-- A hundred yen, of which the code is written in lower case, come back as ten
thousand. -/
theorem not_roundTrips :
    MinorUnits 100 "jpy" ∧
      fromSmallestCurrencyUnit (toSmallestCurrencyUnit 100 "jpy" : Int) "jpy" = 10000 ∧
      ¬ RoundTrips 100 "jpy" := by
  have hyen : IsYen "jpy" := by decide +kernel
  have hunits : MinorUnits 100 "jpy" := ⟨by norm_num, 100, by rw [if_pos hyen]; norm_num⟩
  refine ⟨hunits, ?_, fun htrips => absurd (eq_zero_of_roundTrips hyen hunits htrips) (by norm_num)⟩
  rw [toSmallest_of_hundredths (n := 10000) (by decide) (by norm_num), fromSmallest_yen hyen]
  norm_num

end ServiceHub
