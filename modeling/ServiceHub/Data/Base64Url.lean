/-
# `Data.Base64Url` — bytes in the base64url alphabet

Three bytes are four characters; one or two that are left at the end are two or
three, and nothing is padded.  So what whole groups are written as does not
depend on what follows them (`encode_append`).
-/
import Mathlib.Data.List.Basic

namespace Data

namespace Base64Url

def alphabet : List Char :=
  "ABCDEFGHIJKLMNOPQRSTUVWXYZabcdefghijklmnopqrstuvwxyz0123456789-_".toList

/-- The character of six bits. -/
def digit (n : Nat) : Char := alphabet.getD n '='

def encode : List UInt8 → List Char
  | [] => []
  | [a] => [digit (a.toNat / 4), digit (a.toNat % 4 * 16)]
  | [a, b] =>
      [digit (a.toNat / 4), digit (a.toNat % 4 * 16 + b.toNat / 16), digit (b.toNat % 16 * 4)]
  | a :: b :: c :: rest =>
      digit (a.toNat / 4) :: digit (a.toNat % 4 * 16 + b.toNat / 16) ::
        digit (b.toNat % 16 * 4 + c.toNat / 64) :: digit (c.toNat % 64) :: encode rest

example : encode [77, 97, 110, 255] = ['T', 'W', 'F', 'u', '_', 'w'] := by decide

theorem encode_append {xs : List UInt8} (ys : List UInt8) (h : 3 ∣ xs.length) :
    encode (xs ++ ys) = encode xs ++ encode ys := by
  induction xs using encode.induct with
  | case1 => rfl
  | case2 a => exact absurd h (by simp)
  | case3 a b => exact absurd h (by simp)
  | case4 a b c rest ih =>
      have hrest : 3 ∣ rest.length := (Nat.dvd_add_left (Nat.dvd_refl 3)).mp h
      simp only [List.cons_append, encode, ih hrest]

theorem length_encode {xs : List UInt8} (h : 3 ∣ xs.length) :
    (encode xs).length = xs.length / 3 * 4 := by
  induction xs using encode.induct with
  | case1 => rfl
  | case2 a => exact absurd h (by simp)
  | case3 a b => exact absurd h (by simp)
  | case4 a b c rest ih =>
      have hrest : 3 ∣ rest.length := (Nat.dvd_add_left (Nat.dvd_refl 3)).mp h
      simp only [encode, List.length_cons, ih hrest]
      omega

end Base64Url

end Data
