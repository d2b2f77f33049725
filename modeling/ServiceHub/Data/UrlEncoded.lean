/-
# `Data.UrlEncoded` — `application/x-www-form-urlencoded`

The serialiser of `URLSearchParams`: names and values as UTF-8, a byte as
itself, as `+` or as `%` and two digits, `=` between name and value and `&`
between entries.  The text of a byte begins like that of no other byte and
contains no separator, so that equal texts come from equal lists of entries
(`serialize_injective`).
-/
import ServiceHub.Data.Text

namespace Data

namespace UrlEncoded

/-! ## Bytes -/

/-- A hexadecimal digit, in upper case. -/
def hexDigit (n : Nat) : Char := Char.ofNat (if n < 10 then 48 + n else 55 + n)

def hexValue (c : Char) : Nat := if c.toNat < 58 then c.toNat - 48 else c.toNat - 55

/-- Letters, digits, `*`, `-`, `.` and `_` stand for themselves. -/
def unreserved (b : UInt8) : Bool :=
  (Char.ofNat b.toNat).isAlphanum || b == 42 || b == 45 || b == 46 || b == 95

def encodeByte (b : UInt8) : List Char :=
  if b = 32 then ['+']
  else if unreserved b then [Char.ofNat b.toNat]
  else ['%', hexDigit (b.toNat / 16), hexDigit (b.toNat % 16)]

/-- The byte at the beginning of a text, and the rest. -/
def decodeByte : List Char → Option (UInt8 × List Char)
  | '+' :: rest => some (32, rest)
  | '%' :: high :: low :: rest => some (.ofNat (hexValue high * 16 + hexValue low), rest)
  | c :: rest => some (.ofNat c.toNat, rest)
  | [] => none

theorem hexValue_hexDigit {n : Nat} (h : n < 16) : hexValue (hexDigit n) = n := by
  have hall : ∀ n : Fin 16, hexValue (hexDigit n) = n := by decide
  exact hall ⟨n, h⟩

theorem toNat_ofNat_byte (b : UInt8) : (Char.ofNat b.toNat).toNat = b.toNat := by
  have hvalid : b.toNat.isValidChar := by
    have hb := b.toNat_lt
    left
    omega
  rw [Char.ofNat, dif_pos hvalid]
  rfl

/-- The bytes that stand for themselves are neither the two that announce an
escape nor separators. -/
theorem not_special {b : UInt8} (h : unreserved b = true) :
    Char.ofNat b.toNat ≠ '+' ∧ Char.ofNat b.toNat ≠ '%' ∧
      Char.ofNat b.toNat ≠ '&' ∧ Char.ofNat b.toNat ≠ '=' := by
  have hne : ∀ c : Char, unreserved (.ofNat c.toNat) = false → Char.ofNat b.toNat ≠ c := by
    intro c hc heq
    rw [← heq, toNat_ofNat_byte, UInt8.ofNat_toNat, h] at hc
    exact absurd hc (by decide)
  exact ⟨hne _ (by decide), hne _ (by decide), hne _ (by decide), hne _ (by decide)⟩

theorem decodeByte_encodeByte (b : UInt8) (rest : List Char) :
    decodeByte (encodeByte b ++ rest) = some (b, rest) := by
  rw [encodeByte]
  split
  · rename_i hspace
    rw [hspace]
    rfl
  · split
    · rename_i hself
      obtain ⟨hplus, hpercent, -, -⟩ := not_special hself
      have hplain : ∀ c : Char, c ≠ '+' → c ≠ '%' →
          decodeByte (c :: rest) = some (.ofNat c.toNat, rest) := by
        intro c hp hq
        rw [decodeByte]
        · exact fun h => hp h
        · exact fun _ _ _ h => absurd h hq
      rw [List.singleton_append, hplain _ hplus hpercent, toNat_ofNat_byte, UInt8.ofNat_toNat]
    · have hb := b.toNat_lt
      show some (UInt8.ofNat (_ * 16 + _), rest) = _
      rw [hexValue_hexDigit (by omega), hexValue_hexDigit (by omega), Nat.div_add_mod',
        UInt8.ofNat_toNat]

/-! ## Names and values -/

def component (bytes : List UInt8) : List Char := bytes.flatMap encodeByte

theorem component_injective {a b : List UInt8} (h : component a = component b) : a = b := by
  induction a generalizing b with
  | nil =>
      cases b with
      | nil => rfl
      | cons y b =>
          have hy := decodeByte_encodeByte y (component b)
          rw [show encodeByte y ++ component b = [] from h.symm] at hy
          cases hy
  | cons x a ih =>
      have hx := decodeByte_encodeByte x (component a)
      rw [show encodeByte x ++ component a = component b from h] at hx
      cases b with
      | nil => cases hx
      | cons y b =>
          rw [show component (y :: b) = encodeByte y ++ component b from rfl,
            decodeByte_encodeByte y (component b)] at hx
          obtain ⟨rfl, hrest⟩ := Prod.mk.inj (Option.some.inj hx)
          rw [ih hrest.symm]

theorem separator_not_mem_byte (b : UInt8) : '&' ∉ encodeByte b ∧ '=' ∉ encodeByte b := by
  have hdigit : ∀ n, n < 16 → '&' ≠ hexDigit n ∧ '=' ≠ hexDigit n := by
    have hall : ∀ n : Fin 16, '&' ≠ hexDigit n ∧ '=' ≠ hexDigit n := by decide
    intro n hn
    exact hall ⟨n, hn⟩
  have hb := b.toNat_lt
  have hhigh := hdigit (b.toNat / 16) (by omega)
  have hlow := hdigit (b.toNat % 16) (by omega)
  rw [encodeByte]
  split
  · decide
  · split
    · rename_i hself
      obtain ⟨-, -, hamp, heq⟩ := not_special hself
      simp [hamp.symm, heq.symm]
    · simp [hhigh, hlow]

theorem separator_not_mem (bytes : List UInt8) :
    '&' ∉ component bytes ∧ '=' ∉ component bytes := by
  constructor
  · intro h
    obtain ⟨b, -, hb⟩ := List.mem_flatMap.mp h
    exact (separator_not_mem_byte b).1 hb
  · intro h
    obtain ⟨b, -, hb⟩ := List.mem_flatMap.mp h
    exact (separator_not_mem_byte b).2 hb

/-! ## Entries -/

/-- The UTF-8 encoding of a text. -/
def bytes (s : String) : List UInt8 := s.toUTF8.data.toList

theorem bytes_injective {s t : String} (h : bytes s = bytes t) : s = t :=
  String.toByteArray_inj.mp (ByteArray.ext (Array.toList_inj.mp h))

/-- `name=value`. -/
def entry (e : String × String) : List Char :=
  component (bytes e.1) ++ '=' :: component (bytes e.2)

/-- Entries with `&` between them. -/
def join : List (String × String) → List Char
  | [] => []
  | [e] => entry e
  | e :: f :: es => entry e ++ '&' :: join (f :: es)

/-- `params.toString()`. -/
def serialize (entries : List (String × String)) : String := .ofList (join entries)

theorem entry_injective {e f : String × String} (h : entry e = entry f) : e = f := by
  obtain ⟨hname, hvalue⟩ := Text.cut_injective (separator_not_mem _).2 (separator_not_mem _).2 h
  exact Prod.ext (bytes_injective (component_injective hname))
    (bytes_injective (component_injective hvalue))

theorem ampersand_not_mem (e : String × String) : '&' ∉ entry e := by
  intro h
  rcases List.mem_append.mp h with h | h
  · exact (separator_not_mem _).1 h
  · rcases List.mem_cons.mp h with h | h
    · exact absurd h (by decide)
    · exact (separator_not_mem _).1 h

theorem entry_ne_nil (e : String × String) : entry e ≠ [] := by
  intro h
  exact List.cons_ne_nil _ _ (List.append_eq_nil_iff.mp h).2

theorem join_injective {es fs : List (String × String)} (h : join es = join fs) : es = fs := by
  have hnil : ∀ (f : String × String) fs, join (f :: fs) ≠ [] := by
    intro f fs h
    cases fs with
    | nil => exact entry_ne_nil f h
    | cons g fs => exact entry_ne_nil f (List.append_eq_nil_iff.mp h).1
  have hone : ∀ e f g gs, entry e ≠ entry f ++ '&' :: join (g :: gs) := by
    intro e f g gs h
    apply ampersand_not_mem e
    rw [h]
    exact List.mem_append_right _ List.mem_cons_self
  induction es generalizing fs with
  | nil =>
      cases fs with
      | nil => rfl
      | cons f fs => exact absurd h.symm (hnil f fs)
  | cons e es ih =>
      cases fs with
      | nil => exact absurd h (hnil e es)
      | cons f fs =>
          cases es with
          | nil =>
              cases fs with
              | nil => rw [entry_injective h]
              | cons g fs => exact absurd h (hone e f g fs)
          | cons d es =>
              cases fs with
              | nil => exact absurd h.symm (hone f e d es)
              | cons g fs =>
                  obtain ⟨hentry, hrest⟩ :=
                    Text.cut_injective (ampersand_not_mem e) (ampersand_not_mem f) h
                  rw [entry_injective hentry, ih hrest]

/-- Different lists of entries are different texts. -/
theorem serialize_injective : Function.Injective serialize := by
  intro es fs h
  exact join_injective (String.ofList_injective h)

example : serialize [("city", "São Paulo"), ("search", "a&b=c+d%")] =
    "city=S%C3%A3o+Paulo&search=a%26b%3Dc%2Bd%25" := by decide +kernel

end UrlEncoded

end Data
