/-
# `Data.Json` — JSON values as JavaScript reads them

A parsed JSON text, and the few JavaScript operations on such values that do
not depend on their being of one type: property access, truthiness and `||`.
`undefined` is `none`; `null` is a value.
-/
import Mathlib.Data.Rat.Defs

namespace Data

/-- A parsed JSON text. -/
inductive Json where
  | null
  | bool (b : Bool)
  | num (q : ℚ)
  | str (s : String)
  | arr (xs : List Json)
  | obj (fields : List (String × Json))

namespace Json

/-- `{ name: value, … }` as it is serialised: a property that is `undefined` is
left out. -/
def object (fields : List (String × Option Json)) : Json :=
  .obj (fields.filterMap fun f => f.2.map fun v => (f.1, v))

/-- `j.name`; only objects have such properties. -/
def prop (name : String) : Json → Option Json
  | .obj fields => fields.lookup name
  | _ => none

/-- `o?.name`. -/
def optProp (o : Option Json) (name : String) : Option Json :=
  o.bind (prop name)

/-- Whether a value counts as true: `undefined`, `null`, `false`, `0` and the
empty string do not. -/
def truthy : Option Json → Bool
  | none => false
  | some .null => false
  | some (.bool b) => b
  | some (.num q) => decide (q ≠ 0)
  | some (.str s) => decide (s ≠ "")
  | some (.arr _) => true
  | some (.obj _) => true

/-- `o || o'`. -/
def or (o o' : Option Json) : Option Json := if truthy o then o else o'

/-! ## Equality -/

mutual

/-- Whether two values are the same. -/
def same : Json → Json → Bool
  | .null, .null => true
  | .bool b, .bool c => decide (b = c)
  | .num q, .num r => decide (q = r)
  | .str s, .str t => decide (s = t)
  | .arr xs, .arr ys => sameAll xs ys
  | .obj fs, .obj gs => sameFields fs gs
  | _, _ => false

def sameAll : List Json → List Json → Bool
  | [], [] => true
  | x :: xs, y :: ys => same x y && sameAll xs ys
  | _, _ => false

def sameFields : List (String × Json) → List (String × Json) → Bool
  | [], [] => true
  | (n, x) :: xs, (m, y) :: ys => decide (n = m) && (same x y && sameFields xs ys)
  | _, _ => false

end

mutual

theorem same_iff : ∀ j k : Json, same j k = true ↔ j = k
  | .null, k => by cases k <;> simp [same]
  | .bool _, k => by cases k <;> simp [same]
  | .num _, k => by cases k <;> simp [same]
  | .str _, k => by cases k <;> simp [same]
  | .arr xs, k => by
      cases k with
      | arr ys => simpa [same] using sameAll_iff xs ys
      | _ => simp [same]
  | .obj fs, k => by
      cases k with
      | obj gs => simpa [same] using sameFields_iff fs gs
      | _ => simp [same]

theorem sameAll_iff : ∀ xs ys : List Json, sameAll xs ys = true ↔ xs = ys
  | [], ys => by cases ys <;> simp [sameAll]
  | x :: xs, ys => by
      cases ys with
      | nil => simp [sameAll]
      | cons y ys => simp [sameAll, same_iff x y, sameAll_iff xs ys]

theorem sameFields_iff : ∀ xs ys : List (String × Json), sameFields xs ys = true ↔ xs = ys
  | [], ys => by cases ys <;> simp [sameFields]
  | (n, x) :: xs, ys => by
      cases ys with
      | nil => simp [sameFields]
      | cons y ys =>
          obtain ⟨m, y⟩ := y
          simp [sameFields, same_iff x y, sameFields_iff xs ys, and_assoc]

end

instance : DecidableEq Json := fun j k => decidable_of_iff _ (same_iff j k)

end Json

end Data
