/-
# `Logging.Sanitizer` — what a log entry shows of secrets

`sanitizeLogData` replaces the values of sensitive members and the bearer tokens
in texts, down to a depth of five.

**What fails.**  Deeper values are returned as they are.  And of the sensitive
keys, `set-cookie` is listed with its hyphen only, while a key is looked up as it
is and without separators: `setCookie` and `set_cookie` are not found.

**What holds.**  `Covered`: the values that are not looked at are clean already,
and the members that are missed have nothing to hide.  The result is clean just
when that is so (`clean_sanitize_iff`).

`toLowerCase` is a parameter, of which nothing is assumed.
-/
import ServiceHub.Logging.Bearer
import ServiceHub.Data.Json

namespace ServiceHub.Logging

open Data

def sensitiveKeys : List String :=
  ["password", "newpassword", "currentpassword", "confirmpassword", "passwordhash", "refreshtoken",
    "refreshtokenhash", "accesstoken", "token", "authorization", "cookie", "set-cookie", "secret",
    "webhooksecret", "keysecret", "razorpay_signature", "razorpaysignature", "signature",
    "clientsecret", "client_secret", "privatekey", "private_key", "apikey", "api_key",
    "cardnumber", "cvv", "cvc", "pan", "ssn", "aadhaar"]

/-- `key.replace(/[-_]/g, "")`. -/
def withoutSeparators (key : String) : String :=
  .ofList (key.toList.filter fun c => c != '-' && c != '_')

def redacted : Json := .str "[REDACTED]"

section
variable (toLowerCase : String → String)

def normalizedKey (key : String) : String := withoutSeparators (toLowerCase key)

def isSensitive (key : String) : Bool :=
  toLowerCase key ∈ sensitiveKeys || normalizedKey toLowerCase key ∈ sensitiveKeys

/-! ## The function -/

/-- The text, if `typeof value === "string"`. -/
def textOf : Json → Option String
  | .str s => some s
  | _ => none

mutual

def sanitizeLogData (depth : Nat) : Json → Json
  | .null => .null
  | .bool b => .bool b
  | .num q => .num q
  | .str s => if 5 < depth then .str s else .str (redactBearer s)
  | .arr items => if 5 < depth then .arr items else .arr (sanitizeItems (depth + 1) items)
  | .obj members => if 5 < depth then .obj members else .obj (sanitizeMembers (depth + 1) members)

def sanitizeItems (depth : Nat) : List Json → List Json
  | [] => []
  | item :: items => sanitizeLogData depth item :: sanitizeItems depth items

/-- An assignment to `__proto__` makes no member.  A text is looked at here,
whatever the depth; numbers and booleans stay as they are. -/
def sanitizeMembers (depth : Nat) : List (String × Json) → List (String × Json)
  | [] => []
  | (key, value) :: members =>
      let sanitized := sanitizeMembers depth members
      if key = "__proto__" then sanitized
      else if isSensitive toLowerCase key then (key, redacted) :: sanitized
      else match textOf value with
        | some s => (key, .str (redactBearer s)) :: sanitized
        | none => (key, sanitizeLogData depth value) :: sanitized

end

end

/-! ## Clean values -/

section
variable (toLowerCase : String → String)

/-- The key is a sensitive one, letter case and separators aside. -/
def Secret (key : String) : Prop :=
  normalizedKey toLowerCase key ∈ sensitiveKeys.map withoutSeparators

instance (key : String) : Decidable (Secret toLowerCase key) :=
  inferInstanceAs (Decidable (_ ∈ sensitiveKeys.map withoutSeparators))

mutual

/-- Every secret member is redacted, and no text contains a bearer token. -/
def Clean : Json → Prop
  | .str s => ¬ HasBearer s.toList
  | .arr items => CleanItems items
  | .obj members => CleanMembers members
  | _ => True

def CleanItems : List Json → Prop
  | [] => True
  | item :: items => Clean item ∧ CleanItems items

def CleanMembers : List (String × Json) → Prop
  | [] => True
  | (key, value) :: members =>
      ((Secret toLowerCase key → value = redacted) ∧ Clean value) ∧ CleanMembers members

end

mutual

/-- What the function does not change at this depth is clean already. -/
def Covered (depth : Nat) : Json → Prop
  | .str s => 5 < depth → ¬ HasBearer s.toList
  | .arr items =>
      if 5 < depth then Clean toLowerCase (.arr items) else CoveredItems (depth + 1) items
  | .obj members =>
      if 5 < depth then Clean toLowerCase (.obj members) else CoveredMembers (depth + 1) members
  | _ => True

def CoveredItems (depth : Nat) : List Json → Prop
  | [] => True
  | item :: items => Covered depth item ∧ CoveredItems depth items

/-- The members that are neither dropped nor redacted: of the sensitive keys,
only spellings of `set-cookie` are missed. -/
def CoveredMembers (depth : Nat) : List (String × Json) → Prop
  | [] => True
  | (key, value) :: members =>
      (key = "__proto__" ∨ isSensitive toLowerCase key = true ∨
        ((normalizedKey toLowerCase key = "setcookie" → value = redacted) ∧
          ((textOf value).isSome = true ∨ Covered depth value))) ∧
      CoveredMembers depth members

end

end

/-! ## Keys -/

section
variable {toLowerCase : String → String}

/-- Only `set-cookie` has its separator in the list and is not there without. -/
theorem secret_iff {key : String} (h : isSensitive toLowerCase key = false) :
    Secret toLowerCase key ↔ normalizedKey toLowerCase key = "setcookie" := by
  rw [isSensitive, Bool.or_eq_false_iff, decide_eq_false_iff_not, decide_eq_false_iff_not] at h
  have hlisted : ∀ k ∈ sensitiveKeys,
      withoutSeparators k ∈ sensitiveKeys ∨ withoutSeparators k = "setcookie" := by
    decide +kernel
  constructor
  · intro hsecret
    obtain ⟨k, hk, hkey⟩ := List.mem_map.mp hsecret
    rw [← hkey] at h ⊢
    exact (hlisted k hk).resolve_left h.2
  · intro hkey
    rw [Secret, hkey]
    decide +kernel

end

/-! ## Sanitized values are clean -/

section
variable {toLowerCase : String → String}

theorem not_hasBearer_redacted : ¬ HasBearer "[REDACTED]".toList := by
  have hnil : ¬ HasBearer [] := by
    intro h
    obtain ⟨rest, hsuffix, hhead⟩ := hasBearer_iff.mp h
    exact headMatch_ne_nil hhead (List.suffix_nil.mp hsuffix)
  have happend := not_hasBearer_append (x := "[REDACTED]".toList) (by decide) hnil
  rwa [List.append_nil] at happend

/-- A text that has been redacted reads `[REDACTED]` only if it did before. -/
theorem redactBearer_eq_iff (s : String) : redactBearer s = "[REDACTED]" ↔ s = "[REDACTED]" := by
  have hcases := @Text.replaceAll_cases bearerRegex replacement s.toList
  constructor
  · intro h
    rw [redactBearer, ← String.toList_inj, String.toList_ofList] at h
    rcases hcases with hsame | ⟨before, rest, after, -, -, hout⟩
    · rw [hsame] at h
      exact String.toList_inj.mp h
    · rw [hout] at h
      have hlength := congrArg List.length h
      have hreplacement : replacement.length = 17 := by decide
      have hredacted : "[REDACTED]".toList.length = 10 := by decide
      rw [List.length_append, List.length_append] at hlength
      omega
  · rintro rfl
    decide +kernel

/-- What is no text is not made one. -/
theorem sanitize_ne_redacted {depth : Nat} {j : Json} (h : textOf j = none) :
    sanitizeLogData toLowerCase depth j ≠ redacted := by
  intro heq
  cases j with
  | str s => cases h
  | null => cases heq
  | bool b => cases heq
  | num q => cases heq
  | arr items =>
      rw [sanitizeLogData] at heq
      split at heq <;> cases heq
  | obj members =>
      rw [sanitizeLogData] at heq
      split at heq <;> cases heq

/-- One member and the others. -/
theorem cleanMembers_cons_iff {depth : Nat} {key : String} {value : Json}
    {members : List (String × Json)}
    (hvalue : Clean toLowerCase (sanitizeLogData toLowerCase depth value) ↔
      Covered toLowerCase depth value)
    (hmembers : CleanMembers toLowerCase (sanitizeMembers toLowerCase depth members) ↔
      CoveredMembers toLowerCase depth members) :
    CleanMembers toLowerCase (sanitizeMembers toLowerCase depth ((key, value) :: members)) ↔
      CoveredMembers toLowerCase depth ((key, value) :: members) := by
  rw [sanitizeMembers, CoveredMembers, ← hmembers]
  by_cases hproto : key = "__proto__"
  · simp only [hproto, if_true, true_or, true_and]
  cases hkey : isSensitive toLowerCase key with
  | true =>
      have hclean : Clean toLowerCase redacted := not_hasBearer_redacted
      simp only [hproto, if_false, if_true, CleanMembers, hclean, implies_true, true_and, true_or,
        or_true]
  | false =>
      -- a missed member is as it was, or was no text and is none
      simp only [hproto, if_false, Bool.false_eq_true, false_or, ← secret_iff hkey]
      cases htext : textOf value with
      | some s =>
          have hstr : value = .str s := by
            cases value with
            | str t => rw [Option.some.inj htext]
            | _ => cases htext
          have hsame : Json.str (redactBearer s) = redacted ↔ Json.str s = redacted := by
            rw [redacted, Json.str.injEq, Json.str.injEq]
            exact redactBearer_eq_iff s
          simp only [CleanMembers, Clean, not_hasBearer, not_false_eq_true, and_true, hsame, hstr,
            Option.isSome_some, true_or]
      | none =>
          have hvalue_ne : value ≠ redacted := by
            rintro rfl
            cases htext
          simp only [CleanMembers, hvalue, sanitize_ne_redacted htext, hvalue_ne,
            Option.isSome_none, Bool.false_eq_true, false_or]

mutual

theorem clean_sanitize_iff (depth : Nat) : ∀ j : Json,
    Clean toLowerCase (sanitizeLogData toLowerCase depth j) ↔ Covered toLowerCase depth j
  | .null => by simp [sanitizeLogData, Clean, Covered]
  | .bool _ => by simp [sanitizeLogData, Clean, Covered]
  | .num _ => by simp [sanitizeLogData, Clean, Covered]
  | .str s => by
      rw [sanitizeLogData, Covered]
      by_cases hdepth : 5 < depth
      · simp [hdepth, Clean]
      · simp [hdepth, Clean, not_hasBearer]
  | .arr items => by
      rw [sanitizeLogData, Covered]
      by_cases hdepth : 5 < depth
      · simp [hdepth]
      · simpa [hdepth, Clean] using cleanItems_sanitize_iff (depth + 1) items
  | .obj members => by
      rw [sanitizeLogData, Covered]
      by_cases hdepth : 5 < depth
      · simp [hdepth]
      · simpa [hdepth, Clean] using cleanMembers_sanitize_iff (depth + 1) members

theorem cleanItems_sanitize_iff (depth : Nat) : ∀ items : List Json,
    CleanItems toLowerCase (sanitizeItems toLowerCase depth items) ↔
      CoveredItems toLowerCase depth items
  | [] => by simp [sanitizeItems, CleanItems, CoveredItems]
  | item :: items => by
      rw [sanitizeItems, CleanItems, CoveredItems, clean_sanitize_iff depth item,
        cleanItems_sanitize_iff depth items]

theorem cleanMembers_sanitize_iff (depth : Nat) : ∀ members : List (String × Json),
    CleanMembers toLowerCase (sanitizeMembers toLowerCase depth members) ↔
      CoveredMembers toLowerCase depth members
  | [] => by simp [sanitizeMembers, CleanMembers, CoveredMembers]
  | (_, value) :: members =>
      cleanMembers_cons_iff (clean_sanitize_iff depth value) (cleanMembers_sanitize_iff depth members)

end

/-- The result hides what it should just when nothing is left where the function
does not look. -/
theorem redaction_complete_iff (value : Json) :
    Clean toLowerCase (sanitizeLogData toLowerCase 0 value) ↔ Covered toLowerCase 0 value :=
  clean_sanitize_iff 0 value

end

/-- `{ [key]: value }`. -/
def member (key : String) (value : Json) : Json := .obj [(key, value)]

def cookie : Json := member "setCookie" (.str "sid=1")

/-- A password six levels down. -/
def deep : Json :=
  member "error" (member "config" (member "request" (member "body" (member "data"
    (member "user" (member "password" (.str "hunter2")))))))

theorem not_redacted :
    (sanitizeLogData String.toLower 0 cookie = cookie ∧
        ¬ Clean String.toLower (sanitizeLogData String.toLower 0 cookie)) ∧
      sanitizeLogData String.toLower 0 deep = deep ∧
        ¬ Clean String.toLower (sanitizeLogData String.toLower 0 deep) := by
  have hcookie : sanitizeLogData String.toLower 0 cookie = cookie := by decide +kernel
  have hdeep : sanitizeLogData String.toLower 0 deep = deep := by decide +kernel
  have hsecret : ∀ key s, Secret String.toLower key → s ≠ "[REDACTED]" →
      ¬ Clean String.toLower (member key (.str s)) := by
    intro key s hkey hs hclean
    simp only [member, Clean, CleanMembers, redacted, Json.str.injEq] at hclean
    exact hs (hclean.1.1 hkey)
  refine ⟨⟨hcookie, ?_⟩, hdeep, ?_⟩
  · rw [hcookie]
    exact hsecret _ _ (by decide +kernel) (by decide)
  · rw [hdeep]
    intro hclean
    have hbelow : ∀ key value, Clean String.toLower (member key value) →
        Clean String.toLower value := by
      intro key value h
      simp only [member, Clean, CleanMembers] at h
      exact h.1.2
    exact hsecret "password" "hunter2" (by decide +kernel) (by decide)
      (hbelow _ _ (hbelow _ _ (hbelow _ _ (hbelow _ _ (hbelow _ _ (hbelow _ _ hclean))))))

end ServiceHub.Logging
