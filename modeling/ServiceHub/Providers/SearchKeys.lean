/-
# `Providers.SearchKeys` — when two searches share a key

`buildNormalizedQueryKey` with all it reads: a query is the list of its members
in the order they were inserted, the values are as JavaScript has them, and
`URLSearchParams` is the serialiser of `Data.UrlEncoded`.

**What is left to a parameter.**  The text of a number, `toLowerCase` and the
hash are functions of which nothing is assumed.

**The order of keys.**  `sort` compares UTF-16 code units and `≤` code points;
of the names of `QueryProviderSearchDto`, which are ASCII, both make the same
order.
-/
import ServiceHub.Data.UrlEncoded
import ServiceHub.Providers.Service
import Mathlib.Data.String.Basic

namespace ServiceHub.Providers.SearchKeys

open Data

/-! ## Queries -/

/-- The value of a member; `N` are the numbers. -/
inductive QueryValue (N : Type) where
  | undefined
  | null
  | str (s : String)
  | num (n : N)

/-- The properties of `QueryProviderSearchDto`. -/
def dtoKeys : List String :=
  ["page", "limit", "categoryId", "serviceId", "city", "minPrice", "maxPrice", "minRating",
    "search", "sort"]

/-- The members of an object, in the order of their insertion. -/
structure SearchQuery (N : Type) where
  entries : List (String × QueryValue N)
  nodup : (entries.map Prod.fst).Nodup
  named : ∀ key ∈ entries.map Prod.fst, key ∈ dtoKeys

section
variable {N : Type} (numberText : N → String) (toLowerCase sha256 : String → String)

/-- `String(value).toLowerCase()`, if the value is not ignored. -/
def QueryValue.normalized : QueryValue N → Option String
  | .undefined => none
  | .null => none
  | .str s => if s = "" then none else some (toLowerCase s)
  | .num n => some (toLowerCase (numberText n))

def cleanedQuery (entries : List (String × QueryValue N)) : List (String × String) :=
  entries.filterMap fun (key, value) =>
    (value.normalized numberText toLowerCase).map fun text => (key, text)

/-- Entries in the order of their keys. -/
def keyOrder (a b : String × String) : Prop := a.1 ≤ b.1

instance : DecidableRel keyOrder := fun a b => inferInstanceAs (Decidable (a.1 ≤ b.1))

def queryString (q : SearchQuery N) : String :=
  UrlEncoded.serialize ((cleanedQuery numberText toLowerCase q.entries).insertionSort keyOrder)

/-- The first sixteen digits of the hash. -/
def hash (text : String) : String := .ofList ((sha256 text).toList.take 16)

def buildNormalizedQueryKey (pre : String) (version : Nat) (q : SearchQuery N) : String :=
  pre ++ ":v" ++ toString version ++ ":" ++ hash sha256 (queryString numberText toLowerCase q)

/-- What a query says of a key when ignored values are dropped and the others
are texts in lower case. -/
def SearchQuery.valueOf (q : SearchQuery N) (key : String) : Option String :=
  (q.entries.lookup key).bind (QueryValue.normalized numberText toLowerCase)

/-- The same map from keys to values. -/
def Agree (q r : SearchQuery N) : Prop :=
  ∀ key, q.valueOf numberText toLowerCase key = r.valueOf numberText toLowerCase key

end

/-! ## Sorted entries -/

instance : Std.Total keyOrder := ⟨fun a b => le_total a.1 b.1⟩

instance : IsTrans (String × String) keyOrder := ⟨fun _ _ _ => le_trans⟩

/-- Entries under distinct keys are one list when they are sorted, whatever
their order was. -/
theorem sorted_eq_iff {l m : List (String × String)} (hl : (l.map Prod.fst).Nodup)
    (hm : (m.map Prod.fst).Nodup) :
    l.insertionSort keyOrder = m.insertionSort keyOrder ↔ ∀ e, e ∈ l ↔ e ∈ m := by
  have hperm : ∀ l : List (String × String), (l.insertionSort keyOrder).Perm l :=
    List.perm_insertionSort keyOrder
  constructor
  · intro h e
    have hlm : l.Perm m := (hperm l).symm.trans (h ▸ hperm m)
    exact hlm.mem_iff
  · intro h
    have hlm : l.Perm m := (List.perm_ext_iff_of_nodup hl.of_map hm.of_map).mpr h
    refine List.Perm.eq_of_pairwise ?_ (List.pairwise_insertionSort keyOrder l)
      (List.pairwise_insertionSort keyOrder m) ((hperm l).trans (hlm.trans (hperm m).symm))
    intro a b ha hb hab hba
    have ha : a ∈ l := (hperm l).mem_iff.mp ha
    have hb : b ∈ l := (h b).mpr ((hperm m).mem_iff.mp hb)
    exact List.inj_on_of_nodup_map hl ha hb (le_antisymm hab hba)

theorem lookup_iff {V : Type} {l : List (String × V)} (h : (l.map Prod.fst).Nodup) {key : String}
    {v : V} : l.lookup key = some v ↔ (key, v) ∈ l := by
  induction l with
  | nil => simp
  | cons e l ih =>
      obtain ⟨k, w⟩ := e
      rw [List.map_cons, List.nodup_cons] at h
      have hrest := ih h.2
      rw [List.lookup_cons, List.mem_cons]
      split
      · rename_i heq
        have hkey : key = k := by simpa using heq
        subst hkey
        constructor
        · intro hw
          left
          rw [Option.some.inj hw]
        · rintro (hw | hmem)
          · rw [(Prod.mk.inj hw).2]
          · exact absurd (List.mem_map_of_mem (f := Prod.fst) hmem) h.1
      · rename_i hne
        have hkey : key ≠ k := by simpa using hne
        rw [hrest]
        constructor
        · exact .inr
        · rintro (hw | hmem)
          · exact absurd (Prod.mk.inj hw).1 hkey
          · exact hmem

/-! ## Canonical texts -/

section
variable {N : Type} {numberText : N → String} {toLowerCase sha256 : String → String}

theorem cleanedQuery_nodup {l : List (String × QueryValue N)} (h : (l.map Prod.fst).Nodup) :
    ((cleanedQuery numberText toLowerCase l).map Prod.fst).Nodup := by
  have hsub :
      ((cleanedQuery numberText toLowerCase l).map Prod.fst).Sublist (l.map Prod.fst) := by
    clear h
    induction l with
    | nil => exact List.Sublist.refl []
    | cons e l ih =>
        obtain ⟨k, v⟩ := e
        cases hv : v.normalized numberText toLowerCase with
        | none =>
            have hskip : cleanedQuery numberText toLowerCase ((k, v) :: l) =
                cleanedQuery numberText toLowerCase l := by
              simp [cleanedQuery, hv]
            rw [hskip]
            exact ih.cons k
        | some t =>
            have hkeep : cleanedQuery numberText toLowerCase ((k, v) :: l) =
                (k, t) :: cleanedQuery numberText toLowerCase l := by
              simp [cleanedQuery, hv]
            rw [hkeep]
            exact ih.cons_cons k
  exact h.sublist hsub

theorem mem_cleanedQuery (q : SearchQuery N) {key text : String} :
    (key, text) ∈ cleanedQuery numberText toLowerCase q.entries ↔
      q.valueOf numberText toLowerCase key = some text := by
  rw [SearchQuery.valueOf, Option.bind_eq_some_iff, cleanedQuery, List.mem_filterMap]
  constructor
  · rintro ⟨⟨k, v⟩, hmem, hmap⟩
    obtain ⟨t, ht, heq⟩ := Option.map_eq_some_iff.mp hmap
    obtain ⟨rfl, rfl⟩ := Prod.mk.inj heq
    exact ⟨v, (lookup_iff q.nodup).mpr hmem, ht⟩
  · rintro ⟨v, hlookup, ht⟩
    exact ⟨(key, v), (lookup_iff q.nodup).mp hlookup, Option.map_eq_some_iff.mpr ⟨text, ht, rfl⟩⟩

theorem queryString_eq_iff (q r : SearchQuery N) :
    queryString numberText toLowerCase q = queryString numberText toLowerCase r ↔
      Agree numberText toLowerCase q r := by
  rw [queryString, queryString, UrlEncoded.serialize_injective.eq_iff,
    sorted_eq_iff (cleanedQuery_nodup q.nodup) (cleanedQuery_nodup r.nodup)]
  constructor
  · intro h key
    ext text
    rw [← mem_cleanedQuery q, ← mem_cleanedQuery r]
    exact h (key, text)
  · rintro h ⟨key, text⟩
    rw [mem_cleanedQuery q, mem_cleanedQuery r, h key]

theorem key_eq_iff (pre : String) (version : Nat) (q r : SearchQuery N) :
    buildNormalizedQueryKey numberText toLowerCase sha256 pre version q =
        buildNormalizedQueryKey numberText toLowerCase sha256 pre version r ↔
      hash sha256 (queryString numberText toLowerCase q) =
        hash sha256 (queryString numberText toLowerCase r) := by
  rw [← String.toList_inj, ← @String.toList_inj (hash _ _)]
  simp only [buildNormalizedQueryKey, String.toList_append, List.append_assoc,
    List.append_cancel_left_eq]

/-- The text that is hashed is the same for two queries just when they agree;
so is the key, if the hash does not take the two texts for one. -/
theorem searchKeys_canonical (pre : String) (version : Nat) (q r : SearchQuery N) :
    (queryString numberText toLowerCase q = queryString numberText toLowerCase r ↔
        Agree numberText toLowerCase q r) ∧
      ((hash sha256 (queryString numberText toLowerCase q) =
            hash sha256 (queryString numberText toLowerCase r) →
          queryString numberText toLowerCase q = queryString numberText toLowerCase r) →
        (buildNormalizedQueryKey numberText toLowerCase sha256 pre version q =
            buildNormalizedQueryKey numberText toLowerCase sha256 pre version r ↔
          Agree numberText toLowerCase q r)) := by
  refine ⟨queryString_eq_iff q r, ?_⟩
  intro hhash
  rw [key_eq_iff, ← queryString_eq_iff q r]
  exact ⟨hhash, congrArg (hash sha256)⟩

end

/-! ## The query of a search -/

def ofText : Option String → QueryValue ℚ
  | some s => .str s
  | none => .undefined

def ofNumber : Option ℚ → QueryValue ℚ
  | some n => .num n
  | none => .undefined

/-- The property of that name. -/
def dtoValue (q : QueryProviderSearchDto) : String → QueryValue ℚ
  | "page" => ofNumber q.page
  | "limit" => ofNumber q.limit
  | "categoryId" => ofText q.categoryId
  | "serviceId" => ofText q.serviceId
  | "city" => ofText q.city
  | "minPrice" => ofNumber q.minPrice
  | "maxPrice" => ofNumber q.maxPrice
  | "minRating" => ofNumber q.minRating
  | "search" => ofText q.search
  | "sort" => ofText (q.sort.map toString)
  | _ => .undefined

def ofDto (q : QueryProviderSearchDto) : SearchQuery ℚ where
  entries := dtoKeys.map fun key => (key, dtoValue q key)
  nodup := by
    rw [List.map_map, show Prod.fst ∘ (fun key => (key, dtoValue q key)) = id from rfl,
      List.map_id]
    decide
  named := by
    rw [List.map_map, show Prod.fst ∘ (fun key => (key, dtoValue q key)) = id from rfl,
      List.map_id]
    exact fun _ h => h

section
variable {js : Builtins} (q : QueryProviderSearchDto)

theorem normalized_ofText (o : Option String) :
    (ofText o).normalized js.numberText js.toLowerCase =
      (o.filter (· ≠ "")).map js.toLowerCase := by
  cases o with
  | none => rfl
  | some s => by_cases hs : s = "" <;> simp [ofText, QueryValue.normalized, hs]

theorem normalized_ofNumber (hnumber : ∀ n, js.numberText n ≠ "") (o : Option ℚ) :
    (ofNumber o).normalized js.numberText js.toLowerCase =
      ((o.map js.numberText).filter (· ≠ "")).map js.toLowerCase := by
  cases o with
  | none => rfl
  | some n => simp [ofNumber, QueryValue.normalized, hnumber n]

/-- The names of the properties, in their order. -/
def sortedKeys : List String :=
  ["categoryId", "city", "limit", "maxPrice", "minPrice", "minRating", "page", "search",
    "serviceId", "sort"]

/-- The entry of a key, if its value is not ignored. -/
def dtoEntry (js : Builtins) (key : String) : Option (String × String) :=
  ((dtoValue q key).normalized js.numberText js.toLowerCase).map fun text => (key, text)

theorem cleanedQuery_ofDto :
    cleanedQuery js.numberText js.toLowerCase (ofDto q).entries =
      dtoKeys.filterMap (dtoEntry q js) := by
  rw [cleanedQuery, ofDto, List.filterMap_map]
  rfl

theorem cleanedQuery_eq (hnumber : ∀ n, js.numberText n ≠ "") :
    Providers.cleanedQuery js q = sortedKeys.filterMap (dtoEntry q js) := by
  simp only [Providers.cleanedQuery, sortedKeys, List.filterMap_cons, List.filterMap_nil, dtoEntry, dtoValue,
    normalized_ofText, normalized_ofNumber hnumber, Option.map_map, Function.comp_def]

theorem dtoEntry_key {key : String} {e : String × String} (h : dtoEntry q js key = some e) :
    e.1 = key := by
  obtain ⟨text, -, rfl⟩ := Option.map_eq_some_iff.mp h
  rfl

/-- The entries of the model are the sorted ones. -/
theorem sorted_ofDto (hnumber : ∀ n, js.numberText n ≠ "") :
    (cleanedQuery js.numberText js.toLowerCase (ofDto q).entries).insertionSort keyOrder =
      Providers.cleanedQuery js q := by
  have hperm : (cleanedQuery js.numberText js.toLowerCase (ofDto q).entries).Perm
      (Providers.cleanedQuery js q) := by
    rw [cleanedQuery_ofDto, cleanedQuery_eq q hnumber]
    exact List.Perm.filterMap (dtoEntry q js) (by decide)
  have hsorted : (Providers.cleanedQuery js q).Pairwise keyOrder := by
    have hkeys : sortedKeys.Pairwise (· ≤ ·) := by decide
    rw [cleanedQuery_eq q hnumber, List.pairwise_filterMap]
    refine hkeys.imp ?_
    intro a b hab e he f hf
    rw [keyOrder, dtoEntry_key q he, dtoEntry_key q hf]
    exact hab
  have hnodup := @cleanedQuery_nodup _ js.numberText js.toLowerCase _ (ofDto q).nodup
  rw [(sorted_eq_iff hnodup ((hperm.map Prod.fst).nodup_iff.mp hnodup)).mpr
      fun e => hperm.mem_iff, hsorted.insertionSort_eq]

/-- The key of the model is the one of the source, when its parameters are what
the libraries do. -/
theorem buildNormalizedQueryKey_ofDto (hurl : js.urlEncode = UrlEncoded.serialize)
    (hnumber : ∀ n, js.numberText n ≠ "") (pre : String) (version : Nat) :
    Providers.buildNormalizedQueryKey js pre version q =
      buildNormalizedQueryKey js.numberText js.toLowerCase js.sha256 pre version (ofDto q) := by
  rw [Providers.buildNormalizedQueryKey, queryHash, hurl, buildNormalizedQueryKey, queryString,
    sorted_ofDto q hnumber]
  rfl

end

end ServiceHub.Providers.SearchKeys
