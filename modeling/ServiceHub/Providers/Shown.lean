/-
# `Providers.Shown` — what a search sees of the database

`findPublicProviders` reads six tables.  What it makes of them is a function of
the `listing`: of every provider that is listed, the profile, the locations, and
the active offerings with the names that are shown and the category that may be
asked for.

    two states with one listing give every query one result      (`results_congr`)
    two states that give every query one result show the same
    of every provider that some query finds                      (`found_of_same`)

The second asks for one row at a time: a page of one row, at the place where the
provider is found.
-/
import ServiceHub.Providers.Service
import Mathlib.Data.List.Sort

namespace ServiceHub.Providers

open Data Txn

/-- A provider as a search sees it; an offering comes with the name of its
service, and the id and the name of the category. -/
structure Shown where
  profile : ProviderProfile
  locations : List ProviderLocation
  services : List (ProviderService × String × Uuid × String)

namespace Shown

/-- The row of the answer. -/
def item (s : Shown) : ProviderItem where
  profile := s.profile
  locations := s.locations.filter (·.isPrimary)
  services := s.services.map fun (o, name, _, categoryName) => (o, name, categoryName)

/-- The condition on one offering. -/
def offers (q : QueryProviderSearchDto) (o : ProviderService × String × Uuid × String) : Bool :=
  (q.serviceId.filter (· ≠ "")).all (· == o.1.serviceId) &&
    (q.categoryId.filter (· ≠ "")).all (· == o.2.2.1) &&
    q.minPrice.all (fun x => decide (x ≤ o.1.price)) &&
    q.maxPrice.all (fun x => decide (o.1.price ≤ x))

/-- The condition on a provider that is listed. -/
def meets (engine : Engine) (q : QueryProviderSearchDto) (s : Shown) : Bool :=
  q.minRating.all (fun x => decide (x ≤ s.profile.averageRating)) &&
    (q.city.filter (· ≠ "")).all (fun city =>
      s.locations.any fun l => engine.equalsInsensitive city l.city) &&
    (!q.asksForService || s.services.any (offers q)) &&
    (q.search.filter (· ≠ "")).all fun text =>
      engine.ilike text s.profile.businessName || s.profile.description.any (engine.ilike text) ||
        s.services.any fun o => engine.ilike text o.2.1

end Shown

namespace Db

variable (db : Db)

def shown (p : ProviderProfile) : Shown where
  profile := p
  locations := db.locationsOf p.id
  services := (db.offered p.id).map fun (o, s, c) => (o, s.name, s.categoryId, c.name)

/-- The providers that are listed, as they are seen. -/
def listing : List Shown := (db.providers.rows.filter db.listed).map db.shown

/-- The result of a search. -/
def results (js : Builtins) (q : QueryProviderSearchDto) : Except Exn ProviderRepository.Page :=
  ((ProviderRepository.findPublicProviders js q).eval db).2

end Db

section
variable {js : Builtins} {db db' : Db} {q : QueryProviderSearchDto} {p : ProviderProfile}

/-! ## The result is a function of the listing -/

theorem item_shown (db : Db) (p : ProviderProfile) : (db.shown p).item = db.item p := by
  simp only [Shown.item, Db.shown, Db.item, List.map_map]
  rfl

theorem holds_eq (db : Db) (q : QueryProviderSearchDto) (p : ProviderProfile) :
    db.holds q p = (db.listed p && (db.shown p).meets db.engine q) := by
  simp only [Db.holds, Shown.meets, Db.shown, List.any_map, Bool.and_assoc]
  rfl

/-- What `findAll` makes of a listing. -/
def pageOf (js : Builtins) (engine : Engine) (q : QueryProviderSearchDto) (listing : List Shown) :
    Except Exn ProviderRepository.Page :=
  let page := q.page.getD 1
  let limit := q.limit.getD 20
  let found := (listing.filter (·.meets engine q)).insertionSort fun a b =>
    orderBy q.sort a.profile b.profile
  (Catalog.window (js.mul (page - 1) limit) limit (found.map Shown.item)).map fun items =>
    ⟨items, found.length, page, limit⟩

theorem found_shown (db : Db) (q : QueryProviderSearchDto) :
    (db.found q).map db.shown = (db.listing.filter (·.meets db.engine q)).insertionSort fun a b =>
      orderBy q.sort a.profile b.profile := by
  have hfilter : (db.providers.rows.filter (db.holds q)).map db.shown =
      db.listing.filter (·.meets db.engine q) := by
    rw [Db.listing, List.filter_map, List.filter_filter]
    refine congrArg _ (List.filter_congr fun p _ => ?_)
    rw [holds_eq, Bool.and_comm]
    rfl
  rw [← hfilter, Db.found]
  exact List.map_insertionSort _ _ _ _ fun a _ b _ => Iff.rfl

theorem results_eq (db : Db) (q : QueryProviderSearchDto) :
    db.results js q = pageOf js db.engine q db.listing := by
  have hitems : (db.found q).map db.item = ((db.found q).map db.shown).map Shown.item := by
    rw [List.map_map]
    exact List.map_congr_left fun p _ => (item_shown db p).symm
  have hlength : (db.found q).length = ((db.found q).map db.shown).length :=
    (List.length_map _).symm
  simp only [pageOf, ← found_shown, ← hitems, ← hlength]
  rw [Db.results, ProviderRepository.findPublicProviders, Prog.eval_bind, query, Prog.eval_perform]
  show _ = (Catalog.window _ _ _).map _
  cases hwindow : Catalog.window (js.mul (q.page.getD 1 - 1) (q.limit.getD 20)) (q.limit.getD 20)
      ((db.found q).map db.item) with
  | error e =>
      have hexec : Database.exec (Stmt.findPublicProviders q
          (js.mul (q.page.getD 1 - 1) (q.limit.getD 20)) (q.limit.getD 20)) db = .error e := hwindow
      rw [hexec]
      rfl
  | ok items =>
      have hexec : Database.exec (Stmt.findPublicProviders q
          (js.mul (q.page.getD 1 - 1) (q.limit.getD 20)) (q.limit.getD 20)) db = .ok items := hwindow
      rw [hexec]
      rfl

/-- **One listing, one result.** -/
theorem results_congr (hengine : db'.engine = db.engine) (hlisting : db'.listing = db.listing)
    (q : QueryProviderSearchDto) : db'.results js q = db.results js q := by
  rw [results_eq, results_eq, hengine, hlisting]

theorem listing_congr (hrows : db'.providers = db.providers)
    (hlisted : ∀ p ∈ db.providers.rows, db'.listed p = db.listed p)
    (hshown : ∀ p ∈ db.providers.rows, db.listed p = true → db'.shown p = db.shown p) :
    db'.listing = db.listing := by
  rw [Db.listing, Db.listing, hrows, List.filter_congr hlisted]
  refine List.map_congr_left fun p hp => ?_
  obtain ⟨hmem, hlisted⟩ := List.mem_filter.mp hp
  exact hshown p hmem hlisted

/-! ## What the results tell of the listing -/

/-- The same result, whatever is asked. -/
def SameResults (js : Builtins) (db db' : Db) : Prop := ∀ q, db.results js q = db'.results js q

/-- `x * 1` is `x`, and the rows can be counted. -/
structure Countable (js : Builtins) (db : Db) : Prop where
  mul_one : ∀ k : Nat, k < 2 ^ 53 → js.mul k 1 = k
  few : db.providers.rows.length < 2 ^ 53

theorem length_found_le (db : Db) (q : QueryProviderSearchDto) :
    (db.found q).length ≤ db.providers.rows.length := by
  rw [Db.found, List.length_insertionSort]
  exact List.length_filter_le _ _

/-- A page of one row. -/
theorem window_one {T : Type} {k : Nat} (hk : k < 2 ^ 53) (rows : List T) :
    Catalog.window (k : ℚ) 1 rows = .ok ((rows.drop k).take 1) := by
  have hlt : (k : ℚ) < 2 ^ 63 := by exact_mod_cast hk.trans (by decide)
  rw [Catalog.window_of_nonneg (Nat.cast_nonneg k) hlt zero_le_one (by norm_num),
    Nat.floor_natCast, Nat.floor_one]

/-- The query that asks for the `k`-th row alone. -/
def QueryProviderSearchDto.only (q : QueryProviderSearchDto) (k : Nat) : QueryProviderSearchDto :=
  { q with page := some (k + 1), limit := some 1 }

theorem results_only {k : Nat} (hmul : js.mul k 1 = k) (hk : k < 2 ^ 53) (db : Db) :
    db.results js (q.only k) =
      .ok ⟨(((db.found q).map db.item).drop k).take 1, (db.found q).length, k + 1, 1⟩ := by
  have hpage : ((q.only k).page.getD 1 - 1 : ℚ) = k := by simp [QueryProviderSearchDto.only]
  have hlimit : (q.only k).limit.getD 20 = 1 := rfl
  have hfound : db.found (q.only k) = db.found q := rfl
  have hitems : Shown.item ∘ db.shown = db.item := funext (item_shown db)
  rw [results_eq, pageOf, ← found_shown, hfound, hpage, hlimit, hmul, window_one hk, List.map_map,
    List.length_map, hitems]
  rfl

/-- **What is found is found with what is shown of it.** -/
theorem found_of_same (hcount : Countable js db) (hsame : SameResults js db db')
    (hp : p ∈ db.found q) : ∃ p' ∈ db'.found q, db'.item p' = db.item p := by
  obtain ⟨k, hk, hkp⟩ := List.mem_iff_getElem.mp hp
  have hlt : k < 2 ^ 53 := hk.trans_le ((length_found_le db q).trans hcount.few.le)
  have hmul := hcount.mul_one k hlt
  have hresult := hsame (q.only k)
  rw [results_only hmul hlt db, results_only hmul hlt db'] at hresult
  -- the one row of the page is that of the provider
  have hrow : (((db.found q).map db.item).drop k).take 1 = [db.item p] := by
    rw [List.drop_eq_getElem_cons (by simpa using hk), List.getElem_map, hkp]
    rfl
  have hrows : _ = (((db'.found q).map db'.item).drop k).take 1 :=
    congrArg ProviderRepository.Page.items (Except.ok.inj hresult)
  have hmem : db.item p ∈ (((db'.found q).map db'.item).drop k).take 1 := by
    rw [← hrows, hrow]
    exact List.mem_singleton_self _
  exact List.mem_map.mp (List.mem_of_mem_drop (List.mem_of_mem_take hmem))

end

end ServiceHub.Providers
