/-
# `Providers.PricePages` — a search that is sorted by price, page after page

`sort` may ask for the cheapest first or the dearest first.  The database is not
told: `buildOrderBy` knows no price, and gives the rows by their rating.  The
price is looked at when a page is there, and puts the rows of this page in
order.

**What fails.**  A cheap provider with a low rating is on a late page, behind
dear ones with a high rating (`not_browse_sorted`).  And where the limit is not a
whole number, as `1.5`, a page has as many rows as are left of it without what
follows the point, but starts where the product with the limit says, so that rows
between two pages are on none.

**What holds.**  A single page is in order.  All pages together have each provider
that matches once, and in order, exactly if they tile what matches and any two
providers on different pages, in the order of the rating, are in the order of the
price too (`browse_sorted_iff`).  They tile it whenever the limit is a whole number
(`paged_of_whole`).
-/
import ServiceHub.Data.Pages
import ServiceHub.Providers.Requests
import ServiceHub.Providers.Shown
import Mathlib.Algebra.Order.Field.Basic
import Mathlib.Algebra.Order.Ring.Rat

namespace ServiceHub.Providers

open Data Txn Prog
open ServiceHub.Providers.ProviderService

/-! ## The two orders -/

/-- The values of `sort` that ask for a price. -/
inductive PriceSort where
  | asc | desc
  deriving DecidableEq

namespace PriceSort

def sort : PriceSort → ProviderSearchSort
  | asc => .priceAsc
  | desc => .priceDesc

/-- The price does not fall, or does not rise; a provider without a price comes
last. -/
def order : PriceSort → SearchItem → SearchItem → Prop
  | asc => priceAsc
  | desc => priceDesc

instance (s : PriceSort) : DecidableRel s.order := fun a b =>
  match s with
  | asc => inferInstanceAs (Decidable (priceAsc a b))
  | desc => inferInstanceAs (Decidable (priceDesc a b))

theorem order_total (s : PriceSort) (a b : SearchItem) : s.order a b ∨ s.order b a := by
  cases s with
  | asc =>
      simp only [order, priceAsc]
      cases a.startingPrice <;> cases b.startingPrice <;> simp [Rat.le_total]
  | desc =>
      simp only [order, priceDesc]
      cases a.startingPrice <;> cases b.startingPrice <;> simp [Rat.le_total]

theorem order_trans (s : PriceSort) {a b c : SearchItem} (hab : s.order a b) (hbc : s.order b c) :
    s.order a c := by
  cases s with
  | asc =>
      simp only [order, priceAsc] at hab hbc ⊢
      cases ha : a.startingPrice <;> cases hb : b.startingPrice <;> cases hc : c.startingPrice <;>
        simp_all
      exact Rat.le_trans hab hbc
  | desc =>
      simp only [order, priceDesc] at hab hbc ⊢
      cases ha : a.startingPrice <;> cases hb : b.startingPrice <;> cases hc : c.startingPrice <;>
        simp_all
      exact Rat.le_trans hbc hab

instance (s : PriceSort) : Std.Total s.order := ⟨s.order_total⟩

instance (s : PriceSort) : IsTrans SearchItem s.order := ⟨fun _ _ _ => s.order_trans⟩

end PriceSort

theorem sorted_eq (s : PriceSort) (items : List SearchItem) :
    sorted (some s.sort) items = items.insertionSort s.order := by
  cases s with
  | asc => rfl
  | desc => rfl

theorem sorted_perm (s : PriceSort) (items : List SearchItem) :
    (sorted (some s.sort) items).Perm items := by
  rw [sorted_eq]
  exact List.perm_insertionSort s.order items

theorem sorted_pairwise (s : PriceSort) (items : List SearchItem) :
    (sorted (some s.sort) items).Pairwise s.order := by
  rw [sorted_eq]
  exact List.pairwise_insertionSort s.order items

/-! ## One page -/

def QueryProviderSearchDto.onPage (q : QueryProviderSearchDto) (page : Nat) :
    QueryProviderSearchDto :=
  { q with page := some page }

/-- What a search answers when nothing is cached. -/
def fetched (js : Builtins) (db : Db) (now : Time) (q : QueryProviderSearchDto) :
    Option SearchResult :=
  match ((searchPublicProviders js now q).serial
    ⟨none, { db with redis := .empty }, ([] : List Empty)⟩).2 with
  | .ok (.search r) => some r
  | _ => none

/-- What the query matches, as it is answered, in the order of the database. -/
def Db.matched (db : Db) (q : QueryProviderSearchDto) : List SearchItem :=
  (db.found q).map fun p => format (db.item p)

section
variable {js : Builtins} {db : Db} {now : Time} {q : QueryProviderSearchDto}

theorem fetchSearch_results (q : QueryProviderSearchDto) (db : Db) :
    (fetchSearch js q).Ends db fun _ r =>
      r = (db.results js q).map fun page => .search (formatted js q page) := by
  refine Ends.bind fun log => ⟨_, log, _, serial_autocommit _ db log, ?_⟩
  rw [Db.results]
  cases ((ProviderRepository.findPublicProviders js q).eval db).2 with
  | ok page => exact Ends.pure rfl
  | error e => exact rfl

/-- The result of the database, put in order. -/
theorem fetched_eq : fetched js db now q = (db.results js q).toOption.map (formatted js q) := by
  have hends : (searchPublicProviders js now q).Ends { db with redis := .empty } fun _ r =>
      r = (db.results js q).map fun page => .search (formatted js q page) := by
    refine Ends.bind fun log => ⟨{ db with redis := .empty }, log, .ok _, rfl, ?_⟩
    refine Ends.bind fun log => ⟨{ db with redis := .empty }, log, .ok none, rfl, ?_⟩
    refine Ends.bind ((fetchSearch_results q { db with redis := .empty }).mono ?_)
    intro db' r hr
    have hresults : ({ db with redis := .empty } : Db).results js q = db.results js q := by
      rw [results_eq, results_eq]
      rfl
    rw [hresults] at hr
    rw [← hr]
    cases r with
    | ok v => exact Ends.bind fun log => ⟨_, log, .ok (), rfl, Ends.pure rfl⟩
    | error e => exact rfl
  obtain ⟨db', log', r, hserial, rfl⟩ := hends []
  rw [fetched, hserial]
  cases db.results js q with
  | ok page => rfl
  | error e => rfl

/-! ### Double precision -/

/-- Products and quotients are rounded to the nearest double: to none beyond a
natural number up to `2 ^ 53`, and a quotient by at most one part in `2 ^ 53`. -/
structure RoundsToNearest (js : Builtins) : Prop where
  le_mul : ∀ (k m : Nat) (x : ℚ), m ≤ 2 ^ 53 → (m : ℚ) ≤ k * x → (m : ℚ) ≤ js.mul k x
  mul_le : ∀ (k m : Nat) (x : ℚ), m ≤ 2 ^ 53 → (k : ℚ) * x ≤ m → js.mul k x ≤ m
  div_le : ∀ (n m : Nat) (x : ℚ), m ≤ 2 ^ 53 → (n : ℚ) / x ≤ m → js.div n x ≤ m
  le_div : ∀ (n : Nat) (x : ℚ), 1 ≤ x → x ≤ 100 →
    (n : ℚ) / x - (n : ℚ) / x / 2 ^ 53 ≤ js.div n x

end

/-! ### The pages of a limit -/

/-- The rows that a page may have: `take`. -/
def rowsOnPage (limit : ℚ) : Nat := ⌊limit⌋₊

/-- The place of the first row of the page after `k` pages: `skip`. -/
def firstRow (js : Builtins) (limit : ℚ) (k : Nat) : Nat := ⌊js.mul k limit⌋₊

/-- `totalPages` for `n` rows. -/
def pageCount (js : Builtins) (limit : ℚ) (n : Nat) : Int := (js.div n limit).ceil

/-- The pages of a limit tile `n` rows: they are enough, and each starts where
the one before it ends. -/
def Paged (js : Builtins) (limit : ℚ) (n : Nat) : Prop :=
  Tiles (firstRow js limit) (rowsOnPage limit) n (pageCount js limit n).toNat

section
variable {js : Builtins} {limit : ℚ} {n : Nat}
  (hround : RoundsToNearest js) (hmin : 1 ≤ limit) (hn : n < 2 ^ 53)
include hround hmin hn

/-- A page that is asked for starts before the rows end. -/
theorem mul_lt_of_lt_pageCount {k : Nat} (hk : k < (pageCount js limit n).toNat) :
    k * limit < n := by
  have hpos : 0 < limit := by linarith
  have hceil : (k : ℚ) < js.div n limit := Rat.lt_ceil_iff.mp (Int.lt_toNat.mp hk)
  have hfits : (k : ℚ) < n := by
    refine hceil.trans_le (hround.div_le n n limit hn.le ?_)
    exact div_le_self (Nat.cast_nonneg _) hmin
  have hkn : k < n := by exact_mod_cast hfits
  by_contra hge
  have hle := hround.div_le n k limit (by omega) ((div_le_iff₀ hpos).mpr (not_lt.mp hge))
  exact absurd hceil (not_lt.mpr hle)

theorem mul_rowsOnPage_le {k : Nat} (hk : k < (pageCount js limit n).toNat) :
    k * rowsOnPage limit ≤ firstRow js limit k := by
  have hlt := mul_lt_of_lt_pageCount hround hmin hn hk
  have hfloor : (rowsOnPage limit : ℚ) ≤ limit := Nat.floor_le (by linarith)
  have hle : ((k * rowsOnPage limit : Nat) : ℚ) ≤ k * limit := by
    push_cast
    exact mul_le_mul_of_nonneg_left hfloor (Nat.cast_nonneg k)
  have hbound : k * rowsOnPage limit < n := by exact_mod_cast hle.trans_lt hlt
  exact Nat.le_floor (hround.le_mul k _ _ (by omega) hle)

end

/-- **Pages of a whole number of rows** tile all there are. -/
theorem paged_of_whole {js : Builtins} (hround : RoundsToNearest js) {L n : Nat} (hmin : 1 ≤ L)
    (hmax : L ≤ 100) (hn : n < 2 ^ 53) : Paged js L n := by
  have hrows : rowsOnPage L = L := Nat.floor_natCast L
  have hpos : (1 : ℚ) ≤ L := by exact_mod_cast hmin
  refine ⟨?_, fun i hi => ?_⟩
  · rw [hrows]
    by_contra hlt
    have hlt : (((pageCount js L n).toNat * L + 1 : Nat) : ℚ) ≤ n := by
      exact_mod_cast Nat.not_le.mp hlt
    push_cast at hlt
    -- the quotient is beyond the number of pages by more than it is rounded
    have hdiv : js.div n L ≤ (pageCount js L n).toNat := by
      refine Rat.le_ceil.trans ?_
      exact_mod_cast Int.self_le_toNat (pageCount js L n)
    have hnear := (hround.le_div n L hpos (by exact_mod_cast hmax)).trans hdiv
    have hscaled : ((n : ℚ) / L - n / L / 2 ^ 53) * L = n - n / 2 ^ 53 := by field_simp
    have hmul := mul_le_mul_of_nonneg_right hnear (Nat.cast_nonneg L)
    have hrounded : (n : ℚ) / 2 ^ 53 < 1 := by
      rw [div_lt_one (by positivity)]
      exact_mod_cast hn
    linarith
  · rw [hrows] at hi ⊢
    have hcast : ((i * L : Nat) : ℚ) = i * L := by push_cast; rfl
    have hexact : js.mul i L = (i * L : Nat) :=
      le_antisymm (hround.mul_le i _ _ (by omega) hcast.ge)
        (hround.le_mul i _ _ (by omega) hcast.le)
    rw [firstRow, hexact, Nat.floor_natCast]

/-! ### The pages of a search -/

section
variable {js : Builtins} {db : Db} {now : Time} {q : QueryProviderSearchDto} {limit : ℚ}

theorem fetched_onPage (hround : RoundsToNearest js) (hlimit : q.limit.getD 20 = limit)
    (hmin : 1 ≤ limit) (hmax : limit ≤ 100) {k : Nat} (hk : k * limit ≤ 2 ^ 53) :
    fetched js db now (q.onPage (k + 1)) = some {
      items := sorted q.sort (((db.matched q).drop (firstRow js limit k)).take (rowsOnPage limit))
      page := (k + 1 : Nat)
      limit := limit
      total := (db.matched q).length
      totalPages := pageCount js limit (db.matched q).length } := by
  have hpage : ((q.onPage (k + 1)).page.getD 1 - 1 : ℚ) = k := by
    simp [QueryProviderSearchDto.onPage]
  have hlimit : (q.onPage (k + 1)).limit.getD 20 = limit := hlimit
  have hfound : db.found (q.onPage (k + 1)) = db.found q := rfl
  have hitems : Shown.item ∘ db.shown = db.item := funext (item_shown db)
  have hskip : 0 ≤ js.mul k limit := by
    have hle := hround.le_mul k 0 limit (Nat.zero_le _) (by positivity)
    exact_mod_cast hle
  have hskipLt : js.mul k limit < 2 ^ 63 := by
    have hle := hround.mul_le k (2 ^ 53) limit le_rfl (by exact_mod_cast hk)
    exact hle.trans_lt (by norm_num)
  have hresults : db.results js (q.onPage (k + 1)) =
      .ok ⟨(((db.found q).map db.item).drop (firstRow js limit k)).take (rowsOnPage limit),
        (db.found q).length, (k + 1 : Nat), limit⟩ := by
    rw [results_eq, Providers.pageOf, ← found_shown, hfound, hpage, hlimit,
      Catalog.window_of_nonneg hskip hskipLt (by linarith) (by linarith), List.map_map,
      List.length_map, hitems]
    rfl
  have hformat : ((((db.found q).map db.item).drop (firstRow js limit k)).take
      (rowsOnPage limit)).map format =
        ((db.matched q).drop (firstRow js limit k)).take (rowsOnPage limit) := by
    rw [List.map_take, List.map_drop, List.map_map]
    rfl
  rw [fetched_eq, hresults]
  simp only [Except.toOption, Option.map_some, formatted, hformat, pageCount, Db.matched,
    List.length_map]
  rfl

end

/-! ## All pages -/

/-- The items of the pages 1, 2, …, as many as the first one says there are. -/
def browse (js : Builtins) (db : Db) (now : Time) (q : QueryProviderSearchDto) :
    Option (List SearchItem) := do
  let first ← fetched js db now (q.onPage 1)
  let pages ← (List.range first.totalPages.toNat).mapM fun i =>
    fetched js db now (q.onPage (i + 1))
  pure (pages.flatMap (·.items))

/-- Two providers that match, on different pages of `L` rows in the order of the
rating, are in the order of the price. -/
def RatingAgrees (db : Db) (q : QueryProviderSearchDto) (s : PriceSort) (L : Nat) : Prop :=
  ∀ i j x y, (db.matched q)[i]? = some x → (db.matched q)[j]? = some y → i / L < j / L →
    s.order x y

theorem mapM_eq_some {α β : Type} {f : α → Option β} {g : α → β} :
    ∀ {l : List α}, (∀ a ∈ l, f a = some (g a)) → l.mapM f = some (l.map g)
  | [], _ => rfl
  | a :: l, h => by
      rw [List.mapM_cons, h a List.mem_cons_self,
        mapM_eq_some fun b hb => h b (List.mem_cons_of_mem a hb)]
      rfl

theorem nodup_matched (db : Db) (q : QueryProviderSearchDto) : (db.matched q).Nodup := by
  have hids : ((db.matched q).map (·.providerId)).Nodup := by
    rw [Db.matched, List.map_map]
    refine ((List.perm_insertionSort _ _).map _).nodup_iff.mpr ?_
    exact (List.filter_sublist.map _).nodup db.providers.nodup
  exact hids.of_map

theorem length_matched_lt {db : Db} (hfew : db.providers.rows.length < 2 ^ 53)
    (q : QueryProviderSearchDto) : (db.matched q).length < 2 ^ 53 := by
  rw [Db.matched, List.length_map]
  exact (length_found_le db q).trans_lt hfew

theorem browse_eq {js : Builtins} (hround : RoundsToNearest js) {db : Db}
    (hfew : db.providers.rows.length < 2 ^ 53) (now : Time) {q : QueryProviderSearchDto}
    {limit : ℚ} (hlimit : q.limit.getD 20 = limit) (hmin : 1 ≤ limit) (hmax : limit ≤ 100) :
    browse js db now q = some (sortWindows (sorted q.sort) (firstRow js limit) (rowsOnPage limit)
      (db.matched q) (pageCount js limit (db.matched q).length).toNat) := by
  have hn := length_matched_lt hfew q
  have hnq : ((db.matched q).length : ℚ) < 2 ^ 53 := by exact_mod_cast hn
  have hfirst : fetched js db now (q.onPage ((0 : Nat) + 1)) = _ :=
    fetched_onPage hround hlimit hmin hmax (by simp)
  have hrest : ∀ i ∈ List.range (pageCount js limit (db.matched q).length).toNat,
      fetched js db now (q.onPage (i + 1)) = some {
        items := sorted q.sort (((db.matched q).drop (firstRow js limit i)).take (rowsOnPage limit))
        page := (i + 1 : Nat)
        limit := limit
        total := (db.matched q).length
        totalPages := pageCount js limit (db.matched q).length } := fun i hi =>
    fetched_onPage hround hlimit hmin hmax
      ((mul_lt_of_lt_pageCount hround hmin hn (List.mem_range.mp hi)).le.trans hnq.le)
  rw [browse, hfirst]
  simp only [Option.bind_eq_bind, Option.bind_some]
  rw [mapM_eq_some hrest]
  simp only [Option.bind_some, List.flatMap_map, sortWindows]
  rfl

/-- **All pages have what matches once, in the order of the price**, exactly if
they tile it and the rating agrees with the price between them.  They tile it if
the limit is a whole number. -/
theorem browse_sorted_iff (js : Builtins) (hround : RoundsToNearest js) (db : Db)
    (hfew : db.providers.rows.length < 2 ^ 53) (now : Time) (q : QueryProviderSearchDto)
    (s : PriceSort) (hsort : q.sort = some s.sort) (limit : ℚ) (hlimit : q.limit.getD 20 = limit)
    (hmin : 1 ≤ limit) (hmax : limit ≤ 100) :
    ∃ items, browse js db now q = some items ∧
      (items.Perm ((db.providers.rows.filter (db.holds q)).map fun p => format (db.item p)) ∧
          items.Pairwise s.order ↔
        Paged js limit (db.matched q).length ∧ RatingAgrees db q s (rowsOnPage limit)) ∧
      (limit.den = 1 → Paged js limit (db.matched q).length) := by
  have hn := length_matched_lt hfew q
  have hrows : 0 < rowsOnPage limit := Nat.floor_pos.mpr hmin
  have hle : ∀ i < (pageCount js limit (db.matched q).length).toNat,
      i * rowsOnPage limit ≤ firstRow js limit i := fun i hi => mul_rowsOnPage_le hround hmin hn hi
  have hmatched : (db.matched q).Perm
      ((db.providers.rows.filter (db.holds q)).map fun p => format (db.item p)) :=
    (List.perm_insertionSort _ _).map _
  have hpaged := perm_sortWindows_iff hrows (sorted_perm s) (nodup_matched db q) hle
  refine ⟨_, browse_eq hround hfew now hlimit hmin hmax, ?_, fun hwhole => ?_⟩
  · rw [hsort]
    refine ⟨fun ⟨hperm, hpairwise⟩ => ?_, fun ⟨htiles, hagrees⟩ => ?_⟩
    · have htiles := hpaged.mp (hperm.trans hmatched.symm)
      rw [htiles.sortWindows_eq hle] at hpairwise
      exact ⟨htiles, (pairwise_sortPages_iff hrows (sorted_perm s) (sorted_pairwise s)
        htiles.enough).mp hpairwise⟩
    · refine ⟨(hpaged.mpr htiles).trans hmatched, ?_⟩
      rw [Tiles.sortWindows_eq htiles hle]
      exact (pairwise_sortPages_iff hrows (sorted_perm s) (sorted_pairwise s)
        htiles.enough).mpr hagrees
  · obtain ⟨L, hL⟩ := Int.eq_ofNat_of_zero_le (Rat.num_nonneg.mpr (by linarith : 0 ≤ limit))
    have hwhole : limit = L := by
      rw [← Rat.num_div_den limit, hwhole, hL]
      simp
    subst hwhole
    exact paged_of_whole hround (by exact_mod_cast hmin) (by exact_mod_cast hmax) hn

/-! ## A cheap provider with a low rating -/

namespace Sample

/-- The best one of the town, at nearly twice the price. -/
def star : ProviderProfile :=
  { provider with id := "star", userId := "bob", businessName := "Star", averageRating := 5 }

def starOffering : Providers.ProviderService :=
  { offering with id := "starOffering", providerId := "star", price := 900 }

def town : Db :=
  { db with
    providers := db.providers.put star
    providerServices := db.providerServices.put starOffering }

/-- Another one, between the two. -/
def third : ProviderProfile :=
  { provider with id := "third", userId := "alice", businessName := "Third", averageRating := 3 }

def street : Db := { town with providers := town.providers.put third }

/-- The cheapest first, so many on a page. -/
def cheapest (limit : ℚ) : QueryProviderSearchDto :=
  ⟨none, some limit, none, none, none, none, none, none, none, some .priceAsc⟩

/-- With exact arithmetic. -/
theorem roundsToNearest : RoundsToNearest js where
  le_mul _ _ _ _ h := h
  mul_le _ _ _ _ h := h
  div_le _ _ _ _ h := h
  le_div n x hx _ := sub_le_self _ (by positivity)

end Sample

theorem browse_sorted_iff_sample : ∃ items,
    browse Sample.js Sample.town 0 (Sample.cheapest 20) = some items ∧
      (items.Perm ((Sample.town.providers.rows.filter (Sample.town.holds (Sample.cheapest 20))).map
          fun p => format (Sample.town.item p)) ∧ items.Pairwise PriceSort.asc.order ↔
        Paged Sample.js 20 (Sample.town.matched (Sample.cheapest 20)).length ∧
          RatingAgrees Sample.town (Sample.cheapest 20) .asc (rowsOnPage 20)) ∧
      ((20 : ℚ).den = 1 → Paged Sample.js 20 (Sample.town.matched (Sample.cheapest 20)).length) :=
  browse_sorted_iff Sample.js Sample.roundsToNearest Sample.town (by decide) 0 (Sample.cheapest 20)
    .asc rfl 20 rfl (by norm_num) (by norm_num)

/-- One row on a page: 900 on the first, 500 on the second. -/
theorem not_browse_sorted :
    (browse Sample.js Sample.town 0 (Sample.cheapest 1)).map (·.map (·.startingPrice)) =
      some [some 900, some 500] ∧
    ∀ items ∈ browse Sample.js Sample.town 0 (Sample.cheapest 1),
      ¬ items.Pairwise PriceSort.asc.order := by
  decide +kernel

/-- One and a half rows on a page: the last of three providers is on none. -/
example : (browse Sample.js Sample.street 0 (Sample.cheapest (3 / 2))).map
    (·.map (·.providerId)) = some ["star", "third"] := by
  decide +kernel

end ServiceHub.Providers
