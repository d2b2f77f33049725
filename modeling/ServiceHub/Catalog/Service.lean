/-
# `Catalog.Service` — categories and services, behind a cache

`CategoryService` and `ServiceService`, their repositories and
`RedisService.getOrSet`.  A request runs alone, on the state `World`: the three
tables, what Redis stores, and the time.

**What is left to a parameter.**  `Engine` says which names PostgreSQL finds
with `ILIKE '%search%'`, and how the product `(page - 1) * limit` and the quotient
`totalItems / limit` are rounded in double precision.

**JSON.**  What Redis stores is text, and a hit answers with the parsed text, in
which a date is the text that a response has in its place.  Both are the same
response, so that what is stored is the page itself.
-/
import Mathlib
import ServiceHub.Data.Cache
import ServiceHub.Txn.Handler
import ServiceHub.Database

namespace ServiceHub.Catalog

open Data Txn

/-! ## Rows -/

/-- The table `categories`; the name is unique, and so is the slug. -/
structure Category where
  id : Uuid
  name : String
  slug : String
  icon : Option String
  description : Option String
  displayOrder : Nat
  isActive : Bool
  createdAt : Time
  updatedAt : Time
  deriving DecidableEq

deriving instance DecidableEq for ServiceHub.Service

/-- A service with all its columns. -/
structure Service extends ServiceHub.Service where
  categoryId : Uuid
  slug : String
  description : Option String
  defaultDuration : Option Nat
  isActive : Bool
  createdAt : Time
  updatedAt : Time
  deriving DecidableEq

theorem Service.toService_id (s : Service) : s.toService.id = s.id := rfl

/-- The tables that the catalog is about. -/
structure Db where
  categories : Table Category Uuid Category.id
  services : Table Service Uuid fun s => s.id
  providerServices : Table ProviderService Uuid ProviderService.id

/-! ## Pages -/

/-- The `meta` of a page. -/
structure PageMeta where
  total : Nat
  page : ℚ
  limit : ℚ
  totalPages : Int
  hasNextPage : Bool
  hasPreviousPage : Bool
  deriving DecidableEq

/-- The rows of one page, and what page it is. -/
structure PaginatedResult (T : Type) where
  data : List T
  pageMeta : PageMeta
  deriving DecidableEq

/-- What `paginate` makes of the answers of its two queries. -/
def paginate {T : Type} (div : ℚ → ℚ → ℚ) (data : List T) (totalItems : Nat) (page limit : ℚ) :
    PaginatedResult T :=
  let totalPages := (div totalItems limit).ceil
  ⟨data, ⟨totalItems, page, limit, totalPages, decide (page < totalPages), decide (1 < page)⟩⟩

/-- The comparison of the database, and the arithmetic of the language. -/
structure Engine where
  ilike : String → String → Bool
  mul : ℚ → ℚ → ℚ
  div : ℚ → ℚ → ℚ

/-! ## Requests -/

/-- The query of `GET /categories`; a number may have a fraction. -/
structure QueryCategoryDto where
  page : Option ℚ
  limit : Option ℚ
  search : Option String
  includeInactive : Option Bool

/-- The query of `GET /services`. -/
structure QueryServiceDto where
  categoryId : Option Uuid
  search : Option String
  page : Option ℚ
  limit : Option ℚ

/-- A category to be created; what is missing has its default. -/
structure CreateCategoryDto where
  name : String
  description : Option String
  icon : Option String
  displayOrder : Nat
  isActive : Bool

/-- Of a column that may be `NULL`, an update says nothing, `null` or a value. -/
structure UpdateCategoryDto where
  name : Option String
  description : Option (Option String)
  icon : Option (Option String)
  displayOrder : Option Nat
  isActive : Option Bool

/-- A service to be created; it is active at first. -/
structure CreateServiceDto where
  categoryId : Uuid
  name : String
  description : Option String
  serviceMode : ServiceMode
  defaultDuration : Option Nat

/-- An update of a service; its mode cannot be changed. -/
structure UpdateServiceDto where
  categoryId : Option Uuid
  name : Option String
  description : Option (Option String)
  defaultDuration : Option (Option Nat)

/-! ## Slugs -/

/-- What `trim` and `\s` take for white space. -/
def isWhiteSpace (c : Char) : Bool :=
  c.toNat ∈ [9, 10, 11, 12, 13, 32, 160, 5760, 8232, 8233, 8239, 8287, 12288, 65279] ||
    (8192 ≤ c.toNat && c.toNat ≤ 8202)

/-- `toLowerCase`, as far as what it yields is a character of a slug: the dotted
capital I and the Kelvin sign yield Latin letters. -/
def toLowerCase (c : Char) : Char :=
  if c.toNat = 304 then 'i' else if c.toNat = 8490 then 'k' else c.toLower

def trim (cs : List Char) : List Char :=
  ((cs.dropWhile isWhiteSpace).reverse.dropWhile isWhiteSpace).reverse

/-- `replace(/[^a-z0-9 -]/g, "")`. -/
def isSlugChar (c : Char) : Bool := c.isLower || c.isDigit || c == ' ' || c == '-'

/-- One hyphen for each run of characters with `p`; the flag says that one has
begun. -/
def collapse (p : Char → Bool) : Bool → List Char → List Char
  | _, [] => []
  | inRun, c :: cs =>
      if p c then if inRun then collapse p true cs else '-' :: collapse p true cs
      else c :: collapse p false cs

/-- Lower case, only letters, digits and hyphens, and no two hyphens in a row. -/
def generateSlug (text : String) : String :=
  .ofList (collapse (· == '-') false (collapse isWhiteSpace false
    ((trim (text.toList.map toLowerCase)).filter isSlugChar)))

/-! ## Statements and commands -/

/-- The filter of a list of categories. -/
structure CategoryWhere where
  includeInactive : Bool
  search : Option String

def CategoryWhere.holds (e : Engine) (w : CategoryWhere) (c : Category) : Bool :=
  (w.includeInactive || c.isActive) && w.search.all fun s => e.ilike s c.name

/-- The filter of a list of services. -/
structure ServiceWhere where
  categoryId : Option Uuid
  search : Option String

/-- Only active services are listed. -/
def ServiceWhere.holds (e : Engine) (w : ServiceWhere) (s : Service) : Bool :=
  s.isActive && w.categoryId.all (· == s.categoryId) && w.search.all fun t => e.ilike t s.name

/-- `orderBy: [{ displayOrder: "asc" }, { createdAt: "desc" }]`; of rows that
are equal here, the one that was inserted first comes first. -/
def categoryOrder (a b : Category) : Prop :=
  a.displayOrder < b.displayOrder ∨
    (a.displayOrder = b.displayOrder ∧ b.createdAt ≤ a.createdAt)

instance : DecidableRel categoryOrder := fun _ _ => inferInstanceAs (Decidable (_ ∨ _))

/-- `orderBy: { createdAt: "desc" }`. -/
def serviceOrder (a b : Service) : Prop := b.createdAt ≤ a.createdAt

instance : DecidableRel serviceOrder := fun _ b => inferInstanceAs (Decidable (b.createdAt ≤ _))

/-- What a list of categories shows, all pages together. -/
def Db.categoriesWhere (e : Engine) (w : CategoryWhere) (db : Db) : List Category :=
  (db.categories.rows.filter (w.holds e)).insertionSort categoryOrder

def Db.servicesWhere (e : Engine) (w : ServiceWhere) (db : Db) : List Service :=
  (db.services.rows.filter (w.holds e)).insertionSort serviceOrder

/-- `Math.trunc`. -/
def trunc (q : ℚ) : Int := q.num.tdiv q.den

/-- `skip` and `take` are 64-bit integers; of other numbers Prisma leaves out what
follows the point. -/
def isInt64 (q : ℚ) : Bool := 0 ≤ trunc q && trunc q < 2 ^ 63

/-- The rows that `skip` and `take` leave. -/
def window {T : Type} (skip take : ℚ) (rows : List T) : Except Exn (List T) :=
  if isInt64 skip && isInt64 take then .ok ((rows.drop (trunc skip).toNat).take (trunc take).toNat)
  else .error (.validation "Invalid value provided. Expected Int")

theorem trunc_of_nonneg {q : ℚ} (h : 0 ≤ q) : trunc q = ⌊q⌋₊ := by
  rw [trunc, Int.tdiv_eq_ediv_of_nonneg (Rat.num_nonneg.mpr h), Int.natCast_floor_eq_floor h,
    Rat.floor_def']

theorem isInt64_of_nonneg {q : ℚ} (h : 0 ≤ q) (hlt : q < 2 ^ 63) : isInt64 q = true := by
  have hfloor : ⌊q⌋₊ < 2 ^ 63 := (Nat.floor_lt h).mpr (by exact_mod_cast hlt)
  rw [isInt64, trunc_of_nonneg h]
  exact Bool.and_eq_true_iff.mpr ⟨decide_eq_true (Int.natCast_nonneg _),
    decide_eq_true (by exact_mod_cast hfloor)⟩

theorem window_of_nonneg {T : Type} {skip take : ℚ} (hskip : 0 ≤ skip) (hskipLt : skip < 2 ^ 63)
    (htake : 0 ≤ take) (htakeLt : take < 2 ^ 63) (rows : List T) :
    window skip take rows = .ok ((rows.drop ⌊skip⌋₊).take ⌊take⌋₊) := by
  rw [window, isInt64_of_nonneg hskip hskipLt, isInt64_of_nonneg htake htakeLt,
    trunc_of_nonneg hskip, trunc_of_nonneg htake]
  rfl

/-- The keys under which lists are cached. -/
inductive CacheKey where
  /-- `"categories:all"` -/
  | categoriesAll
  /-- `"services:all"` -/
  | servicesAll
  deriving DecidableEq

/-- What a list under a key has as its rows. -/
abbrev Listed : CacheKey → Type
  | .categoriesAll => Category
  | .servicesAll => Service

abbrev Cached (k : CacheKey) : Type := PaginatedResult (Listed k)

abbrev Redis : Type := Cache CacheKey Cached

/-- What a request is run on. -/
structure World where
  db : Db
  redis : Redis
  now : Time

/-- The data of `update`, with the slug of the new name. -/
structure CategoryUpdate extends UpdateCategoryDto where
  slug : Option String

/-- The data of `update`, with the slug of the new name. -/
structure ServiceUpdate extends UpdateServiceDto where
  slug : Option String

/-- The statements of the two repositories, and the commands to Redis. -/
inductive Cmd where
  | findCategories (where_ : CategoryWhere) (skip take : ℚ)
  | countCategories (where_ : CategoryWhere)
  | findCategory (id : Uuid)
  | findCategoryBySlug (slug : String)
  | createCategory (id : Uuid) (slug : String) (dto : CreateCategoryDto)
  | updateCategory (id : Uuid) (data : CategoryUpdate)
  | deactivateCategory (id : Uuid)
  | findServices (where_ : ServiceWhere) (skip take : ℚ)
  | countServices (where_ : ServiceWhere)
  | countServicesIn (categoryId : Uuid)
  | findService (id : Uuid)
  | findServiceByName (categoryId : Uuid) (name : String)
  | createService (id : Uuid) (slug : String) (dto : CreateServiceDto)
  | updateService (id : Uuid) (data : ServiceUpdate)
  | deactivateService (id : Uuid)
  | countOffers (serviceId : Uuid)
  | get (k : CacheKey)
  | set (k : CacheKey) (v : Cached k) (ttlSeconds : Int)
  | del (k : CacheKey)

/-- What they answer. -/
abbrev Cmd.Ans : Cmd → Type
  | .findCategories _ _ _ => List Category
  | .countCategories _ => Nat
  | .findCategory _ => Option Category
  | .findCategoryBySlug _ => Option Category
  | .createCategory _ _ _ => Category
  | .updateCategory _ _ => Category
  | .deactivateCategory _ => Category
  | .findServices _ _ _ => List Service
  | .countServices _ => Nat
  | .countServicesIn _ => Nat
  | .findService _ => Option Service
  | .findServiceByName _ _ => Option Service
  | .createService _ _ _ => Service
  | .updateService _ _ => Service
  | .deactivateService _ => Service
  | .countOffers _ => Nat
  | .get k => Option (Cached k)
  | .set _ _ _ => Unit
  | .del _ => Unit

def duplicate : Exn := .knownRequest "P2002" "Unique constraint failed"

def tooLong : Exn := .knownRequest "P2000" "The provided value for the column is too long"

/-- `update` has found no row. -/
def noRecord : Exn := .knownRequest "P2025" "An operation failed because a record was not found"

/-- The columns of a category as it is created. -/
def newCategory (now : Time) (id : Uuid) (slug : String) (dto : CreateCategoryDto) : Category where
  id := id
  name := dto.name
  slug := slug
  icon := dto.icon
  description := dto.description
  displayOrder := dto.displayOrder
  isActive := dto.isActive
  createdAt := now
  updatedAt := now

/-- The row after the update; what is not set stays. -/
def CategoryUpdate.apply (now : Time) (data : CategoryUpdate) (c : Category) : Category :=
  { c with
    name := data.name.getD c.name
    slug := data.slug.getD c.slug
    icon := data.icon.getD c.icon
    description := data.description.getD c.description
    displayOrder := data.displayOrder.getD c.displayOrder
    isActive := data.isActive.getD c.isActive
    updatedAt := now }

/-- The columns of a service as it is created. -/
def newService (now : Time) (id : Uuid) (slug : String) (dto : CreateServiceDto) : Service where
  id := id
  name := dto.name
  serviceMode := dto.serviceMode
  categoryId := dto.categoryId
  slug := slug
  description := dto.description
  defaultDuration := dto.defaultDuration
  isActive := true
  createdAt := now
  updatedAt := now

def ServiceUpdate.apply (now : Time) (data : ServiceUpdate) (s : Service) : Service :=
  { s with
    name := data.name.getD s.name
    categoryId := data.categoryId.getD s.categoryId
    slug := data.slug.getD s.slug
    description := data.description.getD s.description
    defaultDuration := data.defaultDuration.getD s.defaultDuration
    updatedAt := now }

/-- The constraints of `categories`: `VarChar(100)`, and two unique columns. -/
def Db.checkCategory (db : Db) (c : Category) : Except Exn Unit :=
  if 100 < c.name.length ∨ 100 < c.slug.length ∨ c.icon.any (fun i => decide (100 < i.length)) then
    .error tooLong
  else if db.categories.rows.any fun d => d.id != c.id && (d.name == c.name || d.slug == c.slug) then
    .error duplicate
  else .ok ()

/-- The constraints of `services`: `VarChar(150)`, a 32-bit integer, a unique
index and a foreign key. -/
def Db.checkService (db : Db) (s : Service) : Except Exn Unit :=
  if 150 < s.name.length ∨ 150 < s.slug.length then .error tooLong
  else if s.defaultDuration.any fun d => decide (2 ^ 31 ≤ d) then
    .error (.validation "Unable to fit integer value")
  else if db.services.rows.any fun t =>
      t.id != s.id && (t.categoryId == s.categoryId && t.name == s.name) then
    .error duplicate
  else if (db.categories.find? s.categoryId).isNone then
    .error (.knownRequest "P2003" "Foreign key constraint violated")
  else .ok ()

namespace World

/-- A write, when the constraints admit it. -/
def putCategory (w : World) (c : Category) : Except Exn Category × World :=
  match w.db.checkCategory c with
  | .error e => (.error e, w)
  | .ok _ => (.ok c, { w with db := { w.db with categories := w.db.categories.put c } })

def putService (w : World) (s : Service) : Except Exn Service × World :=
  match w.db.checkService s with
  | .error e => (.error e, w)
  | .ok _ => (.ok s, { w with db := { w.db with services := w.db.services.put s } })

/-- An update of the row under an id. -/
def changeCategory (w : World) (id : Uuid) (f : Category → Category) :
    Except Exn Category × World :=
  match w.db.categories.find? id with
  | none => (.error noRecord, w)
  | some c => w.putCategory (f c)

def changeService (w : World) (id : Uuid) (f : Service → Service) : Except Exn Service × World :=
  match w.db.services.find? id with
  | none => (.error noRecord, w)
  | some s => w.putService (f s)

/-- What a command answers, and what it leaves. -/
def exec (e : Engine) : (c : Cmd) → World → Except Exn (c.Ans) × World
  | .findCategories where_ skip take, w => (window skip take (w.db.categoriesWhere e where_), w)
  | .countCategories where_, w => (.ok (w.db.categoriesWhere e where_).length, w)
  | .findCategory id, w => (.ok (w.db.categories.find? id), w)
  | .findCategoryBySlug slug, w => (.ok (w.db.categories.rows.find? (·.slug == slug)), w)
  | .createCategory id slug dto, w =>
      if (w.db.categories.find? id).isSome then (.error duplicate, w)
      else w.putCategory (newCategory w.now id slug dto)
  | .updateCategory id data, w => w.changeCategory id (data.apply w.now)
  | .deactivateCategory id, w =>
      w.changeCategory id fun c => { c with isActive := false, updatedAt := w.now }
  | .findServices where_ skip take, w => (window skip take (w.db.servicesWhere e where_), w)
  | .countServices where_, w => (.ok (w.db.servicesWhere e where_).length, w)
  | .countServicesIn categoryId, w =>
      (.ok (w.db.services.rows.countP fun s => s.categoryId == categoryId && s.isActive), w)
  | .findService id, w => (.ok (w.db.services.find? id), w)
  | .findServiceByName categoryId name, w =>
      (.ok (w.db.services.rows.find? fun s => s.categoryId == categoryId && s.name == name), w)
  | .createService id slug dto, w =>
      if (w.db.services.find? id).isSome then (.error duplicate, w)
      else w.putService (newService w.now id slug dto)
  | .updateService id data, w => w.changeService id (data.apply w.now)
  | .deactivateService id, w =>
      w.changeService id fun s => { s with isActive := false, updatedAt := w.now }
  | .countOffers serviceId, w =>
      (.ok (w.db.providerServices.rows.countP fun s => s.serviceId == serviceId && s.isActive), w)
  | .get k, w => (.ok (w.redis.get w.now k), w)
  | .set k v ttlSeconds, w =>
      (.ok (), { w with redis := w.redis.set w.now k v (1000 * ttlSeconds) })
  | .del k, w => (.ok (), { w with redis := w.redis.del k })

end World

/-- A request, or a part of one. -/
abbrev Call (α : Type) : Type := Prog Cmd Cmd.Ans Exn α

abbrev command (c : Cmd) : Call c.Ans := Prog.perform c

/-! ## Repositories -/

namespace CategoryRepository

/-- Without `includeInactive` only what is active; an empty search is none. -/
def where_ (queryDto : QueryCategoryDto) : CategoryWhere where
  includeInactive := queryDto.includeInactive.getD false
  search := queryDto.search.filter (· ≠ "")

/-- The page, and how many there are in all. -/
def findAllPaginated (e : Engine) (queryDto : QueryCategoryDto) :
    Call (PaginatedResult Category) := do
  let page := queryDto.page.getD 1
  let limit := queryDto.limit.getD 10
  let skip := e.mul (page - 1) limit
  let data ← command (.findCategories (where_ queryDto) skip limit)
  let total ← command (.countCategories (where_ queryDto))
  pure (paginate e.div data total page limit)

/-- `count > 0`. -/
def hasService (categoryId : Uuid) : Call Bool := do
  let count ← command (.countServicesIn categoryId)
  pure (decide (0 < count))

end CategoryRepository

namespace ServiceRepository

def where_ (queryDto : QueryServiceDto) : ServiceWhere where
  categoryId := queryDto.categoryId.filter (· ≠ "")
  search := queryDto.search.filter (· ≠ "")

def findAllPaginated (e : Engine) (queryDto : QueryServiceDto) :
    Call (PaginatedResult Service) := do
  let page := queryDto.page.getD 1
  let limit := queryDto.limit.getD 10
  let skip := e.mul (page - 1) limit
  let data ← command (.findServices (where_ queryDto) skip limit)
  let total ← command (.countServices (where_ queryDto))
  pure (paginate e.div data total page limit)

/-- `count > 0`. -/
def hasProvider (serviceId : Uuid) : Call Bool := do
  let count ← command (.countOffers serviceId)
  pure (decide (0 < count))

end ServiceRepository

/-! ## Redis -/

/-- A page is truthy. -/
def getOrSet (key : CacheKey) (fetchFn : Call (Cached key)) (ttlSeconds : Int) :
    Call (Cached key) := do
  let cached ← command (.get key)
  match cached with
  | some value => pure value
  | none => do
      let freshData ← fetchFn
      command (.set key freshData ttlSeconds)
      pure freshData

/-- An hour, in seconds. -/
def categoriesTtl : Int := 60 * 60

def servicesTtl : Int := 60 * 60

/-! ## Services -/

namespace CategoryService

/-- The key is the same for every query. -/
def findAll (e : Engine) (queryDto : QueryCategoryDto) : Call (PaginatedResult Category) :=
  getOrSet .categoriesAll (CategoryRepository.findAllPaginated e queryDto) categoriesTtl

def findOne (id : Uuid) : Call Category := do
  let category ← command (.findCategory id)
  Prog.orThrow category (.notFound s!"Category with ID {id} not found")

def alreadyExists (name : String) : Exn := .conflict s!"Category name \"{name}\" already exists"

/-- `id` is the one that is generated for the row. -/
def create (id : Uuid) (dto : CreateCategoryDto) : Call Category := do
  let slug := generateSlug dto.name
  let isSlugExist ← command (.findCategoryBySlug slug)
  Prog.throwIf (isSlugExist.isSome = true) (alreadyExists dto.name)
  let category ← command (.createCategory id slug dto)
  command (.del .categoriesAll)
  pure category

/-- The slug of the new name, if there is one. -/
def newSlug (id : Uuid) (dto : UpdateCategoryDto) : Call (Option String) :=
  match dto.name.filter (· ≠ "") with
  | none => pure none
  | some name => do
      let isSlugExist ← command (.findCategoryBySlug (generateSlug name))
      Prog.throwIf (isSlugExist.any (fun c => c.id != id) = true) (alreadyExists name)
      pure (some (generateSlug name))

/-- An empty slug is not written. -/
def update (id : Uuid) (dto : UpdateCategoryDto) : Call Category := do
  let _ ← findOne id
  let slug ← newSlug id dto
  let updated ← command (.updateCategory id ⟨dto, slug.filter (· ≠ "")⟩)
  command (.del .categoriesAll)
  pure updated

/-- A category is only switched off, and not while an active service is in it. -/
def remove (id : Uuid) : Call Category := do
  let _ ← findOne id
  let hasServices ← CategoryRepository.hasService id
  Prog.throwIf (hasServices = true)
    (.conflict "Cannot delete category with services attached to it")
  let result ← command (.deactivateCategory id)
  command (.del .categoriesAll)
  pure result

end CategoryService

namespace ServiceService

def categoryNotFound (id : Uuid) : Exn := .notFound s!"Category with ID \"{id}\" not found"

def alreadyExists : Exn := .conflict "Service name already exists in this category"

/-- Whether the category is active is not asked. -/
def create (id : Uuid) (dto : CreateServiceDto) : Call Service := do
  let category ← command (.findCategory dto.categoryId)
  let _ ← Prog.orThrow category (categoryNotFound dto.categoryId)
  let isUnique ← command (.findServiceByName dto.categoryId dto.name)
  Prog.throwIf (isUnique.isSome = true) alreadyExists
  let service ← command (.createService id (generateSlug dto.name) dto)
  command (.del .servicesAll)
  pure service

def findAll (e : Engine) (queryDto : QueryServiceDto) : Call (PaginatedResult Service) :=
  getOrSet .servicesAll (ServiceRepository.findAllPaginated e queryDto) servicesTtl

def findOne (id : Uuid) : Call Service := do
  let service ← command (.findService id)
  Prog.orThrow service (.notFound s!"Service with ID \"{id}\" not found")

/-- The category that the service is moved to is there. -/
def checkTargetCategory (dto : UpdateServiceDto) : Call Unit :=
  match dto.categoryId.filter (· ≠ "") with
  | none => pure ()
  | some categoryId => do
      let category ← command (.findCategory categoryId)
      let _ ← Prog.orThrow category (categoryNotFound categoryId)
      pure ()

/-- The slug of the new name, if there is one. -/
def newSlug (id targetCategoryId : Uuid) (dto : UpdateServiceDto) : Call (Option String) :=
  match dto.name.filter (· ≠ "") with
  | none => pure none
  | some name => do
      let isSlugExist ← command (.findServiceByName targetCategoryId name)
      Prog.throwIf (isSlugExist.any (fun s => s.id != id) = true) alreadyExists
      pure (some (generateSlug name))

def update (id : Uuid) (dto : UpdateServiceDto) : Call Service := do
  let currentService ← findOne id
  checkTargetCategory dto
  let slug ← newSlug id ((dto.categoryId.filter (· ≠ "")).getD currentService.categoryId) dto
  let updated ← command (.updateService id ⟨dto, slug.filter (· ≠ "")⟩)
  command (.del .servicesAll)
  pure updated

/-- A service is only switched off, and not while an active offering is of it. -/
def remove (id : Uuid) : Call Service := do
  let _ ← findOne id
  let hasProvider ← ServiceRepository.hasProvider id
  Prog.throwIf (hasProvider = true)
    (.conflict "Cannot delete service because providers are currently offering it")
  let result ← command (.deactivateService id)
  command (.del .servicesAll)
  pure result

end ServiceService

end ServiceHub.Catalog
