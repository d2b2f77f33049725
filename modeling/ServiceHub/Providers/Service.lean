/-
# `Providers.Service` — what providers, their administrators and visitors ask for

`ProviderService`, `ProviderServiceService` and `AdminProviderService`, over the
repositories and `RedisService`.  The review requests, which recalculate the
rating of a provider, are those of `Reviews.Service`, translated to the
statements of this database.

**Time.**  A call reads the clock once; `now` is what it reads.  The ids that the
database generates are arguments.

**Redis.**  A command that fails is logged, and the caller goes on as if there
had been nothing to get or to do.
-/
import ServiceHub.Providers.Store
import ServiceHub.Txn.Embed

namespace ServiceHub.Providers

open Data Txn

/-- No call to the outside but those to Redis, which are statements here, and to
the storage, whose answer is an argument. -/
abbrev Call (α : Type) : Type := Prog (Instr Stmt Empty) (Instr.Ans Ans) Exn α

/-- What the language and its libraries provide. -/
structure Builtins where
  trim : String → String
  toLowerCase : String → String
  /-- `String(x)` of a number -/
  numberText : ℚ → String
  /-- `new URLSearchParams(…).toString()` -/
  urlEncode : List (String × String) → String
  /-- `createHash("sha256").update(text).digest("hex")` -/
  sha256 : String → String
  /-- the product of two numbers, in double precision -/
  mul : ℚ → ℚ → ℚ
  /-- the quotient -/
  div : ℚ → ℚ → ℚ

/-! ## Redis -/

/-- A natural number in double precision: 53 bits, ties to even. -/
def toDouble (n : Nat) : Nat :=
  if n < 2 ^ 53 then n
  else
    let unit := 2 ^ (n.log2 - 52)
    let q := n / unit
    if unit < 2 * (n % unit) ∨ (unit = 2 * (n % unit) ∧ q % 2 = 1) then (q + 1) * unit
    else q * unit

/-- `"provider:profile:" + providerId`. -/
abbrev profileKey (providerId : Uuid) : String := Reviews.profileKey providerId

namespace RedisService

/-- A failure counts as a miss. -/
def get (now : Time) (key : String) : Call (Option Cached) :=
  (autocommit Empty (query (.redisGet now key))).catching fun _ => pure none

def set (now : Time) (key : String) (value : Cached) (ttlSeconds : Int) : Call Unit :=
  (autocommit Empty (query (.redisSet now key value ttlSeconds))).catching fun _ => pure ()

/-- A failure is logged, and nothing else. -/
def del (key : String) : Call Unit :=
  (autocommit Empty (query (.redisDel key))).catching fun _ => pure ()

/-- What is cached is truthy, and so is what is fetched. -/
def getOrSet (now : Time) (key : String) (fetchFn : Call Cached) (ttlSeconds : Int) :
    Call Cached := do
  let cached ← get now key
  match cached with
  | some value => pure value
  | none => do
      let freshData ← fetchFn
      set now key freshData ttlSeconds
      pure freshData

/-- `version ? Number(version) : 1`. -/
def versionNumber : Option Nat → Nat
  | some n => if toDouble n = 0 then 1 else toDouble n
  | none => 1

def getSearchVersion : Call Nat :=
  ((autocommit Empty (query .redisGetVersion)).catching fun _ => pure none).map versionNumber

def incrementSearchVersion : Call Unit :=
  ((autocommit Empty (query .redisIncr)).map fun _ => ()).catching fun _ => pure ()

end RedisService

/-- Five minutes, in seconds. -/
def profileTtl : Int := 5 * 60

def searchTtl : Int := 2 * 60

/-! ## The key of a search -/

instance : ToString ProviderSearchSort where
  toString
    | .ratingDesc => "rating_desc"
    | .ratingAsc => "rating_asc"
    | .priceAsc => "price_asc"
    | .priceDesc => "price_desc"
    | .newest => "newest"

section
variable (js : Builtins)

/-- The entries of a query that are neither missing nor empty, in the order of
their names. -/
def cleanedQuery (q : QueryProviderSearchDto) : List (String × String) :=
  [("categoryId", q.categoryId), ("city", q.city), ("limit", q.limit.map js.numberText),
    ("maxPrice", q.maxPrice.map js.numberText), ("minPrice", q.minPrice.map js.numberText),
    ("minRating", q.minRating.map js.numberText), ("page", q.page.map js.numberText),
    ("search", q.search), ("serviceId", q.serviceId), ("sort", q.sort.map toString)].filterMap
    fun (key, value) => (value.filter (· ≠ "")).map fun text => (key, js.toLowerCase text)

/-- The first sixteen digits of the hash. -/
def queryHash (q : QueryProviderSearchDto) : String :=
  .ofList ((js.sha256 (js.urlEncode (cleanedQuery js q))).toList.take 16)

/-- The prefix, the version and the hash of the query. -/
def buildNormalizedQueryKey (pre : String) (version : Nat) (q : QueryProviderSearchDto) : String :=
  pre ++ ":v" ++ toString version ++ ":" ++ queryHash js q

end

/-! ## Requests -/

/-- A profile with the first of its locations. -/
structure CreateProviderDto where
  businessName : String
  description : Option String
  experienceYears : Nat
  profileImageUrl : Option String
  addressLine1 : String
  addressLine2 : Option String
  city : String
  state : String
  postalCode : String

/-- A `null` clears the description or the image; for a part of the address it
says nothing, and for any other column Prisma refuses it. -/
structure UpdateProviderDto where
  businessName : Option String
  description : Option (Option String)
  experienceYears : Option Nat
  profileImageUrl : Option (Option String)
  addressLine1 : Option String
  addressLine2 : Option String
  city : Option String
  state : Option String
  postalCode : Option String
  businessName_ne : ∀ name ∈ businessName, name ≠ ""

/-- An offering of a service of the catalog. -/
structure CreateProviderServiceDto where
  serviceId : Uuid
  price : ℚ
  durationMinutes : Nat
  bufferMinutes : Nat
  description : Option String
  durationMinutes_pos : 1 ≤ durationMinutes

/-! ## Repositories -/

namespace ProviderRepository

/-- The columns of a profile as it is created: it waits for verification. -/
def newProfile (id : Uuid) (now : Time) (userId : Uuid) (dto : CreateProviderDto) :
    ProviderProfile where
  id := id
  userId := userId
  businessName := dto.businessName
  verificationStatus := .pending
  averageRating := 0
  totalReviews := 0
  description := dto.description
  experienceYears := dto.experienceYears
  profileImageUrl := dto.profileImageUrl
  createdAt := now
  updatedAt := now

/-- The first location is the primary one. -/
def newLocation (id providerId : Uuid) (now : Time) (dto : CreateProviderDto) :
    ProviderLocation where
  id := id
  providerId := providerId
  addressLine1 := dto.addressLine1
  addressLine2 := dto.addressLine2
  city := dto.city
  state := dto.state
  postalCode := dto.postalCode
  isPrimary := true
  createdAt := now
  updatedAt := now

def create (id locationId : Uuid) (now : Time) (userId : Uuid) (dto : CreateProviderDto) :
    Query ProviderProfile :=
  query (.createProvider (newProfile id now userId dto) (newLocation locationId id now dto))

/-- The texts that are there and not empty; `none` if none is. -/
def locationData (dto : UpdateProviderDto) : Option LocationUpdate :=
  let data : LocationUpdate :=
    ⟨dto.addressLine1.filter (· ≠ ""), dto.addressLine2.filter (· ≠ ""), dto.city.filter (· ≠ ""),
      dto.state.filter (· ≠ ""), dto.postalCode.filter (· ≠ "")⟩
  if data.addressLine1.isSome || data.addressLine2.isSome || data.city.isSome ||
      data.state.isSome || data.postalCode.isSome then some data
  else none

/-- What an update says of the columns; the address is apart. -/
def updateData (dto : UpdateProviderDto) : ProviderUpdate where
  businessName := dto.businessName
  description := dto.description
  experienceYears := dto.experienceYears
  profileImageUrl := dto.profileImageUrl
  location := locationData dto

def update (now : Time) (providerId : Uuid) (dto : UpdateProviderDto) : Query Updated :=
  query (.updateProvider now providerId (updateData dto))

/-- What `findPublicProviders` answers. -/
structure Page where
  items : List ProviderItem
  total : Nat
  page : ℚ
  limit : ℚ

/-- The page, and how many there are in all. -/
def findPublicProviders (js : Builtins) (queryDto : QueryProviderSearchDto) : Query Page := do
  let page := queryDto.page.getD 1
  let limit := queryDto.limit.getD 20
  let skip := js.mul (page - 1) limit
  let items ← query (.findPublicProviders queryDto skip limit)
  let total ← query (.countPublicProviders queryDto)
  pure ⟨items, total, page, limit⟩

end ProviderRepository

namespace AdminProviderRepository

/-- The status of the profile, and then of its documents: rejected with a reason,
verified, or left as it is. -/
def updateVerificationStatus (now : Time) (id : Uuid) (status : VerificationStatus)
    (rejectionReason : Option String) : Query ProviderProfile := do
  let profile ← query (.setVerification now id status)
  match rejectionReason.filter (· ≠ "") with
  | some reason => do
      let _ ← query (.updateDocuments id
        { verificationStatus := .rejected, rejectionReason := some reason })
      pure profile
  | none =>
      if status = .verified then do
        let _ ← query (.updateDocuments id
          { verificationStatus := .verified, verifiedAt := some now })
        pure profile
      else pure profile

end AdminProviderRepository

namespace ProviderServiceRepository

/-- `...dto`. -/
def newOffering (id : Uuid) (now : Time) (providerId : Uuid) (dto : CreateProviderServiceDto) :
    ProviderService where
  id := id
  providerId := providerId
  serviceId := dto.serviceId
  price := dto.price
  currency := "INR"
  durationMinutes := dto.durationMinutes
  bufferMinutes := dto.bufferMinutes
  isActive := true
  durationMinutes_pos := dto.durationMinutes_pos
  description := dto.description
  createdAt := now
  updatedAt := now

def create (id : Uuid) (now : Time) (providerId : Uuid) (dto : CreateProviderServiceDto) :
    Query ProviderService :=
  query (.createOffering (newOffering id now providerId dto))

def update (now : Time) (id : Uuid) (dto : OfferingUpdate) : Query ProviderService :=
  query (.updateOffering now id dto)

/-- An offering is only switched off. -/
def delete (now : Time) (id : Uuid) : Query ProviderService :=
  query (.updateOffering now id { isActive := some false })

end ProviderServiceRepository

/-! ## The services -/

/-- What every change of a profile ends with. -/
def invalidate (providerId : Uuid) : Call Unit := do
  RedisService.del (profileKey providerId)
  RedisService.incrementSearchVersion

namespace ProviderService

def alreadyExists (businessName : String) : Exn :=
  .conflict ("Business name \"" ++ businessName ++ "\" already exists")

def ownNotFound : Exn := .notFound "Provider profile not found for this user"

/-- Both lookups come before either of the errors. -/
def createProfile (id locationId : Uuid) (now : Time) (userId : Uuid) (dto : CreateProviderDto) :
    Call ProviderProfile := do
  let isUserExist ← autocommit Empty (query (.findByUserId userId))
  let isDuplicate ← autocommit Empty (query (.findByBusinessName dto.businessName))
  Prog.throwIf (isUserExist.isSome = true) (.conflict "User is already registered as a provider")
  Prog.throwIf (isDuplicate.isSome = true) (alreadyExists dto.businessName)
  autocommit Empty (ProviderRepository.create id locationId now userId dto)

/-- `if (dto.businessName)`: nobody else has it. -/
def checkBusinessName (profile : ProviderProfile) (businessName : Option String) : Call Unit :=
  match businessName.filter (· ≠ "") with
  | none => pure ()
  | some name => do
      let isDuplicate ← autocommit Empty (query (.findByBusinessName name))
      Prog.throwIf (isDuplicate.any (·.id != profile.id) = true) (alreadyExists name)

/-- The profile is that of the user who asks. -/
def updateOwnProfile (now : Time) (userId : Uuid) (dto : UpdateProviderDto) : Call Updated := do
  let found ← autocommit Empty (query (.findByUserId userId))
  let profile ← Prog.orThrow found ownNotFound
  checkBusinessName profile dto.businessName
  let updated ← autocommit Empty (ProviderRepository.update now profile.id dto)
  invalidate profile.id
  pure updated

/-- A document waits for verification. -/
def newDocument (id : Uuid) (now : Time) (providerId : Uuid) (documentType : DocumentType)
    (fileUrl : String) : ProviderDocument where
  id := id
  providerId := providerId
  documentType := documentType
  fileUrl := fileUrl
  verificationStatus := .pending
  rejectionReason := none
  uploadedAt := now
  verifiedAt := none

/-- `stored` is what `storageService.uploadFile` answers. -/
def uploadDocument (id : Uuid) (now : Time) (userId : Uuid) (documentType : DocumentType)
    (stored : Except Exn String) : Call ProviderDocument := do
  let found ← autocommit Empty (query (.findByUserId userId))
  let provider ← Prog.orThrow found ownNotFound
  let document ← autocommit Empty (query (.findDocumentByType provider.id documentType))
  Prog.throwIf (document.isSome = true)
    (.conflict ("Document of type " ++ toString documentType ++ " already uploaded"))
  match stored with
  | .error e => .throw e
  | .ok fileUrl =>
      autocommit Empty (query (.createDocument (newDocument id now provider.id documentType fileUrl)))

def profileNotFound (providerId : Uuid) : Exn :=
  .notFound ("Provider profile with ID \"" ++ providerId ++ "\" not found")

/-- What `getPublicProfileById` fetches. -/
def fetchProfile (providerId : Uuid) : Call Cached := do
  let provider ← autocommit Empty (query (.findPublicById providerId))
  let provider ← Prog.orThrow provider (profileNotFound providerId)
  pure (.profile provider)

/-- Behind the cache, for five minutes. -/
def getPublicProfileById (now : Time) (providerId : Uuid) : Call Cached :=
  RedisService.getOrSet now (profileKey providerId) (fetchProfile providerId) profileTtl

/-! ### The search -/

def activeServices (provider : ProviderItem) : List ActiveService :=
  provider.services.map fun (ps, name, categoryName) => ⟨ps.id, name, categoryName, ps.price⟩

/-- The price is that of the cheapest offering. -/
def format (provider : ProviderItem) : SearchItem where
  providerId := provider.profile.id
  businessName := provider.profile.businessName
  profileImage := provider.profile.profileImageUrl
  city := (provider.locations.head?.map (·.city)).filter (· ≠ "")
  averageRating := provider.profile.averageRating
  totalReviews := provider.profile.totalReviews
  startingPrice := ((activeServices provider).map (·.price)).min?
  services := activeServices provider

/-- `(a.startingPrice ?? Infinity) - (b.startingPrice ?? Infinity)` is not
positive; the difference of two infinities counts as zero. -/
def priceAsc (a b : SearchItem) : Prop :=
  match a.startingPrice, b.startingPrice with
  | some x, some y => x ≤ y
  | none, some _ => False
  | _, none => True

instance : DecidableRel priceAsc := fun a b => by
  unfold priceAsc
  split <;> infer_instance

/-- `(b.startingPrice ?? -Infinity) - (a.startingPrice ?? -Infinity)` is not
positive. -/
def priceDesc (a b : SearchItem) : Prop :=
  match a.startingPrice, b.startingPrice with
  | some x, some y => y ≤ x
  | none, some _ => False
  | _, none => True

instance : DecidableRel priceDesc := fun a b => by
  unfold priceDesc
  split <;> infer_instance

/-- Only a price is looked at here; for any other order the rows are left as the
database gave them. -/
def sorted (sort : Option ProviderSearchSort) (items : List SearchItem) : List SearchItem :=
  match sort with
  | some .priceAsc => items.insertionSort priceAsc
  | some .priceDesc => items.insertionSort priceDesc
  | _ => items

def formatted (js : Builtins) (queryDto : QueryProviderSearchDto) (page : ProviderRepository.Page) :
    SearchResult where
  items := sorted queryDto.sort (page.items.map format)
  page := page.page
  limit := page.limit
  total := page.total
  totalPages := (js.div page.total page.limit).ceil

/-- What `searchPublicProviders` fetches. -/
def fetchSearch (js : Builtins) (queryDto : QueryProviderSearchDto) : Call Cached := do
  let page ← autocommit Empty (ProviderRepository.findPublicProviders js queryDto)
  pure (.search (formatted js queryDto page))

def searchKey (js : Builtins) (version : Nat) (queryDto : QueryProviderSearchDto) : String :=
  buildNormalizedQueryKey js "providers:search" version queryDto

/-- The version is read first, and is part of the key. -/
def searchPublicProviders (js : Builtins) (now : Time) (queryDto : QueryProviderSearchDto) :
    Call Cached := do
  let version ← RedisService.getSearchVersion
  RedisService.getOrSet now (searchKey js version queryDto) (fetchSearch js queryDto) searchTtl

end ProviderService

namespace ProviderServiceService

def create (id : Uuid) (now : Time) (providerId : Uuid) (dto : CreateProviderServiceDto) :
    Call Providers.ProviderService := do
  let service ← autocommit Empty (query (.findService dto.serviceId))
  let existingOffering ← autocommit Empty (query (.findOfferingOf providerId dto.serviceId))
  Prog.throwIf (service.any (·.isActive) = false)
    (.notFound "Catalog service not found or inactive")
  Prog.throwIf (existingOffering.isSome = true)
    (.conflict "Service is already added to your offerings")
  let created ← autocommit Empty (ProviderServiceRepository.create id now providerId dto)
  invalidate providerId
  pure created

/-- The offering, if it is one of the provider. -/
def findOwn (providerId id : Uuid) : Call Providers.ProviderService := do
  let providerService ← autocommit Empty (query (.findOffering id))
  Prog.orThrow (providerService.filter (·.providerId == providerId))
    (.notFound "Provider service offering not found")

/-- An offering of the provider; that of another one is not found. -/
def update (now : Time) (providerId id : Uuid) (dto : OfferingUpdate) :
    Call Providers.ProviderService := do
  let _ ← findOwn providerId id
  let updated ← autocommit Empty (ProviderServiceRepository.update now id dto)
  invalidate providerId
  pure updated

def remove (now : Time) (providerId id : Uuid) : Call Providers.ProviderService := do
  let _ ← findOwn providerId id
  let result ← autocommit Empty (ProviderServiceRepository.delete now id)
  invalidate providerId
  pure result

end ProviderServiceService

namespace AdminProviderService

def findOne (id : Uuid) : Call ProviderProfile := do
  let provider ← autocommit Empty (query (.findProvider id))
  Prog.orThrow provider (ProviderService.profileNotFound id)

/-- The id of the audit row, the time, and who asks. -/
structure Request where
  auditId : Uuid
  now : Time
  actorUserId : Option Uuid

/-- The audit row of a decision: the status before and after. -/
def statusAudit (r : Request) (id : Uuid) (action : AuditAction)
    (existing status : VerificationStatus) (rejectReason : List (String × Option Json)) :
    AuditLog where
  id := r.auditId
  actorUserId := r.actorUserId
  entityType := "ProviderProfile"
  entityId := id
  action := action
  oldValue := some (.object [("status", ServiceHub.status existing)])
  newValue := some (.object (("status", ServiceHub.status status) :: rejectReason))
  createdAt := r.now

/-- The status is set, then recorded; only then is the cache told. -/
def changeStatus (r : Request) (id : Uuid) (status : VerificationStatus)
    (rejectionReason : Option String) (audit : AuditLog) : Call ProviderProfile := do
  let result ← autocommit Empty
    (AdminProviderRepository.updateVerificationStatus r.now id status rejectionReason)
  let _ ← autocommit Empty (query (.createAudit audit))
  invalidate id
  pure result

def verifyProvider (r : Request) (id : Uuid) : Call ProviderProfile := do
  let existing ← findOne id
  changeStatus r id .verified none
    (statusAudit r id .providerVerified existing.verificationStatus .verified [])

def rejectProvider (r : Request) (id : Uuid) (reason : String) : Call ProviderProfile := do
  let existing ← findOne id
  changeStatus r id .rejected (some reason)
    (statusAudit r id .providerRejected existing.verificationStatus .rejected
      [("rejectReason", some (.str reason))])

/-- A suspension is of a verified provider. -/
def onlyVerified (status : VerificationStatus) : Exn :=
  .badRequest ("Cannot suspend provider with status '" ++ toString status ++
    "'. Only VERIFIED providers can be suspended.")

def suspendProvider (r : Request) (id : Uuid) : Call ProviderProfile := do
  let existing ← findOne id
  Prog.throwIf (existing.verificationStatus ≠ .verified) (onlyVerified existing.verificationStatus)
  changeStatus r id .suspended none
    (statusAudit r id .providerSuspended existing.verificationStatus .suspended [])

end AdminProviderService

/-! ## Reviews -/

/-- The statements of `Reviews`; an update of the statistics also dates the
profile. -/
def reviewStmt (now : Time) : Reviews.Stmt → Stmt
  | .findBooking id => .findBooking id
  | .findReview id => .findReview id
  | .findReviewByBooking bookingId => .findReviewByBooking bookingId
  | .createReview r => .createReview r
  | .updateReview id data => .updateReview id data
  | .aggregateRating providerId => .aggregateRating providerId
  | .updateStats providerId averageRating totalReviews =>
      .updateStats now providerId averageRating totalReviews

/-- An answer as `Reviews` reads it. -/
def reviewAnswer (now : Time) : (s : Reviews.Stmt) → Ans (reviewStmt now s) → Reviews.Ans s
  | .findBooking _, a => a
  | .findReview _, a => a
  | .findReviewByBooking _, a => a
  | .createReview _, a => a
  | .updateReview _ _, a => a
  | .aggregateRating _, a => a
  | .updateStats _ _ _, (p : ProviderProfile) => p.toProviderProfile

/-- The statements of a review are statements of this database. -/
def reviewing (now : Time) : Embedding Reviews.Stmt Stmt Reviews.Ans Ans :=
  ⟨reviewStmt now, reviewAnswer now⟩

/-- A request of `Reviews`, made here. -/
def review (js : Builtins) (now : Time) (o : Reviews.Op) : Call Reviews.Response :=
  (Reviews.program js.trim o).embedCall (reviewing now) fun
    | .del key => .redisDel key

/-! ## The system -/

inductive Response where
  | profile (p : ProviderProfile)
  | updated (u : Updated)
  | document (d : ProviderDocument)
  | offering (o : Providers.ProviderService)
  | cached (v : Cached)
  | review (r : Reviews.Response)

/-- What may be asked for. -/
inductive Op where
  | createProfile (id locationId : Uuid) (now : Time) (userId : Uuid) (dto : CreateProviderDto)
  | updateOwnProfile (now : Time) (userId : Uuid) (dto : UpdateProviderDto)
  | uploadDocument (id : Uuid) (now : Time) (userId : Uuid) (documentType : DocumentType)
      (stored : Except Exn String)
  | createOffering (id : Uuid) (now : Time) (providerId : Uuid) (dto : CreateProviderServiceDto)
  | updateOffering (now : Time) (providerId id : Uuid) (dto : OfferingUpdate)
  | removeOffering (now : Time) (providerId id : Uuid)
  | verifyProvider (r : AdminProviderService.Request) (id : Uuid)
  | rejectProvider (r : AdminProviderService.Request) (id : Uuid) (reason : String)
  | suspendProvider (r : AdminProviderService.Request) (id : Uuid)
  | getPublicProfileById (now : Time) (providerId : Uuid)
  | searchPublicProviders (now : Time) (queryDto : QueryProviderSearchDto)
  | review (now : Time) (o : Reviews.Op)

def program (js : Builtins) : Op → Call Response
  | .createProfile id locationId now userId dto =>
      (ProviderService.createProfile id locationId now userId dto).map .profile
  | .updateOwnProfile now userId dto =>
      (ProviderService.updateOwnProfile now userId dto).map .updated
  | .uploadDocument id now userId documentType stored =>
      (ProviderService.uploadDocument id now userId documentType stored).map .document
  | .createOffering id now providerId dto =>
      (ProviderServiceService.create id now providerId dto).map .offering
  | .updateOffering now providerId id dto =>
      (ProviderServiceService.update now providerId id dto).map .offering
  | .removeOffering now providerId id =>
      (ProviderServiceService.remove now providerId id).map .offering
  | .verifyProvider r id => (AdminProviderService.verifyProvider r id).map .profile
  | .rejectProvider r id reason => (AdminProviderService.rejectProvider r id reason).map .profile
  | .suspendProvider r id => (AdminProviderService.suspendProvider r id).map .profile
  | .getPublicProfileById now providerId =>
      (ProviderService.getPublicProfileById now providerId).map .cached
  | .searchPublicProviders now queryDto =>
      (ProviderService.searchPublicProviders js now queryDto).map .cached
  | .review now o => (review js now o).map .review

abbrev Caller : Type := Proc Op Row Stmt Empty Ans Exn Response

abbrev System : Type := Config Op Db Row Stmt Empty Ans Exn Response

abbrev CallHist : Type := Hist (Instr Stmt Empty) (Instr.Ans Ans) Exn

/-! ## A small system -/

namespace Sample

open ServiceHub.Sample (user)

def lower (text : String) : String := .ofList (text.toList.map Char.toLower)

def js : Builtins where
  trim := id
  toLowerCase := lower
  numberText q := toString q.num
  urlEncode entries := "&".intercalate (entries.map fun (key, value) => key ++ "=" ++ value)
  sha256 := id
  mul := (· * ·)
  div := (· / ·)

def engine : Engine where
  ilike text value := decide ((lower text).toList <:+: (lower value).toList)
  equalsInsensitive a b := lower a == lower b

def provider : ProviderProfile where
  id := "provider"
  userId := "owner"
  businessName := "Acme"
  verificationStatus := .verified
  averageRating := 0
  totalReviews := 0
  description := none
  experienceYears := 3
  profileImageUrl := none
  createdAt := 0
  updatedAt := 0

theorem offering_duration : 1 ≤ 60 := by decide

def offering : Providers.ProviderService where
  id := "offering"
  providerId := "provider"
  serviceId := "service"
  price := 500
  currency := "INR"
  durationMinutes := 60
  bufferMinutes := 15
  isActive := true
  durationMinutes_pos := offering_duration
  description := none
  createdAt := 0
  updatedAt := 0

def category : Catalog.Category := ⟨"category", "Home", "home", none, none, 0, true, 0, 0⟩

def service : Catalog.Service :=
  ⟨⟨"service", "Cleaning", .atCustomerLocation⟩, "category", "cleaning", none, none, true, 0, 0⟩

def booking : Booking where
  id := "booking"
  customerId := "alice"
  providerId := "provider"
  providerServiceId := "offering"
  bookingDate := 0
  startTime := 0
  endTime := 3600
  bookingStatus := .completed
  bookedPrice := 500
  bookedDuration := 60
  bookedServiceMode := .atCustomerLocation
  serviceName := "Cleaning"
  providerBusinessName := "Acme"
  customerNotes := none
  cancellationReason := none
  cancelledAt := none
  completedAt := none
  overdueAt := none
  needsReview := false
  createdAt := 0

/-- A verified provider with one offering, and a completed booking of it. -/
def db : Db where
  engine := engine
  users := (((Table.empty.put (user "alice" .user)).put (user "bob" .user)).put
    (user "owner" .user)).put (user "admin" .admin)
  categories := Table.empty.put category
  services := Table.empty.put service
  providers := Table.empty.put provider
  locations := Table.empty.put
    ⟨"location", "provider", "1 Main Street", none, "Pune", "Maharashtra", "411001", true, 0, 0⟩
  providerServices := Table.empty.put offering
  documents := .empty
  bookings := Table.empty.put booking
  reviews := .empty
  auditLogs := .empty
  redis := .empty
  version := none

/-- An update of the name. -/
def nameOnly (name : String) (hname : name ≠ "") : UpdateProviderDto where
  businessName := some name
  description := none
  experienceYears := none
  profileImageUrl := none
  addressLine1 := none
  addressLine2 := none
  city := none
  state := none
  postalCode := none
  businessName_ne := fun _ h => Option.some.inj h ▸ hname

/-- The `p`-th call goes on by `n` steps. -/
def steps (p n : Nat) : List (Event Op Exn) := List.replicate n (.exec p)

end Sample

end ServiceHub.Providers
