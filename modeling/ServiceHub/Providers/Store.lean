/-
# `Providers.Store` — profiles, offerings and documents, and Redis

The part of the database that providers live in, together with what Redis keeps
of it, as an instance of `Txn.Database`: a Redis command is a statement that is
never part of a transaction, so that the steps of calls interleave as their
queries and commands do.

**Left to a parameter.**  `Engine` is what PostgreSQL finds with `ILIKE`, a part
of the database that nothing changes.

**What a row has.**  `deletedAt`, `latitude`, `longitude` and `verifiedById` are
never set by the program and are left out.  A foreign key always leads to a row,
so that the rows which a query includes are found (`Db.offered`, `Db.userOf`).

**Redis.**  Keys are texts.  A value is the response that its text is parsed
to; the counter `providers:version`, which has no expiry, is kept apart.
-/
import ServiceHub.Accounts.Database
import ServiceHub.Catalog.Service
import ServiceHub.Reviews.Service
import ServiceHub.Schedules.Service

namespace ServiceHub.Providers

open Data Txn

/-! ## Rows -/

deriving instance DecidableEq for ServiceHub.ProviderProfile

deriving instance DecidableEq for ServiceHub.ProviderService

/-- A profile with all its columns. -/
structure ProviderProfile extends ServiceHub.ProviderProfile where
  description : Option String
  experienceYears : Nat
  profileImageUrl : Option String
  createdAt : Time
  updatedAt : Time
  deriving DecidableEq

theorem ProviderProfile.toProviderProfile_id (p : ProviderProfile) :
    p.toProviderProfile.id = p.id := rfl

/-- The table `provider_locations`. -/
structure ProviderLocation where
  id : Uuid
  providerId : Uuid
  addressLine1 : String
  addressLine2 : Option String
  city : String
  state : String
  postalCode : String
  isPrimary : Bool
  createdAt : Time
  updatedAt : Time
  deriving DecidableEq

/-- An offering with all its columns. -/
structure ProviderService extends ServiceHub.ProviderService where
  description : Option String
  createdAt : Time
  updatedAt : Time
  deriving DecidableEq

theorem ProviderService.toProviderService_id (o : ProviderService) :
    o.toProviderService.id = o.id := rfl

/-- What a provider may upload. -/
inductive DocumentType where
  | aadhaar | pan | businessLicense | gst
  deriving DecidableEq

instance : ToString DocumentType where
  toString
    | .aadhaar => "AADHAAR"
    | .pan => "PAN"
    | .businessLicense => "BUSINESS_LICENSE"
    | .gst => "GST"

/-- The table `provider_documents`; `fileUrl` is what the storage has answered. -/
structure ProviderDocument where
  id : Uuid
  providerId : Uuid
  documentType : DocumentType
  fileUrl : String
  verificationStatus : VerificationStatus
  rejectionReason : Option String
  uploadedAt : Time
  verifiedAt : Option Time

/-! ## What is shown of a provider -/

/-- `select: { id, name, slug, serviceMode, category: { id, name, slug } }`. -/
structure ServiceInfo where
  id : Uuid
  name : String
  slug : String
  serviceMode : ServiceMode
  categoryId : Uuid
  categoryName : String
  categorySlug : String
  deriving DecidableEq

/-- The answer of `findPublicById`. -/
structure PublicProfile where
  profile : ProviderProfile
  firstName : String
  lastName : String
  locations : List ProviderLocation
  services : List (ProviderService × ServiceInfo)
  deriving DecidableEq

/-- A row of the answer of `findPublicProviders`; of a service only its name and
the name of its category are selected. -/
structure ProviderItem where
  profile : ProviderProfile
  locations : List ProviderLocation
  services : List (ProviderService × String × String)
  deriving DecidableEq

/-- How a search may be sorted. -/
inductive ProviderSearchSort where
  | ratingDesc | ratingAsc | priceAsc | priceDesc | newest
  deriving DecidableEq

/-- The query of a search; what is missing does not restrict it. -/
structure QueryProviderSearchDto where
  page : Option ℚ
  limit : Option ℚ
  categoryId : Option Uuid
  serviceId : Option Uuid
  city : Option String
  minPrice : Option ℚ
  maxPrice : Option ℚ
  minRating : Option ℚ
  search : Option String
  sort : Option ProviderSearchSort

structure ActiveService where
  id : Uuid
  name : String
  categoryName : String
  price : ℚ
  deriving DecidableEq

/-- A provider as a search shows it. -/
structure SearchItem where
  providerId : Uuid
  businessName : String
  profileImage : Option String
  city : Option String
  averageRating : ℚ
  totalReviews : Nat
  startingPrice : Option ℚ
  services : List ActiveService
  deriving DecidableEq

/-- One page of a search. -/
structure SearchResult where
  items : List SearchItem
  page : ℚ
  limit : ℚ
  total : Nat
  totalPages : Int
  deriving DecidableEq

/-- A value that is cached. -/
inductive Cached where
  | profile (p : PublicProfile)
  | search (r : SearchResult)
  deriving DecidableEq

/-! ## The database -/

/-- How the database compares texts. -/
structure Engine where
  /-- `contains`, with `mode: "insensitive"` -/
  ilike : String → String → Bool
  /-- `equals`, with `mode: "insensitive"` -/
  equalsInsensitive : String → String → Bool

abbrev Redis : Type := Cache String fun _ => Cached

/-- The tables, and what Redis stores. -/
structure Db where
  engine : Engine
  users : Table User Uuid User.id
  categories : Table Catalog.Category Uuid Catalog.Category.id
  services : Table Catalog.Service Uuid fun s => s.id
  providers : Table ProviderProfile Uuid fun p => p.id
  locations : Table ProviderLocation Uuid ProviderLocation.id
  providerServices : Table ProviderService Uuid fun o => o.id
  documents : Table ProviderDocument Uuid ProviderDocument.id
  bookings : Table Booking Uuid Booking.id
  reviews : Table Reviews.Review Uuid Reviews.Review.id
  auditLogs : Table AuditLog Uuid AuditLog.id
  redis : Redis
  /-- `providers:version` -/
  version : Option Nat

/-- A row of a table, an entry of Redis or its counter. -/
inductive Row where
  | provider (p : ProviderProfile)
  | location (l : ProviderLocation)
  | providerService (o : ProviderService)
  | document (d : ProviderDocument)
  | review (r : Reviews.Review)
  | audit (a : AuditLog)
  | entry (key : String) (e : Option (Entry Cached))
  | version (n : Option Nat)

inductive Key where
  | provider (id : Uuid)
  | location (id : Uuid)
  | providerService (id : Uuid)
  | document (id : Uuid)
  | review (id : Uuid)
  | audit (id : Uuid)
  | entry (key : String)
  | version
  deriving DecidableEq

def Row.key : Row → Key
  | .provider p => .provider p.id
  | .location l => .location l.id
  | .providerService o => .providerService o.id
  | .document d => .document d.id
  | .review r => .review r.id
  | .audit a => .audit a.id
  | .entry key _ => .entry key
  | .version _ => .version

/-- Two rows that a unique index keeps apart. -/
def clash : Row → Row → Bool
  | .provider p, .provider q => p.userId == q.userId
  | .providerService o, .providerService o' =>
      o.providerId == o'.providerId && o.serviceId == o'.serviceId
  | .review r, .review s => r.bookingId == s.bookingId
  | _, _ => false

namespace Db

def get (db : Db) : Key → Option Row
  | .provider id => (db.providers.find? id).map .provider
  | .location id => (db.locations.find? id).map .location
  | .providerService id => (db.providerServices.find? id).map .providerService
  | .document id => (db.documents.find? id).map .document
  | .review id => (db.reviews.find? id).map .review
  | .audit id => (db.auditLogs.find? id).map .audit
  | .entry key => some (.entry key (db.redis.entries key))
  | .version => some (.version db.version)

/-- The row in place of that of its key, or as a new one. -/
def put (db : Db) : Row → Db
  | .provider p => { db with providers := db.providers.put p }
  | .location l => { db with locations := db.locations.put l }
  | .providerService o => { db with providerServices := db.providerServices.put o }
  | .document d => { db with documents := db.documents.put d }
  | .review r => { db with reviews := db.reviews.put r }
  | .audit a => { db with auditLogs := db.auditLogs.put a }
  | .entry key e => { db with redis := ⟨Function.update db.redis.entries key e⟩ }
  | .version n => { db with version := n }

/-- The tables that `Accounts` works on. -/
def accounts (db : Db) : Accounts.Db := ⟨db.users, db.auditLogs⟩

/-- The tables that `Reviews` works on. -/
def ratings (db : Db) : Reviews.Db where
  users := db.users
  bookings := db.bookings
  reviews := db.reviews
  providers := db.providers.map ProviderProfile.toProviderProfile fun _ => rfl

/-! ### What a query includes -/

def userOf (db : Db) (p : ProviderProfile) : Option User := db.users.find? p.userId

/-- `locations: true`. -/
def locationsOf (db : Db) (providerId : Uuid) : List ProviderLocation :=
  db.locations.rows.filter (·.providerId == providerId)

/-- The active offerings of a provider, with their services and categories. -/
def offered (db : Db) (providerId : Uuid) :
    List (ProviderService × Catalog.Service × Catalog.Category) :=
  (db.providerServices.rows.filter fun o => o.providerId == providerId && o.isActive).filterMap
    fun o => do
      let service ← db.services.find? o.serviceId
      let category ← db.categories.find? service.categoryId
      pure (o, service, category)

end Db

def ServiceInfo.of (s : Catalog.Service) (c : Catalog.Category) : ServiceInfo where
  id := s.id
  name := s.name
  slug := s.slug
  serviceMode := s.serviceMode
  categoryId := c.id
  categoryName := c.name
  categorySlug := c.slug

/-- What `findPublicById` selects, but for the condition that the provider is
listed. -/
def Db.publicProfile (db : Db) (providerId : Uuid) : Option PublicProfile := do
  let profile ← db.providers.find? providerId
  let user ← db.userOf profile
  pure {
    profile := profile
    firstName := user.firstName
    lastName := user.lastName
    locations := db.locationsOf providerId
    services := (db.offered providerId).map fun (o, s, c) => (o, ServiceInfo.of s c) }

/-! ## The search -/

namespace QueryProviderSearchDto

variable (q : QueryProviderSearchDto)

/-- `categoryId || serviceId || minPrice !== undefined || maxPrice !== undefined`. -/
def asksForService : Bool :=
  (q.categoryId.filter (· ≠ "")).isSome || (q.serviceId.filter (· ≠ "")).isSome ||
    q.minPrice.isSome || q.maxPrice.isSome

/-- The condition on one of the provider's active offerings. -/
def holdsOfService (o : ProviderService × Catalog.Service × Catalog.Category) : Bool :=
  (q.serviceId.filter (· ≠ "")).all (· == o.1.serviceId) &&
    (q.categoryId.filter (· ≠ "")).all (· == o.2.1.categoryId) &&
    q.minPrice.all (fun x => decide (x ≤ o.1.price)) &&
    q.maxPrice.all (fun x => decide (o.1.price ≤ x))

end QueryProviderSearchDto

/-- Verified, and its user is active. -/
def Db.listed (db : Db) (p : ProviderProfile) : Bool :=
  p.verificationStatus == .verified && (db.userOf p).any (·.status == .active)

/-- `whereClause`. -/
def Db.holds (db : Db) (q : QueryProviderSearchDto) (p : ProviderProfile) : Bool :=
  db.listed p &&
    q.minRating.all (fun x => decide (x ≤ p.averageRating)) &&
    (q.city.filter (· ≠ "")).all (fun city =>
      (db.locationsOf p.id).any fun l => db.engine.equalsInsensitive city l.city) &&
    (!q.asksForService || (db.offered p.id).any q.holdsOfService) &&
    (q.search.filter (· ≠ "")).all (fun text =>
      db.engine.ilike text p.businessName || p.description.any (db.engine.ilike text) ||
        (db.offered p.id).any fun o => db.engine.ilike text o.2.1.name)

/-- `buildOrderBy`; of rows that are equal here, the one that was inserted first
comes first. -/
def orderBy : Option ProviderSearchSort → ProviderProfile → ProviderProfile → Prop
  | some .ratingAsc, a, b => a.averageRating ≤ b.averageRating
  | some .newest, a, b => b.createdAt ≤ a.createdAt
  | _, a, b => b.averageRating ≤ a.averageRating

instance (sort : Option ProviderSearchSort) : DecidableRel (orderBy sort) := fun a b =>
  match sort with
  | some .ratingAsc => inferInstanceAs (Decidable (a.averageRating ≤ b.averageRating))
  | some .newest => inferInstanceAs (Decidable (b.createdAt ≤ a.createdAt))
  | some .ratingDesc => inferInstanceAs (Decidable (b.averageRating ≤ a.averageRating))
  | some .priceAsc => inferInstanceAs (Decidable (b.averageRating ≤ a.averageRating))
  | some .priceDesc => inferInstanceAs (Decidable (b.averageRating ≤ a.averageRating))
  | none => inferInstanceAs (Decidable (b.averageRating ≤ a.averageRating))

/-- What `findPublicProviders` selects of a profile. -/
def Db.item (db : Db) (p : ProviderProfile) : ProviderItem where
  profile := p
  locations := (db.locationsOf p.id).filter (·.isPrimary)
  services := (db.offered p.id).map fun (o, s, c) => (o, s.name, c.name)

/-- The profiles that a query finds, in its order. -/
def Db.found (db : Db) (q : QueryProviderSearchDto) : List ProviderProfile :=
  (db.providers.rows.filter (db.holds q)).insertionSort (orderBy q.sort)

/-! ## Statements and commands -/

/-- The columns of a location that an update sets. -/
structure LocationUpdate where
  addressLine1 : Option String
  addressLine2 : Option String
  city : Option String
  state : Option String
  postalCode : Option String

/-- The location after the update; what is not set stays. -/
def LocationUpdate.on (now : Time) (data : LocationUpdate) (l : ProviderLocation) :
    ProviderLocation :=
  { l with
    addressLine1 := data.addressLine1.getD l.addressLine1
    addressLine2 := data.addressLine2.or l.addressLine2
    city := data.city.getD l.city
    state := data.state.getD l.state
    postalCode := data.postalCode.getD l.postalCode
    updatedAt := now }

/-- The columns of a profile that an update sets, and those of its primary
locations if it sets any. -/
structure ProviderUpdate where
  businessName : Option String
  description : Option (Option String)
  experienceYears : Option Nat
  profileImageUrl : Option (Option String)
  location : Option LocationUpdate

/-- The profile after the update; what is not set stays. -/
def ProviderUpdate.on (now : Time) (data : ProviderUpdate) (p : ProviderProfile) :
    ProviderProfile :=
  { p with
    businessName := data.businessName.getD p.businessName
    description := data.description.getD p.description
    experienceYears := data.experienceYears.getD p.experienceYears
    profileImageUrl := data.profileImageUrl.getD p.profileImageUrl
    updatedAt := now }

/-- The columns of an offering that an update sets. -/
structure OfferingUpdate where
  price : Option ℚ := none
  durationMinutes : Option Nat := none
  bufferMinutes : Option Nat := none
  description : Option (Option String) := none
  isActive : Option Bool := none
  durationMinutes_pos : ∀ d ∈ durationMinutes, 1 ≤ d := by simp

/-- An update that sets no duration. -/
theorem OfferingUpdate.no_duration : ∀ d ∈ (none : Option Nat), 1 ≤ d := by simp

theorem OfferingUpdate.duration_pos (data : OfferingUpdate) {d : Nat} (h : 1 ≤ d) :
    1 ≤ data.durationMinutes.getD d := by
  cases hd : data.durationMinutes with
  | none => exact h
  | some x => exact data.durationMinutes_pos x hd

def OfferingUpdate.on (now : Time) (data : OfferingUpdate) (o : ProviderService) :
    ProviderService :=
  { o with
    price := data.price.getD o.price
    durationMinutes := data.durationMinutes.getD o.durationMinutes
    bufferMinutes := data.bufferMinutes.getD o.bufferMinutes
    description := data.description.getD o.description
    isActive := data.isActive.getD o.isActive
    durationMinutes_pos := data.duration_pos o.durationMinutes_pos
    updatedAt := now }

/-- The columns of a document that an update sets. -/
structure DocumentUpdate where
  verificationStatus : VerificationStatus
  rejectionReason : Option String := none
  verifiedAt : Option Time := none

/-- The document after the update; what is not set stays. -/
def DocumentUpdate.on (data : DocumentUpdate) (d : ProviderDocument) : ProviderDocument :=
  { d with
    verificationStatus := data.verificationStatus
    rejectionReason := data.rejectionReason.or d.rejectionReason
    verifiedAt := data.verifiedAt.or d.verifiedAt }

/-- The metrics are written together. -/
def withStats (now : Time) (averageRating : ℚ) (totalReviews : Nat) (p : ProviderProfile) :
    ProviderProfile :=
  { p with averageRating := averageRating, totalReviews := totalReviews, updatedAt := now }

/-- The statements of the repositories, and the commands to Redis. -/
inductive Stmt where
  | findByUserId (userId : Uuid)
  | findByBusinessName (businessName : String)
  | findProvider (id : Uuid)
  | createProvider (p : ProviderProfile) (l : ProviderLocation)
  | updateProvider (now : Time) (id : Uuid) (data : ProviderUpdate)
  | setVerification (now : Time) (id : Uuid) (status : VerificationStatus)
  | findPublicById (id : Uuid)
  | findPublicProviders (q : QueryProviderSearchDto) (skip take : ℚ)
  | countPublicProviders (q : QueryProviderSearchDto)
  | findDocumentByType (providerId : Uuid) (documentType : DocumentType)
  | createDocument (d : ProviderDocument)
  | updateDocuments (providerId : Uuid) (data : DocumentUpdate)
  | findService (id : Uuid)
  | findOffering (id : Uuid)
  | findOfferingOf (providerId serviceId : Uuid)
  | createOffering (o : ProviderService)
  | updateOffering (now : Time) (id : Uuid) (data : OfferingUpdate)
  | findBooking (id : Uuid)
  | findReview (id : Uuid)
  | findReviewByBooking (bookingId : Uuid)
  | createReview (r : Reviews.Review)
  | updateReview (id : Uuid) (data : Reviews.ReviewUpdate)
  | aggregateRating (providerId : Uuid)
  | updateStats (now : Time) (providerId : Uuid) (averageRating : ℚ) (totalReviews : Nat)
  | createAudit (a : AuditLog)
  | redisGet (now : Time) (key : String)
  | redisSet (now : Time) (key : String) (value : Cached) (ttlSeconds : Int)
  | redisDel (key : String)
  | redisGetVersion
  | redisIncr

/-- An updated profile, and its updated locations. -/
abbrev Updated : Type := ProviderProfile × List ProviderLocation

abbrev Ans : Stmt → Type
  | .findByUserId _ => Option ProviderProfile
  | .findByBusinessName _ => Option ProviderProfile
  | .findProvider _ => Option ProviderProfile
  | .createProvider _ _ => ProviderProfile
  | .updateProvider _ _ _ => Updated
  | .setVerification _ _ _ => ProviderProfile
  | .findPublicById _ => Option PublicProfile
  | .findPublicProviders _ _ _ => List ProviderItem
  | .countPublicProviders _ => Nat
  | .findDocumentByType _ _ => Option ProviderDocument
  | .createDocument _ => ProviderDocument
  | .updateDocuments _ _ => List ProviderDocument
  | .findService _ => Option Catalog.Service
  | .findOffering _ => Option ProviderService
  | .findOfferingOf _ _ => Option ProviderService
  | .createOffering _ => ProviderService
  | .updateOffering _ _ _ => ProviderService
  | .findBooking _ => Option Booking
  | .findReview _ => Option Reviews.Review
  | .findReviewByBooking _ => Option Reviews.Review
  | .createReview _ => Reviews.Review
  | .updateReview _ _ => Reviews.Review
  | .aggregateRating _ => Reviews.RatingAggregate
  | .updateStats _ _ _ _ => ProviderProfile
  | .createAudit _ => AuditLog
  | .redisGet _ _ => Option Cached
  | .redisSet _ _ _ _ => Unit
  | .redisDel _ => Unit
  | .redisGetVersion => Option Nat
  | .redisIncr => Nat

/-! ### Constraints -/

def idTaken : Exn := .failure "id already taken"

def noForeignKey : Exn := .knownRequest "P2003" "Foreign key constraint violated"

/-- Some text of the row is wider than its column. -/
def Row.tooLong : Row → Bool
  | .provider p => ServiceHub.tooLong 255 p.businessName
  | .location l => ServiceHub.tooLong 255 l.addressLine1 ||
      l.addressLine2.any (ServiceHub.tooLong 255) || ServiceHub.tooLong 100 l.city ||
      ServiceHub.tooLong 100 l.state || ServiceHub.tooLong 20 l.postalCode
  | _ => false

/-- `SmallInt`, and `Decimal(10, 2)`. -/
def ProviderService.outOfRange (o : ProviderService) : Bool :=
  decide (2 ^ 15 ≤ o.durationMinutes) || decide (2 ^ 15 ≤ o.bufferMinutes) ||
    decide (10 ^ 8 ≤ o.price)

/-- The error of a number that its column does not hold. -/
def outOfRange : Exn := .driver "22003" "value out of range"

namespace Db

/-- A profile is inserted with its first location. -/
def insertProvider (db : Db) (p : ProviderProfile) (l : ProviderLocation) :
    Except Exn ProviderProfile :=
  if (db.providers.find? p.id).isSome || (db.locations.find? l.id).isSome then .error idTaken
  else if (Row.provider p).tooLong || (Row.location l).tooLong then .error Catalog.tooLong
  -- `user: { connect: { id } }`
  else if (db.users.find? p.userId).isNone then .error Catalog.noRecord
  else if db.providers.rows.any fun q => clash (.provider p) (.provider q) then
    .error Catalog.duplicate
  else .ok p

/-- The primary locations of a provider as an update leaves them. -/
def relocated (db : Db) (now : Time) (id : Uuid) : Option LocationUpdate → List ProviderLocation
  | none => []
  | some data => ((db.locationsOf id).filter (·.isPrimary)).map (data.on now)

/-- A profile is updated together with its primary locations. -/
def updateProvider (db : Db) (now : Time) (id : Uuid) (data : ProviderUpdate) :
    Except Exn Updated :=
  match db.providers.find? id with
  | none => .error Catalog.noRecord
  | some p =>
      if (Row.provider (data.on now p)).tooLong ||
          (db.relocated now id data.location).any fun l => (Row.location l).tooLong then
        .error Catalog.tooLong
      else .ok (data.on now p, db.relocated now id data.location)

def insertDocument (db : Db) (d : ProviderDocument) : Except Exn ProviderDocument :=
  if (db.documents.find? d.id).isSome then .error idTaken
  else if (db.providers.find? d.providerId).isNone then .error noForeignKey
  else .ok d

def documentsOf (db : Db) (providerId : Uuid) : List ProviderDocument :=
  db.documents.rows.filter (·.providerId == providerId)

/-- A provider offers a service once. -/
def insertOffering (db : Db) (o : ProviderService) : Except Exn ProviderService :=
  if (db.providerServices.find? o.id).isSome then .error idTaken
  else if o.outOfRange then .error outOfRange
  else if (db.providers.find? o.providerId).isNone || (db.services.find? o.serviceId).isNone then
    .error noForeignKey
  else if db.providerServices.rows.any fun o' => clash (.providerService o) (.providerService o') then
    .error Catalog.duplicate
  else .ok o

/-- Whose the offering is, the statement does not ask. -/
def updateOffering (db : Db) (now : Time) (id : Uuid) (data : OfferingUpdate) :
    Except Exn ProviderService :=
  match db.providerServices.find? id with
  | none => .error Catalog.noRecord
  | some o => if (data.on now o).outOfRange then .error outOfRange else .ok (data.on now o)

def updateStats (db : Db) (now : Time) (providerId : Uuid) (averageRating : ℚ)
    (totalReviews : Nat) : Except Exn ProviderProfile :=
  -- `Decimal(3, 2)`
  if 10 ≤ averageRating then .error (.driver "22003" "numeric field overflow")
  else Reviews.update (withStats now averageRating totalReviews) (db.providers.find? providerId)

/-- The counter after `INCR`, a 64-bit integer. -/
def incremented (db : Db) : Except Exn Nat :=
  if db.version.getD 0 + 1 < 2 ^ 63 then .ok (db.version.getD 0 + 1)
  else .error (.failure "increment or decrement would overflow")

def exec : (s : Stmt) → Db → Except Exn (Ans s)
  | .findByUserId userId, db => .ok (db.providers.rows.find? (·.userId == userId))
  | .findByBusinessName businessName, db =>
      .ok (db.providers.rows.find? fun p => db.engine.equalsInsensitive businessName p.businessName)
  | .findProvider id, db => .ok (db.providers.find? id)
  | .createProvider p l, db => db.insertProvider p l
  | .updateProvider now id data, db => db.updateProvider now id data
  | .setVerification now id status, db =>
      Reviews.update (fun p => { p with verificationStatus := status, updatedAt := now })
        (db.providers.find? id)
  | .findPublicById id, db => .ok (db.publicProfile id)
  | .findPublicProviders q skip take, db =>
      Catalog.window skip take ((db.found q).map db.item)
  | .countPublicProviders q, db => .ok (db.found q).length
  | .findDocumentByType providerId documentType, db =>
      .ok ((db.documentsOf providerId).find? (·.documentType == documentType))
  | .createDocument d, db => db.insertDocument d
  | .updateDocuments providerId data, db => .ok ((db.documentsOf providerId).map data.on)
  | .findService id, db => .ok (db.services.find? id)
  | .findOffering id, db => .ok (db.providerServices.find? id)
  | .findOfferingOf providerId serviceId, db =>
      .ok (db.providerServices.rows.find? fun o =>
        o.providerId == providerId && o.serviceId == serviceId)
  | .createOffering o, db => db.insertOffering o
  | .updateOffering now id data, db => db.updateOffering now id data
  | .findBooking id, db => Reviews.Db.exec (.findBooking id) db.ratings
  | .findReview id, db => Reviews.Db.exec (.findReview id) db.ratings
  | .findReviewByBooking bookingId, db =>
      Reviews.Db.exec (.findReviewByBooking bookingId) db.ratings
  | .createReview r, db => Reviews.Db.exec (.createReview r) db.ratings
  | .updateReview id data, db => Reviews.Db.exec (.updateReview id data) db.ratings
  | .aggregateRating providerId, db => Reviews.Db.exec (.aggregateRating providerId) db.ratings
  | .updateStats now providerId averageRating totalReviews, db =>
      db.updateStats now providerId averageRating totalReviews
  | .createAudit a, db => Accounts.Db.exec (.createAudit a) db.accounts
  | .redisGet now key, db => .ok (db.redis.get now key)
  | .redisSet _ _ _ _, _ => .ok ()
  | .redisDel _, _ => .ok ()
  | .redisGetVersion, db => .ok db.version
  | .redisIncr, db => db.incremented

end Db

/-! ### What a statement that succeeds answers -/

namespace Db

variable {db : Db}

theorem insertProvider_ok {p q : ProviderProfile} {l : ProviderLocation}
    (h : db.insertProvider p l = .ok q) :
    q = p ∧ db.providers.find? p.id = none ∧ db.locations.find? l.id = none := by
  unfold insertProvider at h
  split at h
  · cases h
  rename_i hfresh
  split at h
  · cases h
  split at h
  · cases h
  split at h
  · cases h
  cases h
  exact ⟨rfl, by simpa using hfresh⟩

/-- A user has one profile. -/
theorem user_ne_of_insertProvider {p q : ProviderProfile} {l : ProviderLocation}
    (h : db.insertProvider p l = .ok q) {r : ProviderProfile} (hr : r ∈ db.providers.rows) :
    r.userId ≠ p.userId := by
  unfold insertProvider at h
  split at h
  · cases h
  split at h
  · cases h
  split at h
  · cases h
  split at h
  · cases h
  rename_i hclash
  intro huser
  refine hclash (List.any_eq_true.mpr ⟨r, hr, ?_⟩)
  exact beq_iff_eq.mpr huser.symm

theorem updateProvider_ok {now : Time} {id : Uuid} {data : ProviderUpdate} {u : Updated}
    (h : db.updateProvider now id data = .ok u) :
    ∃ p, db.providers.find? id = some p ∧ u = (data.on now p, db.relocated now id data.location) := by
  unfold updateProvider at h
  split at h
  · cases h
  rename_i p hp
  split at h
  · cases h
  cases h
  exact ⟨p, hp, rfl⟩

theorem mem_relocated {now : Time} {id : Uuid} {data : Option LocationUpdate} {l : ProviderLocation}
    (h : l ∈ db.relocated now id data) :
    ∃ l₀ ∈ db.locations.rows, l.id = l₀.id ∧ l.providerId = l₀.providerId ∧ l₀.providerId = id := by
  cases data with
  | none => cases h
  | some data =>
      obtain ⟨l₀, hl₀, rfl⟩ := List.mem_map.mp h
      obtain ⟨hmem, hid⟩ := List.mem_filter.mp (List.mem_filter.mp hl₀).1
      exact ⟨l₀, hmem, rfl, rfl, by simpa using hid⟩

theorem insertDocument_ok {d d' : ProviderDocument} (h : db.insertDocument d = .ok d') :
    d' = d := by
  unfold insertDocument at h
  split at h
  · cases h
  split at h
  · cases h
  cases h
  rfl

theorem insertOffering_ok {o o' : ProviderService} (h : db.insertOffering o = .ok o') :
    o' = o ∧ db.providerServices.find? o.id = none := by
  unfold insertOffering at h
  split at h
  · cases h
  rename_i hfresh
  split at h
  · cases h
  split at h
  · cases h
  split at h
  · cases h
  cases h
  exact ⟨rfl, by simpa using hfresh⟩

theorem updateOffering_ok {now : Time} {id : Uuid} {data : OfferingUpdate} {o' : ProviderService}
    (h : db.updateOffering now id data = .ok o') :
    ∃ o, db.providerServices.find? id = some o ∧ o' = data.on now o := by
  unfold updateOffering at h
  split at h
  · cases h
  rename_i o ho
  split at h
  · cases h
  cases h
  exact ⟨o, ho, rfl⟩

theorem updateStats_ok {now : Time} {id : Uuid} {averageRating : ℚ} {totalReviews : Nat}
    {q : ProviderProfile} (h : db.updateStats now id averageRating totalReviews = .ok q) :
    ∃ p, db.providers.find? id = some p ∧ q = withStats now averageRating totalReviews p := by
  unfold updateStats at h
  split at h
  · cases h
  exact Reviews.written_of_update h

end Db

def Stmt.written : (s : Stmt) → Ans s → List Row
  | .createProvider _ l, p => [.provider p, .location l]
  | .updateProvider _ _ _, (p, ls) => .provider p :: ls.map .location
  | .setVerification _ _ _, p => [.provider p]
  | .createDocument _, d => [.document d]
  | .updateDocuments _ _, ds => ds.map .document
  | .createOffering _, o => [.providerService o]
  | .updateOffering _ _ _, o => [.providerService o]
  | .createReview _, r => [.review r]
  | .updateReview _ _, r => [.review r]
  | .updateStats _ _ _ _, p => [.provider p]
  | .createAudit _, a => [.audit a]
  | .redisSet now key value ttlSeconds, _ =>
      [.entry key (some ⟨value, now + 1000 * ttlSeconds⟩)]
  | .redisDel key, _ => [.entry key none]
  | .redisIncr, n => [.version (some n)]
  | _, _ => []

/-- A statement waits for the versions of a row that it writes, and for those
that a unique index keeps apart from one. -/
instance : Txn.Database Db Row Key Stmt Exn Ans where
  key := Row.key
  get := Db.get
  put := Db.put
  exec := Db.exec
  written := Stmt.written
  waits s db others :=
    match db.exec s with
    | .ok a => (s.written a).any fun r => others.any fun o => decide (o.key = r.key) || clash r o
    | .error _ => false

theorem Db.get_put (db : Db) (r : Row) (k : Key) :
    (db.put r).get k = if r.key = k then some r else db.get k := by
  cases r with
  | entry key e =>
      cases k with
      | entry key' =>
          simp only [Db.put, Db.get, Row.key, Key.entry.injEq]
          by_cases hk : key = key'
          · subst hk
            simp
          · rw [if_neg hk, Function.update_of_ne (Ne.symm hk)]
      | _ => simp [Db.put, Db.get, Row.key]
  | version n => cases k <;> simp [Db.put, Db.get, Row.key]
  | _ =>
      cases k <;> simp only [Db.put, Db.get, Row.key, reduceCtorEq, if_false, Key.provider.injEq,
        Key.location.injEq, Key.providerService.injEq, Key.document.injEq, Key.review.injEq,
        Key.audit.injEq, Table.find?_put]
      all_goals split <;> rfl

instance : Txn.Lawful Db where
  get_put := Db.get_put
  apart := by
    intro s db others a hwait hexec r hr o ho hk
    simp only [Database.waits, show db.exec s = .ok a from hexec] at hwait
    refine List.any_eq_false.mp hwait r hr (List.any_eq_true.mpr ⟨o, ho, ?_⟩)
    rw [show o.key = r.key from hk, decide_eq_true rfl]
    rfl
  alone := by
    intro s db
    simp only [Database.waits]
    split <;> simp

abbrev Query (α : Type) : Type := Prog Stmt Ans Exn α

abbrev query (s : Stmt) : Query (Ans s) := Prog.perform s

end ServiceHub.Providers
