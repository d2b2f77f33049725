/-
# `Booking.Records` — what may be read of bookings and payments

`getBookingById`, `getCustomerBookings` and `getPaymentById`, with the rows that
their queries include.  Each is one read of the database, two for a page and the
number of its rows, and writes nothing; so they are functions of the state.

**Records.**  A booking is read with its customer, its provider and the
provider's user, its offering, its payments, its review and its notifications.
`BookingRecord` has all of them with all their columns, and each answer selects
some.  That a foreign key leads to a row is part of the state.

**Left to a parameter.**  `mul` is the product of two numbers in double
precision.
-/
import ServiceHub.Booking.Service
import ServiceHub.Providers.Store

namespace ServiceHub.Records

open Data

/-! ## Rows -/

structure Notification where
  id : Uuid
  userId : Uuid
  bookingId : Option Uuid
  type : NotificationType
  channel : NotificationChannel
  status : NotificationStatus
  sentAt : Option Time
  createdAt : Time

/-- The tables, with all the columns that are read, and the foreign keys of a
booking. -/
structure Db where
  users : Table User Uuid User.id
  providers : Table Providers.ProviderProfile Uuid fun p => p.id
  services : Table Catalog.Service Uuid fun s => s.id
  providerServices : Table Providers.ProviderService Uuid fun o => o.id
  availability : Table Availability Uuid Availability.id
  bookings : Table Booking Uuid Booking.id
  payments : Table Payment Uuid Payment.id
  paymentWebhookEvents : Table PaymentWebhookEvent Uuid PaymentWebhookEvent.id
  reviews : Table Reviews.Review Uuid Reviews.Review.id
  notifications : Table Notification Uuid Notification.id
  auditLogs : Table AuditLog Uuid AuditLog.id
  hasCustomer : ∀ b ∈ bookings.rows, (users.find? b.customerId).isSome = true
  hasProvider : ∀ b ∈ bookings.rows, (providers.find? b.providerId).isSome = true
  hasOffering : ∀ b ∈ bookings.rows, (providerServices.find? b.providerServiceId).isSome = true
  hasUser : ∀ p ∈ providers.rows, (users.find? p.userId).isSome = true

/-- A booking with everything that is related to it. -/
structure BookingRecord where
  booking : Booking
  customer : User
  provider : Providers.ProviderProfile
  providerUser : User
  providerService : Providers.ProviderService
  payments : List Payment
  review : Option Reviews.Review
  notifications : List Notification

namespace Db

/-- The tables that bookings and payments are written in. -/
def core (db : Db) : ServiceHub.Db where
  users := db.users
  providers :=
    db.providers.map Providers.ProviderProfile.toProviderProfile
      Providers.ProviderProfile.toProviderProfile_id
  services := db.services.map Catalog.Service.toService Catalog.Service.toService_id
  providerServices :=
    db.providerServices.map Providers.ProviderService.toProviderService
      Providers.ProviderService.toProviderService_id
  availability := db.availability
  bookings := db.bookings
  payments := db.payments
  paymentWebhookEvents := db.paymentWebhookEvents
  auditLogs := db.auditLogs

def record (db : Db) (booking : Booking) : Option BookingRecord := do
  let customer ← db.users.find? booking.customerId
  let provider ← db.providers.find? booking.providerId
  let providerUser ← db.users.find? provider.userId
  let providerService ← db.providerServices.find? booking.providerServiceId
  pure {
    booking := booking
    customer := customer
    provider := provider
    providerUser := providerUser
    providerService := providerService
    payments := db.payments.rows.filter (·.bookingId == booking.id)
    review := db.reviews.rows.find? (·.bookingId == booking.id)
    notifications := db.notifications.rows.filter (·.bookingId == some booking.id) }

/-- All bookings, in the order of their insertion. -/
def records (db : Db) : List BookingRecord := db.bookings.rows.filterMap db.record

end Db

/-! ## Answers -/

/-- `select: { id, firstName, lastName, email, phone }`. -/
structure Contact where
  id : Uuid
  firstName : String
  lastName : String
  email : String
  phone : String

def Contact.of (u : User) : Contact := ⟨u.id, u.firstName, u.lastName, u.email, u.phone⟩

/-- `select: { id, type, channel, status, sentAt, createdAt }`. -/
structure NotificationInfo where
  id : Uuid
  type : NotificationType
  channel : NotificationChannel
  status : NotificationStatus
  sentAt : Option Time
  createdAt : Time

def NotificationInfo.of (n : Notification) : NotificationInfo :=
  ⟨n.id, n.type, n.channel, n.status, n.sentAt, n.createdAt⟩

/-- The provider of a booking, with its user. -/
structure BookingProvider where
  id : Uuid
  userId : Uuid
  businessName : String
  profileImageUrl : Option String
  averageRating : ℚ
  totalReviews : Nat
  user : Contact

/-- The answer of `BookingRepository.findById`. -/
structure BookingDetails where
  booking : Booking
  customer : Contact
  customerStatus : UserStatus
  provider : BookingProvider
  providerService : Providers.ProviderService
  payments : List Payment
  review : Option Reviews.Review
  notifications : List NotificationInfo

/-- `orderBy: { createdAt: "desc" }`. -/
def latestFirst (notifications : List Notification) : List Notification :=
  notifications.insertionSort fun a b => b.createdAt ≤ a.createdAt

def BookingDetails.of (r : BookingRecord) : BookingDetails where
  booking := r.booking
  customer := .of r.customer
  customerStatus := r.customer.status
  provider := ⟨r.provider.id, r.provider.userId, r.provider.businessName, r.provider.profileImageUrl,
    r.provider.averageRating, r.provider.totalReviews, .of r.providerUser⟩
  providerService := r.providerService
  payments := r.payments
  review := r.review
  notifications := (latestFirst r.notifications).map .of

/-- `select: { id, status, amount, currency, gateway, createdAt }`. -/
structure PaymentInfo where
  id : Uuid
  status : PaymentStatus
  amount : ℚ
  currency : String
  gateway : PaymentGateway
  createdAt : Time

def PaymentInfo.of (p : Payment) : PaymentInfo :=
  ⟨p.id, p.status, p.amount, p.currency, p.gateway, p.createdAt⟩

/-- A row of the answer of `findAll`. -/
structure BookingItem where
  booking : Booking
  customer : Contact
  providerId : Uuid
  providerBusinessName : String
  providerImage : Option String
  offeringId : Uuid
  offeringPrice : ℚ
  offeringDuration : Nat
  payments : List PaymentInfo

def BookingItem.of (r : BookingRecord) : BookingItem where
  booking := r.booking
  customer := .of r.customer
  providerId := r.provider.id
  providerBusinessName := r.provider.businessName
  providerImage := r.provider.profileImageUrl
  offeringId := r.providerService.id
  offeringPrice := r.providerService.price
  offeringDuration := r.providerService.durationMinutes
  payments := r.payments.map .of

/-- The answer of `PaymentRepository.findById`: the payment, its booking, and of
the customer and the provider what is selected. -/
structure PaymentDetails where
  payment : Payment
  booking : Booking
  customerId : Uuid
  customerFirstName : String
  customerLastName : String
  customerEmail : String
  providerId : Uuid
  providerBusinessName : String
  providerUserId : Uuid

def PaymentDetails.of (p : Payment) (r : BookingRecord) : PaymentDetails where
  payment := p
  booking := r.booking
  customerId := r.customer.id
  customerFirstName := r.customer.firstName
  customerLastName := r.customer.lastName
  customerEmail := r.customer.email
  providerId := r.provider.id
  providerBusinessName := r.provider.businessName
  providerUserId := r.provider.userId

/-! ## Queries -/

/-- What `findAll` reads of the query. -/
structure QueryBookingsDto where
  status : Option BookingStatus
  dateFrom : Option String
  dateTo : Option String
  from_ : Option String
  to_ : Option String
  customerId : Option Uuid
  providerId : Option Uuid
  paymentStatus : Option PaymentStatus
  page : Option ℚ
  limit : Option ℚ

structure BookingFilters where
  customerId : Option Uuid := none
  providerId : Option Uuid := none

/-- `where`, with the dates as days. -/
structure BookingWhere where
  customerId : Option Uuid
  providerId : Option Uuid
  status : Option BookingStatus
  gte : Option Int
  lte : Option Int
  paymentStatus : Option PaymentStatus

def BookingWhere.test (w : BookingWhere) (r : BookingRecord) : Bool :=
  w.customerId.all (· == r.booking.customerId) && w.providerId.all (· == r.booking.providerId) &&
    w.status.all (· == r.booking.bookingStatus) &&
    w.gte.all (fun day => decide (day ≤ r.booking.bookingDate)) &&
    w.lte.all (fun day => decide (r.booking.bookingDate ≤ day)) &&
    w.paymentStatus.all fun status => r.payments.any (·.status == status)

/-- `orderBy: [{ bookingDate: "desc" }, { startTime: "desc" }]`; of rows that are
equal here, the one that was inserted first comes first. -/
def laterFirst (a b : BookingRecord) : Prop :=
  b.booking.bookingDate < a.booking.bookingDate ∨
    a.booking.bookingDate = b.booking.bookingDate ∧ b.booking.startTime ≤ a.booking.startTime

instance : DecidableRel laterFirst := fun _ _ => inferInstanceAs (Decidable (_ ∨ _))

/-- `a || b`, of texts. -/
def orElse (a b : Option String) : Option String := (a.filter (· ≠ "")).or (b.filter (· ≠ ""))

section
variable (host : Host) (mul : ℚ → ℚ → ℚ)

/-- `new Date(text)` as an argument of a query. -/
def dateArgument (text : Option String) : Except Exn (Option Int) :=
  match text with
  | none => .ok none
  | some text =>
      match host.date text with
      | some t => .ok (some (dateColumn t))
      | none => .error (.validation "Provided Date object is invalid. Expected Date.")

/-- A day without a time stands for its end. -/
def endOfDay (text : String) : String :=
  if text.length = 10 then text ++ "T23:59:59.999Z" else text

namespace BookingRepository

def findById (db : Db) (id : Uuid) : Option BookingDetails :=
  ((db.bookings.find? id).bind db.record).map .of

def where_ (queryDto : QueryBookingsDto) (filters : BookingFilters) : Except Exn BookingWhere := do
  let gte ← dateArgument host (orElse queryDto.dateFrom queryDto.from_)
  let lte ← dateArgument host ((orElse queryDto.dateTo queryDto.to_).map endOfDay)
  pure {
    customerId := orElse filters.customerId queryDto.customerId
    providerId := orElse filters.providerId queryDto.providerId
    status := queryDto.status
    gte := gte
    lte := lte
    paymentStatus := queryDto.paymentStatus }

def findAll (db : Db) (queryDto : QueryBookingsDto) (filters : BookingFilters) :
    Except Exn (Catalog.PaginatedResult BookingItem) := do
  let page := queryDto.page.getD 1
  let limit := queryDto.limit.getD 10
  let skip := mul (page - 1) limit
  let w ← where_ host queryDto filters
  let found := (db.records.filter w.test).insertionSort laterFirst
  let data ← Catalog.window skip limit (found.map BookingItem.of)
  -- the limit is an integer here, and the ceiling of the quotient is that of its double
  pure (Catalog.paginate (· / ·) data found.length page limit)

def findCustomerBooking (db : Db) (customerId : Uuid) (queryDto : QueryBookingsDto) :
    Except Exn (Catalog.PaginatedResult BookingItem) :=
  findAll host mul db queryDto { customerId := some customerId }

end BookingRepository

namespace PaymentRepository

def findById (db : Db) (id : Uuid) : Option PaymentDetails := do
  let payment ← db.payments.find? id
  let booking ← db.bookings.find? payment.bookingId
  let record ← db.record booking
  pure (.of payment record)

end PaymentRepository

/-! ## The services -/

namespace BookingService

def bookingNotFound (bookingId : Uuid) : Exn := .notFound s!"Booking with ID \"{bookingId}\" not found"

def getCustomerBookings (db : Db) (customerId : Uuid) (queryDto : QueryBookingsDto) :
    Except Exn (Catalog.PaginatedResult BookingItem) :=
  BookingRepository.findCustomerBooking host mul db customerId queryDto

def getBookingById (db : Db) (bookingId userId : Uuid) : Except Exn BookingDetails :=
  match BookingRepository.findById db bookingId with
  | none => .error (bookingNotFound bookingId)
  | some booking =>
      if booking.booking.customerId ≠ userId ∧ booking.provider.userId ≠ userId then
        .error (bookingNotFound bookingId)
      else .ok booking

/-- What `cancelBookingAsCustomer` answers, run on the state. -/
def cancelBookingAsCustomer (ctx : Ctx) (db : Db) (bookingId customerId : Uuid)
    (dto : CancelBookingDto) : Except Exn Booking :=
  ((ServiceHub.cancelBookingAsCustomer ctx bookingId customerId dto).serial ⟨none, db.core, []⟩).2

end BookingService

namespace PaymentService

def paymentNotFound (paymentId : Uuid) : Exn := .notFound s!"Payment with ID \"{paymentId}\" not found"

def getPaymentById (db : Db) (paymentId userId : Uuid) : Except Exn PaymentDetails :=
  match PaymentRepository.findById db paymentId with
  | none => .error (paymentNotFound paymentId)
  | some payment =>
      if payment.booking.customerId ≠ userId ∧ payment.providerUserId ≠ userId then
        .error (paymentNotFound paymentId)
      else .ok payment

end PaymentService

end

end ServiceHub.Records
