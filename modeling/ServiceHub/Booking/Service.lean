/-
# `Booking.Service` — `BookingService`

`booking.service.ts`: creating a booking, cancelling, expiring, completing and
flagging it.  Each function is a `Call`; the body of its transaction, a `Query`,
is a definition of its own where it has more than one statement to it.

Log messages are left out.
-/
import ServiceHub.Repositories
import ServiceHub.StateMachines
import Mathlib.Data.List.Infix

namespace ServiceHub

open Data Txn Prog

/-- The body of `POST /bookings`. -/
structure CreateBookingDto where
  providerServiceId : Uuid
  startsAt : String
  notes : Option String

structure CancelBookingDto where
  reason : Option String

/-! ## createBooking -/

/-- `const [h, m] = text.split(":").map(Number)`, then `h * 60 + m`; `none` for
`NaN`. -/
def clockMinutes (text : String) : Option Int :=
  match (text.toList.splitOn ':').map decimal with
  | some h :: some m :: _ => some (h * 60 + m)
  | _ => none

/-- The appointment and its buffer are within the window; `NaN` compares as
false. -/
def fitsInShift (startMinutes occupiedEndMinutes : Int) (shift : Availability) : Bool :=
  match clockMinutes shift.startTime, clockMinutes shift.endTime with
  | some shiftStart, some shiftEnd =>
      decide (startMinutes ≥ shiftStart) && decide (occupiedEndMinutes ≤ shiftEnd)
  | _, _ => false

/-- Step 3 of `createBooking`: the error for an instant outside the working
hours. -/
def checkWorkingHours (schedules : List Availability) (startsAtDate : Time)
    (durationMinutes bufferMinutes : Nat) : Option Exn :=
  let requestedWeekday := startsAtDate.getUTCDay
  let daySchedules := schedules.filter fun s => s.weekday == requestedWeekday && s.isAvailable
  let startMinutes := startsAtDate.getUTCHours * 60 + startsAtDate.getUTCMinutes
  let occupiedEndMinutes := startMinutes + durationMinutes + bufferMinutes
  if daySchedules.length = 0 then
    some (.badRequest "Provider is not available on this day of the week")
  else if !daySchedules.any (fitsInShift startMinutes occupiedEndMinutes) then
    some (.badRequest "Requested booking slot (including post-service buffer) exceeds provider working shift hours")
  else none

/-- `text.includes(part)`. -/
def includes (text part : String) : Bool := decide (part.toList <:+: text.toList)

/-- The errors that `createBooking` takes for a double booking. -/
def isBookingConflict (error : Exn) : Bool :=
  error.code == some "P2002" || error.code == some "P2010" || error.code == some "P2034" ||
    error.code == some "P2039" || error.code == some "23P01" || error.code == some "40001" ||
    includes error.message "no_provider_booking_overlap" || includes error.message "exclusion" ||
    includes error.message "conflict" || includes error.message "write conflict" ||
    includes error.message "conflicting key value violates exclusion constraint"

/-- The `catch` of `createBooking`. -/
def onBookingError {α : Type} (error : Exn) : Call α :=
  if isBookingConflict error then
    .throw (.conflict "The selected time slot is no longer available. Please select another slot.")
  else .throw error

/-- The `payment` of the answer to `createBooking`; `amount` in paise. -/
structure Checkout where
  id : Uuid
  gateway : PaymentGateway
  orderId : String
  amount : Int
  currency : String
  status : PaymentStatus

/-- The answer of `createBooking`: the booking, and what the checkout needs. -/
structure CreatedBooking extends Booking where
  payment : Checkout

/-- The booking that `createBooking` inserts. -/
def newBooking (ctx : Ctx) (customerId : Uuid) (dto : CreateBookingDto)
    (providerService : ProviderService) (provider : ProviderProfile) (service : Service)
    (startsAtDate : Time) : Booking where
  id := ctx.uuid 0
  customerId := customerId
  providerId := providerService.providerId
  providerServiceId := providerService.id
  bookingDate := dateColumn (startsAtDate.setUTCHours 0 0 0 0)
  startTime := timeColumn startsAtDate
  endTime := timeColumn (startsAtDate + (providerService.durationMinutes * 60 * 1000 : Nat))
  bookingStatus := .pendingPayment
  bookedPrice := providerService.price
  bookedDuration := providerService.durationMinutes
  bookedServiceMode := service.serviceMode
  serviceName := service.name
  providerBusinessName := provider.businessName
  customerNotes := dto.notes
  cancellationReason := none
  cancelledAt := none
  completedAt := none
  overdueAt := none
  needsReview := false
  createdAt := ctx.clock 3

/-- The payment that `createBooking` and `createPaymentOrder` insert. -/
def newPayment (id bookingId : Uuid) (gatewayOrderId : String) (amount : ℚ) (currency : String)
    (createdAt : Time) : Payment where
  id := id
  bookingId := bookingId
  gateway := .razorpay
  gatewayOrderId := gatewayOrderId
  gatewayPaymentId := none
  gatewaySignature := none
  amount := amount
  currency := currency
  status := .created
  paidAt := none
  refundedAt := none
  createdAt := createdAt

def bookingCreatedAudit (ctx : Ctx) (customerId : Uuid) (booking : Booking) (gatewayOrderId : String)
    (startsAtDate endsAtDate : Time) : AuditLog where
  id := ctx.uuid 2
  actorUserId := some customerId
  entityType := "Booking"
  entityId := booking.id
  action := .bookingCreated
  oldValue := none
  newValue := some (.object
    [("bookingStatus", status booking.bookingStatus),
      ("startsAt", text (toISOString startsAtDate)),
      ("endsAt", text (toISOString endsAtDate)),
      ("price", some (.num booking.bookedPrice)),
      ("gatewayOrderId", text gatewayOrderId)])
  createdAt := ctx.clock 5

/-- Booking, payment and audit row of a new booking. -/
def createBookingTx (ctx : Ctx) (customerId : Uuid) (row : Booking) (gatewayOrderId currency : String)
    (startsAtDate endsAtDate : Time) : Query CreatedBooking := do
  let booking ← BookingRepository.create row
  let payment ← PaymentRepository.create
    (newPayment (ctx.uuid 1) booking.id gatewayOrderId row.bookedPrice currency (ctx.clock 4))
  let _ ← AuditLogRepository.create
    (bookingCreatedAudit ctx customerId booking gatewayOrderId startsAtDate endsAtDate)
  pure
    { toBooking := booking
      payment :=
        { id := payment.id
          gateway := payment.gateway
          orderId := payment.gatewayOrderId
          amount := toSmallestCurrencyUnit payment.amount payment.currency
          currency := payment.currency
          status := payment.status } }

def createBooking (host : Host) (ctx : Ctx) (customerId : Uuid) (dto : CreateBookingDto) :
    Call CreatedBooking := do
  -- 1. the offering and its provider
  let offering ← autocommit Ext (ProviderServiceRepository.findById dto.providerServiceId)
  let providerService ← orThrow (offering.filter (·.isActive))
    (.notFound "Provider service offering not found or inactive")
  let provider ← orThrow (providerService.provider.filter (·.verificationStatus = .verified))
    (.badRequest "Provider profile is not verified")
  throwIf (provider.user.map (·.status) ≠ some .active)
    (.forbidden "Provider account is currently suspended or inactive")
  -- 2. not in the past, and within 30 days
  let startsAtDate ← orThrow (host.date dto.startsAt)
    (.badRequest "Invalid date format for startsAt")
  throwIf (startsAtDate < ctx.clock 0)
    (.badRequest "Booking start time cannot be in the past")
  throwIf (startsAtDate > host.addDays (ctx.clock 1) 30)
    (.badRequest "Bookings can only be scheduled up to 30 days in advance")
  -- 3. within a shift
  let schedules ← autocommit Ext
    (ProviderAvailabilityRepository.findByProviderId providerService.providerId)
  match checkWorkingHours schedules startsAtDate providerService.durationMinutes
      providerService.bufferMinutes with
  | some e => .throw e
  | none => do
      let endsAtDate : Time :=
        startsAtDate + (providerService.durationMinutes * 60 * 1000 : Nat)
      let currency := orDefault (some providerService.currency) "INR"
      let now := ctx.clock 2
      let gatewayOrder ← external
        (.createOrder
          { bookingId := "temp"
            amount := providerService.price
            currency := currency
            receipt := s!"rcpt_{now}" })
        ctx.createOrder .gateway
      catching
        (do
          let service ← orThrow providerService.service
            (.typeError "Cannot read properties of null (reading 'serviceMode')")
          let result ← transaction Ext (createBookingTx ctx customerId
            (newBooking ctx customerId dto providerService.toProviderService
              provider.toProviderProfile service startsAtDate)
            gatewayOrder.gatewayOrderId currency startsAtDate endsAtDate)
          enqueue ctx 0 (.schedulePaymentExpiration result.id (15 * 60 * 1000))
          pure result)
        onBookingError

/-! ## cancelBookingAsCustomer -/

/-- The instant that `bookingDate` and `startTime` stand for. -/
def Booking.appointmentStart (b : Booking) : Time :=
  let startTime : Time := b.startTime * 1000
  Time.setUTCHours (b.bookingDate * Time.msPerDay) startTime.getUTCHours startTime.getUTCMinutes
    startTime.getUTCSeconds 0

def cancelledAudit (ctx : Ctx) (bookingId customerId : Uuid) (reason : String) (booking : Booking) :
    AuditLog where
  id := ctx.uuid 0
  actorUserId := some customerId
  entityType := "Booking"
  entityId := bookingId
  action := .bookingCancelled
  oldValue := some (.object [("status", status booking.bookingStatus)])
  newValue := some (.object
    [("status", status BookingStatus.cancelled),
      ("cancellationReason", text reason),
      ("cancelledAt", text (toISOString (ctx.clock 2)))])
  createdAt := ctx.clock 3

/-- The transaction of a cancellation: the status, and the audit row. -/
def cancelBookingTx (ctx : Ctx) (bookingId customerId : Uuid) (reason : String)
    (booking : Booking) : Query Booking := do
  let updatedBooking ← BookingRepository.updateStatus (ctx.clock 1) bookingId .cancelled
    (some reason)
  let _ ← AuditLogRepository.create (cancelledAudit ctx bookingId customerId reason booking)
  pure updatedBooking

/-- At least two hours before the appointment. -/
def cancelBookingAsCustomer (ctx : Ctx) (bookingId customerId : Uuid) (dto : CancelBookingDto) :
    Call Booking := do
  let found ← autocommit Ext (BookingRepository.findById bookingId)
  let booking ← orThrow (found.filter (·.customerId = customerId))
    (.notFound s!"Booking with ID \"{bookingId}\" not found")
  throwIf (canTransitionBooking booking.bookingStatus .cancelled = false)
    (.badRequest s!"Cannot cancel booking in \"{booking.bookingStatus}\" status")
  let cancellationDeadlineMs := booking.appointmentStart - 2 * 60 * 60 * 1000
  throwIf (ctx.clock 0 ≥ cancellationDeadlineMs)
    (.conflict "Bookings cannot be cancelled within 2 hours of the scheduled appointment time.")
  let updatedBooking ← transaction Ext
    (cancelBookingTx ctx bookingId customerId (orDefault dto.reason "Cancelled by customer") booking)
  enqueue ctx 0 (.cancelPaymentExpiration bookingId)
  enqueue ctx 1 (.cancelOverdueCheck bookingId)
  enqueue ctx 2 (.cancelBookingReminders bookingId)
  pure updatedBooking

/-! ## expireBooking -/

/-- What `expireBooking` answers. -/
inductive ExpireResult where
  | skipped (reason : String) (currentStatus : Option BookingStatus)
  | expired (bookingId : Uuid)

def expiredAudit (ctx : Ctx) (bookingId : Uuid) (booking : Booking) : AuditLog where
  id := ctx.uuid 0
  actorUserId := some booking.customerId
  entityType := "Booking"
  entityId := bookingId
  action := .bookingCancelled
  oldValue := some (.object [("status", status booking.bookingStatus)])
  newValue := some (.object
    [("status", status BookingStatus.expired),
      ("reason", text "Payment window expired"),
      ("expiredAt", text (toISOString (ctx.clock 0)))])
  createdAt := ctx.clock 1

def expireBookingTx (ctx : Ctx) (bookingId : Uuid) : Query ExpireResult := do
  let found ← BookingRepository.findById bookingId
  match found with
  | none => pure (.skipped "booking_not_found" none)
  | some booking =>
      if booking.bookingStatus ≠ .pendingPayment then
        pure (.skipped "already_transitioned" (some booking.bookingStatus))
      else do
        -- exactly one worker performs the transition
        let count ← BookingRepository.updateMany
          { id := bookingId, bookingStatus := .pendingPayment }
          { bookingStatus := some .expired }
        if count = 0 then pure (.skipped "already_transitioned" none)
        else do
          let _ ← PaymentRepository.updateMany
            { bookingId := bookingId, status := [.created, .pending] }
            { status := .failed }
          let _ ← AuditLogRepository.create (expiredAudit ctx bookingId booking)
          pure (.expired bookingId)

def expireBooking (ctx : Ctx) (bookingId : Uuid) : Call ExpireResult :=
  transaction Ext (expireBookingTx ctx bookingId)

/-! ## completeBooking -/

/-- The audit row of a completion. -/
def completedAudit (ctx : Ctx) (bookingId userId : Uuid) (booking updated : Booking) :
    AuditLog where
  id := ctx.uuid 0
  actorUserId := some userId
  entityType := "Booking"
  entityId := bookingId
  action := .bookingCompleted
  oldValue := some (.object [("status", status booking.bookingStatus)])
  newValue := some (.object
    [("status", status BookingStatus.completed),
      ("completedAt", updated.completedAt.bind fun t => text (toISOString t))])
  createdAt := ctx.clock 1

def completeBookingTx (ctx : Ctx) (bookingId userId : Uuid) (booking : Booking) :
    Query Booking := do
  let updated ← BookingRepository.update bookingId
    { bookingStatus := some .completed, completedAt := some (ctx.clock 0) }
  let _ ← AuditLogRepository.create (completedAudit ctx bookingId userId booking updated)
  pure updated

def completeBooking (ctx : Ctx) (bookingId userId : Uuid) (role : Option Role) : Call Booking := do
  let found ← autocommit Ext (BookingRepository.findById bookingId)
  let booking ← orThrow found (.notFound s!"Booking with ID \"{bookingId}\" not found")
  let provider ← autocommit Ext (BookingRepository.includeProvider booking)
  let isProvider : Bool := provider.map (·.userId) == some userId
  let isAdmin : Bool := role == some .admin
  throwIf (isProvider = false ∧ isAdmin = false)
    (.forbidden "Only the assigned provider or an admin can mark this booking as completed")
  throwIf (canTransitionBooking booking.bookingStatus .completed = false)
    (.badRequest
      s!"Cannot complete booking in \"{booking.bookingStatus}\" status. Booking must be CONFIRMED.")
  let updatedBooking ← transaction Ext (completeBookingTx ctx bookingId userId booking)
  enqueue ctx 0 (.cancelOverdueCheck bookingId)
  pure updatedBooking

/-! ## flagOverdueBooking -/

/-- What `flagOverdueBooking` answers. -/
inductive FlagResult where
  | skipped (reason : String) (currentStatus : Option BookingStatus)
  | flagged (bookingId : Uuid)

def overdueAudit (ctx : Ctx) (bookingId : Uuid) (booking : Booking) : AuditLog where
  id := ctx.uuid 0
  actorUserId := none
  entityType := "Booking"
  entityId := bookingId
  action := .bookingFlaggedOverdue
  oldValue := some (.object
    [("status", status booking.bookingStatus), ("needsReview", some (.bool false))])
  newValue := some (.object
    [("status", status booking.bookingStatus), ("needsReview", some (.bool true)),
      ("overdueAt", text (toISOString (ctx.clock 1)))])
  createdAt := ctx.clock 2

def flagOverdueBookingTx (ctx : Ctx) (bookingId : Uuid) : Query FlagResult := do
  let found ← BookingRepository.findById bookingId
  match found with
  | none => pure (.skipped "booking_not_found" none)
  | some booking =>
      if booking.bookingStatus ≠ .confirmed then
        pure (.skipped "not_confirmed" (some booking.bookingStatus))
      else if booking.needsReview then pure (.skipped "already_flagged" none)
      else do
        -- exactly one worker flags it
        let count ← BookingRepository.updateMany
          { id := bookingId, bookingStatus := .confirmed, needsReview := some false }
          { needsReview := some true, overdueAt := some (ctx.clock 0) }
        if count = 0 then pure (.skipped "already_transitioned" none)
        else do
          let _ ← AuditLogRepository.create (overdueAudit ctx bookingId booking)
          pure (.flagged bookingId)

def flagOverdueBooking (ctx : Ctx) (bookingId : Uuid) : Call FlagResult :=
  transaction Ext (flagOverdueBookingTx ctx bookingId)

end ServiceHub
