/-
# `Payment.Service` — `PaymentService`

`payment.service.ts`: opening a payment order, verifying a payment of the
client, receiving a webhook delivery, refunding.

**Webhook payloads** are JSON that the gateway sends; the code reads them as
JavaScript does.  A field that is missing is `undefined`, a value of the wrong
type is passed on, and Prisma refuses it where a text is due (`requireString`,
`optionalString`).

Log messages are left out.
-/
import ServiceHub.Repositories
import ServiceHub.StateMachines
import ServiceHub.Booking.Service

namespace ServiceHub

open Data Txn Prog

structure VerifyPaymentDto where
  razorpayOrderId : String
  razorpayPaymentId : String
  razorpaySignature : String

structure RefundPaymentDto where
  amount : Option ℚ
  reason : Option String

/-! ## createPaymentOrder -/

def createPaymentOrder (ctx : Ctx) (customerId bookingId : Uuid) : Call Payment := do
  let found ← autocommit Ext (BookingRepository.findById bookingId)
  let booking ← orThrow found (.notFound s!"Booking with ID \"{bookingId}\" not found")
  throwIf (booking.customerId ≠ customerId)
    (.forbidden "You are not authorized to pay for this booking")
  throwIf (booking.bookingStatus ≠ .pendingPayment)
    (.badRequest s!"Cannot create payment order for booking in status \"{booking.bookingStatus}\"")
  let existingPayment ← autocommit Ext (PaymentRepository.findByBookingId booking.id)
  match existingPayment.filter (·.status = .created) with
  | some payment => pure payment
  | none => do
      let short := String.ofList (booking.id.toList.take 8)
      let gatewayOrder ← external
        (.createOrder
          { bookingId := booking.id
            amount := booking.bookedPrice
            currency := "INR"
            receipt := s!"rcpt_{short}" })
        ctx.createOrder .gateway
      autocommit Ext (PaymentRepository.create
        (newPayment (ctx.uuid 0) booking.id gatewayOrder.gatewayOrderId booking.bookedPrice
          gatewayOrder.currency (ctx.clock 0)))

/-! ## verifyClientPayment -/

structure VerifyResult where
  message : String
  bookingId : Uuid
  bookingStatus : BookingStatus
  paymentStatus : PaymentStatus
  paidAt : Option Time

def verifiedPaymentAudit (ctx : Ctx) (customerId : Uuid) (dto : VerifyPaymentDto)
    (payment : PaymentWithBooking) : AuditLog where
  id := ctx.uuid 0
  actorUserId := some customerId
  entityType := "Payment"
  entityId := payment.id
  action := .paymentSuccess
  oldValue := some (.object [("status", status payment.status)])
  newValue := some (.object
    [("status", status PaymentStatus.success), ("gatewayPaymentId", text dto.razorpayPaymentId)])
  createdAt := ctx.clock 2

def verifiedBookingAudit (ctx : Ctx) (customerId : Uuid) (payment : PaymentWithBooking) :
    AuditLog where
  id := ctx.uuid 1
  actorUserId := some customerId
  entityType := "Booking"
  entityId := payment.bookingId
  action := .bookingConfirmed
  oldValue := some (.object [("status", status payment.booking.bookingStatus)])
  newValue := some (.object [("status", status BookingStatus.confirmed)])
  createdAt := ctx.clock 3

def verifyClientPaymentTx (ctx : Ctx) (customerId : Uuid) (dto : VerifyPaymentDto)
    (payment : PaymentWithBooking) : Query VerifyResult := do
  let updatedPayment ← PaymentRepository.updateStatus payment.id .success
    { gatewayPaymentId := some (.text dto.razorpayPaymentId)
      gatewaySignature := some dto.razorpaySignature
      paidAt := some (ctx.clock 0) }
  let updatedBooking ← BookingRepository.updateStatus (ctx.clock 1) payment.bookingId .confirmed
    none
  let _ ← AuditLogRepository.create (verifiedPaymentAudit ctx customerId dto payment)
  let _ ← AuditLogRepository.create (verifiedBookingAudit ctx customerId payment)
  pure
    { message := "Payment verified successfully"
      bookingId := updatedBooking.id
      bookingStatus := updatedBooking.bookingStatus
      paymentStatus := updatedPayment.status
      paidAt := updatedPayment.paidAt }

/-- The queue calls after a confirmation. -/
def afterConfirmation (ctx : Ctx) (bookingId : Uuid) : Call Unit := do
  enqueue ctx 0 (.cancelPaymentExpiration bookingId)
  enqueue ctx 1 (.scheduleBookingOverdueCheck bookingId)
  enqueue ctx 2 (.scheduleBookingLifecycleNotifications bookingId)

def verifyClientPayment (host : Host) (ctx : Ctx) (customerId : Uuid) (dto : VerifyPaymentDto) :
    Call VerifyResult := do
  let orderId := dto.razorpayOrderId
  let found ← autocommit Ext (PaymentRepository.findByGatewayOrderId orderId)
  let payment ← orThrow found (.notFound s!"Payment record for order \"{orderId}\" not found")
  throwIf (payment.booking.customerId ≠ customerId)
    (.forbidden "You are not authorized to verify this payment")
  throwIf (verifyPaymentSignature host orderId dto.razorpayPaymentId dto.razorpaySignature = false)
    (.badRequest "Invalid payment signature")
  if payment.status = .success ∧ payment.booking.bookingStatus = .confirmed then
    pure
      { message := "Payment already verified"
        bookingId := payment.bookingId
        bookingStatus := payment.booking.bookingStatus
        paymentStatus := payment.status
        paidAt := none }
  else do
    throwIf (payment.booking.bookingStatus ≠ .pendingPayment)
      (.badRequest
        s!"Cannot confirm booking in \"{payment.booking.bookingStatus}\" status. The reservation may have expired.")
    throwIf (canTransitionPayment payment.status .success = false)
      (.badRequest s!"Cannot transition payment from \"{payment.status}\" to \"SUCCESS\"")
    let result ← transaction Ext (verifyClientPaymentTx ctx customerId dto payment)
    afterConfirmation ctx payment.bookingId
    pure result

/-! ## handleWebhookEvent -/

def asText : Option Json → Option String
  | some (.str s) => some s
  | _ => none

/-- A JSON value where Prisma expects a text. -/
def requireString (o : Option Json) : Query String :=
  orThrow (asText o) (.validation "Invalid value provided. Expected String.")

/-- What an update of a nullable text column takes a value for. -/
def asInput (host : Host) : Option Json → Option PaymentRepository.TextInput
  | some (.str s) => some (.text s)
  | some j => (host.setOperand j).map .set
  | none => none

/-- A falsy value is left out of the update. -/
def optionalString (host : Host) (o : Option Json) :
    Query (Option PaymentRepository.TextInput) :=
  if Json.truthy o then do
    let input ← orThrow (asInput host o)
      (.validation "Invalid value provided. Expected String, NullableStringFieldUpdateOperationsInput or Null.")
    pure (some input)
  else pure none

/-- What the code reads from a delivery. -/
structure WebhookEvent where
  payload : Json
  eventName : Option Json
  eventId : Option Json
  paymentEntity : Option Json
  gatewayOrderId : Option Json
  gatewayPaymentId : Option Json

/-- Steps 2 and 4 of `handleWebhookEvent`. -/
def readWebhookEvent (host : Host) (headerEventId : Option String) (eventPayload : Json) :
    WebhookEvent :=
  let eventName := eventPayload.prop "event"
  let inner := eventPayload.prop "payload"
  let paymentEntity := Json.optProp (Json.optProp inner "payment") "entity"
  let orderEntity := Json.optProp (Json.optProp inner "order") "entity"
  let gatewayPaymentId := Json.optProp paymentEntity "id"
  { payload := eventPayload
    eventName := eventName
    eventId :=
      Json.or (headerEventId.map .str) (Json.or (eventPayload.prop "event_id")
        (Json.or (eventPayload.prop "id")
          (text (host.template gatewayPaymentId ++ "_" ++ host.template eventName))))
    paymentEntity := paymentEntity
    gatewayOrderId := Json.or (Json.optProp paymentEntity "order_id") (Json.optProp orderEntity "id")
    gatewayPaymentId := gatewayPaymentId }

/-- `paymentEntity?.amount && Number(paymentEntity.amount) !== expectedAmountPaise`. -/
def amountDiffers (host : Host) (payment : Payment) (paymentEntity : Option Json) : Bool :=
  let amount := Json.optProp paymentEntity "amount"
  Json.truthy amount &&
    decide (amount.bind host.number
      ≠ some ((toSmallestCurrencyUnit payment.amount payment.currency : Int) : ℚ))

/-- `paymentEntity?.currency && paymentEntity.currency.toUpperCase() !==
payment.currency.toUpperCase()`; only texts have the method. -/
def currencyDiffers (host : Host) (payment : Payment) (paymentEntity : Option Json) :
    Except Exn Bool :=
  if Json.truthy (Json.optProp paymentEntity "currency") then
    match Json.optProp paymentEntity "currency" with
    | some (.str s) => .ok (decide (host.toUpperCase s ≠ host.toUpperCase payment.currency))
    | _ => .error (.typeError "paymentEntity.currency.toUpperCase is not a function")
  else .ok false

def webhookConfirmedAudit (ctx : Ctx) (payment : PaymentWithBooking)
    (currentStatus : Option BookingStatus) : AuditLog where
  id := ctx.uuid 1
  actorUserId := some payment.booking.customerId
  entityType := "Booking"
  entityId := payment.bookingId
  action := .bookingConfirmed
  oldValue := some (.object [("status", currentStatus.bind status)])
  newValue := some (.object
    [("status", status BookingStatus.confirmed), ("source", text "webhook")])
  createdAt := ctx.clock 2

/-- The row that says that captured money has to be paid back. -/
def refundFlagAudit (ctx : Ctx) (payment : PaymentWithBooking)
    (currentStatus : Option BookingStatus) : AuditLog where
  id := ctx.uuid 1
  actorUserId := some payment.booking.customerId
  entityType := "Booking"
  entityId := payment.bookingId
  action := .paymentSuccess
  oldValue := some (.object [("status", currentStatus.bind status)])
  newValue :=
    let shown := (currentStatus.map toString).getD "undefined"
    some (.object
      [("status", currentStatus.bind status),
        ("flag", text "REQUIRES_REFUND"),
        ("reason", text s!"Payment succeeded after booking was {shown}")])
  createdAt := ctx.clock 2

def capturedAudit (ctx : Ctx) (payment : PaymentWithBooking) (eventType : String) : AuditLog where
  id := ctx.uuid 2
  actorUserId := some payment.booking.customerId
  entityType := "Payment"
  entityId := payment.id
  action := .paymentSuccess
  oldValue := some (.object [("status", status payment.status)])
  newValue := some (.object [("status", status PaymentStatus.success), ("event", text eventType)])
  createdAt := ctx.clock 4

/-- The booking is confirmed if it waits for the money, and flagged otherwise.
Answers the booking it confirmed. -/
def settleBooking (ctx : Ctx) (payment : PaymentWithBooking) : Query (Option Uuid) := do
  let currentBooking ← BookingRepository.findById payment.bookingId
  let currentStatus := currentBooking.map (·.bookingStatus)
  if currentStatus = some .pendingPayment then do
    let _ ← BookingRepository.updateStatus (ctx.clock 1) payment.bookingId .confirmed none
    let _ ← AuditLogRepository.create (webhookConfirmedAudit ctx payment currentStatus)
    pure (some payment.bookingId)
  else do
    let _ ← AuditLogRepository.create (refundFlagAudit ctx payment currentStatus)
    pure none

/-- The payment becomes SUCCESS, whatever became of the booking. -/
def settlePayment (host : Host) (ctx : Ctx) (payment : PaymentWithBooking) (event : WebhookEvent)
    (eventType : String) : Query Unit := do
  let gatewayPaymentId ← optionalString host
    (Json.or event.gatewayPaymentId (payment.gatewayPaymentId.map .str))
  let _ ← PaymentRepository.updateStatus payment.id .success
    { gatewayPaymentId := gatewayPaymentId, paidAt := some (ctx.clock 3) }
  let _ ← AuditLogRepository.create (capturedAudit ctx payment eventType)
  pure ()

/-- The captured money of an unpaid payment. -/
def settleCapture (host : Host) (ctx : Ctx) (payment : PaymentWithBooking) (event : WebhookEvent)
    (eventType : String) : Query (Option Uuid) := do
  let confirmedBookingId ← settleBooking ctx payment
  settlePayment host ctx payment event eventType
  pure confirmedBookingId

/-- `case "payment.captured"` and `case "order.paid"`. -/
def handleCaptured (host : Host) (ctx : Ctx) (payment : PaymentWithBooking) (event : WebhookEvent)
    (eventType : String) : Query (Option Uuid) :=
  if payment.status = .success then pure none
  else if canTransitionPayment payment.status .success = false then pure none
  else if amountDiffers host payment.toPayment event.paymentEntity then pure none
  else
    match currencyDiffers host payment.toPayment event.paymentEntity with
    | .error e => .throw e
    | .ok true => pure none
    | .ok false => settleCapture host ctx payment event eventType

def failedAudit (ctx : Ctx) (payment : PaymentWithBooking) (event : WebhookEvent) : AuditLog where
  id := ctx.uuid 1
  actorUserId := some payment.booking.customerId
  entityType := "Payment"
  entityId := payment.id
  action := .paymentFailed
  oldValue := none
  newValue := some (.object
    [("status", status PaymentStatus.failed),
      ("error", Json.optProp event.paymentEntity "error_description")])
  createdAt := ctx.clock 1

/-- `case "payment.failed"`. -/
def handleFailed (host : Host) (ctx : Ctx) (payment : PaymentWithBooking) (event : WebhookEvent) :
    Query Unit :=
  if payment.status ≠ .failed then do
    let gatewayPaymentId ← optionalString host event.gatewayPaymentId
    let _ ← PaymentRepository.updateStatus payment.id .failed
      { gatewayPaymentId := gatewayPaymentId }
    let _ ← AuditLogRepository.create (failedAudit ctx payment event)
    pure ()
  else pure ()

/-- `case "refund.processed"` and `case "payment.refunded"`. -/
def handleRefunded (ctx : Ctx) (payment : PaymentWithBooking) : Query Unit :=
  if payment.status ≠ .refunded then do
    let _ ← PaymentRepository.updateStatus payment.id .refunded
      { refundedAt := some (ctx.clock 1) }
    pure ()
  else pure ()

/-- The row that `recordWebhookEvent` inserts. -/
def newWebhookEvent (ctx : Ctx) (eventId eventType : String) (payload : Json)
    (processedAt : Option Time) : PaymentWebhookEvent where
  id := ctx.uuid 0
  gateway := .razorpay
  eventId := eventId
  eventType := eventType
  payload := payload
  processedAt := processedAt
  createdAt := ctx.clock 0

/-- `switch (eventName)`.  Answers the booking it confirmed. -/
def handleEvent (host : Host) (ctx : Ctx) (payment : PaymentWithBooking) (event : WebhookEvent)
    (eventType : String) : Query (Option Uuid) :=
  if eventType = "payment.captured" ∨ eventType = "order.paid" then
    handleCaptured host ctx payment event eventType
  else if eventType = "payment.failed" then do
    handleFailed host ctx payment event
    pure none
  else if eventType = "refund.processed" ∨ eventType = "payment.refunded" then do
    handleRefunded ctx payment
    pure none
  else pure none

/-- The transaction of a delivery. -/
def webhookTx (host : Host) (ctx : Ctx) (payment : PaymentWithBooking) (event : WebhookEvent)
    (eventId : String) : Query (Option Uuid) := do
  let eventType ← requireString event.eventName
  let recordedEvent ← PaymentRepository.recordWebhookEvent host
    (newWebhookEvent ctx eventId eventType event.payload none)
  let confirmedBookingId ← handleEvent host ctx payment event eventType
  let _ ← PaymentRepository.markWebhookEventProcessed (ctx.clock 5) recordedEvent.id
  pure confirmedBookingId

inductive WebhookResult where
  | alreadyProcessed
  | ignored
  | processed
  deriving DecidableEq

/-- Record the delivery outside a transaction and go no further. -/
def recordAndSkip (host : Host) (ctx : Ctx) (event : WebhookEvent) (eventId : String) :
    Query WebhookResult := do
  let eventType ← requireString event.eventName
  let _ ← PaymentRepository.recordWebhookEvent host
    (newWebhookEvent ctx eventId eventType event.payload (some (ctx.clock 0)))
  pure .ignored

/-- A delivery that has been verified and parsed. -/
def processWebhookEvent (host : Host) (ctx : Ctx) (event : WebhookEvent) : Call WebhookResult := do
  let eventId ← autocommit Ext (requireString event.eventId)
  let existingEvent ← autocommit Ext (PaymentRepository.findWebhookEvent .razorpay eventId)
  if (existingEvent.bind (·.processedAt)).isSome then pure .alreadyProcessed
  else if Json.truthy event.gatewayOrderId = false then
    autocommit Ext (recordAndSkip host ctx event eventId)
  else do
    let gatewayOrderId ← autocommit Ext (requireString event.gatewayOrderId)
    let found ← autocommit Ext (PaymentRepository.findByGatewayOrderId gatewayOrderId)
    match found with
    | none => autocommit Ext (recordAndSkip host ctx event eventId)
    | some payment =>
        catching
          (do
            let confirmedBookingId ← transaction Ext (webhookTx host ctx payment event eventId)
            match confirmedBookingId with
            | some bookingId => do
                afterConfirmation ctx bookingId
                pure .processed
            | none => pure .processed)
          fun error =>
            if error.isDuplicate then pure .alreadyProcessed else .throw error

/-- A delivery as the controller passes it on; `rawBody` is there. -/
structure Delivery where
  rawBody : List UInt8
  signature : Option String
  headerEventId : Option String

/-- Steps 1 and 2 of `handleWebhookEvent`: the signature is checked against the
bytes received, then they are parsed and read. -/
def readDelivery (host : Host) (delivery : Delivery) : Except Exn WebhookEvent :=
  match delivery.signature.filter (· ≠ "") with
  | none => .error (.badRequest "Missing webhook payload or signature")
  | some signature =>
      if verifyWebhookSignature host delivery.rawBody signature = false then
        .error (.badRequest "Invalid webhook signature")
      else
        match host.jsonParse delivery.rawBody with
        | none => .error (.badRequest "Malformed JSON in webhook body")
        | some .null => .error (.typeError "Cannot read properties of null (reading 'event')")
        | some eventPayload => .ok (readWebhookEvent host delivery.headerEventId eventPayload)

def handleWebhookEvent (host : Host) (ctx : Ctx) (delivery : Delivery) : Call WebhookResult :=
  match readDelivery host delivery with
  | .error e => .throw e
  | .ok event => processWebhookEvent host ctx event

/-! ## refundPayment -/

structure RefundResult where
  paymentId : Uuid
  status : PaymentStatus
  refundId : String
  refundedAt : Option Time

/-- Step 3 of `refundPayment`: the error for a partial amount out of range. -/
def checkRefundAmount (host : Host) (capturedAmount : ℚ) (amount : Option ℚ) : Option Exn :=
  match amount with
  | none => none
  | some refundAmount =>
      if refundAmount ≤ 0 then some (.badRequest "Refund amount must be greater than zero")
      else if refundAmount > capturedAmount then
        let refund := host.stringOf (.num refundAmount)
        let captured := host.stringOf (.num capturedAmount)
        some (.badRequest s!"Refund amount ({refund}) cannot exceed captured amount ({captured})")
      else none

def refundedAudit (ctx : Ctx) (adminUserId : Uuid) (dto : RefundPaymentDto)
    (payment : PaymentWithBooking) (refundId : String) : AuditLog where
  id := ctx.uuid 0
  actorUserId := some adminUserId
  entityType := "Payment"
  entityId := payment.id
  action := .paymentRefunded
  oldValue := some (.object [("status", status payment.status)])
  newValue := some (.object
    [("status", status PaymentStatus.refunded),
      ("refundId", text refundId),
      ("reason", text (orDefault dto.reason "Admin refund"))])
  createdAt := ctx.clock 2

def refundPaymentTx (ctx : Ctx) (adminUserId : Uuid) (dto : RefundPaymentDto)
    (payment : PaymentWithBooking) (refundId : String) : Query RefundResult := do
  let updatedPayment ← PaymentRepository.updateStatus payment.id .refunded
    { refundedAt := some (ctx.clock 0) }
  if payment.booking.bookingStatus ≠ .cancelled then do
    let _ ← BookingRepository.updateStatus (ctx.clock 1) payment.bookingId .cancelled
      (some (orDefault dto.reason "Refunded by Admin"))
    pure ()
  else pure ()
  let _ ← AuditLogRepository.create (refundedAudit ctx adminUserId dto payment refundId)
  pure
    { paymentId := updatedPayment.id
      status := updatedPayment.status
      refundId := refundId
      refundedAt := updatedPayment.refundedAt }

/-- `dto.amount || capturedAmount`. -/
def refundAmount (capturedAmount : ℚ) (dto : RefundPaymentDto) : ℚ :=
  (dto.amount.filter (· ≠ 0)).getD capturedAmount

def refundPayment (host : Host) (ctx : Ctx) (adminUserId paymentId : Uuid)
    (dto : RefundPaymentDto) : Call RefundResult := do
  let found ← autocommit Ext (PaymentRepository.findById paymentId)
  let payment ← orThrow found (.notFound s!"Payment with ID \"{paymentId}\" not found")
  throwIf (payment.status = .refunded) (.badRequest "Payment has already been refunded")
  throwIf (payment.status ≠ .success)
    (.badRequest s!"Only SUCCESS payments can be refunded. Current status: \"{payment.status}\"")
  let capturedAmount := payment.amount
  match checkRefundAmount host capturedAmount dto.amount with
  | some e => .throw e
  | none => do
      let gatewayPaymentId ← orThrow (payment.gatewayPaymentId.filter (· ≠ ""))
        (.badRequest "Payment does not have a gateway transaction ID")
      let refundResult ← external
        (.createRefund
          { paymentId := gatewayPaymentId
            amount := refundAmount capturedAmount dto
            reason := orDefault dto.reason "Admin initiated refund" })
        ctx.createRefund .gateway
      transaction Ext (refundPaymentTx ctx adminUserId dto payment refundResult.refundId)

end ServiceHub
