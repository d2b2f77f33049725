/-
# `Changes` — everything that one operation run alone can commit

`Change host ctx db request rows` lists, for each operation, the rows it may
have written when it is over, with what it found in the database `db` before.
It is read off the programs of `Booking.Service` and `Payment.Service` one exit
at a time; that they write nothing else is `runAlone_change`, and every
invariant of a sequence of operations is proved from it by cases.

`WebhookChange` does the same for a webhook delivery and also says what was
answered, since the gateway delivers again what is not answered.
-/
import ServiceHub.Operations

namespace ServiceHub

open Data Txn

/-- The columns set by each update of a booking or payment. -/
def cancelData (ctx : Ctx) (dto : CancelBookingDto) : BookingUpdate :=
  BookingRepository.statusData (ctx.clock 1) .cancelled
    (some (orDefault dto.reason "Cancelled by customer"))

def expireData : BookingUpdate := { bookingStatus := some .expired }

def completeData (ctx : Ctx) : BookingUpdate :=
  { bookingStatus := some .completed, completedAt := some (ctx.clock 0) }

def overdueData (ctx : Ctx) : BookingUpdate :=
  { needsReview := some true, overdueAt := some (ctx.clock 0) }

def confirmData (ctx : Ctx) : BookingUpdate :=
  BookingRepository.statusData (ctx.clock 1) .confirmed none

def refundBookingData (ctx : Ctx) (dto : RefundPaymentDto) : BookingUpdate :=
  BookingRepository.statusData (ctx.clock 1) .cancelled
    (some (orDefault dto.reason "Refunded by Admin"))

def expirePaymentData : PaymentUpdate := { status := .failed }

def verifyData (ctx : Ctx) (dto : VerifyPaymentDto) : PaymentUpdate :=
  PaymentRepository.statusData .success
    { gatewayPaymentId := some (.text dto.razorpayPaymentId)
      gatewaySignature := some dto.razorpaySignature
      paidAt := some (ctx.clock 0) }

/-- What `optionalString` passes on. -/
def inputIfTruthy (host : Host) (o : Option Json) : Option PaymentRepository.TextInput :=
  if Json.truthy o then asInput host o else none

def captureData (host : Host) (ctx : Ctx) (payment : Payment) (event : WebhookEvent) :
    PaymentUpdate :=
  PaymentRepository.statusData .success
    { gatewayPaymentId := inputIfTruthy host
        (Json.or event.gatewayPaymentId (payment.gatewayPaymentId.map .str))
      paidAt := some (ctx.clock 3) }

def failData (host : Host) (event : WebhookEvent) : PaymentUpdate :=
  PaymentRepository.statusData .failed
    { gatewayPaymentId := inputIfTruthy host event.gatewayPaymentId }

def reconcileData (ctx : Ctx) : PaymentUpdate :=
  PaymentRepository.statusData .refunded { refundedAt := some (ctx.clock 1) }

def refundData (ctx : Ctx) : PaymentUpdate :=
  PaymentRepository.statusData .refunded { refundedAt := some (ctx.clock 0) }

/-- The unpaid payments of a booking, which `expireBooking` fails. -/
def Db.unpaid (db : Db) (bookingId : Uuid) : List Payment :=
  db.payments.rows.filter
    (PaymentWhere.test { bookingId := bookingId, status := [.created, .pending] })

section
variable (host : Host) (ctx : Ctx) (db : Db)

/-! ## A webhook delivery -/

/-- The payment and booking that a delivery is about. -/
structure Concerns (event : WebhookEvent) (payment : PaymentWithBooking) : Prop where
  given : Json.truthy event.gatewayOrderId = true
  orderId : ∃ orderId, asText event.gatewayOrderId = some orderId ∧
    db.paymentByOrder orderId = some payment.toPayment
  booking : db.bookings.find? payment.bookingId = some payment.booking

def isCapture (eventType : String) : Prop :=
  eventType = "payment.captured" ∨ eventType = "order.paid"

def isRefund (eventType : String) : Prop :=
  eventType = "refund.processed" ∨ eventType = "payment.refunded"

instance (eventType : String) : Decidable (isCapture eventType) :=
  inferInstanceAs (Decidable (_ ∨ _))

instance (eventType : String) : Decidable (isRefund eventType) :=
  inferInstanceAs (Decidable (_ ∨ _))

/-- The amount or the currency of the delivery is not the payment's. -/
def Tampered (payment : Payment) (event : WebhookEvent) : Prop :=
  amountDiffers host payment event.paymentEntity = true ∨
    currencyDiffers host payment event.paymentEntity = .ok true

/-- The update of the payment that an event makes, if it makes one. -/
def SetsPayment (payment : PaymentWithBooking) (event : WebhookEvent) (eventType : String)
    (data : PaymentUpdate) : Prop :=
  (isCapture eventType ∧ data = captureData host ctx payment.toPayment event) ∨
    (eventType = "payment.failed" ∧ data = failData host event) ∨
    (isRefund eventType ∧ data = reconcileData ctx)

/-- The rows that the handler of an event writes, between recording the event
and marking it as processed. -/
inductive EventChange (payment : PaymentWithBooking) (event : WebhookEvent) (eventType : String) :
    List Row → Prop where
  | paidAlready : isCapture eventType → payment.status = .success →
      EventChange payment event eventType []
  | notPayable : isCapture eventType → canTransitionPayment payment.status .success = false →
      EventChange payment event eventType []
  | tampered : isCapture eventType → Tampered host payment.toPayment event →
      EventChange payment event eventType []
  | confirmed : isCapture eventType → payment.status ≠ .success →
      canTransitionPayment payment.status .success = true →
      payment.booking.bookingStatus = .pendingPayment →
      EventChange payment event eventType
        [.booking ((confirmData ctx).on payment.booking),
          .audit (webhookConfirmedAudit ctx payment (some payment.booking.bookingStatus)),
          .payment ((captureData host ctx payment.toPayment event).on payment.toPayment),
          .audit (capturedAudit ctx payment eventType)]
  | flagged : isCapture eventType → payment.status ≠ .success →
      canTransitionPayment payment.status .success = true →
      payment.booking.bookingStatus ≠ .pendingPayment → ctx.uuid 2 ≠ ctx.uuid 1 →
      EventChange payment event eventType
        [.audit (refundFlagAudit ctx payment (some payment.booking.bookingStatus)),
          .payment ((captureData host ctx payment.toPayment event).on payment.toPayment),
          .audit (capturedAudit ctx payment eventType)]
  | failed : eventType = "payment.failed" → payment.status ≠ .failed →
      db.clashes (.payment ((failData host event).on payment.toPayment)) = false →
      EventChange payment event eventType
        [.payment ((failData host event).on payment.toPayment), .audit (failedAudit ctx payment event)]
  | reconciled : isRefund eventType → payment.status ≠ .refunded →
      db.clashes (.payment ((reconcileData ctx).on payment.toPayment)) = false →
      EventChange payment event eventType [.payment ((reconcileData ctx).on payment.toPayment)]
  | other : ¬ isCapture eventType → EventChange payment event eventType []

/-- The rows that a delivery writes, and its answer. -/
inductive WebhookChange (event : WebhookEvent) : List Row → Except Exn WebhookResult → Prop where
  | refused (e : Exn) : WebhookChange event [] (.error e)
  | duplicate {eventId : String} {e : PaymentWebhookEvent} :
      asText event.eventId = some eventId → db.eventById .razorpay eventId = some e →
      WebhookChange event [] (.ok .alreadyProcessed)
  | skipped {eventId eventType : String} : asText event.eventId = some eventId →
      asText event.eventName = some eventType → (∀ payment, ¬ Concerns db event payment) →
      WebhookChange event
        [.event (newWebhookEvent ctx eventId eventType event.payload (some (ctx.clock 0)))]
        (.ok .ignored)
  | clashed {eventType : String} {payment : PaymentWithBooking} {data : PaymentUpdate} :
      asText event.eventName = some eventType → Concerns db event payment →
      SetsPayment host ctx payment event eventType data →
      db.clashes (.payment (data.on payment.toPayment)) = true →
      WebhookChange event [] (.ok .alreadyProcessed)
  | processed {eventId eventType : String} {payment : PaymentWithBooking} {rows : List Row}
      (result : Except Exn WebhookResult) : asText event.eventId = some eventId →
      asText event.eventName = some eventType → Concerns db event payment →
      db.eventById .razorpay eventId = none →
      EventChange host ctx db payment event eventType rows →
      (∀ w, result = .ok w → w = .processed) →
      WebhookChange event
        (.event (newWebhookEvent ctx eventId eventType event.payload none) :: rows ++
          [.event ((newWebhookEvent ctx eventId eventType event.payload none).processed
            (ctx.clock 5))])
        result

/-- A verified delivery of an event about a payment, under an event id that is
not recorded. -/
structure Delivers (op : Op) (event : WebhookEvent) (eventType : String)
    (payment : PaymentWithBooking) : Prop where
  read : ∃ delivery, op.request = .handleWebhookEvent delivery ∧
    readDelivery host delivery = .ok event
  fresh : ∃ eventId, asText event.eventId = some eventId ∧ db.eventById .razorpay eventId = none
  name : asText event.eventName = some eventType
  concerns : Concerns db event payment

/-- The payment and booking that a delivery is about, looked up. -/
def concerned (event : WebhookEvent) : Option PaymentWithBooking := do
  let orderId ← asText event.gatewayOrderId
  let payment ← db.paymentByOrder orderId
  let booking ← db.bookings.find? payment.bookingId
  if Json.truthy event.gatewayOrderId then some ⟨payment, booking⟩ else none

theorem concerned_eq {event : WebhookEvent} {payment : PaymentWithBooking} :
    concerned db event = some payment ↔ Concerns db event payment := by
  simp only [concerned, Option.bind_eq_bind, Option.bind_eq_some_iff, Option.ite_none_right_eq_some,
    Option.some.injEq]
  constructor
  · rintro ⟨orderId, horder, p, hp, b, hb, hgiven, rfl⟩
    exact ⟨hgiven, ⟨orderId, horder, hp⟩, hb⟩
  · rintro ⟨hgiven, ⟨orderId, horder, hp⟩, hb⟩
    exact ⟨orderId, horder, payment.toPayment, hp, payment.booking, hb, hgiven, rfl⟩

/-- The event that a call delivers. -/
def Op.event (op : Op) : Option WebhookEvent :=
  match op.request with
  | .handleWebhookEvent delivery => (readDelivery host delivery).toOption
  | _ => none

theorem Op.event_eq {op : Op} {event : WebhookEvent} : op.event host = some event ↔
    ∃ delivery, op.request = .handleWebhookEvent delivery ∧
      readDelivery host delivery = .ok event := by
  unfold Op.event
  split
  · rename_i delivery hrequest
    cases hread : readDelivery host delivery with
    | error x => simp [hrequest, hread, Except.toOption]
    | ok x => simp [hrequest, hread, Except.toOption]
  · rename_i hother
    simp only [reduceCtorEq, false_iff, not_exists, not_and]
    exact fun delivery hrequest => absurd hrequest (hother delivery)

/-- The event that a call delivers, its name, and what it is about. -/
def delivered (op : Op) : Option (WebhookEvent × String × PaymentWithBooking) := do
  let event ← op.event host
  let eventId ← asText event.eventId
  let eventType ← asText event.eventName
  let payment ← concerned db event
  if (db.eventById .razorpay eventId).isNone then some (event, eventType, payment) else none

theorem delivered_eq {op : Op} {event : WebhookEvent} {eventType : String}
    {payment : PaymentWithBooking} :
    delivered host db op = some (event, eventType, payment) ↔
      Delivers host db op event eventType payment := by
  simp only [delivered, Option.bind_eq_bind, Option.bind_eq_some_iff, Op.event_eq, concerned_eq,
    Option.ite_none_right_eq_some, Option.isNone_iff_eq_none, Option.some.injEq, Prod.mk.injEq]
  constructor
  · rintro ⟨_, hread, eventId, hid, _, hname, _, hconcerns, hfresh, rfl, rfl, rfl⟩
    exact ⟨hread, ⟨eventId, hid, hfresh⟩, hname, hconcerns⟩
  · rintro ⟨hread, ⟨eventId, hid, hfresh⟩, hname, hconcerns⟩
    exact ⟨event, hread, eventId, hid, eventType, hname, payment, hconcerns, hfresh, rfl, rfl, rfl⟩

/-- A condition on what a call delivers can be decided. -/
instance {op : Op} {P : WebhookEvent → String → PaymentWithBooking → Prop}
    [∀ event eventType payment, Decidable (P event eventType payment)] :
    Decidable (∀ event eventType payment, Delivers host db op event eventType payment →
      P event eventType payment) :=
  decidable_of_iff (∀ x ∈ delivered host db op, P x.1 x.2.1 x.2.2)
    ⟨fun h _ _ _ hd => h _ ((delivered_eq host db).mpr hd),
      fun h _ hx => h _ _ _ ((delivered_eq host db).mp hx)⟩

/-! ## Every operation -/

/-- A refund that reaches its transaction: every check passes and the gateway
accepts it. -/
structure RefundPasses (paymentId : Uuid) (dto : RefundPaymentDto) (p : Payment) (b : Booking) :
    Prop where
  payment : db.payments.find? paymentId = some p
  booking : db.bookings.find? p.bookingId = some b
  success : p.status = .success
  amount : checkRefundAmount host p.amount dto.amount = none
  charged : (p.gatewayPaymentId.filter (· ≠ "")).isSome
  accepted : ∃ result, ctx.createRefund = .ok result

inductive Change : Request → List Row → Prop where
  | nothing (request : Request) : Change request []
  | created {customerId : Uuid} {dto : CreateBookingDto} {offering : ProviderServiceFull}
      {provider : ProviderWithUser} {service : Service} {startsAtDate endsAtDate : Time}
      {gatewayOrderId currency : String} :
      db.providerServiceFull dto.providerServiceId = some offering →
      host.date dto.startsAt = some startsAtDate →
      checkWorkingHours (db.schedule offering.providerId) startsAtDate offering.durationMinutes
        offering.bufferMinutes = none →
      db.bookings.find? (ctx.uuid 0) = none → db.payments.find? (ctx.uuid 1) = none →
      Change (.createBooking customerId dto)
        [.booking (newBooking ctx customerId dto offering.toProviderService
            provider.toProviderProfile service startsAtDate),
          .payment (newPayment (ctx.uuid 1) (ctx.uuid 0) gatewayOrderId offering.price currency
            (ctx.clock 4)),
          .audit (bookingCreatedAudit ctx customerId
            (newBooking ctx customerId dto offering.toProviderService provider.toProviderProfile
              service startsAtDate) gatewayOrderId startsAtDate endsAtDate)]
  | cancelled {bookingId customerId : Uuid} {dto : CancelBookingDto} {b : Booking} :
      db.bookings.find? bookingId = some b →
      canTransitionBooking b.bookingStatus .cancelled = true →
      Change (.cancelBookingAsCustomer bookingId customerId dto)
        [.booking ((cancelData ctx dto).on b),
          .audit (cancelledAudit ctx bookingId customerId
            (orDefault dto.reason "Cancelled by customer") b)]
  | expired {bookingId : Uuid} {b : Booking} : db.bookings.find? bookingId = some b →
      b.bookingStatus = .pendingPayment →
      Change (.expireBooking bookingId)
        (.booking (expireData.on b) ::
          (db.unpaid bookingId).map (fun p => Row.payment (expirePaymentData.on p)) ++
          [.audit (expiredAudit ctx bookingId b)])
  | completed {bookingId userId : Uuid} {role : Option Role} {b : Booking} :
      db.bookings.find? bookingId = some b →
      canTransitionBooking b.bookingStatus .completed = true →
      Change (.completeBooking bookingId userId role)
        [.booking ((completeData ctx).on b),
          .audit (completedAudit ctx bookingId userId b ((completeData ctx).on b))]
  | overdue {bookingId : Uuid} {b : Booking} : db.bookings.find? bookingId = some b →
      b.bookingStatus = .confirmed →
      Change (.flagOverdueBooking bookingId)
        [.booking ((overdueData ctx).on b), .audit (overdueAudit ctx bookingId b)]
  | ordered {customerId bookingId : Uuid} {b : Booking} {gatewayOrderId currency : String} :
      db.bookings.find? bookingId = some b → b.bookingStatus = .pendingPayment →
      db.payments.find? (ctx.uuid 0) = none →
      Change (.createPaymentOrder customerId bookingId)
        [.payment (newPayment (ctx.uuid 0) b.id gatewayOrderId b.bookedPrice currency (ctx.clock 0))]
  | verified {customerId : Uuid} {dto : VerifyPaymentDto} {p : Payment} {b : Booking} :
      db.paymentByOrder dto.razorpayOrderId = some p → db.bookings.find? p.bookingId = some b →
      b.bookingStatus = .pendingPayment → canTransitionPayment p.status .success = true →
      Change (.verifyClientPayment customerId dto)
        [.payment ((verifyData ctx dto).on p), .booking ((confirmData ctx).on b),
          .audit (verifiedPaymentAudit ctx customerId dto ⟨p, b⟩),
          .audit (verifiedBookingAudit ctx customerId ⟨p, b⟩)]
  | delivered {delivery : Delivery} {event : WebhookEvent} {rows : List Row}
      {result : Except Exn WebhookResult} : readDelivery host delivery = .ok event →
      WebhookChange host ctx db event rows result →
      Change (.handleWebhookEvent delivery) rows
  | refunded {adminUserId paymentId : Uuid} {dto : RefundPaymentDto} {p : Payment} {b : Booking}
      {refundId : String} : RefundPasses host ctx db paymentId dto p b →
      Change (.refundPayment adminUserId paymentId dto)
        (.payment ((refundData ctx).on p) ::
          (if b.bookingStatus = .cancelled then []
            else [.booking ((refundBookingData ctx dto).on b)]) ++
          [.audit (refundedAudit ctx adminUserId dto ⟨p, b⟩ refundId)])

end

/-! ## The audit rows among the rows -/

def audits (rows : List Row) : List AuditLog :=
  rows.filterMap fun
    | .audit a => some a
    | _ => none

/-- Each audit row is new where it is written. -/
def Audited : Db → List Row → Prop
  | _, [] => True
  | db, .audit a :: rows => db.auditLogs.find? a.id = none ∧ Audited (db.put (.audit a)) rows
  | db, r :: rows => Audited (db.put r) rows

theorem auditLogs_puts_of_audited {rows : List Row} {db : Db} (h : Audited db rows) :
    (puts db rows).auditLogs.rows = db.auditLogs.rows ++ audits rows := by
  induction rows generalizing db with
  | nil => exact (List.append_nil _).symm
  | cons r rows ih =>
      cases r with
      | audit a =>
          refine (ih h.2).trans ?_
          rw [Db.auditLogs_put_audit, Table.rows_put_of_new h.1, List.append_assoc]
          rfl
      | _ => exact ih h

theorem audited_append {rows rows' : List Row} {db : Db} :
    Audited db (rows ++ rows') ↔ Audited db rows ∧ Audited (puts db rows) rows' := by
  induction rows generalizing db with
  | nil => exact (and_iff_right trivial).symm
  | cons r rows ih =>
      cases r with
      | audit a => exact (and_congr Iff.rfl ih).trans and_assoc.symm
      | _ => exact ih

theorem audited_payments (f : Payment → Payment) (ps : List Payment) (db : Db) :
    Audited db (ps.map fun p => Row.payment (f p)) := by
  induction ps generalizing db with
  | nil => trivial
  | cons p ps ih => exact ih _

end ServiceHub
