/-
# `Payment.Handling` — one delivery run alone

What a delivery does is decided by the payment it finds.  `Acts` is that
decision: the event is a capture that fits a payment which may still become
SUCCESS, a failure of one that has not FAILED, or a refund of one that is not
REFUNDED.

    without it the handler writes nothing                  (`handleEvent_acts`)
    with it the payment is set to the event's status       (`handleEvent_acts`)
    so the same event does not act on it again             (`not_acts_again`)

`processWebhookEvent_leaves` is the rule for the whole delivery: what holds of the
database as it is, with the event recorded, and after the transaction, holds in
the end, whatever was answered; `concerned_leaves` is the rule for a delivery
under a new event id of which the payment exists.
-/
import ServiceHub.Payment.Spec

namespace ServiceHub

open Data Txn Prog

/-! ## The decision -/

/-- The amount and the currency of the body pass the checks of the handler. -/
def Passes (host : Host) (payment : Payment) (event : WebhookEvent) : Prop :=
  amountDiffers host payment event.paymentEntity = false ∧
    currencyDiffers host payment event.paymentEntity = .ok false

/-- The event changes the payment. -/
def Acts (host : Host) (payment : Payment) (event : WebhookEvent) (eventType : String) : Prop :=
  (isCapture eventType ∧ payment.status ≠ .success ∧
      canTransitionPayment payment.status .success = true ∧ Passes host payment event) ∨
    (eventType = "payment.failed" ∧ payment.status ≠ .failed) ∨
    (isRefund eventType ∧ payment.status ≠ .refunded)

section
variable {host : Host} {ctx : Ctx} {db : Db} {payment : PaymentWithBooking} {event : WebhookEvent}
  {eventType : String}

theorem not_isCapture_failed : ¬ isCapture "payment.failed" := by decide

theorem not_isCapture_of_isRefund (h : isRefund eventType) : ¬ isCapture eventType := by
  rcases h with rfl | rfl <;> decide

theorem ne_failed_of_isRefund (h : isRefund eventType) : eventType ≠ "payment.failed" := by
  rcases h with rfl | rfl <;> decide

/-- The status that an event sets. -/
theorem status_of_setsPayment {data : PaymentUpdate}
    (h : SetsPayment host ctx payment event eventType data) :
    (isCapture eventType ∧ data.status = .success) ∨
      (eventType = "payment.failed" ∧ data.status = .failed) ∨
      (isRefund eventType ∧ data.status = .refunded) := by
  rcases h with ⟨hcapture, rfl⟩ | ⟨hfailed, rfl⟩ | ⟨hrefund, rfl⟩
  · exact Or.inl ⟨hcapture, rfl⟩
  · exact Or.inr (Or.inl ⟨hfailed, rfl⟩)
  · exact Or.inr (Or.inr ⟨hrefund, rfl⟩)

/-- **An event does not act twice**: the status that it sets is the one that it
leaves alone. -/
theorem not_acts_again {data : PaymentUpdate} (h : SetsPayment host ctx payment event eventType data)
    {p : Payment} : ¬ Acts host (data.on p) event eventType := by
  rintro (⟨hcapture, hopen, _⟩ | ⟨rfl, hopen⟩ | ⟨hrefund, hopen⟩)
  · rcases status_of_setsPayment h with ⟨_, hs⟩ | ⟨rfl, _⟩ | ⟨hrefund, _⟩
    · exact hopen hs
    · exact not_isCapture_failed hcapture
    · exact not_isCapture_of_isRefund hrefund hcapture
  · rcases status_of_setsPayment h with ⟨hcapture, _⟩ | ⟨_, hs⟩ | ⟨hrefund, _⟩
    · exact not_isCapture_failed hcapture
    · exact hopen hs
    · exact ne_failed_of_isRefund hrefund rfl
  · rcases status_of_setsPayment h with ⟨hcapture, _⟩ | ⟨rfl, _⟩ | ⟨_, hs⟩
    · exact not_isCapture_of_isRefund hrefund hcapture
    · exact ne_failed_of_isRefund hrefund rfl
    · exact hopen hs

theorem acts_iff_of_isCapture {p : Payment} (hcapture : isCapture eventType) :
    Acts host p event eventType ↔ p.status ≠ .success ∧
      canTransitionPayment p.status .success = true ∧ Passes host p event := by
  constructor
  · rintro (⟨_, h⟩ | ⟨rfl, _⟩ | ⟨hrefund, _⟩)
    · exact h
    · exact absurd hcapture not_isCapture_failed
    · exact absurd hcapture (not_isCapture_of_isRefund hrefund)
  · exact fun h => Or.inl ⟨hcapture, h⟩

theorem acts_failed_iff {p : Payment} :
    Acts host p event "payment.failed" ↔ p.status ≠ .failed := by
  constructor
  · rintro (⟨hcapture, _⟩ | ⟨_, h⟩ | ⟨hrefund, _⟩)
    · exact absurd hcapture not_isCapture_failed
    · exact h
    · exact absurd rfl (ne_failed_of_isRefund hrefund)
  · exact fun h => Or.inr (Or.inl ⟨rfl, h⟩)

theorem acts_iff_of_isRefund {p : Payment} (hrefund : isRefund eventType) :
    Acts host p event eventType ↔ p.status ≠ .refunded := by
  constructor
  · rintro (⟨hcapture, _⟩ | ⟨rfl, _⟩ | ⟨_, h⟩)
    · exact absurd hcapture (not_isCapture_of_isRefund hrefund)
    · exact absurd rfl (ne_failed_of_isRefund hrefund)
    · exact h
  · exact fun h => Or.inr (Or.inr ⟨hrefund, h⟩)

/-- What the handler of an event leaves: the payment with the event's update
where the event acts, the database as it was elsewhere. -/
def Moved (host : Host) (ctx : Ctx) (db : Db) (payment : PaymentWithBooking) (event : WebhookEvent)
    (eventType : String) (db' : Db) : Prop :=
  (¬ Acts host payment.toPayment event eventType ∧ db' = db) ∨
    Acts host payment.toPayment event eventType ∧
      (isCapture eventType ∨ db'.bookings = db.bookings) ∧
      ∃ data, SetsPayment host ctx payment event eventType data ∧
        db'.payments = db.payments.put (data.on payment.toPayment)

theorem settleCapture_acts (hcapture : isCapture eventType)
    (hacts : Acts host payment.toPayment event eventType)
    (hb : db.bookings.find? payment.bookingId = some payment.booking)
    (hp : db.payments.find? payment.id = some payment.toPayment) :
    (settleCapture host ctx payment event eventType).Returns db fun db' _ =>
      Moved host ctx db payment event eventType db' := by
  simp only [settleCapture, returns_bind, returns_pure]
  refine (settleBooking_returns hb).mono ?_
  intro db₁ _ hbooking
  have hsame : db₁.payments = db.payments := by
    rcases hbooking with ⟨_, rfl, _⟩ | ⟨_, rfl, _⟩ <;> rfl
  refine (settlePayment_returns (hsame ▸ hp)).mono ?_
  rintro db₂ _ ⟨rfl, _⟩
  refine Or.inr ⟨hacts, Or.inl hcapture, _, Or.inl ⟨hcapture, rfl⟩, ?_⟩
  rw [← hsame]
  rfl

theorem handleCaptured_acts (hcapture : isCapture eventType)
    (hb : db.bookings.find? payment.bookingId = some payment.booking)
    (hp : db.payments.find? payment.id = some payment.toPayment) :
    (handleCaptured host ctx payment event eventType).Returns db fun db' _ =>
      Moved host ctx db payment event eventType db' := by
  have hiff : Acts host payment.toPayment event eventType ↔ _ := acts_iff_of_isCapture hcapture
  have hidle : ¬ Acts host payment.toPayment event eventType →
      Moved host ctx db payment event eventType db := fun hnot => Or.inl ⟨hnot, rfl⟩
  unfold handleCaptured
  simp only [returns_ite, returns_pure]
  refine ⟨fun hpaid => hidle fun hacts => (hiff.mp hacts).1 hpaid, fun hunpaid =>
    ⟨fun hcannot => hidle fun hacts => ?_, fun hcan => ⟨fun hamount => hidle fun hacts => ?_,
      fun hamount => ?_⟩⟩⟩
  · exact absurd (hiff.mp hacts).2.1 (by simp [hcannot])
  · exact absurd (hiff.mp hacts).2.2.1 (by simp [hamount])
  cases hcurrency : currencyDiffers host payment.toPayment event.paymentEntity with
  | error e => exact returns_throw.mpr trivial
  | ok differs =>
      cases differs with
      | true =>
          refine returns_pure.mpr (hidle fun hacts => ?_)
          exact absurd (hcurrency.symm.trans (hiff.mp hacts).2.2.2) (by simp)
      | false =>
          refine settleCapture_acts hcapture (hiff.mpr ⟨hunpaid, ?_, ?_, hcurrency⟩) hb hp
          · simpa using hcan
          · simpa using hamount

theorem handleFailed_acts (hp : db.payments.find? payment.id = some payment.toPayment) :
    (handleFailed host ctx payment event).Returns db fun db' _ =>
      Moved host ctx db payment event "payment.failed" db' := by
  unfold handleFailed
  simp only [returns_ite, returns_bind, returns_optionalString,
    PaymentRepository.returns_updateStatus, AuditLogRepository.returns_create, returns_pure]
  refine ⟨fun hopen _ p hfound _ _ => ?_, fun hdone => Or.inl ⟨?_, rfl⟩⟩
  · obtain rfl : payment.toPayment = p := Option.some.inj (hp.symm.trans hfound)
    exact Or.inr ⟨acts_failed_iff.mpr hopen, Or.inr rfl, _, Or.inr (Or.inl ⟨rfl, rfl⟩), rfl⟩
  · exact fun hacts => hdone (acts_failed_iff.mp hacts)

theorem handleRefunded_acts (hrefund : isRefund eventType)
    (hp : db.payments.find? payment.id = some payment.toPayment) :
    (handleRefunded ctx payment).Returns db fun db' _ =>
      Moved host ctx db payment event eventType db' := by
  unfold handleRefunded
  simp only [returns_ite, returns_bind, PaymentRepository.returns_updateStatus, returns_pure]
  refine ⟨fun hopen p hfound _ => ?_, fun hdone => Or.inl ⟨?_, rfl⟩⟩
  · obtain rfl : payment.toPayment = p := Option.some.inj (hp.symm.trans hfound)
    exact Or.inr ⟨(acts_iff_of_isRefund hrefund).mpr hopen, Or.inr rfl, _,
      Or.inr (Or.inr ⟨hrefund, rfl⟩), rfl⟩
  · exact fun hacts => hdone ((acts_iff_of_isRefund hrefund).mp hacts)

/-- **The handler of an event** writes where the event acts, and only there. -/
theorem handleEvent_acts (hb : db.bookings.find? payment.bookingId = some payment.booking)
    (hp : db.payments.find? payment.id = some payment.toPayment) :
    (handleEvent host ctx payment event eventType).Returns db fun db' _ =>
      Moved host ctx db payment event eventType db' := by
  unfold handleEvent
  simp only [returns_ite, returns_bind, returns_pure]
  refine ⟨fun hcapture => handleCaptured_acts hcapture hb hp, fun hcapture => ⟨?_, fun hfailed =>
    ⟨fun hrefund => handleRefunded_acts hrefund hp, fun hrefund => Or.inl ⟨?_, rfl⟩⟩⟩⟩
  · rintro rfl
    exact handleFailed_acts hp
  · rintro (⟨h, _⟩ | ⟨h, _⟩ | ⟨h, _⟩)
    · exact hcapture h
    · exact hfailed h
    · exact hrefund h

end

/-! ## When a handler goes through

Nothing here depends on the clock, nor on the ids that are generated, but that
they are new. -/

/-- What the handler of an event needs of the database and of the body. -/
structure Goes (host : Host) (db : Db) (payment : PaymentWithBooking) (event : WebhookEvent)
    (eventType : String) : Prop where
  currency : isCapture eventType → payment.status ≠ .success →
    canTransitionPayment payment.status .success = true →
    amountDiffers host payment.toPayment event.paymentEntity = false →
    ∃ differs, currencyDiffers host payment.toPayment event.paymentEntity = .ok differs
  bookingFits : Acts host payment.toPayment event eventType → isCapture eventType →
    payment.booking.bookingStatus = .pendingPayment →
    ∀ ctx, db.refusal (.booking ((confirmData ctx).on payment.booking)) = none
  paymentFits : Acts host payment.toPayment event eventType → ∀ ctx data,
    SetsPayment host ctx payment event eventType data →
    db.refusal (.payment (data.on payment.toPayment)) = none
  paymentId : Acts host payment.toPayment event eventType → ¬ isRefund eventType →
    Json.truthy event.gatewayPaymentId = true → (asInput host event.gatewayPaymentId).isSome
  actor : Acts host payment.toPayment event eventType → ¬ isRefund eventType →
    (db.users.find? payment.booking.customerId).isSome

/-- The audit rows of a delivery can be inserted. -/
structure FreshAudit (ctx : Ctx) (db : Db) : Prop where
  first : db.auditLogs.find? (ctx.uuid 1) = none
  second : db.auditLogs.find? (ctx.uuid 2) = none
  apart : ctx.uuid 1 ≠ ctx.uuid 2

theorem Db.refusal_payment_congr {db db' : Db} (h : db'.payments = db.payments) (p : Payment) :
    db'.refusal (.payment p) = db.refusal (.payment p) := by
  simp only [Db.refusal, Db.clashes_payment_congr h]

/-- Only the ids of a payment bear on whether it is refused. -/
theorem Db.refusal_payment_of_ids {db : Db} {p q : Payment} (hid : p.id = q.id)
    (horder : p.gatewayOrderId = q.gatewayOrderId) (hpaid : p.gatewayPaymentId = q.gatewayPaymentId) :
    db.refusal (.payment p) = db.refusal (.payment q) := by
  have hclash : ∀ o, clash (.payment p) o = clash (.payment q) o := by
    intro o
    cases o <;> simp [clash, horder, hpaid]
  have hclashes : db.clashes (.payment p) = db.clashes (.payment q) := by
    have hkey : Row.key (.payment p) = Row.key (.payment q) := congrArg Key.payment hid
    simp only [Db.clashes, Db.siblings, hkey, hclash]
  simp only [Db.refusal, Row.tooLong, Row.inverted, hclashes, horder, hpaid, clashError]
  rfl

theorem Db.insert_audit_ok {db : Db} {a : AuditLog} {id : Uuid} (hactor : a.actorUserId = some id)
    (h : db.insert (.audit a) a = .ok a) : (db.users.find? id).isSome := by
  have hdangling := (Db.insert_ok h).2.2.1
  simpa [Db.dangling, hactor, Option.isSome_iff_ne_none] using hdangling

theorem Db.insert_audit {db : Db} {a : AuditLog} {id : Uuid} (hactor : a.actorUserId = some id)
    (huser : (db.users.find? id).isSome) (hnew : db.auditLogs.find? a.id = none) :
    db.insert (.audit a) a = .ok a := by
  refine Db.insert_of_refusal ?_ ?_ ?_
  · exact Option.map_eq_none_iff.mpr hnew
  · simpa [Db.dangling, hactor, Option.isSome_iff_ne_none] using huser
  · simp [Db.refusal, Row.tooLong, Row.inverted, Db.clashes_audit]

section
variable {host : Host} {ctx : Ctx} {db : Db} {payment : PaymentWithBooking} {event : WebhookEvent}
  {eventType : String}

theorem throws_createAudit {a : AuditLog} {id : Uuid} (hactor : a.actorUserId = some id)
    (huser : (db.users.find? id).isSome) (hnew : db.auditLogs.find? a.id = none) :
    (AuditLogRepository.create a).Throws db fun _ _ => False := by
  refine throws_query (.createAudit a) fun e he => ?_
  have hok : db.insert (.audit a) a = .error e := he
  rw [Db.insert_audit hactor huser hnew] at hok
  cases hok

theorem throws_updatePayment {id : Uuid} {p : Payment} {status : PaymentStatus}
    {details : PaymentRepository.Details} (hp : db.payments.find? id = some p)
    (hrefusal : db.refusal (.payment ((PaymentRepository.statusData status details).on p)) = none) :
    (PaymentRepository.updateStatus id status details).Throws db fun _ _ => False := by
  refine throws_query (.updatePayment id _) fun e he => ?_
  have hok : db.update .payment (PaymentRepository.statusData status details).on
      (db.payments.find? id) = .error e := he
  simp only [Db.update, hp, hrefusal] at hok
  cases hok

theorem throws_updateBooking {now : Time} {id : Uuid} {b : Booking} {status : BookingStatus}
    (hb : db.bookings.find? id = some b)
    (hrefusal : db.refusal (.booking ((BookingRepository.statusData now status none).on b)) = none) :
    (BookingRepository.updateStatus now id status none).Throws db fun _ _ => False := by
  refine throws_query (.updateBooking id _) fun e he => ?_
  have hok : db.update .booking (BookingRepository.statusData now status none).on
      (db.bookings.find? id) = .error e := he
  simp only [Db.update, hb, hrefusal] at hok
  cases hok

theorem truthy_or (o o' : Option Json) :
    (Json.truthy o = true ∧ Json.or o o' = o) ∨ Json.or o o' = o' := by
  unfold Json.or
  split
  · rename_i htruthy
    exact Or.inl ⟨htruthy, rfl⟩
  · exact Or.inr rfl

/-- An update takes the payment id that a capture sets, if it takes the body's. -/
theorem isSome_capturedId {p : Payment}
    (h : Json.truthy event.gatewayPaymentId = true → (asInput host event.gatewayPaymentId).isSome)
    (htruthy : Json.truthy (Json.or event.gatewayPaymentId (p.gatewayPaymentId.map .str)) = true) :
    (asInput host (Json.or event.gatewayPaymentId (p.gatewayPaymentId.map .str))).isSome := by
  rcases truthy_or event.gatewayPaymentId (p.gatewayPaymentId.map .str) with ⟨hbody, hsame⟩ | hown
  · rw [hsame]
    exact h hbody
  · rw [hown] at htruthy ⊢
    cases hid : p.gatewayPaymentId with
    | none => simp [hid, Json.truthy] at htruthy
    | some s => rfl

theorem throws_optionalString_of_isSome {o : Option Json}
    (h : Json.truthy o = true → (asInput host o).isSome) :
    (optionalString host o).Throws db fun _ _ => False := by
  unfold optionalString
  simp only [throws_ite, throws_bind, throws_orThrow, throws_pure]
  refine ⟨fun htruthy => ⟨fun hnone => ?_, returns_orThrow.mpr fun _ _ => trivial⟩, fun _ => trivial⟩
  exact absurd (h htruthy) (by simp [hnone])

/-- The event decides which payment id an update sets. -/
theorem gatewayPaymentId_of_setsPayment {ctx' : Ctx} {data data' : PaymentUpdate}
    (h : SetsPayment host ctx payment event eventType data)
    (h' : SetsPayment host ctx' payment event eventType data') :
    data.gatewayPaymentId = data'.gatewayPaymentId := by
  rcases h with ⟨hcapture, rfl⟩ | ⟨rfl, rfl⟩ | ⟨hrefund, rfl⟩
  · rcases h' with ⟨_, rfl⟩ | ⟨rfl, _⟩ | ⟨hrefund, _⟩
    · rfl
    · exact absurd hcapture not_isCapture_failed
    · exact absurd hcapture (not_isCapture_of_isRefund hrefund)
  · rcases h' with ⟨hcapture, _⟩ | ⟨_, rfl⟩ | ⟨hrefund, _⟩
    · exact absurd hcapture not_isCapture_failed
    · rfl
    · exact absurd rfl (ne_failed_of_isRefund hrefund)
  · rcases h' with ⟨hcapture, _⟩ | ⟨rfl, _⟩ | ⟨_, rfl⟩
    · exact absurd hcapture (not_isCapture_of_isRefund hrefund)
    · exact absurd rfl (ne_failed_of_isRefund hrefund)
    · rfl

theorem paymentFits_of_refusal {data : PaymentUpdate}
    (hdata : SetsPayment host ctx payment event eventType data)
    (hrefusal : db.refusal (.payment (data.on payment.toPayment)) = none) (ctx' : Ctx)
    (data' : PaymentUpdate) (hdata' : SetsPayment host ctx' payment event eventType data') :
    db.refusal (.payment (data'.on payment.toPayment)) = none := by
  have hsame := gatewayPaymentId_of_setsPayment hdata' hdata
  rw [← hrefusal]
  exact Db.refusal_payment_of_ids rfl rfl (by simp only [PaymentUpdate.on, hsame])

theorem goes_of_idle (hidle : ¬ Acts host payment.toPayment event eventType)
    (hcurrency : isCapture eventType → payment.status ≠ .success →
      canTransitionPayment payment.status .success = true →
      amountDiffers host payment.toPayment event.paymentEntity = false →
      ∃ differs, currencyDiffers host payment.toPayment event.paymentEntity = .ok differs) :
    Goes host db payment event eventType where
  currency := hcurrency
  bookingFits hacts := absurd hacts hidle
  paymentFits hacts := absurd hacts hidle
  paymentId hacts := absurd hacts hidle
  actor hacts := absurd hacts hidle

theorem settleBooking_goes (hb : db.bookings.find? payment.bookingId = some payment.booking) :
    (settleBooking ctx payment).Returns db fun db' _ => db'.payments = db.payments ∧
      (payment.booking.bookingStatus = .pendingPayment →
        ∀ ctx, db.refusal (.booking ((confirmData ctx).on payment.booking)) = none) ∧
      (db.users.find? payment.booking.customerId).isSome := by
  simp only [settleBooking, returns_bind, BookingRepository.returns_findById, hb,
    Option.map_some, Option.some.injEq, returns_ite, BookingRepository.returns_updateStatus,
    AuditLogRepository.returns_create, returns_pure]
  refine ⟨fun _ b hfound hrefusal haudit => ?_, fun hlate haudit => ?_⟩
  · obtain rfl : payment.booking = b := hfound
    exact ⟨rfl, fun _ _ => hrefusal, Db.insert_audit_ok (a := webhookConfirmedAudit ctx payment
      (some payment.booking.bookingStatus)) rfl haudit⟩
  · exact ⟨rfl, fun hpending => absurd hpending hlate, Db.insert_audit_ok rfl haudit⟩

theorem settleCapture_goes (hcapture : isCapture eventType)
    (hcurrency : currencyDiffers host payment.toPayment event.paymentEntity = .ok false)
    (hb : db.bookings.find? payment.bookingId = some payment.booking)
    (hp : db.payments.find? payment.id = some payment.toPayment) :
    (settleCapture host ctx payment event eventType).Returns db fun _ _ =>
      Goes host db payment event eventType := by
  simp only [settleCapture, returns_bind, returns_pure]
  refine (settleBooking_goes hb).mono ?_
  rintro db₁ _ ⟨hpayments, hbooking, hactor⟩
  simp only [settlePayment, returns_bind, returns_optionalString,
    PaymentRepository.returns_updateStatus, AuditLogRepository.returns_create, returns_pure]
  intro htaken p hfound hrefusal _
  obtain rfl : payment.toPayment = p := Option.some.inj (hp.symm.trans (hpayments ▸ hfound))
  rw [Db.refusal_payment_congr hpayments] at hrefusal
  exact
    { currency := fun _ _ _ _ => ⟨false, hcurrency⟩
      bookingFits := fun _ _ => hbooking
      paymentFits := fun _ => paymentFits_of_refusal (Or.inl ⟨hcapture, rfl⟩) hrefusal
      paymentId := fun _ _ htruthy => by
        have hsame : Json.or event.gatewayPaymentId (payment.gatewayPaymentId.map .str)
            = event.gatewayPaymentId := if_pos htruthy
        rw [hsame] at htaken
        exact htaken htruthy
      actor := fun _ _ => hactor }

theorem handleCaptured_goes (hcapture : isCapture eventType)
    (hb : db.bookings.find? payment.bookingId = some payment.booking)
    (hp : db.payments.find? payment.id = some payment.toPayment) :
    (handleCaptured host ctx payment event eventType).Returns db fun _ _ =>
      Goes host db payment event eventType := by
  have hiff : Acts host payment.toPayment event eventType ↔ _ := acts_iff_of_isCapture hcapture
  unfold handleCaptured
  simp only [returns_ite, returns_pure]
  refine ⟨fun hpaid => goes_of_idle ?_ ?_, fun _ => ⟨fun hcannot => goes_of_idle ?_ ?_, fun _ =>
    ⟨fun hamount => goes_of_idle ?_ ?_, fun _ => ?_⟩⟩⟩
  · exact fun hacts => (hiff.mp hacts).1 hpaid
  · exact fun _ hunpaid => absurd hpaid hunpaid
  · exact fun hacts => absurd (hiff.mp hacts).2.1 (by simp [hcannot])
  · exact fun _ _ hcan => absurd hcan (by simp [hcannot])
  · exact fun hacts => absurd (hiff.mp hacts).2.2.1 (by simp [hamount])
  · exact fun _ _ _ hfits => absurd hfits (by simp [hamount])
  cases hcurrency : currencyDiffers host payment.toPayment event.paymentEntity with
  | error e => exact returns_throw.mpr trivial
  | ok differs =>
      cases differs with
      | true =>
          refine returns_pure.mpr (goes_of_idle (fun hacts => ?_) fun _ _ _ _ => ⟨true, hcurrency⟩)
          exact absurd (hcurrency.symm.trans (hiff.mp hacts).2.2.2) (by simp)
      | false => exact settleCapture_goes hcapture hcurrency hb hp

theorem handleFailed_goes (hp : db.payments.find? payment.id = some payment.toPayment) :
    (handleFailed host ctx payment event).Returns db fun _ _ =>
      Goes host db payment event "payment.failed" := by
  have hcurrency : isCapture "payment.failed" → payment.status ≠ .success →
      canTransitionPayment payment.status .success = true →
      amountDiffers host payment.toPayment event.paymentEntity = false →
      ∃ differs, currencyDiffers host payment.toPayment event.paymentEntity = .ok differs :=
    fun hcapture => absurd hcapture not_isCapture_failed
  unfold handleFailed
  simp only [returns_ite, returns_bind, returns_optionalString,
    PaymentRepository.returns_updateStatus, AuditLogRepository.returns_create, returns_pure]
  refine ⟨fun _ htaken p hfound hrefusal haudit => ?_, fun hdone => goes_of_idle ?_ hcurrency⟩
  · obtain rfl : payment.toPayment = p := Option.some.inj (hp.symm.trans hfound)
    exact
      { currency := hcurrency
        bookingFits := fun _ hcapture => absurd hcapture not_isCapture_failed
        paymentFits := fun _ => paymentFits_of_refusal
          (show SetsPayment host ctx payment event _ _ from Or.inr (Or.inl ⟨rfl, rfl⟩)) hrefusal
        paymentId := fun _ _ => htaken
        actor := fun _ _ => Db.insert_audit_ok (a := failedAudit ctx payment event) rfl haudit }
  · exact fun hacts => hdone (acts_failed_iff.mp hacts)

theorem handleRefunded_goes (hrefund : isRefund eventType)
    (hp : db.payments.find? payment.id = some payment.toPayment) :
    (handleRefunded ctx payment).Returns db fun _ _ => Goes host db payment event eventType := by
  have hcapture : ¬ isCapture eventType := not_isCapture_of_isRefund hrefund
  unfold handleRefunded
  simp only [returns_ite, returns_bind, PaymentRepository.returns_updateStatus, returns_pure]
  refine ⟨fun _ p hfound hrefusal => ?_, fun hdone => goes_of_idle ?_ fun h => absurd h hcapture⟩
  · obtain rfl : payment.toPayment = p := Option.some.inj (hp.symm.trans hfound)
    exact
      { currency := fun h => absurd h hcapture
        bookingFits := fun _ h => absurd h hcapture
        paymentFits := fun _ => paymentFits_of_refusal (Or.inr (Or.inr ⟨hrefund, rfl⟩)) hrefusal
        paymentId := fun _ h => absurd hrefund h
        actor := fun _ h => absurd hrefund h }
  · exact fun hacts => hdone ((acts_iff_of_isRefund hrefund).mp hacts)

/-- What went through had what it needed. -/
theorem handleEvent_goes (hb : db.bookings.find? payment.bookingId = some payment.booking)
    (hp : db.payments.find? payment.id = some payment.toPayment) :
    (handleEvent host ctx payment event eventType).Returns db fun _ _ =>
      Goes host db payment event eventType := by
  unfold handleEvent
  simp only [returns_ite, returns_bind, returns_pure]
  refine ⟨fun hcapture => handleCaptured_goes hcapture hb hp, fun hcapture => ⟨?_, fun hfailed =>
    ⟨fun hrefund => handleRefunded_goes hrefund hp, fun hrefund => goes_of_idle ?_ ?_⟩⟩⟩
  · rintro rfl
    exact handleFailed_goes hp
  · rintro (⟨h, _⟩ | ⟨h, _⟩ | ⟨h, _⟩)
    · exact hcapture h
    · exact hfailed h
    · exact hrefund h
  · exact fun h => absurd h hcapture

theorem settleBooking_throws_not (hgoes : Goes host db payment event eventType)
    (hacts : Acts host payment.toPayment event eventType) (hcapture : isCapture eventType)
    (hfresh : FreshAudit ctx db)
    (hb : db.bookings.find? payment.bookingId = some payment.booking) :
    (settleBooking ctx payment).Throws db fun _ _ => False := by
  have hactor := hgoes.actor hacts fun hrefund => not_isCapture_of_isRefund hrefund hcapture
  simp only [settleBooking, throws_bind, BookingRepository.throws_findById,
    BookingRepository.returns_findById, hb, Option.map_some, Option.some.injEq, throws_ite, true_and,
    BookingRepository.returns_updateStatus, throws_pure]
  refine ⟨fun hpending => ⟨?_, fun b _ _ => ⟨?_, fun _ _ _ => trivial⟩⟩, fun _ => ⟨?_, fun _ _ _ => trivial⟩⟩
  · exact throws_updateBooking hb (hgoes.bookingFits hacts hcapture hpending ctx)
  · exact throws_createAudit rfl hactor hfresh.first
  · exact throws_createAudit rfl hactor hfresh.first

theorem settlePayment_throws_not (hgoes : Goes host db payment event eventType)
    (hacts : Acts host payment.toPayment event eventType) (hcapture : isCapture eventType)
    {db₁ : Db} (hpayments : db₁.payments = db.payments) (husers : db₁.users = db.users)
    (hnew : db₁.auditLogs.find? (ctx.uuid 2) = none)
    (hp : db.payments.find? payment.id = some payment.toPayment) :
    (settlePayment host ctx payment event eventType).Throws db₁ fun _ _ => False := by
  have hrefund : ¬ isRefund eventType := fun h => not_isCapture_of_isRefund h hcapture
  simp only [settlePayment, throws_bind, returns_optionalString,
    PaymentRepository.returns_updateStatus, throws_pure]
  refine ⟨throws_optionalString_of_isSome (isSome_capturedId (hgoes.paymentId hacts hrefund)),
    fun _ => ⟨?_, fun _ _ _ => ⟨?_, fun _ _ _ => trivial⟩⟩⟩
  · refine throws_updatePayment (hpayments ▸ hp) ?_
    rw [Db.refusal_payment_congr hpayments]
    exact hgoes.paymentFits hacts ctx _ (Or.inl ⟨hcapture, rfl⟩)
  · refine throws_createAudit rfl ?_ hnew
    rw [Db.users_put, husers]
    exact hgoes.actor hacts hrefund

theorem handleCaptured_throws_not (hgoes : Goes host db payment event eventType)
    (hcapture : isCapture eventType) (hfresh : FreshAudit ctx db)
    (hb : db.bookings.find? payment.bookingId = some payment.booking)
    (hp : db.payments.find? payment.id = some payment.toPayment) :
    (handleCaptured host ctx payment event eventType).Throws db fun _ _ => False := by
  unfold handleCaptured
  simp only [throws_ite, throws_pure, implies_true, true_and]
  intro hunpaid hcan hamount
  have hcan : canTransitionPayment payment.status .success = true := by simpa using hcan
  have hamount : amountDiffers host payment.toPayment event.paymentEntity = false := by
    simpa using hamount
  obtain ⟨differs, hcurrency⟩ := hgoes.currency hcapture hunpaid hcan hamount
  rw [hcurrency]
  cases differs with
  | true => exact throws_pure.mpr trivial
  | false =>
      have hacts := (acts_iff_of_isCapture hcapture).mpr ⟨hunpaid, hcan, hamount, hcurrency⟩
      simp only [settleCapture, throws_bind, throws_pure]
      refine ⟨settleBooking_throws_not hgoes hacts hcapture hfresh hb,
        (settleBooking_returns hb).mono ?_⟩
      rintro db₁ _ (⟨_, rfl, _⟩ | ⟨_, rfl, _⟩)
      all_goals
        refine ⟨settlePayment_throws_not hgoes hacts hcapture rfl rfl ?_ hp, fun _ _ _ => trivial⟩
        refine (Table.find?_put ..).trans (if_neg hfresh.apart |>.trans hfresh.second)

theorem handleFailed_throws_not (hgoes : Goes host db payment event "payment.failed")
    (hfresh : FreshAudit ctx db) (hp : db.payments.find? payment.id = some payment.toPayment) :
    (handleFailed host ctx payment event).Throws db fun _ _ => False := by
  unfold handleFailed
  simp only [throws_ite, throws_bind, returns_optionalString,
    PaymentRepository.returns_updateStatus, throws_pure, implies_true, and_true]
  intro hopen
  have hacts : Acts host payment.toPayment event "payment.failed" := acts_failed_iff.mpr hopen
  have hrefund : ¬ isRefund "payment.failed" := fun h => ne_failed_of_isRefund h rfl
  refine ⟨throws_optionalString_of_isSome (hgoes.paymentId hacts hrefund),
    fun _ => ⟨?_, fun _ _ _ => ⟨?_, fun _ _ _ => trivial⟩⟩⟩
  · exact throws_updatePayment hp (hgoes.paymentFits hacts ctx _ (Or.inr (Or.inl ⟨rfl, rfl⟩)))
  · exact throws_createAudit rfl (hgoes.actor hacts hrefund) hfresh.first

theorem handleRefunded_throws_not (hgoes : Goes host db payment event eventType)
    (hrefund : isRefund eventType) (hp : db.payments.find? payment.id = some payment.toPayment) :
    (handleRefunded ctx payment).Throws db fun _ _ => False := by
  unfold handleRefunded
  simp only [throws_ite, throws_bind, throws_pure, implies_true, and_true]
  refine fun hopen => ⟨?_, fun _ _ _ => trivial⟩
  exact throws_updatePayment hp (hgoes.paymentFits ((acts_iff_of_isRefund hrefund).mpr hopen) ctx _
    (Or.inr (Or.inr ⟨hrefund, rfl⟩)))

/-- What has what it needs goes through. -/
theorem handleEvent_throws_not (hgoes : Goes host db payment event eventType)
    (hfresh : FreshAudit ctx db)
    (hb : db.bookings.find? payment.bookingId = some payment.booking)
    (hp : db.payments.find? payment.id = some payment.toPayment) :
    (handleEvent host ctx payment event eventType).Throws db fun _ _ => False := by
  unfold handleEvent
  simp only [throws_ite, throws_bind, throws_pure, implies_true, and_true]
  refine ⟨fun hcapture => handleCaptured_throws_not hgoes hcapture hfresh hb hp, fun _ => ⟨?_, fun _ =>
    fun hrefund => ⟨handleRefunded_throws_not hgoes hrefund hp, fun _ _ _ => trivial⟩⟩⟩
  rintro rfl
  exact ⟨handleFailed_throws_not hgoes hfresh hp, fun _ _ _ => trivial⟩

end

/-! ## The delivery -/

/-- The databases differ in the recorded events only. -/
def SameButEvents (db db' : Db) : Prop :=
  db' = { db with paymentWebhookEvents := db'.paymentWebhookEvents }

theorem SameButEvents.refl (db : Db) : SameButEvents db db := rfl

theorem SameButEvents.put {db db' : Db} (h : SameButEvents db db') (e : PaymentWebhookEvent) :
    SameButEvents db (db'.put (.event e)) := by
  unfold SameButEvents at h ⊢
  rw [h]
  rfl

section
variable {host : Host} {ctx : Ctx} {db : Db} {payment : PaymentWithBooking} {event : WebhookEvent}
  {eventId : String}

/-- What a transaction of a delivery leaves. -/
theorem webhookTx_acts (hb : db.bookings.find? payment.bookingId = some payment.booking)
    (hp : db.payments.find? payment.id = some payment.toPayment) :
    (webhookTx host ctx payment event eventId).Returns db fun db' _ =>
      ∃ eventType, asText event.eventName = some eventType ∧
        ((¬ Acts host payment.toPayment event eventType ∧ SameButEvents db db') ∨
          Acts host payment.toPayment event eventType ∧
            (isCapture eventType ∨ db'.bookings = db.bookings) ∧
            ∃ data, SetsPayment host ctx payment event eventType data ∧
              db'.payments = db.payments.put (data.on payment.toPayment)) := by
  unfold webhookTx
  simp only [returns_bind, returns_requireString, PaymentRepository.returns_recordWebhookEvent,
    PaymentRepository.returns_markWebhookEventProcessed, returns_pure]
  intro eventType hname _ _
  let row := newWebhookEvent ctx eventId eventType event.payload none
  have hb₁ : (db.put (.event row)).bookings.find? payment.bookingId = some payment.booking := hb
  have hp₁ : (db.put (.event row)).payments.find? payment.id = some payment.toPayment := hp
  refine (handleEvent_acts hb₁ hp₁).mono ?_
  rintro db' _ (⟨hidle, rfl⟩ | hmoved) e _ _
  · exact ⟨eventType, hname, Or.inl ⟨hidle, ((SameButEvents.refl db).put _).put _⟩⟩
  · exact ⟨eventType, hname, Or.inr hmoved⟩

/-- The event can be recorded. -/
structure Recordable (host : Host) (ctx : Ctx) (db : Db) (event : WebhookEvent)
    (eventId eventType : String) : Prop where
  stored : host.storesJson event.payload = true
  idFits : tooLong 255 eventId = false
  typeFits : tooLong 100 eventType = false
  unrecorded : db.eventById .razorpay eventId = none
  new : db.paymentWebhookEvents.find? (ctx.uuid 0) = none

theorem insert_of_recordable {eventType : String} {payload : Json} {processedAt : Option Time}
    (h : Recordable host ctx db event eventId eventType) :
    db.insert (.event (newWebhookEvent ctx eventId eventType payload processedAt))
      (newWebhookEvent ctx eventId eventType payload processedAt) =
        .ok (newWebhookEvent ctx eventId eventType payload processedAt) := by
  have hclashes : db.clashes
      (.event (newWebhookEvent ctx eventId eventType payload processedAt)) = false := by
    by_contra hclash
    obtain ⟨y, hy⟩ := Db.clashes_event (by simpa using hclash)
    exact absurd (hy.symm.trans h.unrecorded) (by simp)
  refine Db.insert_of_refusal (Option.map_eq_none_iff.mpr h.new) rfl ?_
  rw [Db.refusal, hclashes]
  simp [Row.tooLong, Row.inverted, newWebhookEvent, h.idFits, h.typeFits]

theorem recordable_of_insert {eventType : String} {processedAt : Option Time}
    {a : PaymentWebhookEvent} (hstored : host.storesJson event.payload = true)
    (h : db.insert (.event (newWebhookEvent ctx eventId eventType payload processedAt)) a = .ok a) :
    Recordable host ctx db event eventId eventType := by
  obtain ⟨_, hnew, _, hrefusal⟩ := Db.insert_ok h
  have hfits : Row.tooLong
      (.event (newWebhookEvent ctx eventId eventType payload processedAt)) = false := by
    by_contra hlong
    have hlong : Row.tooLong
        (.event (newWebhookEvent ctx eventId eventType payload processedAt)) = true := by
      simpa using hlong
    simp [Db.refusal, hlong] at hrefusal
  simp only [Row.tooLong, newWebhookEvent, Bool.or_eq_false_iff] at hfits
  exact ⟨hstored, hfits.1, hfits.2, Db.eventById_of_insert h, Option.map_eq_none_iff.mp hnew⟩

theorem webhookTx_goes (hb : db.bookings.find? payment.bookingId = some payment.booking)
    (hp : db.payments.find? payment.id = some payment.toPayment) :
    (webhookTx host ctx payment event eventId).Returns db fun _ _ =>
      ∃ eventType, asText event.eventName = some eventType ∧
        Recordable host ctx db event eventId eventType ∧ Goes host db payment event eventType := by
  unfold webhookTx
  simp only [returns_bind, returns_requireString, PaymentRepository.returns_recordWebhookEvent,
    PaymentRepository.returns_markWebhookEventProcessed, returns_pure]
  intro eventType hname hstored hinsert
  let row := newWebhookEvent ctx eventId eventType event.payload none
  have hb₁ : (db.put (.event row)).bookings.find? payment.bookingId = some payment.booking := hb
  have hp₁ : (db.put (.event row)).payments.find? payment.id = some payment.toPayment := hp
  refine (handleEvent_goes hb₁ hp₁).mono ?_
  intro _ _ hgoes _ _ _
  exact ⟨eventType, hname, recordable_of_insert hstored hinsert,
    ⟨hgoes.currency, hgoes.bookingFits, hgoes.paymentFits, hgoes.paymentId, hgoes.actor⟩⟩

theorem webhookTx_throws_not {eventType : String} (hname : asText event.eventName = some eventType)
    (hrecord : Recordable host ctx db event eventId eventType) (hgoes : Goes host db payment event eventType)
    (hfresh : FreshAudit ctx db)
    (hb : db.bookings.find? payment.bookingId = some payment.booking)
    (hp : db.payments.find? payment.id = some payment.toPayment) :
    (webhookTx host ctx payment event eventId).Throws db fun _ _ => False := by
  let row := newWebhookEvent ctx eventId eventType event.payload none
  have hinsert : db.insert (.event row) row = .ok row := insert_of_recordable hrecord
  have hb₁ : (db.put (.event row)).bookings.find? payment.bookingId = some payment.booking := hb
  have hp₁ : (db.put (.event row)).payments.find? payment.id = some payment.toPayment := hp
  have hgoes₁ : Goes host (db.put (.event row)) payment event eventType :=
    ⟨hgoes.currency, hgoes.bookingFits, hgoes.paymentFits, hgoes.paymentId, hgoes.actor⟩
  have hfresh₁ : FreshAudit ctx (db.put (.event row)) := ⟨hfresh.first, hfresh.second, hfresh.apart⟩
  unfold webhookTx
  simp only [throws_bind, returns_requireString, PaymentRepository.returns_recordWebhookEvent,
    PaymentRepository.returns_markWebhookEventProcessed, throws_pure]
  refine ⟨throws_orThrow.mpr fun hnone => absurd (hname.symm.trans hnone) (by simp), fun s hs => ?_⟩
  obtain rfl := Option.some.inj (hname.symm.trans hs)
  refine ⟨?_, fun _ _ => ⟨handleEvent_throws_not hgoes₁ hfresh₁ hb₁ hp₁, (handleEvent_returns hb₁ hp₁).mono ?_⟩⟩
  · refine throws_bind.mpr ⟨throws_throwIf.mpr fun hunstored => ?_,
      returns_throwIf.mpr fun _ => throws_query (.createEvent row) fun e he => ?_⟩
    · exact absurd (hrecord.stored.symm.trans hunstored) (by simp)
    · exact absurd (hinsert.symm.trans (he : db.insert (.event row) row = .error e)) (by simp)
  rintro db₁ _ ⟨rows, ⟨rfl, _⟩, hchange⟩
  refine ⟨throws_query (.updateEvent row.id (ctx.clock 5)) fun e he => ?_, fun _ _ _ => trivial⟩
  -- the row is still there and clashes with none
  have hfound : (puts (db.put (.event row)) rows).paymentWebhookEvents.find? row.id = some row := by
    rw [hchange.events, Db.events_put_event, Table.find?_put, if_pos rfl]
  have hclashes : (puts (db.put (.event row)) rows).clashes
      (.event (row.processed (ctx.clock 5))) = false := by
    rw [Db.clashes_event_congr (hchange.events _)]
    exact Db.clashes_event_processed (Db.clashes_of_refusal (Db.insert_ok hinsert).2.2.2)
  have hrefusal : (puts (db.put (.event row)) rows).refusal
      (.event (row.processed (ctx.clock 5))) = none := by
    rw [Db.refusal, hclashes]
    simp [Row.tooLong, Row.inverted, PaymentWebhookEvent.processed, row, newWebhookEvent,
      hrecord.idFits, hrecord.typeFits]
  have hupdate : Db.update (puts (db.put (.event row)) rows) .event (·.processed (ctx.clock 5))
      ((puts (db.put (.event row)) rows).paymentWebhookEvents.find? row.id) = .error e := he
  simp only [Db.update, hfound, hrefusal] at hupdate
  cases hupdate

/-- The transaction is followed by calls to the queues only. -/
theorem webhookTx_leaves {Q : Db → Prop}
    (hok : (webhookTx host ctx payment event eventId).Returns db fun db' _ => Q db')
    (herror : (webhookTx host ctx payment event eventId).Throws db fun _ _ => Q db) :
    Ends (catching
      (do
        let confirmedBookingId ← transaction Ext (webhookTx host ctx payment event eventId)
        match confirmedBookingId with
        | some bookingId => do
            afterConfirmation ctx bookingId
            pure WebhookResult.processed
        | none => pure WebhookResult.processed)
      fun error => if error.isDuplicate then pure .alreadyProcessed else .throw error)
      db fun db' _ => Q db' := by
  refine Ends.cont (Ends.transaction_bind (hok.mono ?_) (herror.mono ?_))
  · intro db' confirmed hq
    cases confirmed with
    | none => exact Ends.pure (Ends.pure hq)
    | some bookingId =>
        refine Ends.afterConfirmation_bind (Ends.pure (Ends.pure hq)) fun m => ?_
        show Ends (if Exn.isDuplicate (.queue m) then _ else _) _ _
        exact Ends.throw hq
  · intro _ e hq
    show Ends (if Exn.isDuplicate e then _ else _) _ _
    split
    · exact Ends.pure hq
    · exact Ends.throw hq

theorem recordAndSkip_leaves {Q : Db → Prop} (hkeep : Q db) (hrecord : ∀ e, Q (db.put (.event e))) :
    Ends (autocommit Ext (recordAndSkip host ctx event eventId)) db fun db' _ => Q db' := by
  refine Ends.autocommit ?_ ?_
  · simp only [recordAndSkip, returns_bind, returns_requireString,
      PaymentRepository.returns_recordWebhookEvent, returns_pure]
    exact fun _ _ _ _ => hrecord _
  · simp only [recordAndSkip, throws_bind, returns_requireString, throws_pure]
    refine ⟨throws_orThrow.mpr fun _ => hkeep, fun _ _ => ⟨?_, fun _ _ _ => trivial⟩⟩
    exact PaymentRepository.throws_recordWebhookEvent fun _ _ => hkeep

/-- **Every delivery** leaves the database as it is, with the event recorded, or
as its transaction does. -/
theorem processWebhookEvent_leaves {Q : Db → Prop} (hkeep : Q db)
    (hrecord : ∀ e, Q (db.put (.event e)))
    (htx : ∀ payment eventId, asText event.eventId = some eventId → Concerns db event payment →
      (webhookTx host ctx payment event eventId).Returns db fun db' _ => Q db') :
    Ends (processWebhookEvent host ctx event) db fun db' _ => Q db' := by
  have hthrow : ∀ {o : Option Json}, (requireString o).Throws db fun db' _ => Q db' :=
    throws_orThrow.mpr fun _ => hkeep
  unfold processWebhookEvent
  refine Ends.autocommit_bind (returns_requireString.mpr fun eventId hid => ?_) hthrow
  refine Ends.autocommit_bind ?_ PaymentRepository.throws_findWebhookEvent
  rw [PaymentRepository.returns_findWebhookEvent]
  split
  · exact Ends.pure hkeep
  split
  · exact recordAndSkip_leaves hkeep hrecord
  rename_i hgiven
  refine Ends.autocommit_bind (returns_requireString.mpr fun orderId horder => ?_) hthrow
  refine Ends.autocommit_bind ?_ (PaymentRepository.throws_findByGatewayOrderId fun _ => hkeep)
  rw [PaymentRepository.returns_findByGatewayOrderId]
  refine ⟨fun _ => recordAndSkip_leaves hkeep hrecord, fun p b hfound hb => ?_⟩
  have hconcerns : Concerns db event ⟨p, b⟩ :=
    ⟨by simpa using hgiven, ⟨orderId, horder, hfound⟩, hb⟩
  exact webhookTx_leaves (htx ⟨p, b⟩ eventId hid hconcerns) fun _ _ _ => hkeep

/-- **A delivery of a new event about a payment** leaves what its transaction
leaves, and nothing where that throws. -/
theorem concerned_leaves {Q : Db → Prop} (hid : asText event.eventId = some eventId)
    (hfresh : db.eventById .razorpay eventId = none) (hconcerns : Concerns db event payment)
    (hok : (webhookTx host ctx payment event eventId).Returns db fun db' _ => Q db')
    (herror : (webhookTx host ctx payment event eventId).Throws db fun _ _ => Q db) :
    Ends (processWebhookEvent host ctx event) db fun db' _ => Q db' := by
  obtain ⟨orderId, horder, hfound⟩ := hconcerns.orderId
  have hread : ∀ {o : Option Json} {s : String}, asText o = some s →
      (requireString o).Throws db fun db' _ => Q db' :=
    fun hs => throws_orThrow.mpr fun hnone => absurd (hs.symm.trans hnone) (by simp)
  unfold processWebhookEvent
  refine Ends.autocommit_bind (returns_requireString.mpr fun s hs => ?_) (hread hid)
  obtain rfl := Option.some.inj (hid.symm.trans hs)
  refine Ends.autocommit_bind ?_ PaymentRepository.throws_findWebhookEvent
  rw [PaymentRepository.returns_findWebhookEvent, hfresh]
  rw [if_neg (by simp), if_neg (by simp [hconcerns.given])]
  refine Ends.autocommit_bind (returns_requireString.mpr fun s hs => ?_) (hread horder)
  obtain rfl := Option.some.inj (horder.symm.trans hs)
  refine Ends.autocommit_bind ?_ ?_
  · rw [PaymentRepository.returns_findByGatewayOrderId]
    refine ⟨fun hnone => absurd (hfound.symm.trans hnone) (by simp), fun p b hp hb => ?_⟩
    obtain rfl := Option.some.inj (hfound.symm.trans hp)
    obtain rfl := Option.some.inj (hconcerns.booking.symm.trans hb)
    exact webhookTx_leaves hok herror
  · -- the booking of the payment exists
    refine Prog.throws_bind.mpr ⟨throws_read (.findPaymentByOrder orderId) rfl,
      (returns_read (.findPaymentByOrder orderId) rfl rfl).mpr ?_⟩
    rw [hfound]
    simp only [PaymentRepository.includeBooking, throws_bind, BookingRepository.throws_findById,
      BookingRepository.returns_findById, throws_orThrow, returns_orThrow, throws_pure, true_and,
      implies_true, and_true]
    exact fun hnone => absurd (hconcerns.booking.symm.trans hnone) (by simp)

/-- The database after a verified delivery. -/
theorem runAlone_delivery {delivery : Delivery} {Q : Db → Prop}
    (hread : readDelivery host delivery = .ok event)
    (h : Ends (processWebhookEvent host ctx event) db fun db' _ => Q db') :
    Q (runAlone host ⟨ctx, .handleWebhookEvent delivery⟩ db).1 := by
  refine runAlone_of_ends (fun db' _ => Q db') (Ends.map ?_)
  unfold handleWebhookEvent
  rw [hread]
  exact h

end

end ServiceHub
