/-
# `Payment.Spec` — what the operations of `PaymentService` commit

As `Booking.Spec`.  For a webhook delivery the answer is part of the statement
(`handleWebhookEvent_change`), and so are the ways in which its transaction can
fail on a unique index, since the handler answers these without an error.

`runAlone_change` puts the two modules together.
-/
import ServiceHub.Booking.Spec

namespace ServiceHub

open Data Txn Prog Txn.Database

variable {host : Host} {ctx : Ctx} {db : Db}

/-! ## createPaymentOrder -/

theorem createPaymentOrder_change {customerId bookingId : Uuid} :
    Ends (createPaymentOrder ctx customerId bookingId) db
      (Leaves db (Logged host ctx db (.createPaymentOrder customerId bookingId))) := by
  have hnone : ∀ {r : Except Exn Payment},
      Leaves db (Logged host ctx db (.createPaymentOrder customerId bookingId)) db r :=
    Leaves.nothing
  unfold createPaymentOrder
  refine Ends.autocommit_bind ?_ BookingRepository.throws_findById
  rw [BookingRepository.returns_findById]
  refine Ends.orThrow_bind (fun b hb => ?_) fun _ => hnone
  refine Ends.throwIf_bind (fun _ => ?_) fun _ => hnone
  refine Ends.throwIf_bind (fun hpending => ?_) fun _ => hnone
  refine Ends.autocommit_bind ?_ PaymentRepository.throws_findByBookingId
  rw [PaymentRepository.returns_findByBookingId]
  split
  · exact Ends.pure hnone
  · refine Ends.external_bind (fun gatewayOrder _ => ?_) fun _ _ => hnone
    refine Ends.autocommit (PaymentRepository.returns_create.mpr fun hins => ?_) ?_
    · have hp : db.get (.payment (ctx.uuid 0)) = none := (Db.insert_ok hins).2.1
      have hwrote : Wrote db [.payment (newPayment (ctx.uuid 0) b.id gatewayOrder.gatewayOrderId
          b.bookedPrice gatewayOrder.currency (ctx.clock 0))] _ := ⟨rfl, trivial⟩
      exact Leaves.wrote hwrote
        (.ordered hb (by simpa using hpending) (by simpa [Db.get] using hp))
    · exact PaymentRepository.throws_create fun _ => hnone

/-! ## verifyClientPayment -/

theorem verifyClientPaymentTx_returns {customerId : Uuid} {dto : VerifyPaymentDto} {p : Payment}
    {b : Booking} (hp : db.payments.find? p.id = some p)
    (hb : db.bookings.find? p.bookingId = some b) :
    (verifyClientPaymentTx ctx customerId dto ⟨p, b⟩).Returns db fun db' _ => Wrote db
      [.payment ((verifyData ctx dto).on p), .booking ((confirmData ctx).on b),
        .audit (verifiedPaymentAudit ctx customerId dto ⟨p, b⟩),
        .audit (verifiedBookingAudit ctx customerId ⟨p, b⟩)] db' := by
  simp only [verifyClientPaymentTx, returns_bind, PaymentRepository.returns_updateStatus,
    BookingRepository.returns_updateStatus, AuditLogRepository.returns_create, returns_pure,
    Db.bookings_put_payment]
  intro p' hp' _ b' hb' _ hpayment hbooking
  obtain rfl : p = p' := Option.some.inj (hp.symm.trans hp')
  obtain rfl : b = b' := Option.some.inj (hb.symm.trans hb')
  exact ⟨rfl, Db.find?_audit_of_insert hpayment, Db.find?_audit_of_insert hbooking, trivial⟩

theorem Ends.afterConfirmation_bind {α : Type} {Q : Db → Except Exn α → Prop} {bookingId : Uuid}
    {f : Unit → Call α} (hok : Ends (f ()) db Q) (herr : ∀ m, Q db (.error (.queue m))) :
    Ends (afterConfirmation ctx bookingId >>= f) db Q := by
  refine Ends.bind (Ends.enqueue_bind ?_ herr)
  refine Ends.enqueue_bind ?_ herr
  have hlast : Ends (enqueue ctx 2 (.scheduleBookingLifecycleNotifications bookingId) >>= f) db Q :=
    Ends.enqueue_bind hok herr
  refine Ends.bind (Ends.call ?_)
  cases ctx.queue 2 with
  | ok a => exact Ends.pure hok
  | error m => exact Ends.throw (herr m)

/-- The payment under an order id is found under its id. -/
theorem Db.find?_of_paymentByOrder {orderId : String} {p : Payment}
    (h : db.paymentByOrder orderId = some p) :
    db.payments.find? p.id = some p ∧ p.gatewayOrderId = orderId := by
  refine ⟨Table.find?_of_mem (List.mem_of_find?_eq_some h), ?_⟩
  have htest := List.find?_some h
  simpa using htest

theorem verifyClientPayment_change {customerId : Uuid} {dto : VerifyPaymentDto} :
    Ends (verifyClientPayment host ctx customerId dto) db
      (Leaves db (Logged host ctx db (.verifyClientPayment customerId dto))) := by
  have hnone : ∀ {r : Except Exn VerifyResult},
      Leaves db (Logged host ctx db (.verifyClientPayment customerId dto)) db r :=
    Leaves.nothing
  unfold verifyClientPayment
  refine Ends.autocommit_bind ?_ (PaymentRepository.throws_findByGatewayOrderId fun _ => hnone)
  rw [PaymentRepository.returns_findByGatewayOrderId]
  refine ⟨fun _ => Ends.orThrow_bind (fun _ h => absurd h (by simp)) fun _ => hnone, ?_⟩
  intro p b hfound hb
  refine Ends.orThrow_bind (fun payment hpayment => ?_) fun _ => hnone
  obtain rfl : ⟨p, b⟩ = payment := Option.some.inj hpayment
  refine Ends.throwIf_bind (fun _ => ?_) fun _ => hnone
  refine Ends.throwIf_bind (fun _ => ?_) fun _ => hnone
  split
  · exact Ends.pure hnone
  · refine Ends.throwIf_bind (fun hpending => ?_) fun _ => hnone
    refine Ends.throwIf_bind (fun hcan => ?_) fun _ => hnone
    have hp := (Db.find?_of_paymentByOrder hfound).1
    refine Ends.transaction_bind ((verifyClientPaymentTx_returns hp hb).mono ?_)
      fun _ _ _ => hnone
    intro db' x hdb
    have hleaves : ∀ {r : Except Exn VerifyResult},
        Leaves db (Logged host ctx db (.verifyClientPayment customerId dto)) db' r :=
      Leaves.wrote hdb (.verified hfound hb (by simpa using hpending) (by simpa using hcan))
    exact Ends.afterConfirmation_bind (Ends.pure hleaves) fun _ => hleaves

/-! ## refundPayment -/

theorem refundPaymentTx_returns {adminUserId : Uuid} {dto : RefundPaymentDto} {p : Payment}
    {b : Booking} {refundId : String} (hp : db.payments.find? p.id = some p)
    (hb : db.bookings.find? p.bookingId = some b) :
    (refundPaymentTx ctx adminUserId dto ⟨p, b⟩ refundId).Returns db fun db' _ => Wrote db
      (.payment ((refundData ctx).on p) ::
        (if b.bookingStatus = .cancelled then []
          else [.booking ((refundBookingData ctx dto).on b)]) ++
        [.audit (refundedAudit ctx adminUserId dto ⟨p, b⟩ refundId)]) db' := by
  simp only [refundPaymentTx, returns_bind, PaymentRepository.returns_updateStatus, returns_ite,
    BookingRepository.returns_updateStatus, AuditLogRepository.returns_create, returns_pure,
    Db.bookings_put_payment]
  intro p' hp' _
  obtain rfl : p = p' := Option.some.inj (hp.symm.trans hp')
  refine ⟨fun hopen b' hb' _ haudit => ?_, fun hcancelled haudit => ?_⟩
  · obtain rfl : b = b' := Option.some.inj (hb.symm.trans hb')
    rw [if_neg hopen]
    exact ⟨rfl, Db.find?_audit_of_insert haudit, trivial⟩
  · rw [if_pos (by simpa using hcancelled)]
    exact ⟨rfl, Db.find?_audit_of_insert haudit, trivial⟩

theorem refundPayment_change {adminUserId paymentId : Uuid} {dto : RefundPaymentDto} :
    Ends (refundPayment host ctx adminUserId paymentId dto) db
      (Leaves db (Logged host ctx db (.refundPayment adminUserId paymentId dto))) := by
  have hnone : ∀ {r : Except Exn RefundResult},
      Leaves db (Logged host ctx db (.refundPayment adminUserId paymentId dto)) db r :=
    Leaves.nothing
  unfold refundPayment
  refine Ends.autocommit_bind ?_ (PaymentRepository.throws_findById fun _ => hnone)
  rw [PaymentRepository.returns_findById]
  refine ⟨fun _ => Ends.orThrow_bind (fun _ h => absurd h (by simp)) fun _ => hnone, ?_⟩
  intro p b hfound hb
  refine Ends.orThrow_bind (fun payment hpayment => ?_) fun _ => hnone
  obtain rfl : ⟨p, b⟩ = payment := Option.some.inj hpayment
  refine Ends.throwIf_bind (fun _ => ?_) fun _ => hnone
  refine Ends.throwIf_bind (fun hsuccess => ?_) fun _ => hnone
  dsimp only
  split
  · exact Ends.throw hnone
  · rename_i hamount
    refine Ends.orThrow_bind (fun gatewayPaymentId hcharged => ?_) fun _ => hnone
    refine Ends.external_bind (fun refundResult haccepted => ?_) fun _ _ => hnone
    have hp : db.payments.find? p.id = some p := (Table.key_of_find? hfound).symm ▸ hfound
    refine Ends.transaction ((refundPaymentTx_returns hp hb).mono ?_) fun _ _ _ => hnone
    intro db' x hdb
    refine Leaves.wrote hdb (.refunded ⟨hfound, hb, ?_, hamount, ?_, ⟨_, haccepted⟩⟩)
    · simpa using hsuccess
    · exact Option.isSome_iff_exists.mpr ⟨_, hcharged⟩

/-! ## handleWebhookEvent

First what the handlers write, then the ways they fail, then the delivery. -/

theorem returns_requireString {o : Option Json} {Q : Db → String → Prop} :
    (requireString o).Returns db Q ↔ ∀ s, asText o = some s → Q db s := returns_orThrow

theorem returns_optionalString {o : Option Json}
    {Q : Db → Option PaymentRepository.TextInput → Prop} :
    (optionalString host o).Returns db Q ↔
      ((Json.truthy o = true → (asInput host o).isSome) → Q db (inputIfTruthy host o)) := by
  unfold optionalString inputIfTruthy
  simp only [returns_ite, returns_bind, returns_orThrow, returns_pure]
  cases Json.truthy o with
  | false => simp
  | true => cases asInput host o <;> simp

theorem settleBooking_returns {payment : PaymentWithBooking}
    (hb : db.bookings.find? payment.bookingId = some payment.booking) :
    (settleBooking ctx payment).Returns db fun db' _ =>
      (payment.booking.bookingStatus = .pendingPayment ∧ Wrote db
        [.booking ((confirmData ctx).on payment.booking),
          .audit (webhookConfirmedAudit ctx payment (some payment.booking.bookingStatus))] db') ∨
      (payment.booking.bookingStatus ≠ .pendingPayment ∧ Wrote db
        [.audit (refundFlagAudit ctx payment (some payment.booking.bookingStatus))] db') := by
  simp only [settleBooking, returns_bind, BookingRepository.returns_findById, hb,
    Option.map_some, Option.some.injEq, returns_ite, BookingRepository.returns_updateStatus,
    AuditLogRepository.returns_create, returns_pure]
  refine ⟨fun hpending b' hb' _ haudit => ?_, fun hlate haudit => Or.inr ⟨hlate, rfl, ?_⟩⟩
  · obtain rfl : payment.booking = b' := hb'
    exact Or.inl ⟨hpending, rfl, Db.find?_audit_of_insert haudit, trivial⟩
  · exact ⟨Db.find?_audit_of_insert haudit, trivial⟩

theorem settlePayment_returns {payment : PaymentWithBooking} {event : WebhookEvent}
    {eventType : String} (hp : db.payments.find? payment.id = some payment.toPayment) :
    (settlePayment host ctx payment event eventType).Returns db fun db' _ => Wrote db
      [.payment ((captureData host ctx payment.toPayment event).on payment.toPayment),
        .audit (capturedAudit ctx payment eventType)] db' := by
  simp only [settlePayment, returns_bind, returns_optionalString,
    PaymentRepository.returns_updateStatus, AuditLogRepository.returns_create, returns_pure]
  intro _ p' hp' _ hins
  obtain rfl : payment.toPayment = p' := Option.some.inj (hp.symm.trans hp')
  exact ⟨rfl, Db.find?_audit_of_insert hins, trivial⟩

theorem settleCapture_returns {payment : PaymentWithBooking} {event : WebhookEvent}
    {eventType : String} (hcapture : isCapture eventType) (hunpaid : payment.status ≠ .success)
    (hcan : canTransitionPayment payment.status .success = true)
    (hb : db.bookings.find? payment.bookingId = some payment.booking)
    (hp : db.payments.find? payment.id = some payment.toPayment) :
    (settleCapture host ctx payment event eventType).Returns db fun db' _ =>
      ∃ rows, Wrote db rows db' ∧ EventChange host ctx db payment event eventType rows := by
  simp only [settleCapture, returns_bind, returns_pure]
  refine (settleBooking_returns hb).mono ?_
  have hsettle : ∀ db₁ : Db, db₁.payments = db.payments →
      (settlePayment host ctx payment event eventType).Returns db₁ fun db' _ => Wrote db₁
        [.payment ((captureData host ctx payment.toPayment event).on payment.toPayment),
          .audit (capturedAudit ctx payment eventType)] db' :=
    fun db₁ hpay => settlePayment_returns (hpay ▸ hp)
  rintro db₁ _ (⟨hpending, rfl, hfirst⟩ | ⟨hlate, rfl, hfirst⟩)
  · refine Returns.mono (hsettle _ ?_) ?_
    · rfl
    rintro db₂ _ ⟨rfl, hsecond⟩
    refine ⟨_, ⟨(puts_append ..).symm, ?_⟩, .confirmed hcapture hunpaid hcan hpending⟩
    exact audited_append.mpr ⟨hfirst, hsecond⟩
  · refine Returns.mono (hsettle _ ?_) ?_
    · rfl
    rintro db₂ _ ⟨rfl, hsecond⟩
    refine ⟨_, ⟨(puts_append ..).symm, audited_append.mpr ⟨hfirst, hsecond⟩⟩,
      .flagged hcapture hunpaid hcan hlate fun hid => ?_⟩
    -- the row that flags the refund is there already
    have hflag : (puts db [.audit (refundFlagAudit ctx payment
        (some payment.booking.bookingStatus))]).auditLogs.find? (ctx.uuid 2)
          = some (refundFlagAudit ctx payment (some payment.booking.bookingStatus)) :=
      (Table.find?_put ..).trans (if_pos hid.symm)
    exact absurd (hflag.symm.trans hsecond.1) (Option.some_ne_none _)

theorem handleCaptured_returns {payment : PaymentWithBooking} {event : WebhookEvent}
    {eventType : String} (hcapture : isCapture eventType)
    (hb : db.bookings.find? payment.bookingId = some payment.booking)
    (hp : db.payments.find? payment.id = some payment.toPayment) :
    (handleCaptured host ctx payment event eventType).Returns db fun db' _ =>
      ∃ rows, Wrote db rows db' ∧ EventChange host ctx db payment event eventType rows := by
  unfold handleCaptured
  simp only [returns_ite, returns_pure]
  refine ⟨fun hpaid => ⟨[], ⟨rfl, trivial⟩, .paidAlready hcapture hpaid⟩, fun hunpaid => ?_⟩
  refine ⟨fun hcannot => ⟨[], ⟨rfl, trivial⟩, .notPayable hcapture hcannot⟩, fun hcan => ?_⟩
  refine ⟨fun hamount => ⟨[], ⟨rfl, trivial⟩, .tampered hcapture (Or.inl hamount)⟩, fun _ => ?_⟩
  cases hcurrency : currencyDiffers host payment.toPayment event.paymentEntity with
  | error e => exact returns_throw.mpr trivial
  | ok differs =>
      cases differs with
      | true => exact returns_pure.mpr ⟨[], ⟨rfl, trivial⟩, .tampered hcapture (Or.inr hcurrency)⟩
      | false => exact settleCapture_returns hcapture hunpaid (by simpa using hcan) hb hp

theorem handleFailed_returns {payment : PaymentWithBooking} {event : WebhookEvent}
    (hp : db.payments.find? payment.id = some payment.toPayment) :
    (handleFailed host ctx payment event).Returns db fun db' _ =>
      ∃ rows, Wrote db rows db' ∧
        EventChange host ctx db payment event "payment.failed" rows := by
  unfold handleFailed
  simp only [returns_ite, returns_bind, returns_optionalString,
    PaymentRepository.returns_updateStatus, AuditLogRepository.returns_create, returns_pure]
  refine ⟨fun hopen _ p' hp' href haudit => ?_, fun _ => ?_⟩
  · obtain rfl : payment.toPayment = p' := Option.some.inj (hp.symm.trans hp')
    refine ⟨_, ⟨rfl, ?_⟩, .failed rfl hopen (Db.clashes_of_refusal href)⟩
    exact ⟨Db.find?_audit_of_insert haudit, trivial⟩
  · exact ⟨[], ⟨rfl, trivial⟩, .other (by decide)⟩

theorem handleRefunded_returns {payment : PaymentWithBooking} {event : WebhookEvent}
    {eventType : String} (hrefund : isRefund eventType)
    (hp : db.payments.find? payment.id = some payment.toPayment) :
    (handleRefunded ctx payment).Returns db fun db' _ =>
      ∃ rows, Wrote db rows db' ∧ EventChange host ctx db payment event eventType rows := by
  unfold handleRefunded
  simp only [returns_ite, returns_bind, PaymentRepository.returns_updateStatus, returns_pure]
  refine ⟨fun hopen p' hp' href => ?_, fun _ => ?_⟩
  · obtain rfl : payment.toPayment = p' := Option.some.inj (hp.symm.trans hp')
    refine ⟨_, ⟨rfl, ?_⟩, .reconciled hrefund hopen (Db.clashes_of_refusal href)⟩
    trivial
  · refine ⟨[], ⟨rfl, trivial⟩, .other ?_⟩
    rcases hrefund with rfl | rfl <;> decide

/-- Only the payments of the database bear on what a handler does. -/
theorem EventChange.congr {db' : Db} {payment : PaymentWithBooking} {event : WebhookEvent}
    {eventType : String} {rows : List Row} (hpay : db'.payments = db.payments)
    (h : EventChange host ctx db' payment event eventType rows) :
    EventChange host ctx db payment event eventType rows := by
  cases h with
  | paidAlready hc hs => exact .paidAlready hc hs
  | notPayable hc hs => exact .notPayable hc hs
  | tampered hc ht => exact .tampered hc ht
  | confirmed hc hs ht hb => exact .confirmed hc hs ht hb
  | flagged hc hs ht hb hid => exact .flagged hc hs ht hb hid
  | failed hf hs hc => exact .failed hf hs (Db.clashes_payment_congr hpay _ ▸ hc)
  | reconciled hr hs hc => exact .reconciled hr hs (Db.clashes_payment_congr hpay _ ▸ hc)
  | other hc => exact .other hc

theorem EventChange.events {payment : PaymentWithBooking} {event : WebhookEvent}
    {eventType : String} {rows : List Row}
    (h : EventChange host ctx db payment event eventType rows) (db' : Db) :
    (puts db' rows).paymentWebhookEvents = db'.paymentWebhookEvents := by
  cases h <;> rfl

theorem handleEvent_returns {payment : PaymentWithBooking} {event : WebhookEvent}
    {eventType : String} (hb : db.bookings.find? payment.bookingId = some payment.booking)
    (hp : db.payments.find? payment.id = some payment.toPayment) :
    (handleEvent host ctx payment event eventType).Returns db fun db' _ =>
      ∃ rows, Wrote db rows db' ∧ EventChange host ctx db payment event eventType rows := by
  unfold handleEvent
  simp only [returns_ite, returns_bind, returns_pure]
  refine ⟨fun hcapture => handleCaptured_returns hcapture hb hp, fun hcapture => ⟨?_, fun _ => ?_⟩⟩
  · rintro rfl
    exact handleFailed_returns hp
  · exact ⟨fun hrefund => handleRefunded_returns hrefund hp, fun _ => ⟨[], ⟨rfl, trivial⟩, .other hcapture⟩⟩

theorem webhookTx_returns {payment : PaymentWithBooking} {event : WebhookEvent} {eventId : String}
    (hb : db.bookings.find? payment.bookingId = some payment.booking)
    (hp : db.payments.find? payment.id = some payment.toPayment) :
    (webhookTx host ctx payment event eventId).Returns db fun db' _ =>
      ∃ eventType rows, asText event.eventName = some eventType ∧
        db.eventById .razorpay eventId = none ∧
        EventChange host ctx db payment event eventType rows ∧
        Wrote db (.event (newWebhookEvent ctx eventId eventType event.payload none) :: rows ++
          [.event ((newWebhookEvent ctx eventId eventType event.payload none).processed
            (ctx.clock 5))]) db' := by
  unfold webhookTx
  rw [returns_bind, returns_requireString]
  intro eventType hname
  rw [returns_bind, PaymentRepository.returns_recordWebhookEvent]
  intro _ hins
  have hfresh : db.eventById .razorpay eventId = none := Db.eventById_of_insert hins
  have hb₁ : (db.put (.event (newWebhookEvent ctx eventId eventType event.payload
      none))).bookings.find? payment.bookingId = some payment.booking := hb
  have hp₁ : (db.put (.event (newWebhookEvent ctx eventId eventType event.payload
      none))).payments.find? payment.id = some payment.toPayment := hp
  refine returns_bind.mpr (Returns.mono (handleEvent_returns hb₁ hp₁) ?_)
  rintro db' _ ⟨rows, ⟨rfl, haudited⟩, hchange⟩
  rw [returns_bind, PaymentRepository.returns_markWebhookEventProcessed]
  -- the row to be marked is the one just recorded
  intro e he _
  rw [hchange.events, Db.events_put_event, Table.find?_put, if_pos rfl] at he
  obtain rfl := Option.some.inj he
  refine returns_pure.mpr
    ⟨eventType, rows, hname, hfresh, hchange.congr (Db.payments_put_event db _), ?_, ?_⟩
  · rw [List.cons_append, puts_cons, puts_append]
    rfl
  · exact audited_append.mpr ⟨haudited, trivial⟩

/-! ### Duplicates -/

theorem throws_requireString {o : Option Json} {E : Db → Exn → Prop}
    (h : ∀ e, ¬ e.isDuplicate → E db e) : (requireString o).Throws db E :=
  throws_orThrow.mpr fun _ => h _ (by simp [Exn.isDuplicate])

theorem throws_optionalString {o : Option Json} {E : Db → Exn → Prop}
    (h : ∀ e, ¬ e.isDuplicate → E db e) : (optionalString host o).Throws db E := by
  unfold optionalString
  simp only [throws_ite, throws_bind, throws_orThrow, throws_pure]
  exact ⟨fun _ => ⟨fun _ => h _ (by simp [Exn.isDuplicate]), fun _ _ _ => trivial⟩, fun _ => trivial⟩

/-- What follows from an error of a unique index; other errors are not asked
about. -/
theorem not_duplicate {P : Prop} (e : Exn) (h : ¬ e.isDuplicate) : e.isDuplicate → P :=
  fun h' => absurd h' h

theorem settleBooking_throws {payment : PaymentWithBooking} {P : Prop} :
    (settleBooking ctx payment).Throws db fun _ e => e.isDuplicate → P := by
  simp only [settleBooking, throws_bind, BookingRepository.returns_findById,
    BookingRepository.throws_findById, true_and, throws_ite,
    BookingRepository.returns_updateStatus, AuditLogRepository.returns_create, throws_pure]
  refine ⟨fun _ => ⟨BookingRepository.throws_updateStatus not_duplicate, fun _ _ _ => ⟨?_, ?_⟩⟩,
    fun _ => ⟨?_, ?_⟩⟩
  · exact AuditLogRepository.throws_create not_duplicate
  · exact fun _ => trivial
  · exact AuditLogRepository.throws_create not_duplicate
  · exact fun _ => trivial

theorem settlePayment_throws {payment : PaymentWithBooking} {event : WebhookEvent}
    {eventType : String} (hp : db.payments.find? payment.id = some payment.toPayment) :
    (settlePayment host ctx payment event eventType).Throws db fun _ e => e.isDuplicate →
      db.clashes
        (.payment ((captureData host ctx payment.toPayment event).on payment.toPayment)) = true := by
  simp only [settlePayment, throws_bind, returns_optionalString,
    PaymentRepository.returns_updateStatus, AuditLogRepository.returns_create, throws_pure]
  refine ⟨throws_optionalString not_duplicate, fun _ =>
    ⟨PaymentRepository.throws_updateStatus fun e h hdup => ?_, fun _ _ _ => ⟨?_, ?_⟩⟩⟩
  · obtain ⟨p, hp', hc⟩ := h hdup
    obtain rfl : payment.toPayment = p := Option.some.inj (hp.symm.trans hp')
    exact hc
  · exact AuditLogRepository.throws_create not_duplicate
  · exact fun _ => trivial

theorem settleCapture_throws {payment : PaymentWithBooking} {event : WebhookEvent}
    {eventType : String} (hb : db.bookings.find? payment.bookingId = some payment.booking)
    (hp : db.payments.find? payment.id = some payment.toPayment) :
    (settleCapture host ctx payment event eventType).Throws db fun _ e => e.isDuplicate →
      db.clashes
        (.payment ((captureData host ctx payment.toPayment event).on payment.toPayment)) = true := by
  simp only [settleCapture, throws_bind, throws_pure]
  refine ⟨settleBooking_throws, (settleBooking_returns hb).mono ?_⟩
  have hsame : ∀ db₁ : Db, db₁.payments = db.payments →
      (settlePayment host ctx payment event eventType).Throws db₁ fun _ e => e.isDuplicate →
        db.clashes (.payment
          ((captureData host ctx payment.toPayment event).on payment.toPayment)) = true := by
    intro db₁ hpay
    refine (settlePayment_throws (hpay ▸ hp)).mono fun _ e h hdup => ?_
    exact (Db.clashes_payment_congr hpay _).symm.trans (h hdup)
  rintro db₁ _ (⟨_, rfl, _⟩ | ⟨_, rfl, _⟩)
  · exact ⟨hsame _ rfl, fun _ _ _ => trivial⟩
  · exact ⟨hsame _ rfl, fun _ _ _ => trivial⟩

theorem handleFailed_throws {payment : PaymentWithBooking} {event : WebhookEvent}
    (hp : db.payments.find? payment.id = some payment.toPayment) :
    (handleFailed host ctx payment event).Throws db fun _ e => e.isDuplicate →
      db.clashes (.payment ((failData host event).on payment.toPayment)) = true := by
  simp only [handleFailed, throws_ite, throws_bind, returns_optionalString,
    PaymentRepository.returns_updateStatus, AuditLogRepository.returns_create, throws_pure]
  refine ⟨fun _ => ⟨throws_optionalString not_duplicate, fun _ =>
    ⟨PaymentRepository.throws_updateStatus fun e h hdup => ?_, fun _ _ _ => ⟨?_, ?_⟩⟩⟩,
    fun _ => trivial⟩
  · obtain ⟨p, hp', hc⟩ := h hdup
    obtain rfl : payment.toPayment = p := Option.some.inj (hp.symm.trans hp')
    exact hc
  · exact AuditLogRepository.throws_create not_duplicate
  · exact fun _ => trivial

theorem handleRefunded_throws {payment : PaymentWithBooking}
    (hp : db.payments.find? payment.id = some payment.toPayment) :
    (handleRefunded ctx payment).Throws db fun _ e => e.isDuplicate →
      db.clashes (.payment ((reconcileData ctx).on payment.toPayment)) = true := by
  simp only [handleRefunded, throws_ite, throws_bind, throws_pure]
  refine ⟨fun _ => ⟨PaymentRepository.throws_updateStatus fun e h hdup => ?_, fun _ _ _ => trivial⟩,
    fun _ => trivial⟩
  obtain ⟨p, hp', hc⟩ := h hdup
  obtain rfl : payment.toPayment = p := Option.some.inj (hp.symm.trans hp')
  exact hc

theorem handleEvent_throws {payment : PaymentWithBooking} {event : WebhookEvent}
    {eventType : String} (hb : db.bookings.find? payment.bookingId = some payment.booking)
    (hp : db.payments.find? payment.id = some payment.toPayment) :
    (handleEvent host ctx payment event eventType).Throws db fun _ e => e.isDuplicate →
      ∃ data, SetsPayment host ctx payment event eventType data ∧
        db.clashes (.payment (data.on payment.toPayment)) = true := by
  unfold handleEvent
  simp only [throws_ite, throws_bind, throws_pure]
  refine ⟨fun hcapture => ?_, fun _ => ⟨?_, fun _ => ⟨fun hrefund => ⟨?_, fun _ _ _ => trivial⟩,
    fun _ => trivial⟩⟩⟩
  · unfold handleCaptured
    simp only [throws_ite, throws_pure]
    refine ⟨fun _ => trivial, fun _ => ⟨fun _ => trivial, fun _ => ⟨fun _ => trivial, fun _ => ?_⟩⟩⟩
    cases hcur : currencyDiffers host payment.toPayment event.paymentEntity with
    | error e =>
        refine throws_throw.mpr (not_duplicate e ?_)
        -- the only error of the currency check is a TypeError
        unfold currencyDiffers at hcur
        split at hcur
        · split at hcur
          · cases hcur
          · cases hcur
            simp [Exn.isDuplicate]
        · cases hcur
    | ok differs =>
        cases differs with
        | true => exact throws_pure.mpr trivial
        | false =>
            exact (settleCapture_throws hb hp).mono fun _ e h hdup =>
              ⟨_, Or.inl ⟨hcapture, rfl⟩, h hdup⟩
  · rintro rfl
    refine ⟨(handleFailed_throws hp).mono fun _ e h hdup => ?_, fun _ _ _ => trivial⟩
    exact ⟨_, Or.inr (Or.inl ⟨rfl, rfl⟩), h hdup⟩
  · exact (handleRefunded_throws hp).mono fun _ e h hdup =>
      ⟨_, Or.inr (Or.inr ⟨hrefund, rfl⟩), h hdup⟩

theorem webhookTx_throws {payment : PaymentWithBooking} {event : WebhookEvent} {eventId : String}
    (hb : db.bookings.find? payment.bookingId = some payment.booking)
    (hp : db.payments.find? payment.id = some payment.toPayment) :
    (webhookTx host ctx payment event eventId).Throws db fun _ e => e.isDuplicate →
      (∃ x, db.eventById .razorpay eventId = some x) ∨
      ∃ eventType data, asText event.eventName = some eventType ∧
        SetsPayment host ctx payment event eventType data ∧
        db.clashes (.payment (data.on payment.toPayment)) = true := by
  unfold webhookTx
  rw [throws_bind, returns_requireString]
  refine ⟨throws_requireString not_duplicate, fun eventType hname => ?_⟩
  rw [throws_bind, PaymentRepository.returns_recordWebhookEvent]
  refine ⟨PaymentRepository.throws_recordWebhookEvent fun e h hdup => ?_, fun _ hins => ?_⟩
  · exact Or.inl (Db.clashes_event (h hdup))
  · have hb₁ : (db.put (.event (newWebhookEvent ctx eventId eventType event.payload
        none))).bookings.find? payment.bookingId = some payment.booking := hb
    have hp₁ : (db.put (.event (newWebhookEvent ctx eventId eventType event.payload
        none))).payments.find? payment.id = some payment.toPayment := hp
    rw [throws_bind]
    refine ⟨(handleEvent_throws hb₁ hp₁).mono fun _ e h hdup => ?_, ?_⟩
    · obtain ⟨data, hdata, hc⟩ := h hdup
      exact Or.inr ⟨eventType, data, hname, hdata, hc⟩
    · -- marking the event just recorded clashes with nothing
      refine Returns.mono (handleEvent_returns hb₁ hp₁) ?_
      rintro db' _ ⟨rows, ⟨rfl, _⟩, hchange⟩
      rw [throws_bind]
      refine ⟨PaymentRepository.throws_markWebhookEventProcessed fun e h hdup => ?_,
        fun _ _ _ => throws_pure.mpr trivial⟩
      obtain ⟨x, hx, hc⟩ := h hdup
      rw [hchange.events, Db.events_put_event, Table.find?_put, if_pos rfl] at hx
      obtain rfl := Option.some.inj hx
      rw [Db.clashes_event_congr (hchange.events _)] at hc
      have hfree := Db.clashes_of_refusal (Db.insert_ok hins).2.2.2
      exact absurd hc (by simpa using Db.clashes_event_processed hfree)

/-! ### The delivery -/

/-- The database after a delivery and its answer. -/
def LeavesWebhook (host : Host) (ctx : Ctx) (db : Db) (event : WebhookEvent) :
    Db → Except Exn WebhookResult → Prop :=
  fun db' r => ∃ rows, Wrote db rows db' ∧ WebhookChange host ctx db event rows r

theorem recordAndSkip_ends {event : WebhookEvent} {eventId : String}
    (hid : asText event.eventId = some eventId)
    (hnone : ∀ payment, ¬ Concerns db event payment) :
    Ends (autocommit Ext (recordAndSkip host ctx event eventId)) db (LeavesWebhook host ctx db event) := by
  refine Ends.autocommit ?_ ?_
  · simp only [recordAndSkip, returns_bind, returns_requireString,
      PaymentRepository.returns_recordWebhookEvent, returns_pure]
    intro eventType hname _ _
    refine ⟨_, ⟨rfl, ?_⟩, .skipped hid hname hnone⟩
    trivial
  · simp only [recordAndSkip, throws_bind, returns_requireString, throws_pure]
    have hrefused : ∀ e, LeavesWebhook host ctx db event db (.error e) :=
      fun e => ⟨[], ⟨rfl, trivial⟩, .refused e⟩
    refine ⟨throws_orThrow.mpr fun _ => hrefused _, fun _ _ => ⟨?_, fun _ _ _ => trivial⟩⟩
    exact PaymentRepository.throws_recordWebhookEvent fun e _ => hrefused e

theorem processWebhookEvent_ends {event : WebhookEvent} :
    Ends (processWebhookEvent host ctx event) db (LeavesWebhook host ctx db event) := by
  have hrefused : ∀ e, LeavesWebhook host ctx db event db (.error e) :=
    fun e => ⟨[], ⟨rfl, trivial⟩, .refused e⟩
  have hthrow : ∀ {o : Option Json}, (requireString o).Throws db fun db' e =>
      LeavesWebhook host ctx db event db' (.error e) :=
    throws_orThrow.mpr fun _ => hrefused _
  unfold processWebhookEvent
  refine Ends.autocommit_bind (returns_requireString.mpr fun eventId hid => ?_) hthrow
  refine Ends.autocommit_bind ?_ PaymentRepository.throws_findWebhookEvent
  rw [PaymentRepository.returns_findWebhookEvent]
  split
  · rename_i hprocessed
    cases hfound : db.eventById .razorpay eventId with
    | none => simp [hfound] at hprocessed
    | some x => exact Ends.pure ⟨[], ⟨rfl, trivial⟩, .duplicate hid hfound⟩
  · split
    · rename_i hno
      refine recordAndSkip_ends hid fun payment hconcerns => ?_
      exact absurd hconcerns.given (by simp [hno])
    · rename_i hgiven
      refine Ends.autocommit_bind (returns_requireString.mpr fun orderId horder => ?_) hthrow
      refine Ends.autocommit_bind ?_
        (PaymentRepository.throws_findByGatewayOrderId fun e => hrefused e)
      rw [PaymentRepository.returns_findByGatewayOrderId]
      refine ⟨fun hnone => ?_, fun p b hfound hb => ?_⟩
      · refine recordAndSkip_ends hid fun payment hconcerns => ?_
        obtain ⟨orderId', horder', hfound⟩ := hconcerns.orderId
        obtain rfl : orderId = orderId' := Option.some.inj (horder.symm.trans horder')
        rw [hnone] at hfound
        cases hfound
      · have hp := (Db.find?_of_paymentByOrder hfound).1
        have hconcerns : Concerns db event ⟨p, b⟩ :=
          ⟨by simpa using hgiven, ⟨orderId, horder, hfound⟩, hb⟩
        refine Ends.cont (Ends.transaction_bind
          ((webhookTx_returns hb hp).mono ?_) ((webhookTx_throws hb hp).mono ?_))
        · rintro db' confirmed ⟨eventType, rows, hname, hfresh, hchange, hdb⟩
          have hleaves : ∀ r : Except Exn WebhookResult, (∀ w, r = .ok w → w = .processed) →
              LeavesWebhook host ctx db event db' r :=
            fun r hr => ⟨_, hdb, .processed r hid hname hconcerns hfresh hchange hr⟩
          have hdone : LeavesWebhook host ctx db event db' (.ok .processed) :=
            hleaves _ fun w hw => (Except.ok.inj hw).symm
          cases confirmed with
          | none => exact Ends.pure (Ends.pure hdone)
          | some bookingId =>
              refine Ends.afterConfirmation_bind (Ends.pure (Ends.pure hdone)) fun m => ?_
              show Ends (if Exn.isDuplicate (.queue m) then _ else _) _ _
              rw [if_neg (by simp [Exn.isDuplicate])]
              exact Ends.throw (hleaves _ fun w hw => by cases hw)
        · intro _ e hdup
          show Ends (if Exn.isDuplicate e then _ else _) _ _
          split
          · rename_i he
            rcases hdup he with ⟨x, hx⟩ | ⟨eventType, data, hname, hdata, hc⟩
            · exact Ends.pure ⟨[], ⟨rfl, trivial⟩, .duplicate hid hx⟩
            · exact Ends.pure ⟨[], ⟨rfl, trivial⟩, .clashed hname hconcerns hdata hc⟩
          · exact Ends.throw (hrefused e)

/-- **What a delivery does.** -/
theorem handleWebhookEvent_ends {delivery : Delivery} :
    Ends (handleWebhookEvent host ctx delivery) db fun db' r =>
      (∃ e, readDelivery host delivery = .error e ∧ db' = db ∧ r = .error e) ∨
      ∃ event, readDelivery host delivery = .ok event ∧ LeavesWebhook host ctx db event db' r := by
  unfold handleWebhookEvent
  split
  · rename_i e he
    exact Ends.throw (Or.inl ⟨e, he, rfl, rfl⟩)
  · rename_i event hevent
    exact processWebhookEvent_ends.mono fun db' r h => Or.inr ⟨event, hevent, h⟩

theorem handleWebhookEvent_change {delivery : Delivery} :
    Ends (handleWebhookEvent host ctx delivery) db
      (Leaves db (Logged host ctx db (.handleWebhookEvent delivery))) := by
  refine handleWebhookEvent_ends.mono fun db' r h => ?_
  rcases h with ⟨e, _, rfl, _⟩ | ⟨event, hevent, rows, hwrote, hchange⟩
  · exact Leaves.nothing
  · exact Leaves.wrote hwrote (.delivered hevent hchange)

/-! ## Every operation -/

/-- What is known of the end of a program is known of the operation run
alone. -/
theorem runAlone_of_ends {op : Op} (Q : Db → Except Exn Response → Prop)
    (h : Ends (program host op) db Q) : Q (runAlone host op db).1 (runAlone host op db).2 := by
  obtain ⟨db', log', r, hs, hr⟩ := h []
  unfold runAlone
  rw [hs]
  exact hr

/-- **What an operation run alone does**: it writes rows that `Change` lists,
with new audit rows. -/
theorem runAlone_logged (host : Host) (op : Op) (db : Db) :
    ∃ rows, (runAlone host op db).1 = puts db rows ∧ Logged host op.ctx db op.request rows := by
  have hmap : ∀ {α : Type} {p : Call α} {f : α → Response},
      Ends p db (Leaves db (Logged host op.ctx db op.request)) →
      Ends (p.map f) db (Leaves db (Logged host op.ctx db op.request)) :=
    fun h => Ends.map (h.mono fun _ _ hr => hr)
  obtain ⟨ctx, request⟩ := op
  refine runAlone_of_ends (Leaves db (Logged host ctx db request)) ?_
  cases request with
  | createBooking customerId dto => exact hmap createBooking_change
  | cancelBookingAsCustomer bookingId customerId dto => exact hmap cancelBookingAsCustomer_change
  | expireBooking bookingId => exact hmap expireBooking_change
  | completeBooking bookingId userId role => exact hmap completeBooking_change
  | flagOverdueBooking bookingId => exact hmap flagOverdueBooking_change
  | createPaymentOrder customerId bookingId => exact hmap createPaymentOrder_change
  | verifyClientPayment customerId dto => exact hmap verifyClientPayment_change
  | handleWebhookEvent delivery => exact hmap handleWebhookEvent_change
  | refundPayment adminUserId paymentId dto => exact hmap refundPayment_change

theorem runAlone_change (host : Host) (op : Op) (db : Db) :
    ∃ rows, (runAlone host op db).1 = puts db rows ∧ Change host op.ctx db op.request rows := by
  obtain ⟨rows, hrows, _, hchange⟩ := runAlone_logged host op db
  exact ⟨rows, hrows, hchange⟩

/-- Which for a delivery includes its answer. -/
theorem runAlone_webhook (host : Host) (ctx : Ctx) (delivery : Delivery) (db : Db) :
    (∃ e, readDelivery host delivery = .error e ∧
      (runAlone host ⟨ctx, .handleWebhookEvent delivery⟩ db).1 = db ∧
      (runAlone host ⟨ctx, .handleWebhookEvent delivery⟩ db).2 = .error e) ∨
    ∃ event rows result, readDelivery host delivery = .ok event ∧
      (runAlone host ⟨ctx, .handleWebhookEvent delivery⟩ db).1 = puts db rows ∧
      (runAlone host ⟨ctx, .handleWebhookEvent delivery⟩ db).2 = result.map .webhook ∧
      WebhookChange host ctx db event rows result := by
  refine runAlone_of_ends
    (fun db' r => (∃ e, readDelivery host delivery = .error e ∧ db' = db ∧ r = .error e) ∨
      ∃ event rows result, readDelivery host delivery = .ok event ∧ db' = puts db rows ∧
        r = result.map Response.webhook ∧ WebhookChange host ctx db event rows result) ?_
  refine Ends.map (handleWebhookEvent_ends.mono fun db' r h => ?_)
  rcases h with ⟨e, he, rfl, rfl⟩ | ⟨event, hevent, rows, ⟨rfl, _⟩, hchange⟩
  · exact Or.inl ⟨e, he, rfl, rfl⟩
  · exact Or.inr ⟨event, rows, r, hevent, rfl, rfl, hchange⟩

end ServiceHub
