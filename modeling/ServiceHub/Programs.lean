/-
# `Programs` — what each call asks, and when

Whatever the database and the outside answer, a call asks each of the following
only after the answers that the code checks for (`program_asks`).

    INSERT of a booking          the instant is valid and within a shift
    UPDATE of a booking's status the status was read as not terminal (refunds apart)
    SELECT of a payment by id    first of all, by a refund
    a refund at the gateway      once, the payment was read as refundable, and
                                 the amount fits it
-/
import ServiceHub.Changes
import ServiceHub.Txn.History

namespace ServiceHub

open Data Txn Prog

/-- The status of the booking when the call last read it. -/
def lastStatus (id : Uuid) : CallHist → Option BookingStatus
  | [] => none
  | ⟨.stmt (.findBooking id'), r⟩ :: h =>
      if id' = id then (r.toOption.bind fun found => found).map Booking.bookingStatus
      else lastStatus id h
  | _ :: h => lastStatus id h

/-- The payment as the call last read it by its id. -/
def paymentFound (id : Uuid) : CallHist → Option Payment
  | [] => none
  | ⟨.stmt (.findPayment id'), r⟩ :: h =>
      if id' = id then r.toOption.bind fun found => found else paymentFound id h
  | _ :: h => paymentFound id h

/-- What the call has asked the gateway to pay back. -/
def refundsAsked : CallHist → List CreateRefundParams
  | [] => []
  | ⟨.call (.createRefund params), _⟩ :: h => params :: refundsAsked h
  | _ :: h => refundsAsked h

def Request.isRefund : Request → Bool
  | .refundPayment _ _ _ => true
  | _ => false

/-- `refundPayment` takes the payment to the gateway. -/
def Refundable (host : Host) (dto : RefundPaymentDto) (payment : Payment) : Prop :=
  payment.status = .success ∧ checkRefundAmount host payment.amount dto.amount = none ∧
    (payment.gatewayPaymentId.filter (· ≠ "")).isSome

instance (host : Host) (dto : RefundPaymentDto) (payment : Payment) :
    Decidable (Refundable host dto payment) := inferInstanceAs (Decidable (_ ∧ _ ∧ _))

/-- The booking is what `createBooking` makes of an instant that it admits. -/
def Admitted (host : Host) (op : Op) (b : Booking) : Prop :=
  ∃ customerId dto providerService provider service startsAtDate schedules,
    op.request = .createBooking customerId dto ∧
    host.date dto.startsAt = some startsAtDate ∧
    checkWorkingHours schedules startsAtDate providerService.durationMinutes
      providerService.bufferMinutes = none ∧
    b = newBooking op.ctx customerId dto providerService provider service startsAtDate

/-- When a call may ask what. -/
def Asks (host : Host) (op : Op) (h : CallHist) : Instr Stmt Ext → Prop
  | .stmt (.createBooking b) => Admitted host op b
  | .stmt (.updateBooking id data) => op.request.isRefund = false →
      (∃ t, data.bookingStatus = some t) ∧ ∃ s, lastStatus id h = some s ∧ ¬ s.terminal
  | .stmt (.updateBookings w _) => ¬ w.bookingStatus.terminal
  | .stmt (.findPayment id) => h = [] ∧
      ∃ adminUserId dto, op.request = .refundPayment adminUserId id dto
  | .call (.createRefund params) => refundsAsked h = [] ∧
      ∃ adminUserId id dto payment, op.request = .refundPayment adminUserId id dto ∧
        paymentFound id h = some payment ∧ Refundable host dto payment ∧
        params.amount = refundAmount payment.amount dto
  | _ => True

/-- Whatever it is answered, the program asks only what it may. -/
abbrev Asking {α : Type} (host : Host) (op : Op) (h : CallHist) (p : Call α) : Prop :=
  Obeys (Asks host op) (fun _ _ => True) h p

theorem not_terminal_pendingPayment : ¬ BookingStatus.terminal .pendingPayment := by decide

theorem not_terminal_confirmed : ¬ BookingStatus.terminal .confirmed := by decide

theorem not_terminal_of_canTransition {s t : BookingStatus} (h : canTransitionBooking s t = true) :
    ¬ s.terminal := by
  intro hs
  simp [canTransitionBooking, show validBookingTransitions s = [] from hs] at h

section
variable {host : Host} {op : Op} {ctx : Ctx} {h : CallHist}

theorem createBooking_asks {customerId : Uuid} {dto : CreateBookingDto} :
    Asking host ⟨ctx, .createBooking customerId dto⟩ [] (createBooking host ctx customerId dto) := by
  unfold createBooking createBookingTx
  simp only [obeys_bind, ProviderServiceRepository.obeys_findById, obeys_orThrow, obeys_throwIf,
    ProviderAvailabilityRepository.obeys_findByProviderId]
  simp only [Asks, implies_true, and_true, true_and]
  intro found offering _ provider _ _ startsAtDate hdate _ _ schedules
  split
  · trivial
  · rename_i hshift
    simp only [obeys_bind, obeys_external, obeys_catching, obeys_orThrow, obeys_transaction,
      autocommit_bind, BookingRepository.obeys_create, PaymentRepository.obeys_create,
      AuditLogRepository.obeys_create, autocommit_pure, obeys_pure, enqueue]
    have hadmitted : ∀ service, Admitted host ⟨ctx, .createBooking customerId dto⟩
        (newBooking ctx customerId dto offering.toProviderService provider.toProviderProfile
          service startsAtDate) :=
      fun service => ⟨customerId, dto, offering.toProviderService, provider.toProviderProfile,
        service, startsAtDate, schedules, rfl, hdate, hshift, rfl⟩
    simp [Asks, onBookingError, obeys_ite, hadmitted]

theorem cancelBookingAsCustomer_asks {bookingId customerId : Uuid} {dto : CancelBookingDto} :
    Asking host op [] (cancelBookingAsCustomer ctx bookingId customerId dto) := by
  unfold cancelBookingAsCustomer cancelBookingTx
  simp only [obeys_bind, BookingRepository.obeys_findById, obeys_orThrow, obeys_throwIf,
    obeys_transaction, autocommit_bind, BookingRepository.obeys_updateStatus,
    AuditLogRepository.obeys_create, autocommit_pure, obeys_pure, enqueue, obeys_external]
  simp only [Asks, implies_true, and_true, true_and]
  intro found b hb hcan _
  obtain ⟨rfl, _⟩ := Option.filter_eq_some_iff.mp hb
  refine fun _ => ⟨⟨_, rfl⟩, b.bookingStatus, by simp [lastStatus, Except.toOption], ?_⟩
  exact not_terminal_of_canTransition (by simpa using hcan)

theorem expireBooking_asks {bookingId : Uuid} :
    Asking host op [] (expireBooking ctx bookingId) := by
  unfold expireBooking expireBookingTx
  simp only [obeys_transaction, autocommit_bind, obeys_bind, BookingRepository.obeys_findById]
  simp only [Asks, implies_true, and_true, true_and]
  rintro (_ | booking)
  · trivial
  · simp only [autocommit_ite, obeys_ite, autocommit_bind, obeys_bind, autocommit_pure,
      obeys_pure, BookingRepository.obeys_updateMany, PaymentRepository.obeys_updateMany,
      AuditLogRepository.obeys_create]
    simp [Asks, not_terminal_pendingPayment]

theorem flagOverdueBooking_asks {bookingId : Uuid} :
    Asking host op [] (flagOverdueBooking ctx bookingId) := by
  unfold flagOverdueBooking flagOverdueBookingTx
  simp only [obeys_transaction, autocommit_bind, obeys_bind, BookingRepository.obeys_findById]
  simp only [Asks, implies_true, and_true, true_and]
  rintro (_ | booking)
  · trivial
  · simp only [autocommit_ite, obeys_ite, autocommit_bind, obeys_bind, autocommit_pure,
      obeys_pure, BookingRepository.obeys_updateMany, AuditLogRepository.obeys_create]
    simp [Asks, not_terminal_confirmed]

theorem completeBooking_asks {bookingId userId : Uuid} {role : Option Role} :
    Asking host op [] (completeBooking ctx bookingId userId role) := by
  unfold completeBooking completeBookingTx
  simp only [obeys_bind, BookingRepository.obeys_findById, obeys_orThrow, obeys_throwIf,
    BookingRepository.obeys_includeProvider, obeys_transaction, autocommit_bind,
    BookingRepository.obeys_update, AuditLogRepository.obeys_create, autocommit_pure, obeys_pure,
    enqueue, obeys_external]
  simp only [Asks, implies_true, and_true, true_and]
  rintro found b rfl provider _ hcan
  refine fun _ => ⟨⟨_, rfl⟩, b.bookingStatus, by simp [lastStatus, Except.toOption], ?_⟩
  exact not_terminal_of_canTransition (by simpa using hcan)

theorem createPaymentOrder_asks {customerId bookingId : Uuid} :
    Asking host op [] (createPaymentOrder ctx customerId bookingId) := by
  unfold createPaymentOrder
  simp only [obeys_bind, BookingRepository.obeys_findById, obeys_orThrow, obeys_throwIf,
    PaymentRepository.obeys_findByBookingId]
  simp only [Asks, implies_true, and_true, true_and]
  intro found b _ _ _ payment
  cases payment.filter (·.status = .created) with
  | some p => trivial
  | none =>
      simp only [obeys_bind, obeys_external, PaymentRepository.obeys_create]
      simp [Asks]

theorem verifyClientPayment_asks {customerId : Uuid} {dto : VerifyPaymentDto} :
    Asking host op [] (verifyClientPayment host ctx customerId dto) := by
  unfold verifyClientPayment verifyClientPaymentTx afterConfirmation
  simp only [obeys_bind, PaymentRepository.obeys_findByGatewayOrderId,
    PaymentRepository.obeys_includeBooking, obeys_orThrow, obeys_throwIf, obeys_ite,
    obeys_transaction, autocommit_bind, PaymentRepository.obeys_updateStatus,
    BookingRepository.obeys_updateStatus, AuditLogRepository.obeys_create, autocommit_pure,
    obeys_pure, enqueue, obeys_external]
  simp only [Asks, implies_true, and_true, true_and]
  refine fun found => ⟨fun _ payment hnone => (by cases hnone), ?_⟩
  rintro p rfl b _ ⟨⟩ _ _ _ hpending _ _
  refine fun _ => ⟨⟨_, rfl⟩, b.bookingStatus, by simp [lastStatus, Except.toOption], ?_⟩
  rw [not_not.mp hpending]
  exact not_terminal_pendingPayment

end

/-! ## The handler of a webhook event -/

/-- The event settles the payment. -/
def Settles (host : Host) (payment : PaymentWithBooking) (event : WebhookEvent)
    (eventType : String) : Prop :=
  isCapture eventType ∧ payment.status ≠ .success ∧
    canTransitionPayment payment.status .success = true ∧
    ¬ Tampered host payment.toPayment event

/-- What the handler of an event may ask, in the order of `handleEvent`. -/
def Handles (host : Host) (ctx : Ctx) (payment : PaymentWithBooking) (event : WebhookEvent)
    (eventType : String) (h : CallHist) : Instr Stmt Ext → Prop
  | .stmt (.findBooking id) => Settles host payment event eventType ∧ id = payment.bookingId
  | .stmt (.updateBooking id data) => Settles host payment event eventType ∧
      id = payment.bookingId ∧ data = confirmData ctx ∧
      ∃ b h', h = ⟨.stmt (.findBooking id), .ok (some b)⟩ :: h' ∧ b.bookingStatus = .pendingPayment
  | .stmt (.updatePayment id data) => id = payment.id ∧
      ((Settles host payment event eventType ∧ data = captureData host ctx payment.toPayment event) ∨
        (eventType = "payment.failed" ∧ payment.status ≠ .failed ∧ data = failData host event) ∨
        (isRefund eventType ∧ payment.status ≠ .refunded ∧ data = reconcileData ctx))
  | .stmt (.createAudit _) => True
  | _ => False

theorem stmt_of_handles {host : Host} {ctx : Ctx} {payment : PaymentWithBooking}
    {event : WebhookEvent} {eventType : String} {h : CallHist} {i : Instr Stmt Ext}
    (hi : Handles host ctx payment event eventType h i) : ∃ s, i = .stmt s := by
  cases i with
  | stmt s => exact ⟨s, rfl⟩
  | _ => exact hi.elim

section
variable {host : Host} {ctx : Ctx} {payment : PaymentWithBooking} {event : WebhookEvent}
  {eventType : String} {h : CallHist}

theorem obeys_optionalString {Q : CallHist → Instr Stmt Ext → Prop}
    {R : CallHist → Except Exn (Option PaymentRepository.TextInput) → Prop} {o : Option Json}
    (hok : R h (.ok (inputIfTruthy host o))) (herror : ∀ e, R h (.error e)) :
    Obeys Q R h (autocommit Ext (optionalString host o)) := by
  unfold optionalString
  simp only [autocommit_ite, obeys_ite, autocommit_bind, obeys_bind, autocommit_orThrow,
    obeys_orThrow, autocommit_pure, obeys_pure]
  refine ⟨fun htruthy => ⟨fun _ => herror _, fun input hinput => ?_⟩, fun hfalsy => ?_⟩
  · simpa [inputIfTruthy, htruthy, hinput] using hok
  · simpa [inputIfTruthy, hfalsy] using hok

theorem settleBooking_handles (hsettles : Settles host payment event eventType) :
    Obeys (Handles host ctx payment event eventType) (fun _ _ => True) h
      (autocommit Ext (settleBooking ctx payment)) := by
  unfold settleBooking
  simp only [autocommit_bind, obeys_bind, BookingRepository.obeys_findById, autocommit_ite,
    obeys_ite, BookingRepository.obeys_updateStatus, AuditLogRepository.obeys_create,
    autocommit_pure, obeys_pure]
  simp only [Handles, implies_true, and_true, true_and]
  refine ⟨hsettles, fun found hpending => ⟨hsettles, rfl, ?_⟩⟩
  obtain ⟨b, rfl, hb⟩ := Option.map_eq_some_iff.mp hpending
  exact ⟨b, h, rfl, hb⟩

theorem settlePayment_handles (hsettles : Settles host payment event eventType) :
    Obeys (Handles host ctx payment event eventType) (fun _ _ => True) h
      (autocommit Ext (settlePayment host ctx payment event eventType)) := by
  unfold settlePayment
  simp only [autocommit_bind, obeys_bind]
  refine obeys_optionalString ?_ fun _ => trivial
  simp only [PaymentRepository.obeys_updateStatus, AuditLogRepository.obeys_create,
    autocommit_pure, obeys_pure]
  simp only [Handles, implies_true, and_true, true_and]
  exact Or.inl ⟨hsettles, rfl⟩

theorem handleCaptured_handles (hcapture : isCapture eventType) :
    Obeys (Handles host ctx payment event eventType) (fun _ _ => True) h
      (autocommit Ext (handleCaptured host ctx payment event eventType)) := by
  unfold handleCaptured
  simp only [autocommit_ite, obeys_ite, autocommit_pure, obeys_pure, implies_true, true_and]
  intro hopen hcan hamount
  cases hcurrency : currencyDiffers host payment.toPayment event.paymentEntity with
  | error e => trivial
  | ok differs =>
      cases differs with
      | true => trivial
      | false =>
          have hsettles : Settles host payment event eventType := by
            refine ⟨hcapture, hopen, by simpa using hcan, ?_⟩
            simp [Tampered, hcurrency, hamount]
          show Obeys _ _ h (autocommit Ext (settleCapture host ctx payment event eventType))
          unfold settleCapture
          simp only [autocommit_bind]
          refine (settleBooking_handles hsettles).bind (fun h _ => ?_) fun _ _ => trivial
          exact (settlePayment_handles hsettles).bind (fun _ _ => trivial) fun _ _ => trivial

theorem handleFailed_handles (hfailed : eventType = "payment.failed") :
    Obeys (Handles host ctx payment event eventType) (fun _ _ => True) h
      (autocommit Ext (handleFailed host ctx payment event)) := by
  unfold handleFailed
  simp only [autocommit_ite, obeys_ite, autocommit_bind, obeys_bind]
  refine ⟨fun hopen => obeys_optionalString ?_ fun _ => trivial, fun _ => trivial⟩
  simp only [PaymentRepository.obeys_updateStatus, AuditLogRepository.obeys_create,
    autocommit_pure, obeys_pure]
  simp only [Handles, implies_true, and_true, true_and]
  exact Or.inr (Or.inl ⟨hfailed, hopen, rfl⟩)

theorem handleRefunded_handles (hrefund : isRefund eventType) :
    Obeys (Handles host ctx payment event eventType) (fun _ _ => True) h
      (autocommit Ext (handleRefunded ctx payment)) := by
  unfold handleRefunded
  simp only [autocommit_ite, obeys_ite, autocommit_bind, obeys_bind,
    PaymentRepository.obeys_updateStatus, autocommit_pure, obeys_pure]
  simp only [Handles, implies_true, and_true, true_and]
  exact fun hopen => Or.inr (Or.inr ⟨hrefund, hopen, rfl⟩)

/-- **The handler of an event** asks only what it may. -/
theorem handleEvent_handles : Obeys (Handles host ctx payment event eventType) (fun _ _ => True) h
    (autocommit Ext (handleEvent host ctx payment event eventType)) := by
  unfold handleEvent
  simp only [autocommit_ite, obeys_ite, autocommit_bind, autocommit_pure]
  refine ⟨fun hcapture => handleCaptured_handles hcapture, fun _ => ⟨fun hfailed => ?_,
    fun _ => ⟨fun hrefund => ?_, fun _ => trivial⟩⟩⟩
  · exact (handleFailed_handles hfailed).bind (fun _ _ => trivial) fun _ _ => trivial
  · exact (handleRefunded_handles hrefund).bind (fun _ _ => trivial) fun _ _ => trivial

theorem asks_of_handles {op : Op} {i : Instr Stmt Ext}
    (hi : Handles host ctx payment event eventType h i) : Asks host op h i := by
  cases i with
  | stmt s =>
      cases s with
      | updateBooking id data =>
          obtain ⟨_, rfl, rfl, b, h', rfl, hpending⟩ := hi
          refine fun _ => ⟨⟨_, rfl⟩, b.bookingStatus, by simp [lastStatus, Except.toOption], ?_⟩
          rw [hpending]
          exact not_terminal_pendingPayment
      | createBooking _ | updateBookings _ _ | findPayment _ => exact hi.elim
      | _ => trivial
  | call _ => exact hi.elim
  | _ => trivial

end

section
variable {host : Host} {op : Op} {ctx : Ctx} {h : CallHist}

theorem webhookTx_asks {payment : PaymentWithBooking} {event : WebhookEvent}
    {eventId : String} : Asking host op h
      (autocommit Ext (webhookTx host ctx payment event eventId)) := by
  unfold webhookTx requireString
  simp only [autocommit_bind, obeys_bind, autocommit_orThrow, obeys_orThrow,
    PaymentRepository.obeys_recordWebhookEvent]
  simp only [Asks, implies_true, and_true, true_and]
  intro eventType _ _ row
  refine handleEvent_handles.mono (fun _ _ hq => asks_of_handles hq) ?_
  rintro h (e | confirmed) _
  · trivial
  · simp only [PaymentRepository.obeys_markWebhookEventProcessed, autocommit_pure, obeys_pure]
    simp only [Asks, implies_true, and_true]

theorem recordAndSkip_asks {event : WebhookEvent} {eventId : String} :
    Asking host op h (autocommit Ext (recordAndSkip host ctx event eventId)) := by
  unfold recordAndSkip requireString
  simp only [autocommit_bind, obeys_bind, autocommit_orThrow, obeys_orThrow,
    PaymentRepository.obeys_recordWebhookEvent, autocommit_pure, obeys_pure]
  simp only [Asks, implies_true, and_true]

theorem afterConfirmation_asks {bookingId : Uuid} :
    Asking host op h (afterConfirmation ctx bookingId) := by
  unfold afterConfirmation
  simp only [obeys_bind, enqueue, obeys_external]
  simp only [Asks, implies_true, and_true]

theorem handleWebhookEvent_asks {delivery : Delivery} :
    Asking host op [] (handleWebhookEvent host ctx delivery) := by
  unfold handleWebhookEvent
  split
  · trivial
  unfold processWebhookEvent requireString
  simp only [autocommit_orThrow, obeys_bind, obeys_orThrow, obeys_ite, obeys_pure,
    PaymentRepository.obeys_findWebhookEvent]
  simp only [Asks, implies_true, and_true, true_and]
  refine fun eventId _ found _ => ⟨fun _ => recordAndSkip_asks, fun _ orderId _ => ?_⟩
  refine PaymentRepository.obeys_findByGatewayOrderId.mpr ⟨trivial, fun o => ?_, fun _ => trivial⟩
  refine PaymentRepository.obeys_includeBooking.mpr ⟨fun _ => recordAndSkip_asks,
    fun p _ => ⟨trivial, fun b => ?_, trivial, fun _ => trivial⟩⟩
  have hcatch : ∀ (h : CallHist) (e : Exn), Asking host op h
      (if e.isDuplicate then (pure .alreadyProcessed : Call WebhookResult) else .throw e) := by
    intro h e
    split <;> trivial
  refine obeys_catching.mpr (obeys_bind.mpr (obeys_transaction.mpr
    ⟨trivial, fun e => hcatch _ e, ?_⟩))
  refine webhookTx_asks.mono (fun _ _ hq => hq) ?_
  rintro h (e | confirmed) _
  · exact ⟨trivial, fun _ => hcatch _ _⟩
  · refine ⟨trivial, ?_, fun e => hcatch _ e⟩
    cases confirmed with
    | none => trivial
    | some bookingId =>
        exact afterConfirmation_asks.bind (fun _ _ => trivial) fun _ e => hcatch _ e

theorem refundPaymentTx_asks {adminUserId : Uuid} {dto : RefundPaymentDto}
    {payment : PaymentWithBooking} {refundId : String} (hop : op.request.isRefund = true) :
    Asking host op h
      (transaction Ext (refundPaymentTx ctx adminUserId dto payment refundId)) := by
  unfold refundPaymentTx
  simp only [obeys_bind, obeys_transaction, autocommit_bind, autocommit_ite, obeys_ite,
    PaymentRepository.obeys_updateStatus, BookingRepository.obeys_updateStatus,
    AuditLogRepository.obeys_create, autocommit_pure, obeys_pure]
  simp [Asks, hop]

theorem refundPayment_asks {adminUserId paymentId : Uuid} {dto : RefundPaymentDto} :
    Asking host ⟨ctx, .refundPayment adminUserId paymentId dto⟩ []
      (refundPayment host ctx adminUserId paymentId dto) := by
  unfold refundPayment
  simp only [obeys_bind, PaymentRepository.obeys_findById, PaymentRepository.obeys_includeBooking,
    obeys_orThrow, obeys_throwIf]
  simp only [Asks, implies_true, and_true, true_and]
  refine ⟨⟨adminUserId, dto, rfl⟩, fun found => ⟨fun _ payment hnone => (by cases hnone), ?_⟩⟩
  rintro p rfl b _ ⟨⟩ _ hsuccess
  split
  · trivial
  · rename_i hamount
    simp only [obeys_bind, obeys_orThrow, obeys_external, implies_true, true_and, and_true]
    intro gatewayPaymentId hid
    refine ⟨⟨rfl, adminUserId, paymentId, dto, p, rfl, by simp [paymentFound, Except.toOption],
      ⟨not_not.mp hsuccess, hamount, by rw [hid]; rfl⟩, rfl⟩, ?_⟩
    exact fun _ _ => refundPaymentTx_asks rfl

end

/-- **Every call** asks only what it may. -/
theorem program_asks {host : Host} {op : Op} : Asking host op [] (program host op) := by
  obtain ⟨ctx, request⟩ := op
  cases request with
  | createBooking customerId dto => exact createBooking_asks.map
  | cancelBookingAsCustomer bookingId customerId dto => exact cancelBookingAsCustomer_asks.map
  | expireBooking bookingId => exact expireBooking_asks.map
  | completeBooking bookingId userId role => exact completeBooking_asks.map
  | flagOverdueBooking bookingId => exact flagOverdueBooking_asks.map
  | createPaymentOrder customerId bookingId => exact createPaymentOrder_asks.map
  | verifyClientPayment customerId dto => exact verifyClientPayment_asks.map
  | handleWebhookEvent delivery => exact handleWebhookEvent_asks.map
  | refundPayment adminUserId paymentId dto => exact refundPayment_asks.map

end ServiceHub
