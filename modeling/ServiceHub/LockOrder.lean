/-
# `LockOrder` — in which order a transaction changes its rows

The documented order is bookings first, then payments.  `expireBooking` and the
webhook keep it; `cancelBookingAsCustomer`, `completeBooking` and
`flagOverdueBooking` change one booking and no payment.  `verifyClientPayment`
and `refundPayment` have it the other way round: the payment, then its booking
(`program_locks`).
-/
import ServiceHub.Writes

namespace ServiceHub

open Data Txn Prog

def Row.isBooking : Row → Bool
  | .booking _ => true
  | _ => false

def Row.isPayment : Row → Bool
  | .payment _ => true
  | _ => false

/-- Its transaction may change a booking and then payments. -/
def Request.bookingFirst : Request → Bool
  | .expireBooking _ | .handleWebhookEvent _ => true
  | _ => false

/-- Its transaction may change a payment and then the booking. -/
def Request.paymentFirst : Request → Bool
  | .verifyClientPayment _ _ | .refundPayment _ _ _ => true
  | _ => false

/-- The open transaction has written such a row. -/
def Took (f : Row → Bool) (h : CallHist) : Prop :=
  ∃ x ∈ (sinceBegin h).getD [], ∃ w ∈ x.1.written x.2, f w

/-- The last answer was to the update of a payment that the call had read
before its transaction; the booking is that of the payment. -/
def AfterPayment (h : CallHist) (bookingId : Uuid) : Prop :=
  ∃ (p a : Payment) (data : PaymentUpdate) (h' : CallHist),
    h = ⟨.stmt (.updatePayment p.id data), .ok a⟩ :: h' ∧ sinceBegin h' = some [] ∧
      bookingId = p.bookingId ∧
      ((∃ orderId, Found h' (.findPaymentByOrder orderId) (some p)) ∨
        ∃ id, Found h' (.findPayment id) (some p))

/-- When a call may change bookings and payments. -/
def Locks (op : Op) (h : CallHist) : Instr Stmt Ext → Prop
  | .stmt (.updateBooking id _) =>
      (¬ Took Row.isBooking h ∧ ¬ Took Row.isPayment h) ∨
        op.request.paymentFirst ∧ AfterPayment h id
  | .stmt (.updatePayment _ _) => ¬ Took Row.isPayment h ∧
      (Took Row.isBooking h → op.request.bookingFirst)
  | .stmt (.updatePayments w _) => op.request.bookingFirst ∧ ¬ Took Row.isPayment h ∧
      ∃ w' data b bs, (⟨.updateBookings w' data, b :: bs⟩ : (s : Stmt) × Ans s) ∈
        (sinceBegin h).getD [] ∧ w'.id = w.bookingId
  | _ => True

/-- Whatever it is answered, the program changes rows only in this order. -/
abbrev Locking {α : Type} (op : Op) (h : CallHist) (p : Call α) : Prop :=
  Obeys (Locks op) (fun _ _ => True) h p

section
variable {f : Row → Bool} {h : CallHist}

theorem not_took_begin (hout : sinceBegin h = none) {r : Except Exn Unit} :
    ¬ Took f (⟨.begin, r⟩ :: h) := by
  rintro ⟨x, hx, _⟩
  cases r <;> simp [sinceBegin, hout] at hx

theorem not_took_cons {s : Stmt} {r : Except Exn (Ans s)} (hnone : ¬ Took f h)
    (hs : ∀ a, ∀ w ∈ s.written a, ¬ f w) : ¬ Took f (⟨.stmt s, r⟩ :: h) := by
  rintro ⟨x, hx, w, hw, hf⟩
  rcases mem_sinceBegin_cons hx with hold | hnew
  · exact hnone ⟨x, hold, w, hw, hf⟩
  · cases hnew
    exact hs _ w hw hf

end

section
variable {host : Host} {op : Op} {ctx : Ctx} {h : CallHist}

theorem createBooking_locks {customerId : Uuid} {dto : CreateBookingDto} :
    Locking op [] (createBooking host ctx customerId dto) := by
  unfold createBooking createBookingTx
  simp only [obeys_bind, ProviderServiceRepository.obeys_findById, obeys_orThrow, obeys_throwIf,
    ProviderAvailabilityRepository.obeys_findByProviderId]
  simp only [Locks, implies_true, and_true, true_and]
  intro found offering _ provider _ _ startsAtDate hdate _ _ schedules
  split
  · trivial
  · simp only [obeys_bind, obeys_external, obeys_catching, obeys_orThrow, obeys_transaction,
      autocommit_bind, BookingRepository.obeys_create, PaymentRepository.obeys_create,
      AuditLogRepository.obeys_create, autocommit_pure, obeys_pure, enqueue]
    simp [Locks, onBookingError, obeys_ite]

theorem cancelBookingAsCustomer_locks {bookingId customerId : Uuid} {dto : CancelBookingDto} :
    Locking op [] (cancelBookingAsCustomer ctx bookingId customerId dto) := by
  unfold cancelBookingAsCustomer cancelBookingTx
  simp only [obeys_bind, BookingRepository.obeys_findById, obeys_orThrow, obeys_throwIf,
    obeys_transaction, autocommit_bind, BookingRepository.obeys_updateStatus,
    AuditLogRepository.obeys_create, autocommit_pure, obeys_pure, enqueue, obeys_external]
  simp [Locks, Took, sinceBegin]

theorem expireBooking_locks {bookingId : Uuid} :
    Locking ⟨ctx, .expireBooking bookingId⟩ [] (expireBooking ctx bookingId) := by
  unfold expireBooking expireBookingTx
  simp only [obeys_transaction, autocommit_bind, obeys_bind, BookingRepository.obeys_findById]
  simp only [Locks, implies_true, and_true, true_and]
  rintro (_ | booking)
  · trivial
  · simp only [autocommit_ite, obeys_ite, autocommit_bind, obeys_bind, autocommit_pure,
      obeys_pure, BookingRepository.obeys_updateMany, PaymentRepository.obeys_updateMany,
      AuditLogRepository.obeys_create]
    simp only [Locks, implies_true, and_true, true_and]
    rintro _ (_ | ⟨b, bs⟩) hcount
    · exact absurd rfl hcount
    · refine ⟨rfl, ?_, _, _, b, bs, List.mem_cons_self, rfl⟩
      simp [Took, sinceBegin, Stmt.written, Row.isPayment]

theorem flagOverdueBooking_locks {bookingId : Uuid} :
    Locking op [] (flagOverdueBooking ctx bookingId) := by
  unfold flagOverdueBooking flagOverdueBookingTx
  simp only [obeys_transaction, autocommit_bind, obeys_bind, BookingRepository.obeys_findById]
  simp only [Locks, implies_true, and_true, true_and]
  rintro (_ | booking)
  · trivial
  · simp only [autocommit_ite, obeys_ite, autocommit_bind, obeys_bind, autocommit_pure,
      obeys_pure, BookingRepository.obeys_updateMany, AuditLogRepository.obeys_create]
    simp [Locks]

theorem completeBooking_locks {bookingId userId : Uuid} {role : Option Role} :
    Locking op [] (completeBooking ctx bookingId userId role) := by
  unfold completeBooking completeBookingTx
  simp only [obeys_bind, BookingRepository.obeys_findById, obeys_orThrow, obeys_throwIf,
    BookingRepository.obeys_includeProvider, obeys_transaction, autocommit_bind,
    BookingRepository.obeys_update, AuditLogRepository.obeys_create, autocommit_pure, obeys_pure,
    enqueue, obeys_external]
  simp [Locks, Took, sinceBegin]

theorem createPaymentOrder_locks {customerId bookingId : Uuid} :
    Locking op [] (createPaymentOrder ctx customerId bookingId) := by
  unfold createPaymentOrder
  simp only [obeys_bind, BookingRepository.obeys_findById, obeys_orThrow, obeys_throwIf,
    PaymentRepository.obeys_findByBookingId]
  simp only [Locks, implies_true, and_true, true_and]
  intro found b _ _ _ payment
  cases payment.filter (·.status = .created) with
  | some p => trivial
  | none =>
      simp only [obeys_bind, obeys_external, PaymentRepository.obeys_create]
      simp [Locks]

theorem verifyClientPayment_locks {customerId : Uuid} {dto : VerifyPaymentDto} :
    Locking ⟨ctx, .verifyClientPayment customerId dto⟩ []
      (verifyClientPayment host ctx customerId dto) := by
  unfold verifyClientPayment verifyClientPaymentTx afterConfirmation
  simp only [obeys_bind, PaymentRepository.obeys_findByGatewayOrderId,
    PaymentRepository.obeys_includeBooking, obeys_orThrow, obeys_throwIf, obeys_ite,
    obeys_transaction, autocommit_bind, PaymentRepository.obeys_updateStatus,
    BookingRepository.obeys_updateStatus, AuditLogRepository.obeys_create, autocommit_pure,
    obeys_pure, enqueue, obeys_external]
  simp only [Locks, implies_true, and_true, true_and]
  refine fun found => ⟨fun _ payment hnone => (by cases hnone), ?_⟩
  rintro p rfl b _ ⟨⟩ _ _ _ _ _
  refine ⟨⟨?_, ?_⟩, fun a => Or.inr ⟨rfl, p, a, _, _, rfl, rfl, rfl, Or.inl ⟨_, _,
    (List.suffix_cons _ _).trans (List.suffix_cons _ _), rfl⟩⟩⟩
  · simp [Took, sinceBegin]
  · simp [Took, sinceBegin]

theorem refundPayment_locks {adminUserId paymentId : Uuid} {dto : RefundPaymentDto} :
    Locking ⟨ctx, .refundPayment adminUserId paymentId dto⟩ []
      (refundPayment host ctx adminUserId paymentId dto) := by
  unfold refundPayment refundPaymentTx
  simp only [obeys_bind, PaymentRepository.obeys_findById, PaymentRepository.obeys_includeBooking,
    obeys_orThrow, obeys_throwIf]
  simp only [Locks, implies_true, and_true, true_and]
  refine fun found => ⟨fun _ payment hnone => (by cases hnone), ?_⟩
  rintro p rfl b _ ⟨⟩ _ _
  split
  · trivial
  · simp only [obeys_bind, obeys_orThrow, obeys_external, obeys_transaction, autocommit_bind,
      autocommit_ite, obeys_ite, PaymentRepository.obeys_updateStatus,
      BookingRepository.obeys_updateStatus, AuditLogRepository.obeys_create, autocommit_pure,
      obeys_pure]
    simp only [Locks, implies_true, and_true, true_and]
    refine fun gatewayPaymentId _ refund _ => ⟨⟨?_, ?_⟩, fun a _ =>
      Or.inr ⟨rfl, p, a, _, _, rfl, rfl, rfl, Or.inr ⟨_, _,
        ((List.suffix_cons _ _).trans (List.suffix_cons _ _)).trans (List.suffix_cons _ _), rfl⟩⟩⟩
    · simp [Took, sinceBegin]
    · simp [Took, sinceBegin]

/-! ## The webhook: the booking, then the payment -/

/-- The open transaction has changed no payment. -/
abbrev BeforePayment (h : CallHist) : Prop := ¬ Took Row.isPayment h

theorem settleBooking_locks {payment : PaymentWithBooking} (hbooking : ¬ Took Row.isBooking h)
    (hpayment : BeforePayment h) : Obeys (Locks op) (fun h' _ => BeforePayment h') h
      (autocommit Ext (settleBooking ctx payment)) := by
  unfold settleBooking
  simp only [autocommit_bind, obeys_bind, BookingRepository.obeys_findById, autocommit_ite,
    obeys_ite, BookingRepository.obeys_updateStatus, AuditLogRepository.obeys_create,
    autocommit_pure, obeys_pure]
  simp only [Locks, true_and]
  have hread : ∀ {f : Row → Bool} {h : CallHist} {id : Uuid} {r : Except Exn (Option Booking)},
      ¬ Took f h → ¬ Took f (⟨.stmt (.findBooking id), r⟩ :: h) := by
    intro f h id r hnone
    exact not_took_cons hnone fun _ w hw => absurd hw List.not_mem_nil
  have haudit : ∀ {h : CallHist} {l : AuditLog} {r : Except Exn AuditLog},
      BeforePayment h → BeforePayment (⟨.stmt (.createAudit l), r⟩ :: h) := by
    intro h l r hnone
    exact not_took_cons hnone fun a w hw => by simp [List.mem_singleton.mp hw, Row.isPayment]
  have hupdate : ∀ {h : CallHist} {id : Uuid} {data : BookingUpdate} {r : Except Exn Booking},
      BeforePayment h → BeforePayment (⟨.stmt (.updateBooking id data), r⟩ :: h) := by
    intro h id data r hnone
    exact not_took_cons hnone fun a w hw => by simp [List.mem_singleton.mp hw, Row.isPayment]
  refine ⟨fun found => ⟨fun _ => ⟨Or.inl ⟨hread hbooking, hread hpayment⟩, ?_⟩, ?_⟩, ?_⟩
  · refine ⟨fun b => ⟨fun l => ?_, ?_⟩, ?_⟩
    · exact haudit (hupdate (hread hpayment))
    · exact fun _ => haudit (hupdate (hread hpayment))
    · exact fun _ => hupdate (hread hpayment)
  · exact fun _ => ⟨fun _ => haudit (hread hpayment), fun _ => haudit (hread hpayment)⟩
  · exact fun _ => hread hpayment

theorem settlePayment_locks {payment : PaymentWithBooking} {event : WebhookEvent}
    {eventType : String} (hop : op.request.bookingFirst) (hpayment : BeforePayment h) :
    Locking op h (autocommit Ext (settlePayment host ctx payment event eventType)) := by
  unfold settlePayment
  simp only [autocommit_bind, obeys_bind]
  refine obeys_optionalString ?_ fun _ => trivial
  simp only [PaymentRepository.obeys_updateStatus, AuditLogRepository.obeys_create,
    autocommit_pure, obeys_pure]
  simp only [Locks, implies_true, and_true]
  exact ⟨hpayment, fun _ => hop⟩

theorem handleCaptured_locks {payment : PaymentWithBooking} {event : WebhookEvent}
    {eventType : String} (hop : op.request.bookingFirst) (hbooking : ¬ Took Row.isBooking h)
    (hpayment : BeforePayment h) :
    Locking op h (autocommit Ext (handleCaptured host ctx payment event eventType)) := by
  unfold handleCaptured
  simp only [autocommit_ite, obeys_ite, autocommit_pure, obeys_pure, implies_true, true_and]
  intro _ _ _
  cases currencyDiffers host payment.toPayment event.paymentEntity with
  | error e => trivial
  | ok differs =>
      cases differs with
      | true => trivial
      | false =>
          show Locking op h (autocommit Ext (settleCapture host ctx payment event eventType))
          unfold settleCapture
          simp only [autocommit_bind]
          refine obeys_bind.mpr ((settleBooking_locks hbooking hpayment).mono (fun _ _ hq => hq) ?_)
          rintro h' (e | confirmed) hafter
          · trivial
          · exact (settlePayment_locks hop hafter).bind (fun _ _ => trivial) fun _ _ => trivial

theorem handleFailed_locks {payment : PaymentWithBooking} {event : WebhookEvent}
    (hop : op.request.bookingFirst) (hpayment : BeforePayment h) :
    Locking op h (autocommit Ext (handleFailed host ctx payment event)) := by
  unfold handleFailed
  simp only [autocommit_ite, obeys_ite, autocommit_bind, obeys_bind]
  refine ⟨fun _ => obeys_optionalString ?_ fun _ => trivial, fun _ => trivial⟩
  simp only [PaymentRepository.obeys_updateStatus, AuditLogRepository.obeys_create,
    autocommit_pure, obeys_pure]
  simp only [Locks, implies_true, and_true]
  exact ⟨hpayment, fun _ => hop⟩

theorem handleRefunded_locks {payment : PaymentWithBooking} (hop : op.request.bookingFirst)
    (hpayment : BeforePayment h) :
    Locking op h (autocommit Ext (handleRefunded ctx payment)) := by
  unfold handleRefunded
  simp only [autocommit_ite, obeys_ite, autocommit_bind, obeys_bind,
    PaymentRepository.obeys_updateStatus, autocommit_pure, obeys_pure]
  simp only [Locks, implies_true, and_true]
  exact fun _ => ⟨hpayment, fun _ => hop⟩

theorem handleEvent_locks {payment : PaymentWithBooking} {event : WebhookEvent}
    {eventType : String} (hop : op.request.bookingFirst) (hbooking : ¬ Took Row.isBooking h)
    (hpayment : BeforePayment h) :
    Locking op h (autocommit Ext (handleEvent host ctx payment event eventType)) := by
  unfold handleEvent
  simp only [autocommit_ite, obeys_ite, autocommit_bind, autocommit_pure]
  refine ⟨fun _ => handleCaptured_locks hop hbooking hpayment, fun _ => ⟨fun _ => ?_,
    fun _ => ⟨fun _ => ?_, fun _ => trivial⟩⟩⟩
  · exact (handleFailed_locks hop hpayment).bind (fun _ _ => trivial) fun _ _ => trivial
  · exact (handleRefunded_locks hop hpayment).bind (fun _ _ => trivial) fun _ _ => trivial

theorem webhookTx_locks {payment : PaymentWithBooking} {event : WebhookEvent} {eventId : String}
    (hop : op.request.bookingFirst) (hbooking : ¬ Took Row.isBooking h)
    (hpayment : BeforePayment h) :
    Locking op h (autocommit Ext (webhookTx host ctx payment event eventId)) := by
  unfold webhookTx requireString
  simp only [autocommit_bind, obeys_bind, autocommit_orThrow, obeys_orThrow,
    PaymentRepository.obeys_recordWebhookEvent]
  simp only [Locks, implies_true, and_true, true_and]
  intro eventType _ _ row
  have hrecorded : ∀ {f : Row → Bool} {x : PaymentWebhookEvent}, ¬ Took f h →
      (∀ e, ¬ f (.event e)) → ¬ Took f (⟨.stmt (.createEvent x), .ok row⟩ :: h) := by
    intro f x hnone hf
    refine not_took_cons hnone fun a w hw => ?_
    rw [List.mem_singleton.mp hw]
    exact hf _
  refine (handleEvent_locks hop (hrecorded hbooking ?_) (hrecorded hpayment ?_)).mono
    (fun _ _ hq => hq) ?_
  · simp [Row.isBooking]
  · simp [Row.isPayment]
  rintro h (e | confirmed) _
  · trivial
  · simp only [PaymentRepository.obeys_markWebhookEventProcessed, autocommit_pure, obeys_pure]
    simp only [Locks, implies_true, and_true]

theorem recordAndSkip_locks {event : WebhookEvent} {eventId : String} :
    Locking op h (autocommit Ext (recordAndSkip host ctx event eventId)) := by
  unfold recordAndSkip requireString
  simp only [autocommit_bind, obeys_bind, autocommit_orThrow, obeys_orThrow,
    PaymentRepository.obeys_recordWebhookEvent, autocommit_pure, obeys_pure]
  simp only [Locks, implies_true, and_true]

theorem afterConfirmation_locks {bookingId : Uuid} :
    Locking op h (afterConfirmation ctx bookingId) := by
  unfold afterConfirmation
  simp only [obeys_bind, enqueue, obeys_external]
  simp only [Locks, implies_true, and_true]

theorem handleWebhookEvent_locks {delivery : Delivery} :
    Locking ⟨ctx, .handleWebhookEvent delivery⟩ [] (handleWebhookEvent host ctx delivery) := by
  unfold handleWebhookEvent
  split
  · trivial
  unfold processWebhookEvent requireString
  simp only [autocommit_orThrow, obeys_bind, obeys_orThrow, obeys_ite, obeys_pure,
    PaymentRepository.obeys_findWebhookEvent]
  simp only [Locks, implies_true, and_true, true_and]
  refine fun eventId _ found _ => ⟨fun _ => recordAndSkip_locks, fun _ orderId _ => ?_⟩
  refine PaymentRepository.obeys_findByGatewayOrderId.mpr ⟨trivial, fun o => ?_, fun _ => trivial⟩
  refine PaymentRepository.obeys_includeBooking.mpr ⟨fun _ => recordAndSkip_locks,
    fun p _ => ⟨trivial, fun b => ?_, trivial, fun _ => trivial⟩⟩
  have hcatch : ∀ (h : CallHist) (e : Exn), Locking ⟨ctx, .handleWebhookEvent delivery⟩ h
      (if e.isDuplicate then (pure .alreadyProcessed : Call WebhookResult) else .throw e) := by
    intro h e
    split <;> trivial
  refine obeys_catching.mpr (obeys_bind.mpr (obeys_transaction.mpr
    ⟨trivial, fun e => hcatch _ e, ?_⟩))
  refine (webhookTx_locks rfl (not_took_begin rfl) (not_took_begin rfl)).mono (fun _ _ hq => hq) ?_
  rintro h (e | confirmed) _
  · exact ⟨trivial, fun _ => hcatch _ _⟩
  · refine ⟨trivial, ?_, fun e => hcatch _ e⟩
    cases confirmed with
    | none => trivial
    | some bookingId =>
        exact afterConfirmation_locks.bind (fun _ _ => trivial) fun _ e => hcatch _ e

end

/-- **Every call** changes bookings and payments only in its order. -/
theorem program_locks {host : Host} {op : Op} : Locking op [] (program host op) := by
  obtain ⟨ctx, request⟩ := op
  cases request with
  | createBooking customerId dto => exact createBooking_locks.map
  | cancelBookingAsCustomer bookingId customerId dto => exact cancelBookingAsCustomer_locks.map
  | expireBooking bookingId => exact expireBooking_locks.map
  | completeBooking bookingId userId role => exact completeBooking_locks.map
  | flagOverdueBooking bookingId => exact flagOverdueBooking_locks.map
  | createPaymentOrder customerId bookingId => exact createPaymentOrder_locks.map
  | verifyClientPayment customerId dto => exact verifyClientPayment_locks.map
  | handleWebhookEvent delivery => exact handleWebhookEvent_locks.map
  | refundPayment adminUserId paymentId dto => exact refundPayment_locks.map

/-- The order in which a call goes on to change rows. -/
theorem locks_of_run {host : Host} {db : Db} {Ok : System → Event Op Exn → Prop} {c : System}
    (hrun : Run (program host) Ok ⟨db, []⟩ c) : ∀ P ∈ c.procs, Locking P.op P.hist P.prog :=
  hrun.obeys (fun _ _ _ => program_locks) rfl

end ServiceHub
