/-
# `Authority` — who sets what

Every update of a booking or a payment sets columns of one of nine shapes, and
each shape belongs to one operation, which has checked by then who is asking
(`program_permits`).

    cancelData           cancelBookingAsCustomer   the booking was read, is the caller's, and is
                                                   not within two hours
    completeData         completeBooking           the booking was read, and the caller is its
                                                   provider's user or an admin
    confirmData          verifyClientPayment, the webhook
    refundBookingData    refundPayment             the payment was read and can be refunded
    verifyData           verifyClientPayment       the signature is over the order of the payment
    captureData, …       the webhook               the delivery names the order of the payment
    refundData           refundPayment             and the gateway has accepted
    expirePaymentData    expireBooking

What was read may be out of date when the update comes; but whom a booking and a
payment belong to is never updated, so that in every step of every interleaving
that changes a status the caller had the right to ask for the new one
(`status_by_authority`, `payment_by_authority`).
-/
import ServiceHub.Confirming
import ServiceHub.QueueOrder
import ServiceHub.Txn.Origins

namespace ServiceHub

open Data Txn Prog

/-! ## What the programs check -/

/-- What was just found. -/
theorem found_now {h : CallHist} {s : Stmt} {a : Ans s} (hout : sinceBegin h = none) :
    Found (⟨.stmt s, .ok a⟩ :: h) s a := ⟨h, List.suffix_rfl, hout⟩

theorem Found.later {h : CallHist} {s : Stmt} {a : Ans s} (hfound : Found h s a)
    (x : (i : Instr Stmt Ext) × Except Exn (i.Ans Ans)) : Found (x :: h) s a :=
  hfound.mono (List.suffix_cons _ _)

/-- The columns that a call may set on the booking `id`, and what it has found
by then. -/
inductive SetsBooking (host : Host) (op : Op) (h : CallHist) (id : Uuid) : BookingUpdate → Prop where
  | cancelled {customerId : Uuid} {dto : CancelBookingDto} {b : Booking} :
      op.request = .cancelBookingAsCustomer id customerId dto →
      Found h (.findBooking id) (some b) → b.customerId = customerId →
      op.ctx.clock 0 < b.appointmentStart - 2 * 60 * 60 * 1000 →
      SetsBooking host op h id (cancelData op.ctx dto)
  | completed {userId : Uuid} {role : Option Role} {b : Booking}
      {provider : Option ProviderProfile} : op.request = .completeBooking id userId role →
      Found h (.findBooking id) (some b) → Found h (.findProvider b.providerId) provider →
      provider.map (·.userId) = some userId ∨ role = some .admin →
      SetsBooking host op h id (completeData op.ctx)
  | confirmed : SetsBooking host op h id (confirmData op.ctx)
  | refunded {adminUserId paymentId : Uuid} {dto : RefundPaymentDto} {p : Payment} :
      op.request = .refundPayment adminUserId paymentId dto →
      Found h (.findPayment paymentId) (some p) → p.bookingId = id → Refundable host dto p →
      (∃ result, op.ctx.createRefund = .ok result) →
      SetsBooking host op h id (refundBookingData op.ctx dto)

/-- A signed delivery of the event, and the payment of the order it names. -/
structure Delivered (host : Host) (op : Op) (h : CallHist) (event : WebhookEvent) (eventType : String)
    (payment : Payment) : Prop where
  signed : ∃ delivery, op.request = .handleWebhookEvent delivery ∧
    readDelivery host delivery = .ok event
  name : asText event.eventName = some eventType
  order : ∃ orderId, asText event.gatewayOrderId = some orderId ∧
    Found h (.findPaymentByOrder orderId) (some payment)

theorem Delivered.mono {host : Host} {op : Op} {h h' : CallHist} {event : WebhookEvent}
    {eventType : String} {payment : Payment} (hreports : Delivered host op h event eventType payment)
    (hsuffix : h <:+ h') : Delivered host op h' event eventType payment := by
  obtain ⟨orderId, horder, hfound⟩ := hreports.order
  exact ⟨hreports.signed, hreports.name, orderId, horder, hfound.mono hsuffix⟩

/-- The columns that a call may set on the payment `id`, likewise. -/
inductive SettlesPayment (host : Host) (op : Op) (h : CallHist) (id : Uuid) : PaymentUpdate → Prop where
  | verified {customerId : Uuid} {dto : VerifyPaymentDto} {p : Payment} {b : Booking} :
      op.request = .verifyClientPayment customerId dto →
      verifyPaymentSignature host dto.razorpayOrderId dto.razorpayPaymentId
        dto.razorpaySignature = true →
      Found h (.findPaymentByOrder dto.razorpayOrderId) (some p) → p.id = id →
      Found h (.findBooking p.bookingId) (some b) → b.customerId = customerId →
      SettlesPayment host op h id (verifyData op.ctx dto)
  | captured {event : WebhookEvent} {eventType : String} {p : Payment} :
      Delivered host op h event eventType p → p.id = id → isCapture eventType →
      ¬ Tampered host p event → SettlesPayment host op h id (captureData host op.ctx p event)
  | failed {event : WebhookEvent} {p : Payment} : Delivered host op h event "payment.failed" p →
      p.id = id → SettlesPayment host op h id (failData host event)
  | reconciled {event : WebhookEvent} {eventType : String} {p : Payment} :
      Delivered host op h event eventType p → p.id = id → isRefund eventType →
      SettlesPayment host op h id (reconcileData op.ctx)
  | refunded {adminUserId paymentId : Uuid} {dto : RefundPaymentDto} {p : Payment} :
      op.request = .refundPayment adminUserId paymentId dto →
      Found h (.findPayment paymentId) (some p) → p.id = id → Refundable host dto p →
      (∃ result, op.ctx.createRefund = .ok result) →
      SettlesPayment host op h id (refundData op.ctx)

/-- The order that the gateway has opened for the call, at the price. -/
structure Opened (op : Op) (h : CallHist) (gatewayOrderId : String) (price : ℚ) : Prop where
  asked : ∃ params, .createOrder params ∈ told h ∧ params.amount = price
  answered : ∃ order, op.ctx.createOrder = .ok order ∧ order.gatewayOrderId = gatewayOrderId

/-- The payments that a call may insert: of the booking it has just inserted, or
of one it has read, at the price booked and with an order at this price. -/
inductive Orders (op : Op) (h : CallHist) (p : Payment) : Prop where
  | booked {b a : Booking} {h' : CallHist} {gatewayOrderId currency : String} :
      h = ⟨.stmt (.createBooking b), .ok a⟩ :: h' → sinceBegin h' = some [] →
      Opened op h gatewayOrderId b.bookedPrice →
      p = newPayment (op.ctx.uuid 1) a.id gatewayOrderId b.bookedPrice currency (op.ctx.clock 4) →
      Orders op h p
  | ordered {customerId bookingId : Uuid} {b : Booking} {gatewayOrderId currency : String} :
      op.request = .createPaymentOrder customerId bookingId →
      Found h (.findBooking bookingId) (some b) → b.customerId = customerId →
      Opened op h gatewayOrderId b.bookedPrice →
      p = newPayment (op.ctx.uuid 0) b.id gatewayOrderId b.bookedPrice currency (op.ctx.clock 0) →
      Orders op h p

/-- When a call may set what. -/
def Permits (host : Host) (op : Op) (h : CallHist) : Instr Stmt Ext → Prop
  | .stmt (.updateBooking id data) => SetsBooking host op h id data
  | .stmt (.createPayment p) => Orders op h p
  | .stmt (.updatePayment id data) => SettlesPayment host op h id data
  | .stmt (.updatePayments w data) => op.request = .expireBooking w.bookingId ∧
      w.status = [.created, .pending] ∧ data = expirePaymentData ∧
      ∃ cond expired found, sinceBegin h = some
        [⟨.updateBookings cond expireData, expired⟩, ⟨.findBooking w.bookingId, found⟩]
  | _ => True

/-- Whatever it is answered, the program sets only what it may. -/
abbrev Permitting {α : Type} (host : Host) (op : Op) (h : CallHist) (p : Call α) : Prop :=
  Obeys (Permits host op) (fun _ _ => True) h p

section
variable {host : Host} {op : Op} {ctx : Ctx} {h : CallHist}

theorem createBooking_permits {customerId : Uuid} {dto : CreateBookingDto} :
    Permitting host ⟨ctx, .createBooking customerId dto⟩ []
      (createBooking host ctx customerId dto) := by
  unfold createBooking createBookingTx
  simp only [obeys_bind, ProviderServiceRepository.obeys_findById, obeys_orThrow, obeys_throwIf,
    ProviderAvailabilityRepository.obeys_findByProviderId]
  simp only [Permits, implies_true, and_true, true_and]
  intro found offering _ provider _ _ startsAtDate _ _ _ schedules
  split
  · trivial
  · simp only [obeys_bind, obeys_external, obeys_catching, obeys_orThrow, obeys_transaction,
      autocommit_bind, BookingRepository.obeys_create, PaymentRepository.obeys_create,
      AuditLogRepository.obeys_create, autocommit_pure, obeys_pure, enqueue]
    have hfails : ∀ (h : CallHist) (e : Exn), Permitting host ⟨ctx, .createBooking customerId dto⟩ h
        (onBookingError e : Call CreatedBooking) := by
      intro h e
      unfold onBookingError
      split <;> trivial
    simp only [Permits, implies_true, and_true, true_and, hfails]
    intro order hopened _ _ _
    exact .booked rfl rfl ⟨⟨_, List.mem_singleton_self _, rfl⟩, order, hopened, rfl⟩ rfl

theorem cancelBookingAsCustomer_permits {bookingId customerId : Uuid} {dto : CancelBookingDto} :
    Permitting host ⟨ctx, .cancelBookingAsCustomer bookingId customerId dto⟩ []
      (cancelBookingAsCustomer ctx bookingId customerId dto) := by
  unfold cancelBookingAsCustomer cancelBookingTx
  simp only [obeys_bind, BookingRepository.obeys_findById, obeys_orThrow, obeys_throwIf,
    obeys_transaction, autocommit_bind, BookingRepository.obeys_updateStatus,
    AuditLogRepository.obeys_create, autocommit_pure, obeys_pure, enqueue, obeys_external]
  simp only [Permits, implies_true, and_true, true_and]
  intro found b hb _ hearly
  obtain ⟨rfl, howner⟩ := Option.filter_eq_some_iff.mp hb
  exact .cancelled rfl ((found_now rfl).later _) (by simpa using howner) (not_le.mp hearly)

theorem expireBooking_permits {bookingId : Uuid} :
    Permitting host ⟨ctx, .expireBooking bookingId⟩ [] (expireBooking ctx bookingId) := by
  unfold expireBooking expireBookingTx
  simp only [obeys_transaction, autocommit_bind, obeys_bind, BookingRepository.obeys_findById]
  simp only [Permits, implies_true, and_true, true_and]
  rintro (_ | booking)
  · trivial
  · simp only [autocommit_ite, obeys_ite, autocommit_bind, obeys_bind, autocommit_pure,
      obeys_pure, BookingRepository.obeys_updateMany, PaymentRepository.obeys_updateMany,
      AuditLogRepository.obeys_create]
    simp only [Permits, implies_true, and_true, true_and]
    exact fun _ taken _ => ⟨rfl, _, taken, some booking, rfl⟩

theorem flagOverdueBooking_permits {bookingId : Uuid} :
    Permitting host op [] (flagOverdueBooking ctx bookingId) := by
  unfold flagOverdueBooking flagOverdueBookingTx
  simp only [obeys_transaction, autocommit_bind, obeys_bind, BookingRepository.obeys_findById]
  simp only [Permits, implies_true, and_true, true_and]
  rintro (_ | booking)
  · trivial
  · simp only [autocommit_ite, obeys_ite, autocommit_bind, obeys_bind, autocommit_pure,
      obeys_pure, BookingRepository.obeys_updateMany, AuditLogRepository.obeys_create]
    simp only [Permits, implies_true, and_true]

theorem completeBooking_permits {bookingId userId : Uuid} {role : Option Role} :
    Permitting host ⟨ctx, .completeBooking bookingId userId role⟩ []
      (completeBooking ctx bookingId userId role) := by
  unfold completeBooking completeBookingTx
  simp only [obeys_bind, BookingRepository.obeys_findById, obeys_orThrow, obeys_throwIf,
    BookingRepository.obeys_includeProvider, obeys_transaction, autocommit_bind,
    BookingRepository.obeys_update, AuditLogRepository.obeys_create, autocommit_pure, obeys_pure,
    enqueue, obeys_external]
  simp only [Permits, implies_true, and_true, true_and]
  rintro found b rfl provider hallowed _
  refine .completed rfl (((found_now rfl).later _).later _) ((found_now rfl).later _) ?_
  by_cases hprovider : provider.map (·.userId) = some userId
  · exact Or.inl hprovider
  · refine Or.inr ?_
    simpa [hprovider] using hallowed

theorem createPaymentOrder_permits {customerId bookingId : Uuid} :
    Permitting host ⟨ctx, .createPaymentOrder customerId bookingId⟩ []
      (createPaymentOrder ctx customerId bookingId) := by
  unfold createPaymentOrder
  simp only [obeys_bind, BookingRepository.obeys_findById, obeys_orThrow, obeys_throwIf,
    PaymentRepository.obeys_findByBookingId]
  simp only [Permits, implies_true, and_true, true_and]
  rintro found b rfl howner _ payment
  cases payment.filter (·.status = .created) with
  | some p => trivial
  | none =>
      simp only [obeys_bind, obeys_external, PaymentRepository.obeys_create]
      simp only [Permits, implies_true, and_true, true_and]
      intro order hopened
      exact .ordered rfl (((found_now rfl).later _).later _) (not_not.mp howner)
        ⟨⟨_, List.mem_singleton_self _, rfl⟩, order, hopened, rfl⟩ rfl

theorem verifyClientPayment_permits {customerId : Uuid} {dto : VerifyPaymentDto} :
    Permitting host ⟨ctx, .verifyClientPayment customerId dto⟩ []
      (verifyClientPayment host ctx customerId dto) := by
  unfold verifyClientPayment verifyClientPaymentTx afterConfirmation
  simp only [obeys_bind, PaymentRepository.obeys_findByGatewayOrderId,
    PaymentRepository.obeys_includeBooking, obeys_orThrow, obeys_throwIf, obeys_ite,
    obeys_transaction, autocommit_bind, PaymentRepository.obeys_updateStatus,
    BookingRepository.obeys_updateStatus, AuditLogRepository.obeys_create, autocommit_pure,
    obeys_pure, enqueue, obeys_external]
  simp only [Permits, implies_true, and_true, true_and]
  refine fun found => ⟨fun _ payment hnone => (by cases hnone), ?_⟩
  rintro p rfl b _ ⟨⟩ howner hsigned _ _ _
  refine ⟨.verified rfl (by simpa using hsigned) (((found_now rfl).later _).later _) rfl
    ((found_now rfl).later _) (by simpa using howner), fun _ => .confirmed⟩

theorem permits_of_handles {payment : PaymentWithBooking} {event : WebhookEvent}
    {eventType : String} {i : Instr Stmt Ext}
    (hreports : Delivered host op h event eventType payment.toPayment)
    (hi : Handles host op.ctx payment event eventType h i) : Permits host op h i := by
  cases i with
  | stmt s =>
      cases s with
      | updateBooking id data =>
          obtain ⟨_, _, rfl, _⟩ := hi
          exact .confirmed
      | updatePayment id data =>
          obtain ⟨rfl, ⟨hsettles, rfl⟩ | ⟨rfl, _, rfl⟩ | ⟨hrefund, _, rfl⟩⟩ := hi
          · exact .captured hreports rfl hsettles.1 hsettles.2.2.2
          · exact .failed hreports rfl
          · exact .reconciled hreports rfl hrefund
      | createPayment _ | updatePayments _ _ => exact hi.elim
      | _ => trivial
  | _ => trivial

theorem afterConfirmation_permits {bookingId : Uuid} :
    Permitting host op h (afterConfirmation ctx bookingId) := by
  unfold afterConfirmation
  simp only [obeys_bind, enqueue, obeys_external]
  simp only [Permits, implies_true, and_true]

theorem recordAndSkip_permits {event : WebhookEvent} {eventId : String} :
    Permitting host op h (autocommit Ext (recordAndSkip host ctx event eventId)) := by
  unfold recordAndSkip requireString
  simp only [autocommit_bind, obeys_bind, autocommit_orThrow, obeys_orThrow,
    PaymentRepository.obeys_recordWebhookEvent, autocommit_pure, obeys_pure]
  simp only [Permits, implies_true, and_true]

theorem webhookTx_permits {payment : PaymentWithBooking} {event : WebhookEvent} {eventId : String}
    (hreports : ∀ eventType, asText event.eventName = some eventType →
      Delivered host op h event eventType payment.toPayment) :
    Permitting host op h (autocommit Ext (webhookTx host op.ctx payment event eventId)) := by
  unfold webhookTx requireString
  simp only [autocommit_bind, obeys_bind, autocommit_orThrow, obeys_orThrow,
    PaymentRepository.obeys_recordWebhookEvent]
  simp only [Permits, implies_true, and_true, true_and]
  intro eventType hname _ row
  refine (Obeys.since (fun _ _ => stmt_of_handles) .refl handleEvent_handles).mono ?_ ?_
  · rintro h' i ⟨hsince, hi⟩
    exact permits_of_handles ((hreports eventType hname).mono
      ((List.suffix_cons _ _).trans hsince.suffix)) hi
  · rintro h (e | confirmed) _
    · trivial
    · simp only [PaymentRepository.obeys_markWebhookEventProcessed, autocommit_pure, obeys_pure]
      simp only [Permits, implies_true, and_true]

theorem handleWebhookEvent_permits {delivery : Delivery} :
    Permitting host ⟨ctx, .handleWebhookEvent delivery⟩ []
      (handleWebhookEvent host ctx delivery) := by
  unfold handleWebhookEvent
  cases hread : readDelivery host delivery with
  | error e => trivial
  | ok event =>
  simp only [processWebhookEvent, requireString, autocommit_orThrow, obeys_bind, obeys_orThrow,
    obeys_ite, obeys_pure, PaymentRepository.obeys_findWebhookEvent]
  simp only [implies_true, and_true, true_and]
  intro eventId _
  refine ⟨trivial, fun found _ => ⟨fun _ => recordAndSkip_permits, fun _ orderId horder => ?_⟩⟩
  refine PaymentRepository.obeys_findByGatewayOrderId.mpr ⟨trivial, fun o => ?_, fun _ => trivial⟩
  refine PaymentRepository.obeys_includeBooking.mpr ⟨fun _ => recordAndSkip_permits, ?_⟩
  rintro p rfl
  refine ⟨trivial, fun b => ?_, trivial, fun _ => trivial⟩
  have hcatch : ∀ (h : CallHist) (e : Exn), Permitting host ⟨ctx, .handleWebhookEvent delivery⟩ h
      (if e.isDuplicate then (pure .alreadyProcessed : Call WebhookResult) else .throw e) := by
    intro h e
    split <;> trivial
  refine obeys_catching.mpr (obeys_bind.mpr (obeys_transaction.mpr
    ⟨trivial, fun e => hcatch _ e, ?_⟩))
  have hreports : ∀ eventType, asText event.eventName = some eventType →
      Delivered host ⟨ctx, .handleWebhookEvent delivery⟩
        [⟨.begin, .ok ()⟩, ⟨.stmt (.findBooking p.bookingId), .ok (some b)⟩,
          ⟨.stmt (.findPaymentByOrder orderId), .ok (some p)⟩,
          ⟨.stmt (.findEvent .razorpay eventId), .ok found⟩] event eventType p :=
    fun _ hname => ⟨⟨delivery, rfl, hread⟩, hname, orderId, horder,
      ((found_now rfl).later _).later _⟩
  refine (webhookTx_permits hreports).mono
    (fun _ _ hq => hq) ?_
  rintro h (e | confirmed) _
  · exact ⟨trivial, fun _ => hcatch _ _⟩
  · refine ⟨trivial, ?_, fun e => hcatch _ e⟩
    cases confirmed with
    | none => trivial
    | some bookingId =>
        exact afterConfirmation_permits.bind (fun _ _ => trivial) fun _ e => hcatch _ e

theorem refundPayment_permits {adminUserId paymentId : Uuid} {dto : RefundPaymentDto} :
    Permitting host ⟨ctx, .refundPayment adminUserId paymentId dto⟩ []
      (refundPayment host ctx adminUserId paymentId dto) := by
  unfold refundPayment refundPaymentTx
  simp only [obeys_bind, PaymentRepository.obeys_findById, PaymentRepository.obeys_includeBooking,
    obeys_orThrow, obeys_throwIf]
  simp only [Permits, implies_true, and_true, true_and]
  refine fun found => ⟨fun _ payment hnone => (by cases hnone), ?_⟩
  rintro p rfl b _ ⟨⟩ _ hsuccess
  split
  · trivial
  · rename_i hamount
    simp only [obeys_bind, obeys_orThrow, obeys_external, obeys_transaction, autocommit_bind,
      autocommit_ite, obeys_ite, PaymentRepository.obeys_updateStatus,
      BookingRepository.obeys_updateStatus, AuditLogRepository.obeys_create, autocommit_pure,
      obeys_pure]
    simp only [Permits, implies_true, and_true, true_and]
    intro gatewayPaymentId hid result haccepted
    have hrefundable : Refundable host dto p := ⟨not_not.mp hsuccess, hamount, by rw [hid]; rfl⟩
    have hfound : ∀ x, Found [⟨.begin, .ok ()⟩, x, ⟨.stmt (.findBooking p.bookingId), .ok (some b)⟩,
        ⟨.stmt (.findPayment paymentId), .ok (some p)⟩] (.findPayment paymentId) (some p) :=
      fun x => (((found_now rfl).later _).later x).later _
    exact ⟨.refunded rfl (hfound _) rfl hrefundable ⟨result, haccepted⟩,
      fun _ _ => .refunded rfl ((hfound _).later _) rfl hrefundable ⟨result, haccepted⟩⟩

end

/-- **Every call** sets only what it may. -/
theorem program_permits {host : Host} {op : Op} : Permitting host op [] (program host op) := by
  obtain ⟨ctx, request⟩ := op
  cases request with
  | createBooking customerId dto => exact createBooking_permits.map
  | cancelBookingAsCustomer bookingId customerId dto => exact cancelBookingAsCustomer_permits.map
  | expireBooking bookingId => exact expireBooking_permits.map
  | completeBooking bookingId userId role => exact completeBooking_permits.map
  | flagOverdueBooking bookingId => exact flagOverdueBooking_permits.map
  | createPaymentOrder customerId bookingId => exact createPaymentOrder_permits.map
  | verifyClientPayment customerId dto => exact verifyClientPayment_permits.map
  | handleWebhookEvent delivery => exact handleWebhookEvent_permits.map
  | refundPayment adminUserId paymentId dto => exact refundPayment_permits.map

/-! ## What was read still holds -/

section
variable {host : Host} {db : Db} {Ok : System → Event Op Exn → Prop} {c c' : System} {P : Caller}
  {id : Uuid}

theorem booking_revises (hrun : Run (program host) Ok ⟨db, []⟩ c)
    (hrun' : Run (program host) Ok c c') {b : Booking} (hb : c.db.bookings.find? id = some b) :
    ∃ b', c'.db.bookings.find? id = some b' ∧ b' = b.revised b' := by
  have hget : c.db.get (.booking id) = some (.booking b) := Option.map_eq_some_iff.mpr ⟨b, hb, rfl⟩
  obtain ⟨r, hr, hrevises⟩ := revises_of_run hrun hrun' hget
  obtain ⟨b', hb', rfl⟩ := Option.map_eq_some_iff.mp hr
  exact ⟨b', hb', hrevises⟩

theorem payment_revises (hrun : Run (program host) Ok ⟨db, []⟩ c)
    (hrun' : Run (program host) Ok c c') {p : Payment} (hp : c.db.payments.find? id = some p) :
    ∃ p', c'.db.payments.find? id = some p' ∧ p' = p.revised p' := by
  have hget : c.db.get (.payment id) = some (.payment p) := Option.map_eq_some_iff.mpr ⟨p, hp, rfl⟩
  obtain ⟨r, hr, hrevises⟩ := revises_of_run hrun hrun' hget
  obtain ⟨p', hp', rfl⟩ := Option.map_eq_some_iff.mp hr
  exact ⟨p', hp', hrevises⟩

theorem Found.booking (hrun : Run (program host) Ok ⟨db, []⟩ c) (hP : P ∈ c.procs) {b : Booking}
    (hfound : Found P.hist (.findBooking id) (some b)) :
    ∃ b', c.db.bookings.find? id = some b' ∧ b' = b.revised b' := by
  obtain ⟨_, hmem, hout⟩ := hfound
  obtain ⟨c₁, hrun₁, hrun₂, hexec⟩ := hrun.seen rfl hP hmem hout
  exact booking_revises hrun₁ hrun₂ (Except.ok.inj hexec)

theorem Found.payment (hrun : Run (program host) Ok ⟨db, []⟩ c) (hP : P ∈ c.procs) {p : Payment}
    (hfound : Found P.hist (.findPayment id) (some p)) :
    p.id = id ∧ ∃ p', c.db.payments.find? id = some p' ∧ p' = p.revised p' := by
  obtain ⟨_, hmem, hout⟩ := hfound
  obtain ⟨c₁, hrun₁, hrun₂, hexec⟩ := hrun.seen rfl hP hmem hout
  have hread : c₁.db.payments.find? id = some p := Except.ok.inj hexec
  exact ⟨Table.key_of_find? hread, payment_revises hrun₁ hrun₂ hread⟩

theorem Found.order (hrun : Run (program host) Ok ⟨db, []⟩ c) (hP : P ∈ c.procs) {orderId : String}
    {p : Payment} (hfound : Found P.hist (.findPaymentByOrder orderId) (some p)) :
    p.gatewayOrderId = orderId ∧ ∃ p', c.db.payments.find? p.id = some p' ∧ p' = p.revised p' := by
  obtain ⟨_, hmem, hout⟩ := hfound
  obtain ⟨c₁, hrun₁, hrun₂, hexec⟩ := hrun.seen rfl hP hmem hout
  have hread : c₁.db.paymentByOrder orderId = some p := Except.ok.inj hexec
  exact ⟨by simpa using List.find?_some hread,
    payment_revises hrun₁ hrun₂ (Table.find?_of_mem (List.mem_of_find?_eq_some hread))⟩

theorem Found.provider (hrun : Run (program host) Ok ⟨db, []⟩ c) (hP : P ∈ c.procs)
    {provider : Option ProviderProfile} (hfound : Found P.hist (.findProvider id) provider) :
    c.db.providers.find? id = provider := by
  obtain ⟨_, hmem, hout⟩ := hfound
  obtain ⟨c₁, hrun₁, hrun₂, hexec⟩ := hrun.seen rfl hP hmem hout
  have hsame : c.db.providers = c₁.db.providers :=
    hrun₁.untouched (fun db r => Db.providers_put db r) rfl hrun₂
  rw [hsame]
  exact Except.ok.inj hexec

/-- What is inserted was not there. -/
theorem Stmt.new_of_inserts {s : Stmt} {db : Db} {a : Ans s} (hs : s.inserts.isSome)
    (hexec : db.exec s = .ok a) : ∀ w ∈ s.written a, db.get w.key = none := by
  intro w hw
  cases s with
  | createBooking _ | createPayment _ | createEvent _ | createAudit _ =>
      obtain ⟨ha, hnone, _⟩ := Db.insert_ok hexec
      rw [List.mem_singleton.mp hw, ha]
      exact hnone
  | _ => cases hs

/-- What a call is about to commit of an insert is not stored yet. -/
theorem new_of_committing (hrun : Run (program host) Ok ⟨db, []⟩ c) (hP : P ∈ c.procs) {s : Stmt}
    {a : Ans s} (hs : s.inserts.isSome) (hcommits : Committing c.db P s a) {w : Row}
    (hw : w ∈ s.written a) : c.db.get w.key = none :=
  hrun.new_of_committing (fun s => s.inserts.isSome)
    (fun _ _ _ hs hexec => Stmt.new_of_inserts hs hexec) rfl hP hs hcommits hw

/-- What `updateMany` commits, it found committed. -/
theorem met_of_committing (hrun : Run (program host) Ok ⟨db, []⟩ c) (hP : P ∈ c.procs)
    {w : BookingWhere} {data : BookingUpdate} {a : Ans (.updateBookings w data)} {b' : Booking}
    (hcommits : Committing c.db P (.updateBookings w data) a)
    (hw : Row.booking b' ∈ Stmt.written (.updateBookings w data) a) :
    ∃ b, c.db.bookings.find? b'.id = some b ∧ b' = data.on b ∧ w.test b = true := by
  have hfound : ∃ b, c.db.get (.booking b'.id) = some (.booking b) ∧ b' = data.on b ∧
      w.test b = true := by
    rcases hcommits with hopen | ⟨⟨k, hk⟩, hout, _⟩
    · exact locked_of_run hrun hP hopen hw rfl
    · have hwrites := writes_of_run hrun P hP
      rw [hk] at hwrites
      obtain ⟨_, _, hopen⟩ := hwrites.1
      exact absurd (hout.symm.trans hopen) (by simp)
  obtain ⟨b, hb, hrest⟩ := hfound
  obtain ⟨b₁, hb₁, heq⟩ := Option.map_eq_some_iff.mp hb
  cases heq
  exact ⟨b, hb₁, hrest⟩

end

/-! ## The status of a booking -/

/-- What it takes to set the status of the booking. -/
inductive Authority (host : Host) (db : Db) (op : Op) (b : Booking) : BookingStatus → Prop where
  | cancelled {dto : CancelBookingDto} :
      op.request = .cancelBookingAsCustomer b.id b.customerId dto →
      op.ctx.clock 0 < b.appointmentStart - 2 * 60 * 60 * 1000 →
      Authority host db op b .cancelled
  | refunded {adminUserId paymentId : Uuid} {dto : RefundPaymentDto} {p : Payment} :
      op.request = .refundPayment adminUserId paymentId dto →
      db.payments.find? paymentId = some p → p.bookingId = b.id →
      checkRefundAmount host p.amount dto.amount = none →
      (∃ result, op.ctx.createRefund = .ok result) → Authority host db op b .cancelled
  | completed {userId : Uuid} {role : Option Role} :
      op.request = .completeBooking b.id userId role →
      (db.providers.find? b.providerId).map (·.userId) = some userId ∨ role = some .admin →
      Authority host db op b .completed
  | confirmed : Authenticated host op db b.id → Authority host db op b .confirmed
  | expired : op.request = .expireBooking b.id → b.bookingStatus = .pendingPayment →
      Authority host db op b .expired

section
variable {host : Host} {db : Db} {Ok : System → Event Op Exn → Prop} {c : System} {P : Caller}
  {h : CallHist}

/-- What was checked before the update is so of the committed booking. -/
theorem authority_of_sets (hrun : Run (program host) Ok ⟨db, []⟩ c) (hP : P ∈ c.procs)
    (hsuffix : h <:+ P.hist) {b : Booking} (hb : c.db.bookings.find? b.id = some b)
    {data : BookingUpdate} (hsets : SetsBooking host P.op h b.id data)
    (hwrites : Writes host P.op h (.stmt (.updateBooking b.id data))) :
    ∃ t, data.bookingStatus = some t ∧ Authority host c.db P.op b t := by
  have hown : ∀ b₁, Found h (.findBooking b.id) (some b₁) → b = b₁.revised b := by
    intro b₁ hfound
    obtain ⟨b', hb', hrevised⟩ := (hfound.mono hsuffix).booking hrun hP
    obtain rfl := Option.some.inj (hb.symm.trans hb')
    exact hrevised
  cases hsets with
  | @cancelled customerId dto b₁ hrequest hfound howner hearly =>
      have hb₁ := hown b₁ hfound
      have hcustomer : b.customerId = customerId := by
        rw [hb₁]
        exact howner
      refine ⟨_, rfl, .cancelled (hcustomer ▸ hrequest) ?_⟩
      rw [hb₁]
      exact hearly
  | @completed userId role b₁ provider hrequest hfound hprovider hallowed =>
      have hb₁ := hown b₁ hfound
      refine ⟨_, rfl, .completed hrequest (hallowed.imp_left fun huser => ?_)⟩
      have hsame : b.providerId = b₁.providerId := by
        rw [hb₁]
        rfl
      rw [hsame, (hprovider.mono hsuffix).provider hrun hP]
      exact huser
  | confirmed =>
      obtain ⟨_, t, ht, _, hevidence⟩ := hwrites
      obtain rfl : .confirmed = t := Option.some.inj ht
      exact ⟨_, rfl, .confirmed (authenticated_of_evidence hrun hP hsuffix (hevidence rfl))⟩
  | @refunded adminUserId paymentId dto p hrequest hfound hbooking hrefundable haccepted =>
      obtain ⟨_, p', hp', hrevised⟩ := (hfound.mono hsuffix).payment hrun hP
      refine ⟨_, rfl, .refunded hrequest hp' ?_ ?_ haccepted⟩
      · rw [hrevised]
        exact hbooking
      · rw [hrevised]
        exact hrefundable.2.1

end

/-- **Whoever changes the status of a booking may do so**: in every step of every
run, a booking is cancelled by its customer in time or by a refund of one of its
payments that the gateway has accepted, completed by its provider or an admin,
confirmed with a signature, and expired only from PENDING_PAYMENT. -/
theorem status_by_authority (host : Host) (db : Db) (c c' : System) (e : Event Op Exn) (id : Uuid)
    (b b' : Booking) (hrun : Run (program host) (fun _ _ => True) ⟨db, []⟩ c)
    (hn : next (program host) c e = some c') (hb : c.db.bookings.find? id = some b)
    (hb' : c'.db.bookings.find? id = some b') (hchange : b'.bookingStatus ≠ b.bookingStatus) :
    ∃ (p : Nat) (P : Caller), e = .exec p ∧ c.procs[p]? = some P ∧
      Authority host c.db P.op b b'.bookingStatus := by
  obtain rfl : b.id = id := Table.key_of_find? hb
  have hid : b'.id = b.id := Table.key_of_find? hb'
  have hget : Txn.Database.get c'.db (Key.booking b.id) = some (Row.booking b') :=
    Option.map_eq_some_iff.mpr ⟨b', hb', rfl⟩
  have hnew : Txn.Database.get c.db (Key.booking b.id) ≠ some (Row.booking b') := by
    intro hsame
    obtain ⟨b₁, hb₁, heq⟩ := Option.map_eq_some_iff.mp hsame
    cases heq
    exact hchange (congrArg Booking.bookingStatus (Option.some.inj (hb₁.symm.trans hb)))
  obtain ⟨p, P, s, a, rfl, hp, hcommits, hw, ⟨db', hexec⟩, h, hsuffix, hwrites, hpermits⟩ :=
    hrun.changed (fun _ => (program_writes.and program_permits).mono (fun _ _ hq => hq)
      fun _ _ _ => trivial) rfl hn hget hnew
  have hP := List.mem_of_getElem? hp
  refine ⟨p, P, rfl, hp, ?_⟩
  rcases Stmt.written_booking hexec hw with ⟨rfl, _⟩ | ⟨b₀, data, _, rfl, rfl | ⟨w, rfl, _⟩⟩
  · have hnone : c.db.get (.booking b'.id) = none := new_of_committing hrun hP rfl hcommits hw
    simp [Db.get, hid, hb] at hnone
  · rw [hid] at hwrites hpermits
    obtain ⟨t, ht, hauthority⟩ := authority_of_sets hrun hP hsuffix hb hpermits hwrites
    simpa [BookingUpdate.on, ht] using hauthority
  · obtain ⟨b₁, hb₁, hon, htest⟩ := met_of_committing hrun hP hcommits hw
    rw [hid, hb] at hb₁
    obtain rfl := Option.some.inj hb₁
    simp only [BookingWhere.test, Bool.and_eq_true, beq_iff_eq] at htest
    obtain ⟨⟨hrequest, hpending, _, rfl⟩ | ⟨_, _, _, rfl⟩, _⟩ := hwrites
    · exact .expired (htest.1.1 ▸ hrequest) (htest.1.2.trans hpending)
    · -- the overdue check leaves the status as it is
      exact absurd (congrArg Booking.bookingStatus hon) hchange

/-! ## The status of a payment -/

/-- A signed delivery of the event that names the order of the payment. -/
structure Signed (host : Host) (op : Op) (event : WebhookEvent) (eventType : String) (p : Payment) :
    Prop where
  delivery : ∃ delivery, op.request = .handleWebhookEvent delivery ∧
    delivery.signature = some (host.hmacSha256 host.webhookSecret delivery.rawBody) ∧
    ∃ body, host.jsonParse delivery.rawBody = some body ∧
      event = readWebhookEvent host delivery.headerEventId body
  name : asText event.eventName = some eventType
  order : asText event.gatewayOrderId = some p.gatewayOrderId

/-- What it takes to set the status of the payment. -/
inductive PaymentAuthority (host : Host) (db : Db) (op : Op) (p : Payment) : PaymentStatus → Prop where
  | verified {customerId : Uuid} {dto : VerifyPaymentDto} {b : Booking} :
      op.request = .verifyClientPayment customerId dto → dto.razorpayOrderId = p.gatewayOrderId →
      dto.razorpaySignature = host.hmacSha256 host.keySecret
        (utf8 s!"{dto.razorpayOrderId}|{dto.razorpayPaymentId}") →
      db.bookings.find? p.bookingId = some b → b.customerId = customerId →
      PaymentAuthority host db op p .success
  | captured {event : WebhookEvent} {eventType : String} : Signed host op event eventType p →
      isCapture eventType → ¬ Tampered host p event → PaymentAuthority host db op p .success
  | failed {event : WebhookEvent} : Signed host op event "payment.failed" p →
      PaymentAuthority host db op p .failed
  | expired : op.request = .expireBooking p.bookingId → p.status = .created ∨ p.status = .pending →
      PaymentAuthority host db op p .failed
  | reconciled {event : WebhookEvent} {eventType : String} : Signed host op event eventType p →
      isRefund eventType → PaymentAuthority host db op p .refunded
  | refunded {adminUserId : Uuid} {dto : RefundPaymentDto} :
      op.request = .refundPayment adminUserId p.id dto →
      checkRefundAmount host p.amount dto.amount = none →
      (∃ result, op.ctx.createRefund = .ok result) → PaymentAuthority host db op p .refunded

section
variable {host : Host} {db : Db} {Ok : System → Event Op Exn → Prop} {c : System} {P : Caller}
  {h : CallHist}

/-- What a delivery reported of the payment that was read, it reports of the one
that is committed. -/
theorem signed_of_reports (hrun : Run (program host) Ok ⟨db, []⟩ c) (hP : P ∈ c.procs)
    (hsuffix : h <:+ P.hist) {p p₁ : Payment} (hp : c.db.payments.find? p.id = some p)
    (hid : p₁.id = p.id) {event : WebhookEvent} {eventType : String}
    (hreports : Delivered host P.op h event eventType p₁) :
    Signed host P.op event eventType p ∧ p = p₁.revised p := by
  obtain ⟨orderId, horder, hfound⟩ := hreports.order
  obtain ⟨rfl, p', hp', hrevised⟩ := (hfound.mono hsuffix).order hrun hP
  rw [hid, hp] at hp'
  obtain rfl := Option.some.inj hp'
  obtain ⟨delivery, hrequest, hread⟩ := hreports.signed
  refine ⟨⟨⟨delivery, hrequest, readDelivery_ok hread⟩, hreports.name, ?_⟩, hrevised⟩
  rw [hrevised]
  exact horder

theorem paymentAuthority_of_settles (hrun : Run (program host) Ok ⟨db, []⟩ c) (hP : P ∈ c.procs)
    (hsuffix : h <:+ P.hist) {p : Payment} (hp : c.db.payments.find? p.id = some p)
    {data : PaymentUpdate} (hsettles : SettlesPayment host P.op h p.id data) :
    PaymentAuthority host c.db P.op p data.status := by
  cases hsettles with
  | @verified customerId dto p₁ b hrequest hsigned hfound hid hbooking howner =>
      obtain ⟨horder, p', hp', hrevised⟩ := (hfound.mono hsuffix).order hrun hP
      rw [hid, hp] at hp'
      obtain rfl := Option.some.inj hp'
      obtain ⟨b', hb', hb⟩ := (hbooking.mono hsuffix).booking hrun hP
      refine .verified hrequest ?_ (eq_of_digestMatches hsigned) (b := b') ?_ ?_
      · rw [hrevised]
        exact horder.symm
      · rw [hrevised]
        exact hb'
      · rw [hb]
        exact howner
  | captured hreports hid hcapture huntampered =>
      obtain ⟨hsigned, hrevised⟩ := signed_of_reports hrun hP hsuffix hp hid hreports
      refine .captured hsigned hcapture ?_
      rw [hrevised]
      exact huntampered
  | failed hreports hid =>
      exact .failed (signed_of_reports hrun hP hsuffix hp hid hreports).1
  | reconciled hreports hid hrefund =>
      exact .reconciled (signed_of_reports hrun hP hsuffix hp hid hreports).1 hrefund
  | @refunded adminUserId paymentId dto p₁ hrequest hfound hid hrefundable haccepted =>
      obtain ⟨hkey, p', hp', hrevised⟩ := (hfound.mono hsuffix).payment hrun hP
      obtain rfl : paymentId = p.id := hkey.symm.trans hid
      obtain rfl := Option.some.inj (hp.symm.trans hp')
      refine .refunded hrequest ?_ haccepted
      rw [hrevised]
      exact hrefundable.2.1

/-- An expiry fails payments that are committed as unpaid. -/
theorem unpaid_of_committing (hrun : Run (program host) Ok ⟨db, []⟩ c) (hP : P ∈ c.procs)
    {w : PaymentWhere} {data : PaymentUpdate} {a : Ans (.updatePayments w data)} {p' : Payment}
    (hcommits : Committing c.db P (.updatePayments w data) a)
    (hw : Row.payment p' ∈ Stmt.written (.updatePayments w data) a) :
    ∃ p, c.db.payments.find? p'.id = some p ∧ w.test p = true := by
  have hpermits : ∀ c, Run (program host) Ok ⟨db, []⟩ c → ∀ P ∈ c.procs,
      Permitting host P.op P.hist P.prog :=
    fun c hrun => hrun.obeys (fun _ _ _ => program_permits) rfl
  have hfound : ∃ p, c.db.get (.payment p'.id) = some (.payment p) ∧ w.test p = true := by
    rcases hcommits with hopen | ⟨⟨k, hk⟩, hout, _⟩
    · have hlocked := hrun.locked (L := fun s _ r found => ∀ w data p', s = .updatePayments w data →
        r = .payment p' → ∃ p, found = some (.payment p) ∧ w.test p = true) rfl ?_ P hP _ hopen
          (.payment p') hw
      · exact hlocked w data p' rfl rfl
      · rintro c n P s k a hrun _ hn hk hexec r hr w data p' rfl rfl
        have hmem := List.mem_of_getElem? hn
        have hmay := hpermits c hrun P hmem
        rw [hk] at hmay
        obtain ⟨_, _, _, cond, expired, found, hopen⟩ := hmay.1
        rcases Stmt.written_payment hexec hr with ⟨hs, _⟩ | ⟨p, data', hget, _, hs | ⟨w', hs, htest⟩⟩
        · cases hs
        · cases hs
        · cases hs
          refine ⟨p, ?_, htest⟩
          rcases view_row hget with ⟨hown, _⟩ | hcommitted
          · -- before it, the transaction has written bookings only
            rw [Proc.pending, hrun.tx_eq rfl P hmem, hopen] at hown
            obtain ⟨x, hx, hwx⟩ := mem_rowsOf.mp (show Row.payment p ∈ rowsOf Db _ from hown)
            simp only [List.mem_cons, List.not_mem_nil, or_false] at hx
            rcases hx with rfl | rfl
            · obtain ⟨_, _, heq⟩ := List.mem_map.mp hwx
              cases heq
            · exact absurd hwx List.not_mem_nil
          · exact hcommitted
    · have hmay := hpermits c hrun P hP
      rw [hk] at hmay
      obtain ⟨_, _, _, _, _, _, hopen⟩ := hmay.1
      exact absurd (hout.symm.trans hopen) (by simp)
  obtain ⟨p, hp, htest⟩ := hfound
  obtain ⟨p₁, hp₁, heq⟩ := Option.map_eq_some_iff.mp hp
  cases heq
  exact ⟨p, hp₁, htest⟩

end

/-- **Whoever changes the status of a payment may do so**: in every step of every
run, a payment becomes SUCCESS with a signature over its order, of its customer
or of the gateway, FAILED by a signed report or by the expiry of its booking
while it is unpaid, and REFUNDED by a signed report or a refund that the gateway
has accepted. -/
theorem payment_by_authority (host : Host) (db : Db) (c c' : System) (e : Event Op Exn) (id : Uuid)
    (p p' : Payment) (hrun : Run (program host) (fun _ _ => True) ⟨db, []⟩ c)
    (hn : next (program host) c e = some c') (hp : c.db.payments.find? id = some p)
    (hp' : c'.db.payments.find? id = some p') (hchange : p'.status ≠ p.status) :
    ∃ (n : Nat) (P : Caller), e = .exec n ∧ c.procs[n]? = some P ∧
      PaymentAuthority host c.db P.op p p'.status := by
  obtain rfl : p.id = id := Table.key_of_find? hp
  have hid : p'.id = p.id := Table.key_of_find? hp'
  have hget : Txn.Database.get c'.db (Key.payment p.id) = some (Row.payment p') :=
    Option.map_eq_some_iff.mpr ⟨p', hp', rfl⟩
  have hnew : Txn.Database.get c.db (Key.payment p.id) ≠ some (Row.payment p') := by
    intro hsame
    obtain ⟨p₁, hp₁, heq⟩ := Option.map_eq_some_iff.mp hsame
    cases heq
    exact hchange (congrArg Payment.status (Option.some.inj (hp₁.symm.trans hp)))
  obtain ⟨n, P, s, a, rfl, hP, hcommits, hw, ⟨db', hexec⟩, h, hsuffix, hpermits⟩ :=
    hrun.changed (fun _ => program_permits) rfl hn hget hnew
  have hmem := List.mem_of_getElem? hP
  refine ⟨n, P, rfl, hP, ?_⟩
  rcases Stmt.written_payment hexec hw with ⟨rfl, _⟩ | ⟨p₀, data, _, hon, rfl | ⟨w, rfl, _⟩⟩
  · have hnone : c.db.get (.payment p'.id) = none := new_of_committing hrun hmem rfl hcommits hw
    simp [Db.get, hid, hp] at hnone
  · rw [hid] at hpermits
    rw [hon]
    exact paymentAuthority_of_settles hrun hmem hsuffix hp hpermits
  · obtain ⟨hrequest, hstatus, hdata, _⟩ := hpermits
    obtain ⟨p₁, hp₁, htest⟩ := unpaid_of_committing hrun hmem hcommits hw
    rw [hid, hp] at hp₁
    obtain rfl := Option.some.inj hp₁
    simp only [PaymentWhere.test, Bool.and_eq_true, beq_iff_eq, decide_eq_true_eq, hstatus,
      List.mem_cons, List.not_mem_nil, or_false] at htest
    rw [hon, hdata]
    exact .expired (htest.1 ▸ hrequest) htest.2

/-! ## Two runs -/

namespace Sample

/-- The job that expires the booking; its transaction is about to be
committed. -/
def expiring : List (Event Op Exn) := .spawn (expire 1) :: steps 0 5

/-- The payment is captured; the transaction is about to be committed. -/
def capturing : List (Event Op Exn) := .spawn (deliver 1 "payment.captured") :: steps 0 11

end Sample

/-- The commit of the expiry. -/
theorem status_by_authority_sample : ∃ (c c' : System) (b b' : Booking),
    runChecked (program Sample.host) (fun _ _ => True) ⟨Sample.booked, []⟩ Sample.expiring
      = some c ∧ next (program Sample.host) c (.exec 0) = some c' ∧
    b.bookingStatus = .pendingPayment ∧ b'.bookingStatus = .expired ∧
    ∃ (p : Nat) (P : Caller), (Event.exec 0 : Event Op Exn) = .exec p ∧ c.procs[p]? = some P ∧
      Authority Sample.host c.db P.op b b'.bookingStatus := by
  have hbefore : ∀ c ∈ runChecked (program Sample.host) (fun _ _ => True) ⟨Sample.booked, []⟩
      Sample.expiring, ((c.db.bookings.find? Sample.bookingId).any
        (·.bookingStatus == .pendingPayment)) = true ∧
      ((next (program Sample.host) c (.exec 0)).any fun c' =>
        (c'.db.bookings.find? Sample.bookingId).any (·.bookingStatus == .expired)) = true := by
    decide +kernel
  obtain ⟨c, hc⟩ := Option.isSome_iff_exists.mp
    (show (runChecked (program Sample.host) (fun _ _ => True) ⟨Sample.booked, []⟩
      Sample.expiring).isSome by decide +kernel)
  obtain ⟨hpending, hstep⟩ := hbefore c hc
  obtain ⟨b, hb, hpending⟩ := (Option.any_eq_true _ _).mp hpending
  obtain ⟨c', hn, hexpired⟩ := (Option.any_eq_true _ _).mp hstep
  obtain ⟨b', hb', hexpired⟩ := (Option.any_eq_true _ _).mp hexpired
  have hpending : b.bookingStatus = .pendingPayment := by simpa using hpending
  have hexpired : b'.bookingStatus = .expired := by simpa using hexpired
  exact ⟨c, c', b, b', hc, hn, hpending, hexpired, status_by_authority Sample.host Sample.booked c c'
    (.exec 0) Sample.bookingId b b' (Run.of_runChecked _ _ hc) hn hb hb'
    (by rw [hpending, hexpired]; decide)⟩

/-- The commit of the capture. -/
theorem payment_by_authority_sample : ∃ (c c' : System) (p p' : Payment),
    runChecked (program Sample.host) (fun _ _ => True) ⟨Sample.booked, []⟩ Sample.capturing
      = some c ∧ next (program Sample.host) c (.exec 0) = some c' ∧
    p.status = .created ∧ p'.status = .success ∧
    ∃ (n : Nat) (P : Caller), (Event.exec 0 : Event Op Exn) = .exec n ∧ c.procs[n]? = some P ∧
      PaymentAuthority Sample.host c.db P.op p p'.status := by
  have hbefore : ∀ c ∈ runChecked (program Sample.host) (fun _ _ => True) ⟨Sample.booked, []⟩
      Sample.capturing, ((c.db.payments.find? Sample.paymentId).any
        (·.status == .created)) = true ∧
      ((next (program Sample.host) c (.exec 0)).any fun c' =>
        (c'.db.payments.find? Sample.paymentId).any (·.status == .success)) = true := by
    decide +kernel
  obtain ⟨c, hc⟩ := Option.isSome_iff_exists.mp
    (show (runChecked (program Sample.host) (fun _ _ => True) ⟨Sample.booked, []⟩
      Sample.capturing).isSome by decide +kernel)
  obtain ⟨hcreated, hstep⟩ := hbefore c hc
  obtain ⟨p, hp, hcreated⟩ := (Option.any_eq_true _ _).mp hcreated
  obtain ⟨c', hn, hpaid⟩ := (Option.any_eq_true _ _).mp hstep
  obtain ⟨p', hp', hpaid⟩ := (Option.any_eq_true _ _).mp hpaid
  have hcreated : p.status = .created := by simpa using hcreated
  have hpaid : p'.status = .success := by simpa using hpaid
  exact ⟨c, c', p, p', hc, hn, hcreated, hpaid, payment_by_authority Sample.host Sample.booked c c'
    (.exec 0) Sample.paymentId p p' (Run.of_runChecked _ _ hc) hn hp hp'
    (by rw [hcreated, hpaid]; decide)⟩

end ServiceHub
