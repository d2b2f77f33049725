/-
# `Writes` — who writes what

Whatever the database and the outside answer, a call writes the following only
where the code lets it (`program_writes`).

    CONFIRMED on a booking      by `verifyClientPayment` and the webhook, after what `Evidence` says
    a status WHERE …            by the two workers, each for its own booking
    a row of webhook events     by the webhook
    a payment                   with its booking, or by `createPaymentOrder`, which has
                                not found the last one of the booking CREATED

No update sets a booking to PENDING_PAYMENT or takes `needsReview` away.
-/
import ServiceHub.Interleaving
import ServiceHub.Txn.Once

namespace ServiceHub

open Data Txn Prog

/-- The call was answered so outside a transaction. -/
def Found (h : CallHist) (s : Stmt) (a : Ans s) : Prop :=
  ∃ h', (⟨.stmt s, .ok a⟩ :: h') <:+ h ∧ sinceBegin h' = none

theorem Found.mono {h h' : CallHist} {s : Stmt} {a : Ans s} (hfound : Found h s a)
    (hsuffix : h <:+ h') : Found h' s a := by
  obtain ⟨h₀, hmem, hout⟩ := hfound
  exact ⟨h₀, hmem.trans hsuffix, hout⟩

/-- What a call has to know before it confirms the booking: a signature over
the order, and that the order is of a payment of the booking. -/
def Evidence (host : Host) (op : Op) (h : CallHist) (id : Uuid) : Prop :=
  match op.request with
  | .verifyClientPayment customerId dto =>
      verifyPaymentSignature host dto.razorpayOrderId dto.razorpayPaymentId
          dto.razorpaySignature = true ∧
        ∃ p b, Found h (.findPaymentByOrder dto.razorpayOrderId) (some p) ∧ p.bookingId = id ∧
          Found h (.findBooking id) (some b) ∧ b.customerId = customerId
  | .handleWebhookEvent delivery =>
      ∃ event eventType orderId p, readDelivery host delivery = .ok event ∧
        asText event.eventName = some eventType ∧ isCapture eventType ∧
        asText event.gatewayOrderId = some orderId ∧
        Found h (.findPaymentByOrder orderId) (some p) ∧ p.bookingId = id
  | _ => False

/-- The id of the event that a call delivers. -/
def Op.eventId (host : Host) (op : Op) : Option String :=
  (op.event host).bind fun event => asText event.eventId

/-- The updates of the workers. -/
def Worker (op : Op) (w : BookingWhere) (data : BookingUpdate) : Prop :=
  (op.request = .expireBooking w.id ∧ w.bookingStatus = .pendingPayment ∧ w.needsReview = none ∧
      data = expireData) ∨
    (op.request = .flagOverdueBooking w.id ∧ w.bookingStatus = .confirmed ∧
      w.needsReview = some false ∧ data = overdueData op.ctx)

/-- The call was answered with a payment of the booking that is CREATED. -/
def foundOpen (h : CallHist) (bookingId : Uuid) : Bool :=
  h.any fun
    | ⟨.stmt (.findPaymentByBooking id), .ok (some p)⟩ => id == bookingId && p.status == .created
    | _ => false

/-- When a call may write what. -/
def Writes (host : Host) (op : Op) (h : CallHist) : Instr Stmt Ext → Prop
  | .stmt (.updateBooking id data) => data.needsReview = none ∧
      ∃ status, data.bookingStatus = some status ∧ status ≠ .pendingPayment ∧
        (status = .confirmed → Evidence host op h id)
  | .stmt (.updateBookings w data) => Worker op w data ∧
      ∃ found, sinceBegin h = some [⟨.findBooking w.id, found⟩]
  | .stmt (.updatePayments _ data) => data.status = .failed
  | .stmt (.createPayment p) =>
      ((∃ customerId bookingId, op.request = .createPaymentOrder customerId bookingId) ∧
        sinceBegin h = none ∧ foundOpen h p.bookingId = false) ∨
      ∃ b a h', h = ⟨.stmt (.createBooking b), .ok a⟩ :: h' ∧ sinceBegin h' = some [] ∧
        p.bookingId = a.id
  | .stmt (.createEvent e) => op.eventId host = some e.eventId
  | .stmt (.updateEvent _ _) => (op.eventId host).isSome
  | _ => True

/-- Whatever it is answered, the program writes only what it may. -/
abbrev Writing {α : Type} (host : Host) (op : Op) (h : CallHist) (p : Call α) : Prop :=
  Obeys (Writes host op) (fun _ _ => True) h p

section
variable {host : Host} {op : Op} {ctx : Ctx} {h : CallHist}

theorem createBooking_writes {customerId : Uuid} {dto : CreateBookingDto} :
    Writing host op [] (createBooking host ctx customerId dto) := by
  unfold createBooking createBookingTx
  simp only [obeys_bind, ProviderServiceRepository.obeys_findById, obeys_orThrow, obeys_throwIf,
    ProviderAvailabilityRepository.obeys_findByProviderId]
  simp only [Writes, implies_true, and_true, true_and]
  intro found offering _ provider _ _ startsAtDate hdate _ _ schedules
  split
  · trivial
  · simp only [obeys_bind, obeys_external, obeys_catching, obeys_orThrow, obeys_transaction,
      autocommit_bind, BookingRepository.obeys_create, PaymentRepository.obeys_create,
      AuditLogRepository.obeys_create, autocommit_pure, obeys_pure, enqueue]
    simp [Writes, onBookingError, obeys_ite, sinceBegin, newPayment]

theorem cancelBookingAsCustomer_writes {bookingId customerId : Uuid} {dto : CancelBookingDto} :
    Writing host op [] (cancelBookingAsCustomer ctx bookingId customerId dto) := by
  unfold cancelBookingAsCustomer cancelBookingTx
  simp only [obeys_bind, BookingRepository.obeys_findById, obeys_orThrow, obeys_throwIf,
    obeys_transaction, autocommit_bind, BookingRepository.obeys_updateStatus,
    AuditLogRepository.obeys_create, autocommit_pure, obeys_pure, enqueue, obeys_external]
  simp [Writes, BookingRepository.statusData]

theorem expireBooking_writes {bookingId : Uuid} :
    Writing host ⟨ctx, .expireBooking bookingId⟩ [] (expireBooking ctx bookingId) := by
  unfold expireBooking expireBookingTx
  simp only [obeys_transaction, autocommit_bind, obeys_bind, BookingRepository.obeys_findById]
  simp only [Writes, implies_true, and_true, true_and]
  rintro (_ | booking)
  · trivial
  · simp only [autocommit_ite, obeys_ite, autocommit_bind, obeys_bind, autocommit_pure,
      obeys_pure, BookingRepository.obeys_updateMany, PaymentRepository.obeys_updateMany,
      AuditLogRepository.obeys_create]
    simp [Writes, Worker, expireData, sinceBegin]

theorem flagOverdueBooking_writes {bookingId : Uuid} :
    Writing host ⟨ctx, .flagOverdueBooking bookingId⟩ [] (flagOverdueBooking ctx bookingId) := by
  unfold flagOverdueBooking flagOverdueBookingTx
  simp only [obeys_transaction, autocommit_bind, obeys_bind, BookingRepository.obeys_findById]
  simp only [Writes, implies_true, and_true, true_and]
  rintro (_ | booking)
  · trivial
  · simp only [autocommit_ite, obeys_ite, autocommit_bind, obeys_bind, autocommit_pure,
      obeys_pure, BookingRepository.obeys_updateMany, AuditLogRepository.obeys_create]
    simp [Writes, Worker, overdueData, sinceBegin]

theorem completeBooking_writes {bookingId userId : Uuid} {role : Option Role} :
    Writing host op [] (completeBooking ctx bookingId userId role) := by
  unfold completeBooking completeBookingTx
  simp only [obeys_bind, BookingRepository.obeys_findById, obeys_orThrow, obeys_throwIf,
    BookingRepository.obeys_includeProvider, obeys_transaction, autocommit_bind,
    BookingRepository.obeys_update, AuditLogRepository.obeys_create, autocommit_pure, obeys_pure,
    enqueue, obeys_external]
  simp [Writes]

theorem createPaymentOrder_writes {customerId bookingId : Uuid} :
    Writing host ⟨ctx, .createPaymentOrder customerId bookingId⟩ []
      (createPaymentOrder ctx customerId bookingId) := by
  unfold createPaymentOrder
  simp only [obeys_bind, BookingRepository.obeys_findById, obeys_orThrow, obeys_throwIf,
    PaymentRepository.obeys_findByBookingId]
  simp only [Writes, implies_true, and_true, true_and]
  intro found b _ _ _ payment
  cases hopen : payment.filter (·.status = .created) with
  | some p => trivial
  | none =>
      have hnot : ∀ p, payment = some p → ¬ p.status = .created := fun p hp => by
        simpa [hp, Option.filter_some] using hopen
      simp only [obeys_bind, obeys_external, PaymentRepository.obeys_create]
      cases payment <;> simp_all [Writes, sinceBegin, foundOpen, newPayment]

theorem verifyClientPayment_writes {customerId : Uuid} {dto : VerifyPaymentDto} :
    Writing host ⟨ctx, .verifyClientPayment customerId dto⟩ []
      (verifyClientPayment host ctx customerId dto) := by
  unfold verifyClientPayment verifyClientPaymentTx afterConfirmation
  simp only [obeys_bind, PaymentRepository.obeys_findByGatewayOrderId,
    PaymentRepository.obeys_includeBooking, obeys_orThrow, obeys_throwIf, obeys_ite,
    obeys_transaction, autocommit_bind, PaymentRepository.obeys_updateStatus,
    BookingRepository.obeys_updateStatus, AuditLogRepository.obeys_create, autocommit_pure,
    obeys_pure, enqueue, obeys_external]
  simp only [Writes, implies_true, and_true, true_and]
  refine fun found => ⟨fun _ payment hnone => (by cases hnone), ?_⟩
  rintro p rfl b _ ⟨⟩ howner hsigned _ _ _ _
  refine ⟨rfl, _, rfl, by simp, fun _ => ?_⟩
  exact ⟨by simpa using hsigned, p, b,
    ⟨_, ((List.suffix_cons _ _).trans (List.suffix_cons _ _)).trans (List.suffix_cons _ _), rfl⟩, rfl,
    ⟨_, (List.suffix_cons _ _).trans (List.suffix_cons _ _), rfl⟩, by simpa using howner⟩

theorem writes_of_handles {payment : PaymentWithBooking} {event : WebhookEvent}
    {eventType : String} {i : Instr Stmt Ext}
    (hevidence : isCapture eventType → Evidence host op h payment.bookingId)
    (hi : Handles host ctx payment event eventType h i) : Writes host op h i := by
  cases i with
  | stmt s =>
      cases s with
      | updateBooking id data =>
          obtain ⟨hsettles, rfl, rfl, _⟩ := hi
          exact ⟨rfl, _, rfl, by simp, fun _ => hevidence hsettles.1⟩
      | updateBookings _ _ | updatePayments _ _ | createPayment _ | createEvent _
      | updateEvent _ _ => exact hi.elim
      | _ => trivial
  | _ => trivial

theorem afterConfirmation_writes {bookingId : Uuid} :
    Writing host op h (afterConfirmation ctx bookingId) := by
  unfold afterConfirmation
  simp only [obeys_bind, enqueue, obeys_external]
  simp only [Writes, implies_true, and_true]

theorem recordAndSkip_writes {event : WebhookEvent} {eventId : String}
    (hid : op.eventId host = some eventId) :
    Writing host op h (autocommit Ext (recordAndSkip host ctx event eventId)) := by
  unfold recordAndSkip requireString
  simp only [autocommit_bind, obeys_bind, autocommit_orThrow, obeys_orThrow,
    PaymentRepository.obeys_recordWebhookEvent, autocommit_pure, obeys_pure]
  simpa [Writes, newWebhookEvent] using fun _ _ _ => hid

theorem webhookTx_writes {payment : PaymentWithBooking} {event : WebhookEvent} {eventId : String}
    (hid : op.eventId host = some eventId)
    (hevidence : ∀ eventType h', asText event.eventName = some eventType → isCapture eventType →
      h <:+ h' → Evidence host op h' payment.bookingId) :
    Writing host op h (autocommit Ext (webhookTx host ctx payment event eventId)) := by
  unfold webhookTx requireString
  simp only [autocommit_bind, obeys_bind, autocommit_orThrow, obeys_orThrow,
    PaymentRepository.obeys_recordWebhookEvent]
  simp only [implies_true, and_true, true_and]
  refine fun eventType hname _ => ⟨hid, fun row => ?_⟩
  refine (Obeys.since (fun _ _ => stmt_of_handles) .refl handleEvent_handles).mono ?_ ?_
  · rintro h' i ⟨hsince, hi⟩
    refine writes_of_handles (fun hcapture => ?_) hi
    exact hevidence eventType h' hname hcapture ((List.suffix_cons _ _).trans hsince.suffix)
  · rintro h (e | confirmed) _
    · trivial
    · simp only [PaymentRepository.obeys_markWebhookEventProcessed, autocommit_pure, obeys_pure]
      simp [Writes, hid]

theorem handleWebhookEvent_writes {delivery : Delivery} :
    Writing host ⟨ctx, .handleWebhookEvent delivery⟩ [] (handleWebhookEvent host ctx delivery) := by
  unfold handleWebhookEvent
  cases hread : readDelivery host delivery with
  | error e => trivial
  | ok event =>
  simp only [processWebhookEvent, requireString, autocommit_orThrow, obeys_bind, obeys_orThrow,
    obeys_ite, obeys_pure, PaymentRepository.obeys_findWebhookEvent]
  simp only [implies_true, and_true, true_and]
  intro eventId hid
  have hop : Op.eventId host ⟨ctx, .handleWebhookEvent delivery⟩ = some eventId := by
    simp [Op.eventId, Op.event, hread, Except.toOption, hid]
  refine ⟨trivial, fun found _ => ⟨fun _ => recordAndSkip_writes hop, fun _ orderId horder => ?_⟩⟩
  refine PaymentRepository.obeys_findByGatewayOrderId.mpr ⟨trivial, fun o => ?_, fun _ => trivial⟩
  refine PaymentRepository.obeys_includeBooking.mpr ⟨fun _ => recordAndSkip_writes hop, ?_⟩
  rintro p rfl
  refine ⟨trivial, fun b => ?_, trivial, fun _ => trivial⟩
  have hcatch : ∀ (h : CallHist) (e : Exn), Writing host ⟨ctx, .handleWebhookEvent delivery⟩ h
      (if e.isDuplicate then (pure .alreadyProcessed : Call WebhookResult) else .throw e) := by
    intro h e
    split <;> trivial
  refine obeys_catching.mpr (obeys_bind.mpr (obeys_transaction.mpr
    ⟨trivial, fun e => hcatch _ e, ?_⟩))
  refine (webhookTx_writes hop fun eventType h' hname hcapture hsuffix =>
    ⟨event, eventType, orderId, p, hread, hname, hcapture, horder,
      ⟨_, (List.suffix_cons _ _).trans ((List.suffix_cons _ _).trans hsuffix), rfl⟩, rfl⟩).mono
      (fun _ _ hq => hq) ?_
  rintro h (e | confirmed) _
  · exact ⟨trivial, fun _ => hcatch _ _⟩
  · refine ⟨trivial, ?_, fun e => hcatch _ e⟩
    cases confirmed with
    | none => trivial
    | some bookingId =>
        exact afterConfirmation_writes.bind (fun _ _ => trivial) fun _ e => hcatch _ e

theorem refundPayment_writes {adminUserId paymentId : Uuid} {dto : RefundPaymentDto} :
    Writing host op [] (refundPayment host ctx adminUserId paymentId dto) := by
  unfold refundPayment refundPaymentTx
  simp only [obeys_bind, PaymentRepository.obeys_findById, PaymentRepository.obeys_includeBooking,
    obeys_orThrow, obeys_throwIf]
  simp only [Writes, implies_true, and_true, true_and]
  refine fun found => ⟨fun _ payment hnone => (by cases hnone), ?_⟩
  rintro p rfl b _ ⟨⟩ _ _
  split
  · trivial
  · simp only [obeys_bind, obeys_orThrow, obeys_external, obeys_transaction, autocommit_bind,
      autocommit_ite, obeys_ite, PaymentRepository.obeys_updateStatus,
      BookingRepository.obeys_updateStatus, AuditLogRepository.obeys_create, autocommit_pure,
      obeys_pure]
    simp [Writes, BookingRepository.statusData]

end

/-- **Every call** writes only what it may. -/
theorem program_writes {host : Host} {op : Op} : Writing host op [] (program host op) := by
  obtain ⟨ctx, request⟩ := op
  cases request with
  | createBooking customerId dto => exact createBooking_writes.map
  | cancelBookingAsCustomer bookingId customerId dto => exact cancelBookingAsCustomer_writes.map
  | expireBooking bookingId => exact expireBooking_writes.map
  | completeBooking bookingId userId role => exact completeBooking_writes.map
  | flagOverdueBooking bookingId => exact flagOverdueBooking_writes.map
  | createPaymentOrder customerId bookingId => exact createPaymentOrder_writes.map
  | verifyClientPayment customerId dto => exact verifyClientPayment_writes.map
  | handleWebhookEvent delivery => exact handleWebhookEvent_writes.map
  | refundPayment adminUserId paymentId dto => exact refundPayment_writes.map

/-- What a call has returned. -/
def returned : Call Response → Option Response
  | .ret a => some a
  | _ => none

theorem countP_le_one {α : Type} {f : α → Bool} : ∀ {l : List α},
    (∀ (p q : Nat) (a b : α), p ≠ q → l[p]? = some a → l[q]? = some b → f a → ¬ f b) →
      l.countP f ≤ 1
  | [], _ => Nat.zero_le _
  | x :: l, h => by
      have htail : l.countP f ≤ 1 := countP_le_one fun p q a b hpq ha hb =>
        h (p + 1) (q + 1) a b (by omega) (by simpa using ha) (by simpa using hb)
      by_cases hx : f x
      · have hzero : l.countP f = 0 := by
          refine List.countP_eq_zero.mpr fun b hb => ?_
          obtain ⟨q, hq⟩ := List.mem_iff_getElem?.mp hb
          exact h 0 (q + 1) x b (by omega) rfl (by simpa using hq) hx
        simp [hx, hzero]
      · simpa [hx] using htail

/-- The rows that the call has committed. -/
def committed (P : Caller) : List Row := rowsOf Db (kept P.hist)

section
variable {host : Host} {db : Db} {Ok : System → Event Op Exn → Prop} {c c' : System}
  {e : Event Op Exn}

/-- What a step changes in the database are rows that a call has committed. -/
theorem committed_next (hrun : Run (program host) Ok ⟨db, []⟩ c)
    (hn : next (program host) c e = some c') :
    (∃ op, e = .spawn op ∧ c'.db = c.db) ∨
    ∃ (p : Nat) (P P' : Caller) (rows : List Row), c.procs[p]? = some P ∧
      c'.procs[p]? = some P' ∧ committed P' = committed P ++ rows ∧ c'.db = puts c.db rows := by
  rcases hrun.kept_next rfl hn with hspawn | ⟨p, P, P', new, hP, hP', _, hkept, hdb⟩
  · exact Or.inl hspawn
  · refine Or.inr ⟨p, P, P', rowsOf Db new, hP, hP', ?_, hdb⟩
    rw [committed, hkept, rowsOf_append]
    rfl

/-- What a call goes on to write. -/
theorem writes_of_run (hrun : Run (program host) Ok ⟨db, []⟩ c) :
    ∀ P ∈ c.procs, Writing host P.op P.hist P.prog :=
  hrun.obeys (fun _ _ _ => program_writes) rfl

/-- What a call has written. -/
theorem wrote_of_run (hrun : Run (program host) Ok ⟨db, []⟩ c) :
    ∀ P ∈ c.procs, Obeyed (Writes host P.op) P.hist :=
  hrun.obeyed (R := fun _ _ _ => True) (fun _ _ _ => program_writes) rfl

end

end ServiceHub
