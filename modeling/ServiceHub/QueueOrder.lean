/-
# `QueueOrder` — the queues are told what is stored

The queues are told of a booking outside any transaction, so another call, a
crash or a refusal may come between.  What is kept is the order: a call tells a
queue only what it has itself committed before.

    schedulePaymentExpiration               PENDING_PAYMENT
    cancelPaymentExpiration                 CONFIRMED or CANCELLED
    scheduleBookingOverdueCheck             CONFIRMED
    scheduleBookingLifecycleNotifications   CONFIRMED
    cancelOverdueCheck                      COMPLETED or CANCELLED
    cancelBookingReminders                  CANCELLED

No update sets a booking back to PENDING_PAYMENT (`left_pending`).  So a booking
of which the expiry has been called off waits for no payment any more, now or
later, whatever else is going on (`queue_follows`).
-/
import ServiceHub.FollowUps
import ServiceHub.Txn.Later

namespace ServiceHub

open Data Txn Prog

/-- The booking that a call to a queue is about. -/
def Ext.bookingId : Ext → Option Uuid
  | .createOrder _ | .createRefund _ => none
  | .schedulePaymentExpiration id _ | .cancelPaymentExpiration id
  | .scheduleBookingOverdueCheck id | .cancelOverdueCheck id
  | .scheduleBookingLifecycleNotifications id | .cancelBookingReminders id => some id

/-- The statuses that a call to a queue comes after. -/
def Ext.follows : Ext → List BookingStatus
  | .createOrder _ | .createRefund _ => []
  | .schedulePaymentExpiration _ _ => [.pendingPayment]
  | .cancelPaymentExpiration _ => [.confirmed, .cancelled]
  | .scheduleBookingOverdueCheck _ | .scheduleBookingLifecycleNotifications _ => [.confirmed]
  | .cancelOverdueCheck _ => [.completed, .cancelled]
  | .cancelBookingReminders _ => [.cancelled]

/-- The statement has stored the booking `id` in the status. -/
def Stores (id : Uuid) (t : BookingStatus) : (s : Stmt) → Ans s → Prop
  | .createBooking row, b => b.id = id ∧ row.bookingStatus = t
  | .updateBooking id' data, _ => id' = id ∧ data.bookingStatus = some t
  | _, _ => False

/-- A queue is told what the call has committed. -/
def Tells (h : CallHist) : Instr Stmt Ext → Prop
  | .call x => ∀ id ∈ x.bookingId, ∃ t ∈ x.follows, Did (Stores id t) (kept h)
  | _ => True

/-- Whatever it is answered, the program tells the queues what it has
committed. -/
abbrev Telling {α : Type} (h : CallHist) (p : Call α) : Prop :=
  Obeys Tells (fun _ _ => True) h p

theorem tells_of_ne_call (h : CallHist) (i : Instr Stmt Ext) (hi : ∀ x, i ≠ .call x) : Tells h i := by
  cases i with
  | call x => exact absurd rfl (hi x)
  | _ => trivial

/-- What the outside is told commits nothing. -/
theorem kept_call {h : CallHist} {x : Ext} {r : Except Exn Unit} :
    kept (⟨.call x, r⟩ :: h : CallHist) = kept h := rfl

section
variable {host : Host} {ctx : Ctx} {h : CallHist}

/-- One call to a queue. -/
theorem enqueue_tells {i : Nat} {x : Ext} {R : CallHist → Except Exn Unit → Prop}
    (htells : Tells h (.call x)) (hrest : ∀ r r', R (⟨.call x, r⟩ :: h) r') :
    Obeys Tells R h (enqueue ctx i x) :=
  obeys_external.mpr ⟨htells, fun _ _ => hrest _ _, fun _ _ => hrest _ _, fun _ => hrest _ _⟩

theorem createBooking_tells {customerId : Uuid} {dto : CreateBookingDto} :
    Telling [] (createBooking host ctx customerId dto) := by
  unfold createBooking createBookingTx
  simp only [obeys_bind, ProviderServiceRepository.obeys_findById, obeys_orThrow, obeys_throwIf,
    ProviderAvailabilityRepository.obeys_findByProviderId]
  simp only [Tells, implies_true, and_true, true_and]
  intro found offering _ provider _ _ startsAtDate _ _ _ schedules
  split
  · trivial
  · simp only [obeys_bind, obeys_external, obeys_catching, obeys_orThrow, obeys_transaction,
      autocommit_bind, BookingRepository.obeys_create, PaymentRepository.obeys_create,
      AuditLogRepository.obeys_create, autocommit_pure, obeys_pure, enqueue]
    simp [Tells, onBookingError, obeys_ite, Ext.bookingId, Ext.follows, Did, kept, sinceBegin,
      Stores, newBooking]

theorem cancelBookingAsCustomer_tells {bookingId customerId : Uuid} {dto : CancelBookingDto} :
    Telling [] (cancelBookingAsCustomer ctx bookingId customerId dto) := by
  unfold cancelBookingAsCustomer cancelBookingTx
  simp only [obeys_bind, BookingRepository.obeys_findById, obeys_orThrow, obeys_throwIf,
    obeys_transaction, autocommit_bind, BookingRepository.obeys_updateStatus,
    AuditLogRepository.obeys_create, autocommit_pure, obeys_pure, enqueue, obeys_external]
  simp [Tells, Ext.bookingId, Ext.follows, Did, kept, sinceBegin, Stores,
    BookingRepository.statusData]

theorem completeBooking_tells {bookingId userId : Uuid} {role : Option Role} :
    Telling [] (completeBooking ctx bookingId userId role) := by
  unfold completeBooking completeBookingTx
  simp only [obeys_bind, BookingRepository.obeys_findById, obeys_orThrow, obeys_throwIf,
    BookingRepository.obeys_includeProvider, obeys_transaction, autocommit_bind,
    BookingRepository.obeys_update, AuditLogRepository.obeys_create, autocommit_pure, obeys_pure,
    enqueue, obeys_external]
  simp [Tells, Ext.bookingId, Ext.follows, Did, kept, sinceBegin, Stores]

theorem createPaymentOrder_tells {customerId bookingId : Uuid} :
    Telling [] (createPaymentOrder ctx customerId bookingId) := by
  unfold createPaymentOrder
  simp only [obeys_bind, BookingRepository.obeys_findById, obeys_orThrow, obeys_throwIf,
    PaymentRepository.obeys_findByBookingId]
  simp only [Tells, implies_true, and_true, true_and]
  intro found b _ _ _ payment
  cases payment.filter (·.status = .created) with
  | some p => trivial
  | none =>
      simp only [obeys_bind, obeys_external, PaymentRepository.obeys_create]
      simp [Tells, Ext.bookingId]

/-- After a confirmation that is committed. -/
theorem afterConfirmation_tells {id : Uuid} (hconfirmed : Did (Stores id .confirmed) (kept h)) :
    Telling h (afterConfirmation ctx id) := by
  have htells : ∀ (h' : CallHist) (x : Ext), kept h' = kept h → x.bookingId = some id →
      .confirmed ∈ x.follows → Tells h' (.call x) := by
    intro h' x hkept hid hfollows id' hid'
    obtain rfl : id = id' := Option.some.inj (hid.symm.trans hid')
    exact ⟨.confirmed, hfollows, hkept ▸ hconfirmed⟩
  unfold afterConfirmation
  refine obeys_bind.mpr (enqueue_tells (htells _ _ rfl rfl List.mem_cons_self) ?_)
  rintro r (e | _)
  · trivial
  · refine obeys_bind.mpr (enqueue_tells (htells _ _ kept_call rfl List.mem_cons_self) ?_)
    rintro r' (e | _)
    · trivial
    · exact enqueue_tells (htells _ _ (kept_call.trans kept_call) rfl List.mem_cons_self)
        fun _ _ => trivial

theorem verifyClientPayment_tells {customerId : Uuid} {dto : VerifyPaymentDto} :
    Telling [] (verifyClientPayment host ctx customerId dto) := by
  unfold verifyClientPayment verifyClientPaymentTx
  simp only [obeys_bind, PaymentRepository.obeys_findByGatewayOrderId,
    PaymentRepository.obeys_includeBooking, obeys_orThrow, obeys_throwIf, obeys_ite,
    obeys_transaction, autocommit_bind, PaymentRepository.obeys_updateStatus,
    BookingRepository.obeys_updateStatus, AuditLogRepository.obeys_create, autocommit_pure,
    obeys_pure]
  simp only [Tells, implies_true, and_true, true_and]
  refine fun found => ⟨fun _ payment hnone => (by cases hnone), ?_⟩
  rintro p rfl b _ ⟨⟩ _ _ _ _ _ _ updatedBooking _ _
  refine (afterConfirmation_tells ?_).mono (fun _ _ hq => hq) ?_
  · simp [Did, kept, sinceBegin, Stores, BookingRepository.statusData]
  · rintro _ (e | _) - <;> trivial

/-- What a statement confirms, it stores as CONFIRMED. -/
theorem stores_of_confirmedBy {x : (s : Stmt) × Ans s} {id : Uuid} (hx : confirmedBy x = some id) :
    Stores id .confirmed x.1 x.2 := by
  obtain ⟨s, a⟩ := x
  cases s with
  | updateBooking id' data =>
      simp only [confirmedBy] at hx
      split at hx
      · rename_i hset
        exact ⟨Option.some.inj hx, hset⟩
      · cases hx
  | _ => cases hx

/-- The `try` of a delivery: the transaction, and the calls after it. -/
theorem tryWebhook_tells (hout : sinceBegin h = none) {payment : PaymentWithBooking}
    {event : WebhookEvent} {eventId : String} {g : Exn → Call WebhookResult}
    (hg : ∀ h e, Telling h (g e)) :
    Telling h
      (catching
        (do
          let confirmedBookingId ← transaction Ext (webhookTx host ctx payment event eventId)
          match confirmedBookingId with
          | some bookingId => do
              afterConfirmation ctx bookingId
              pure .processed
          | none => pure .processed)
        g) := by
  have hopen : HasConfirmed (⟨.begin, .ok ()⟩ :: h : CallHist) [] :=
    ⟨[], by simp [sinceBegin, hout], rfl⟩
  have hanswers : Obeys (fun _ _ => True) Answers (⟨.begin, .ok ()⟩ :: h)
      (autocommit Ext (webhookTx host ctx payment event eventId)) := webhookTx_answers hopen
  have hkept := obeys_transaction_kept (R := fun l a => confirmedIn l = a.toList)
    (f := fun _ => ()) (fun _ _ _ _ => rfl) hout (hanswers.mono (fun _ _ hq => hq) fun h' r hr => by
      obtain ⟨ids, ⟨l, hl, rfl⟩, hanswer⟩ := hr
      exact fun a ha => ⟨l, hl, hanswer a ha⟩)
  refine obeys_catching.mpr (obeys_bind.mpr
    (((obeys_of_quiet tells_of_ne_call _ h).and hkept).mono (fun _ _ hq => hq.1) ?_))
  rintro h₁ (e | confirmed) ⟨-, -, hrest⟩
  · exact hg h₁ e
  · cases confirmed with
    | none => trivial
    | some id =>
        obtain ⟨l, hl, hids⟩ := hrest
        have hmem : id ∈ confirmedIn l := by simp [hids]
        obtain ⟨x, hx, hconfirms⟩ := List.mem_filterMap.mp hmem
        have hdid : Did (Stores id .confirmed) (kept h₁) :=
          ⟨x, hl ▸ List.mem_append_left _ hx, stores_of_confirmedBy hconfirms⟩
        refine obeys_bind.mpr ((afterConfirmation_tells hdid).mono (fun _ _ hq => hq) ?_)
        rintro h₂ (e | _) -
        · exact hg h₂ e
        · trivial

theorem handleWebhookEvent_tells {delivery : Delivery} :
    Telling [] (handleWebhookEvent host ctx delivery) := by
  unfold handleWebhookEvent
  cases readDelivery host delivery with
  | error e => trivial
  | ok event =>
  simp only [processWebhookEvent, requireString, recordAndSkip, autocommit_orThrow, obeys_bind,
    obeys_orThrow, obeys_ite, obeys_pure, PaymentRepository.obeys_findWebhookEvent,
    autocommit_bind, PaymentRepository.obeys_recordWebhookEvent, autocommit_pure,
    PaymentRepository.obeys_findByGatewayOrderId, PaymentRepository.obeys_includeBooking]
  simp only [Tells, implies_true, and_true, true_and]
  rintro eventId _ found _ _ orderId _ _ p rfl b
  refine tryWebhook_tells rfl fun h e => ?_
  split <;> trivial

theorem refundPayment_tells {adminUserId paymentId : Uuid} {dto : RefundPaymentDto} :
    Telling [] (refundPayment host ctx adminUserId paymentId dto) := by
  unfold refundPayment
  simp only [obeys_bind, PaymentRepository.obeys_findById, PaymentRepository.obeys_includeBooking,
    obeys_orThrow, obeys_throwIf]
  simp only [Tells, implies_true, and_true, true_and]
  refine fun found => ⟨fun _ payment hnone => (by cases hnone), ?_⟩
  rintro p rfl b _ ⟨⟩ _ _
  split
  · trivial
  · simp only [obeys_bind, obeys_orThrow, obeys_external]
    simp only [Tells, Ext.bookingId, Option.not_mem_none, false_implies, implies_true, and_true,
      true_and]
    exact fun _ _ _ _ => obeys_of_quiet tells_of_ne_call _ _

end

/-- **Every call** tells the queues what it has committed. -/
theorem program_tells {host : Host} {op : Op} : Telling [] (program host op) := by
  obtain ⟨ctx, request⟩ := op
  cases request with
  | createBooking _ _ => exact createBooking_tells.map
  | cancelBookingAsCustomer _ _ _ => exact cancelBookingAsCustomer_tells.map
  | expireBooking _ => exact (obeys_of_quiet tells_of_ne_call _ _).map
  | completeBooking _ _ _ => exact completeBooking_tells.map
  | flagOverdueBooking _ => exact (obeys_of_quiet tells_of_ne_call _ _).map
  | createPaymentOrder _ _ => exact createPaymentOrder_tells.map
  | verifyClientPayment _ _ => exact verifyClientPayment_tells.map
  | handleWebhookEvent _ => exact handleWebhookEvent_tells.map
  | refundPayment _ _ _ => exact refundPayment_tells.map

/-! ## Rows that are not pending -/

/-- A booking that waits for no payment any more. -/
def Left : Row → Prop
  | .booking b => b.bookingStatus ≠ .pendingPayment
  | _ => False

/-- A statement writes one row under a key. -/
theorem Stmt.eq_of_written {s : Stmt} {db : Db} {a : Ans s} (hexec : db.exec s = .ok a) {w w' : Row}
    (hw : w ∈ s.written a) (hw' : w' ∈ s.written a) (hkey : w'.key = w.key) : w' = w := by
  cases s with
  | createBooking _ | updateBooking _ _ | createPayment _ | updatePayment _ _ | createEvent _
  | updateEvent _ _ | createAudit _ =>
      exact (List.mem_singleton.mp hw').trans (List.mem_singleton.mp hw).symm
  | updateBookings cond data =>
      obtain ⟨rfl, _⟩ := Db.updateAll_ok hexec
      obtain ⟨_, hx, rfl⟩ := List.mem_map.mp hw
      obtain ⟨b, hb, rfl⟩ := List.mem_map.mp hx
      obtain ⟨_, hx', rfl⟩ := List.mem_map.mp hw'
      obtain ⟨b', hb', rfl⟩ := List.mem_map.mp hx'
      obtain rfl : b' = b := Table.eq_of_key (List.mem_of_mem_filter hb')
        (List.mem_of_mem_filter hb) (Key.booking.inj hkey)
      rfl
  | updatePayments cond data =>
      obtain ⟨rfl, _⟩ := Db.updateAll_ok hexec
      obtain ⟨_, hx, rfl⟩ := List.mem_map.mp hw
      obtain ⟨p, hp, rfl⟩ := List.mem_map.mp hx
      obtain ⟨_, hx', rfl⟩ := List.mem_map.mp hw'
      obtain ⟨p', hp', rfl⟩ := List.mem_map.mp hx'
      obtain rfl : p' = p := Table.eq_of_key (List.mem_of_mem_filter hp')
        (List.mem_of_mem_filter hp) (Key.payment.inj hkey)
      rfl
  | _ => exact absurd hw List.not_mem_nil

/-- No statement sets a booking back to PENDING_PAYMENT. -/
theorem left_of_written {host : Host} {op : Op} {h : CallHist} {s : Stmt} {db : Db} {a : Ans s}
    (hwrites : Writes host op h (.stmt s)) (hexec : db.exec s = .ok a) {w r : Row}
    (hw : w ∈ s.written a) (hr : db.get w.key = some r) (hleft : Left r) : Left w := by
  cases r with
  | booking b =>
      cases w with
      | booking b' =>
          rcases Stmt.written_booking hexec hw with ⟨_, hnone⟩ | ⟨b₀, data, hget, rfl, hs⟩
          · exact absurd (hr.symm.trans hnone) (by simp)
          · obtain rfl : b = b₀ := Row.booking.inj (Option.some.inj (hr.symm.trans hget))
            rcases hs with rfl | ⟨cond, rfl, _⟩
            · obtain ⟨_, status, hset, hne, _⟩ := hwrites
              simpa [Left, BookingUpdate.on, hset] using hne
            · rcases hwrites.1 with ⟨_, _, _, rfl⟩ | ⟨_, _, _, rfl⟩
              · simp [Left, BookingUpdate.on, expireData]
              · simpa [Left, BookingUpdate.on, overdueData] using hleft
      | _ =>
          obtain ⟨_, _, heq⟩ := Option.map_eq_some_iff.mp hr
          cases heq
  | _ => exact hleft.elim

section
variable {host : Host} {db : Db} {Ok : System → Event Op Exn → Prop} {c c' : System} {P : Caller}
  {id : Uuid}

theorem keeps_left {c : System} (hrun : Run (program host) Ok ⟨db, []⟩ c) :
    ∀ P ∈ c.procs, ∀ s k a, P.prog = .ask (.stmt s) k →
      Txn.Database.exec s (view c.db P) = .ok a → ∀ w ∈ Txn.Database.written Db s a, ∀ r,
        Txn.Database.get (view c.db P) (Txn.Database.key Db w) = some r → Left r → Left w := by
  intro P hP s k a hk hexec w hw r hr hleft
  have hwrites := writes_of_run hrun P hP
  rw [hk] at hwrites
  exact left_of_written hwrites.1 hexec hw hr hleft

/-- **A booking that has left PENDING_PAYMENT** does not come back to it. -/
theorem left_pending (hrun : Run (program host) Ok ⟨db, []⟩ c)
    (hrun' : Run (program host) Ok c c') {b : Booking} (hb : c.db.bookings.find? id = some b)
    (hleft : b.bookingStatus ≠ .pendingPayment) :
    ∃ b', c'.db.bookings.find? id = some b' ∧ b'.bookingStatus ≠ .pendingPayment := by
  have hget : Txn.Database.get c.db (Key.booking id) = some (Row.booking b) :=
    Option.map_eq_some_iff.mpr ⟨b, hb, rfl⟩
  obtain ⟨r, hr, hmark⟩ := Run.stays_marked (fun _ => keeps_left) rfl hrun hrun' hget
    (show Left (.booking b) from hleft)
  obtain ⟨b', hb', rfl⟩ := Option.map_eq_some_iff.mp hr
  exact ⟨b', hb', hmark⟩

/-! ## The calls of a run -/

/-- What a call has told the outside, the latest first. -/
def told : CallHist → List Ext
  | [] => []
  | ⟨.call x, _⟩ :: h => x :: told h
  | _ :: h => told h

theorem mem_of_told {x : Ext} : ∀ {h : CallHist}, x ∈ told h → ∃ r : Except Exn Unit,
    (⟨.call x, r⟩ : (i : Instr Stmt Ext) × Except Exn (i.Ans Ans)) ∈ h
  | ⟨i, r⟩ :: h, hx => by
      have hlater : x ∈ told h → ∃ r' : Except Exn Unit, (⟨.call x, r'⟩ : (i : Instr Stmt Ext) ×
          Except Exn (i.Ans Ans)) ∈ (⟨i, r⟩ :: h : CallHist) := by
        intro hx
        obtain ⟨r', hr'⟩ := mem_of_told hx
        exact ⟨r', List.mem_cons_of_mem _ hr'⟩
      cases i with
      | call y =>
          rcases List.mem_cons.mp hx with rfl | hx
          · exact ⟨r, List.mem_cons_self⟩
          · exact hlater hx
      | _ => exact hlater hx

/-- What a call has stored, it has committed so. -/
theorem committed_of_stores (hrun : Run (program host) Ok ⟨db, []⟩ c) (hP : P ∈ c.procs)
    {t : BookingStatus} (hdid : Did (Stores id t) (kept P.hist)) :
    ∃ b, Row.booking b ∈ committed P ∧ b.id = id ∧ b.bookingStatus = t := by
  obtain ⟨⟨s, a⟩, hx, hstores⟩ := hdid
  obtain ⟨db', hexec⟩ := hrun.executed rfl hP (mem_of_kept hx)
  cases s with
  | createBooking row =>
      obtain ⟨hid, hstatus⟩ := hstores
      have ha : a = row := (Db.insert_ok (show db'.insert (.booking row) row = .ok a from hexec)).1
      exact ⟨a, mem_rowsOf.mpr ⟨_, hx, List.mem_singleton_self _⟩, hid, ha ▸ hstatus⟩
  | updateBooking id' data =>
      obtain ⟨rfl, hset⟩ := hstores
      obtain ⟨b, hb, ha, _⟩ := Db.update_ok
        (show db'.update .booking data.on (db'.bookings.find? id') = .ok a from hexec)
      refine ⟨a, mem_rowsOf.mpr ⟨_, hx, List.mem_singleton_self _⟩, ?_, ?_⟩
      · rw [ha]
        exact (Table.key_of_find? hb : b.id = id')
      · rw [ha]
        simp [BookingUpdate.on, hset]
  | _ => exact hstores.elim

/-- What has been committed so is not pending any more. -/
theorem left_of_committed (hrun : Run (program host) Ok ⟨db, []⟩ c) (hP : P ∈ c.procs) {b : Booking}
    (hb : Row.booking b ∈ committed P) (hleft : b.bookingStatus ≠ .pendingPayment) :
    ∃ b', c.db.bookings.find? b.id = some b' ∧ b'.bookingStatus ≠ .pendingPayment := by
  have hlast : Lasting Left c := Run.lasting (fun _ => keeps_left) (fun s db a hexec w hw w' hw'
    hkey hmark => (Stmt.eq_of_written hexec hw hw' hkey).symm ▸ hmark) rfl hrun
  obtain ⟨r, hr, hmark⟩ := hlast.committed P hP _ hb hleft
  obtain ⟨b', hb', rfl⟩ := Option.map_eq_some_iff.mp hr
  exact ⟨b', hb', hmark⟩

/-- What a call has told a queue of, it has committed. -/
theorem committed_of_told (hrun : Run (program host) Ok ⟨db, []⟩ c) (hP : P ∈ c.procs) {x : Ext}
    (htold : x ∈ told P.hist) (hid : x.bookingId = some id) :
    ∃ b, Row.booking b ∈ committed P ∧ b.id = id ∧ b.bookingStatus ∈ x.follows := by
  obtain ⟨r, hr⟩ := mem_of_told htold
  have hobeyed := hrun.obeyed (fun _ _ _ => program_tells) rfl P hP
  obtain ⟨h, hsuffix, htells⟩ := hobeyed.of_mem hr
  obtain ⟨t, ht, y, hy, hstores⟩ := htells id hid
  obtain ⟨b, hb, hid, rfl⟩ := committed_of_stores hrun hP
    ⟨y, kept_subset ((List.suffix_cons _ _).trans hsuffix) hy, hstores⟩
  exact ⟨b, hb, hid, ht⟩

/-- A booking that a queue is told of, other than to expire it, is not
pending. -/
theorem left_of_told (hrun : Run (program host) Ok ⟨db, []⟩ c) (hP : P ∈ c.procs) {x : Ext}
    (htold : x ∈ told P.hist) (hid : x.bookingId = some id)
    (hpending : BookingStatus.pendingPayment ∉ x.follows) :
    ∃ b, c.db.bookings.find? id = some b ∧ b.bookingStatus ≠ .pendingPayment := by
  obtain ⟨b, hb, rfl, ht⟩ := committed_of_told hrun hP htold hid
  exact left_of_committed hrun hP hb fun h => hpending (h ▸ ht)

end

/-- **The queues follow the bookings**: in every run, what a call tells a queue
about a booking it has committed before; and unless it is that the booking is to
expire, the booking is not PENDING_PAYMENT at any later time. -/
theorem queue_follows (host : Host) (db : Db) (c c' : System) (P : Caller) (x : Ext) (id : Uuid)
    (hrun : Run (program host) (fun _ _ => True) ⟨db, []⟩ c)
    (hrun' : Run (program host) (fun _ _ => True) c c') (hP : P ∈ c.procs)
    (htold : x ∈ told P.hist) (hid : x.bookingId = some id) :
    (∃ b, Row.booking b ∈ committed P ∧ b.id = id ∧ b.bookingStatus ∈ x.follows) ∧
    (BookingStatus.pendingPayment ∉ x.follows →
      ∃ b, c'.db.bookings.find? id = some b ∧ b.bookingStatus ≠ .pendingPayment) := by
  refine ⟨committed_of_told hrun hP htold hid, fun hpending => ?_⟩
  obtain ⟨b, hb, hleft⟩ := left_of_told hrun hP htold hid hpending
  exact left_pending hrun hrun' hb hleft

/-! ## A run -/

deriving instance DecidableEq for CreateGatewayOrderParams, CreateRefundParams, Ext

namespace Sample

/-- The payment is captured, and the queues are told. -/
def captured : List (Event Op Exn) := .spawn (deliver 1 "payment.captured") :: steps 0 15

/-- The job that expires the booking runs nevertheless. -/
def lateExpiry : List (Event Op Exn) := .spawn (expire 2) :: steps 1 3

end Sample

/-- The expiry is called off after the booking was confirmed, and one that runs
all the same finds it so. -/
theorem queue_follows_sample : ∃ c c', ∃ P ∈ c.procs,
    runChecked (program Sample.host) (fun _ _ => True) ⟨Sample.booked, []⟩ Sample.captured = some c ∧
    runChecked (program Sample.host) (fun _ _ => True) c Sample.lateExpiry = some c' ∧
    (∀ P' ∈ c'.procs, P'.prog.head.isNone) ∧
    .cancelPaymentExpiration Sample.bookingId ∈ told P.hist ∧
    (∃ b, Row.booking b ∈ committed P ∧ b.id = Sample.bookingId ∧
      b.bookingStatus ∈ (Ext.cancelPaymentExpiration Sample.bookingId).follows) ∧
    ∃ b, c'.db.bookings.find? Sample.bookingId = some b ∧ b.bookingStatus ≠ .pendingPayment := by
  have hrun : ∀ c ∈ runChecked (program Sample.host) (fun _ _ => True) ⟨Sample.booked, []⟩
      Sample.captured, (c.procs.any fun P =>
        decide (.cancelPaymentExpiration Sample.bookingId ∈ told P.hist)) = true ∧
      ((runChecked (program Sample.host) (fun _ _ => True) c Sample.lateExpiry).any fun c' =>
        c'.procs.all fun P' => P'.prog.head.isNone) = true := by decide +kernel
  obtain ⟨c, hc⟩ := Option.isSome_iff_exists.mp
    (show (runChecked (program Sample.host) (fun _ _ => True) ⟨Sample.booked, []⟩
      Sample.captured).isSome by decide +kernel)
  obtain ⟨htold, hlater⟩ := hrun c hc
  obtain ⟨P, hP, htold⟩ := List.any_eq_true.mp htold
  obtain ⟨c', hc', hended⟩ := (Option.any_eq_true _ _).mp hlater
  obtain ⟨hcommitted, hleft⟩ := queue_follows Sample.host Sample.booked c c' P
    (.cancelPaymentExpiration Sample.bookingId) Sample.bookingId (Run.of_runChecked _ _ hc)
    (Run.of_runChecked _ _ hc') hP (by simpa using htold) rfl
  exact ⟨c, c', P, hP, hc, hc', by simpa using hended, by simpa using htold, hcommitted,
    hleft (by decide)⟩

end ServiceHub
