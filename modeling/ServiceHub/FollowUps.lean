/-
# `FollowUps` — what follows when an event confirms a booking

The transaction of a delivery confirms the booking and marks the event as
processed; three calls to the queues follow after its commit, in this order.

    cancelPaymentExpiration                  the booking will not expire
    scheduleBookingOverdueCheck              it is looked at after its end
    scheduleBookingLifecycleNotifications    the customer hears of it

If one of them is refused the delivery throws and the rest are not made.  The
gateway delivers the event again, but the event is marked: the next delivery
answers `already_processed` and makes none of the calls.  So the follow-ups are
made just when no queue refuses one (`follow_ups_kept`).
-/
import ServiceHub.QueueCalls
import ServiceHub.Deliveries

namespace ServiceHub

open Data Txn Prog Jobs

/-! ## The booking that a delivery confirms -/

def confirmedBy : (s : Stmt) × Ans s → Option Uuid
  | ⟨.updateBooking id data, _⟩ => if data.bookingStatus = some .confirmed then some id else none
  | _ => none

/-- The bookings that the statements set to CONFIRMED. -/
def confirmedIn (l : List ((s : Stmt) × Ans s)) : List Uuid := l.filterMap confirmedBy

@[simp] theorem confirmedIn_cons (x : (s : Stmt) × Ans s) (l : List ((s : Stmt) × Ans s)) :
    confirmedIn (x :: l) = (confirmedBy x).toList ++ confirmedIn l := by
  unfold confirmedIn
  cases hx : confirmedBy x with
  | none => simp [hx]
  | some id => simp [hx]

theorem confirmedIn_append (l l' : List ((s : Stmt) × Ans s)) :
    confirmedIn (l ++ l') = confirmedIn l ++ confirmedIn l' := List.filterMap_append

/-- The open transaction has confirmed these bookings. -/
def HasConfirmed (h : CallHist) (ids : List Uuid) : Prop :=
  ∃ l, sinceBegin h = some l ∧ confirmedIn l = ids

/-- ... and the body answers them. -/
def Answers (h : CallHist) (r : Except Exn (Option Uuid)) : Prop :=
  ∃ ids, HasConfirmed h ids ∧ ∀ a, r = .ok a → ids = a.toList

section
variable {host : Host} {ctx : Ctx} {h : CallHist} {payment : PaymentWithBooking}
  {event : WebhookEvent} {eventType eventId : String} {ids : List Uuid}

theorem HasConfirmed.stmt {s : Stmt} {r : Except Exn (Ans s)} (hc : HasConfirmed h ids)
    (hother : ∀ a, confirmedBy ⟨s, a⟩ = none) : HasConfirmed (⟨.stmt s, r⟩ :: h) ids := by
  obtain ⟨l, hopen, rfl⟩ := hc
  cases r with
  | error e => exact ⟨l, hopen, rfl⟩
  | ok a => exact ⟨⟨s, a⟩ :: l, by simp [sinceBegin, hopen], by simp [hother a]⟩

theorem settleBooking_answers (hc : HasConfirmed h []) :
    Obeys (fun _ _ => True) Answers h (autocommit Ext (settleBooking ctx payment)) := by
  unfold settleBooking
  simp only [autocommit_bind, obeys_bind, BookingRepository.obeys_findById, autocommit_ite,
    obeys_ite, BookingRepository.obeys_updateStatus, AuditLogRepository.obeys_create,
    autocommit_pure, obeys_pure]
  obtain ⟨l, hopen, hnone⟩ := hc
  simp [Answers, HasConfirmed, sinceBegin, hopen, hnone, confirmedBy, BookingRepository.statusData]

theorem settlePayment_confirms (hc : HasConfirmed h ids) :
    Obeys (fun _ _ => True) (fun h' _ => HasConfirmed h' ids) h
      (autocommit Ext (settlePayment host ctx payment event eventType)) := by
  unfold settlePayment
  simp only [autocommit_bind, obeys_bind]
  refine obeys_optionalString ?_ fun _ => hc
  simp only [PaymentRepository.obeys_updateStatus, AuditLogRepository.obeys_create,
    autocommit_pure, obeys_pure]
  obtain ⟨l, hopen, hids⟩ := hc
  simp [HasConfirmed, sinceBegin, hopen, hids, confirmedBy]

theorem answers_none (hidle : HasConfirmed h []) : Answers h (.ok none) := by
  refine ⟨[], hidle, fun a ha => ?_⟩
  cases ha
  rfl

theorem answers_error {e : Exn} (hids : HasConfirmed h ids) : Answers h (.error e) :=
  ⟨ids, hids, fun _ hr => by cases hr⟩

theorem handleCaptured_answers (hc : HasConfirmed h []) :
    Obeys (fun _ _ => True) Answers h
      (autocommit Ext (handleCaptured host ctx payment event eventType)) := by
  have hidle : Answers h (.ok none) := answers_none hc
  unfold handleCaptured
  simp only [autocommit_ite, obeys_ite, autocommit_pure, obeys_pure]
  refine ⟨fun _ => hidle, fun _ => ⟨fun _ => hidle, fun _ => ⟨fun _ => hidle, fun _ => ?_⟩⟩⟩
  cases currencyDiffers host payment.toPayment event.paymentEntity with
  | error e => exact answers_error hc
  | ok differs =>
      cases differs with
      | true => exact hidle
      | false =>
          show Obeys _ _ h (autocommit Ext (settleCapture host ctx payment event eventType))
          unfold settleCapture
          simp only [autocommit_bind]
          refine obeys_bind.mpr ((settleBooking_answers hc).mono (fun _ _ hq => hq) ?_)
          rintro h₁ (e | confirmed) ⟨ids, hids, hanswer⟩
          · exact answers_error hids
          · refine obeys_bind.mpr ((settlePayment_confirms hids).mono (fun _ _ hq => hq) ?_)
            rintro h₂ (e | _) hids
            · exact answers_error hids
            · refine ⟨ids, hids, fun a ha => ?_⟩
              cases ha
              exact hanswer confirmed rfl

theorem handleFailed_confirms (hc : HasConfirmed h ids) :
    Obeys (fun _ _ => True) (fun h' _ => HasConfirmed h' ids) h
      (autocommit Ext (handleFailed host ctx payment event)) := by
  unfold handleFailed
  simp only [autocommit_ite, obeys_ite, autocommit_bind, obeys_bind]
  refine ⟨fun _ => obeys_optionalString ?_ fun _ => hc, fun _ => hc⟩
  simp only [PaymentRepository.obeys_updateStatus, AuditLogRepository.obeys_create,
    autocommit_pure, obeys_pure]
  obtain ⟨l, hopen, hids⟩ := hc
  simp [HasConfirmed, sinceBegin, hopen, hids, confirmedBy]

theorem handleRefunded_confirms (hc : HasConfirmed h ids) :
    Obeys (fun _ _ => True) (fun h' _ => HasConfirmed h' ids) h
      (autocommit Ext (handleRefunded ctx payment)) := by
  unfold handleRefunded
  simp only [autocommit_ite, obeys_ite, autocommit_bind, obeys_bind,
    PaymentRepository.obeys_updateStatus, autocommit_pure, obeys_pure]
  obtain ⟨l, hopen, hids⟩ := hc
  simp [HasConfirmed, sinceBegin, hopen, hids, confirmedBy]

/-- **The handler of an event** answers the booking that it has confirmed. -/
theorem handleEvent_answers (hc : HasConfirmed h []) :
    Obeys (fun _ _ => True) Answers h
      (autocommit Ext (handleEvent host ctx payment event eventType)) := by
  unfold handleEvent
  simp only [autocommit_ite, obeys_ite, autocommit_bind, autocommit_pure]
  refine ⟨fun _ => handleCaptured_answers hc, fun _ => ⟨fun _ => ?_, fun _ => ⟨fun _ => ?_,
    fun _ => answers_none hc⟩⟩⟩
  · refine obeys_bind.mpr ((handleFailed_confirms hc).mono (fun _ _ hq => hq) ?_)
    rintro h₁ (e | _) hids
    · exact answers_error hids
    · exact answers_none hids
  · refine obeys_bind.mpr ((handleRefunded_confirms hc).mono (fun _ _ hq => hq) ?_)
    rintro h₁ (e | _) hids
    · exact answers_error hids
    · exact answers_none hids

theorem webhookTx_answers (hc : HasConfirmed h []) :
    Obeys (fun _ _ => True) Answers h
      (autocommit Ext (webhookTx host ctx payment event eventId)) := by
  unfold webhookTx requireString
  simp only [autocommit_bind, obeys_bind, autocommit_orThrow, obeys_orThrow,
    PaymentRepository.obeys_recordWebhookEvent]
  refine ⟨fun _ => answers_error hc, fun eventType _ => ⟨fun _ => answers_error hc, fun _ =>
    ⟨trivial, fun row => ?_, fun e => ?_⟩⟩⟩
  · refine (handleEvent_answers (hc.stmt fun _ => rfl)).mono (fun _ _ hq => hq) ?_
    rintro h₁ (e | confirmed) ⟨ids, hids, hanswer⟩
    · exact answers_error hids
    · simp only [PaymentRepository.obeys_markWebhookEventProcessed, autocommit_pure, obeys_pure]
      refine ⟨trivial, fun _ => ⟨ids, hids.stmt fun _ => rfl, fun a ha => ?_⟩,
        fun e => answers_error (hids.stmt fun _ => rfl)⟩
      cases ha
      exact hanswer confirmed rfl
  · exact answers_error (hc.stmt fun _ => rfl)

/-! ## The calls after the commit -/

/-- The calls after a confirmation, each one taken. -/
def followUps (id : Uuid) : List (Ext × Bool) :=
  [(.scheduleBookingLifecycleNotifications id, true), (.scheduleBookingOverdueCheck id, true),
    (.cancelPaymentExpiration id, true)]

/-- One of the calls was refused, and the last one was not taken. -/
def CutShort (id : Uuid) (replies : List (Ext × Bool)) : Prop :=
  (∃ x ∈ replies, x.2 = false) ∧ (.scheduleBookingLifecycleNotifications id, true) ∉ replies

/-- A delivery has confirmed nothing and called no queue, or it has confirmed
one booking and gone on to the calls. -/
def Concludes (ctx : Ctx) (h : CallHist) : Prop :=
  (confirmedIn (kept h) = [] ∧ queueReplies ctx h = []) ∨
    ∃ id, confirmedIn (kept h) = [id] ∧
      (queueReplies ctx h = followUps id ∨ CutShort id (queueReplies ctx h))

/-- The first call that is refused is the last one made. -/
theorem afterConfirmation_follows (hnone : queueReplies ctx h = []) {id : Uuid} :
    Obeys (fun _ _ => True) (fun h' (_ : Except Exn Unit) => kept h' = kept h ∧
        (queueReplies ctx h' = followUps id ∨ CutShort id (queueReplies ctx h')))
      h (afterConfirmation ctx id) := by
  unfold afterConfirmation
  have hmade : (queueReplies ctx h).length = 0 := by rw [hnone]; rfl
  refine obeys_bind.mpr ((enqueue_replies rfl hmade).mono (fun _ _ hq => hq) ?_)
  rintro h₁ (e | _) ⟨hreplies₁, hkept₁⟩ <;> rw [hnone] at hreplies₁
  · exact ⟨hkept₁, Or.inr (by simp [CutShort, hreplies₁, Except.isOk, Except.toBool])⟩
  have hmade : (queueReplies ctx h₁).length = 1 := by rw [hreplies₁]; rfl
  refine obeys_bind.mpr ((enqueue_replies rfl hmade).mono (fun _ _ hq => hq) ?_)
  rintro h₂ (e | _) ⟨hreplies₂, hkept₂⟩ <;> rw [hreplies₁] at hreplies₂
  · refine ⟨hkept₂.trans hkept₁, Or.inr ?_⟩
    simp [CutShort, hreplies₂, Except.isOk, Except.toBool]
  have hmade : (queueReplies ctx h₂).length = 2 := by rw [hreplies₂]; rfl
  refine (enqueue_replies rfl hmade).mono (fun _ _ hq => hq) ?_
  rintro h₃ (e | _) ⟨hreplies₃, hkept₃⟩ <;> rw [hreplies₂] at hreplies₃
  · refine ⟨hkept₃.trans (hkept₂.trans hkept₁), Or.inr ?_⟩
    simp [CutShort, hreplies₃, Except.isOk, Except.toBool]
  · exact ⟨hkept₃.trans (hkept₂.trans hkept₁), Or.inl hreplies₃⟩

theorem concludes_early (hkept : confirmedIn (kept h) = []) (hcalls : queueReplies ctx h = []) :
    Concludes ctx h := Or.inl ⟨hkept, hcalls⟩

theorem recordAndSkip_concludes (hkept : confirmedIn (kept h) = []) (hout : sinceBegin h = none)
    (hcalls : queueReplies ctx h = []) :
    Obeys (fun _ _ => True) (fun h' (_ : Except Exn WebhookResult) => Concludes ctx h') h
      (autocommit Ext (recordAndSkip host ctx event eventId)) := by
  unfold recordAndSkip requireString
  simp only [autocommit_bind, obeys_bind, autocommit_orThrow, obeys_orThrow,
    PaymentRepository.obeys_recordWebhookEvent, autocommit_pure, obeys_pure]
  simp [Concludes, kept, hout, hkept, hcalls, queueReplies, confirmedBy]

/-- The `try` and its `catch`: the transaction, and the calls after it. -/
theorem tryWebhook_concludes (hkept : confirmedIn (kept h) = []) (hout : sinceBegin h = none)
    (hcalls : queueReplies ctx h = []) :
    Obeys (fun _ _ => True) (fun h' _ => Concludes ctx h') h
      (catching
        (do
          let confirmedBookingId ← transaction Ext (webhookTx host ctx payment event eventId)
          match confirmedBookingId with
          | some bookingId => do
              afterConfirmation ctx bookingId
              pure .processed
          | none => pure .processed)
        fun error =>
          if error.isDuplicate then pure WebhookResult.alreadyProcessed else .throw error) := by
  have hcatch : ∀ (h : CallHist) (e : Exn), Concludes ctx h → Obeys (fun _ _ => True)
      (fun h' _ => Concludes ctx h') h
        (if e.isDuplicate then (pure .alreadyProcessed : Call WebhookResult) else .throw e) := by
    intro h e hconcludes
    split
    · exact hconcludes
    · exact hconcludes
  have hopen : HasConfirmed (⟨.begin, .ok ()⟩ :: h : CallHist) [] :=
    ⟨[], by simp [sinceBegin, hout], rfl⟩
  refine obeys_catching.mpr (obeys_bind.mpr
    ((obeys_transaction_kept (R := fun l a => confirmedIn l = a.toList)
      (f := queueReplies ctx) (fun _ _ _ => queueReplies_of_ne_call) hout
      ((webhookTx_answers hopen).mono (fun _ _ hq => hq) ?_)).mono (fun _ _ hq => hq) ?_))
  · rintro h' r ⟨ids, ⟨l, hl, rfl⟩, hanswer⟩ a ha
    exact ⟨l, hl, hanswer a ha⟩
  rintro h₁ (e | confirmed) ⟨hsame, hrest⟩
  · refine hcatch h₁ e (concludes_early ?_ (hsame.trans hcalls))
    rw [hrest, hkept]
  · obtain ⟨l, hl, hids⟩ := hrest
    cases confirmed with
    | none =>
        refine concludes_early ?_ (hsame.trans hcalls)
        rw [hl, confirmedIn_append, hids, hkept]
        rfl
    | some id =>
        have hone : confirmedIn (kept h₁) = [id] := by
          rw [hl, confirmedIn_append, hids, hkept]
          rfl
        refine obeys_bind.mpr ((afterConfirmation_follows (hsame.trans hcalls)).mono
          (fun _ _ hq => hq) ?_)
        rintro h₂ r ⟨hkept₂, hfollows⟩
        have hconcludes : Concludes ctx h₂ := Or.inr ⟨id, hkept₂ ▸ hone, hfollows⟩
        cases r with
        | error e => exact hcatch h₂ e hconcludes
        | ok _ => exact hconcludes

theorem handleWebhookEvent_concludes {delivery : Delivery} :
    Obeys (fun _ _ => True) (fun h' _ => Concludes ctx h') []
      (handleWebhookEvent host ctx delivery) := by
  unfold handleWebhookEvent
  cases readDelivery host delivery with
  | error e => exact concludes_early rfl rfl
  | ok event =>
  simp only [processWebhookEvent, requireString, autocommit_orThrow, obeys_bind, obeys_orThrow,
    obeys_ite, obeys_pure, PaymentRepository.obeys_findWebhookEvent]
  refine ⟨fun _ => concludes_early rfl rfl, fun eventId _ => ⟨trivial, fun found =>
    ⟨fun _ => concludes_early rfl rfl, fun _ => ⟨fun _ => recordAndSkip_concludes rfl rfl rfl,
      fun _ => ⟨fun _ => concludes_early rfl rfl, fun orderId _ => ?_⟩⟩⟩,
    fun _ => concludes_early rfl rfl⟩⟩
  refine PaymentRepository.obeys_findByGatewayOrderId.mpr ⟨trivial, fun o => ?_,
    fun _ => concludes_early rfl rfl⟩
  refine PaymentRepository.obeys_includeBooking.mpr
    ⟨fun _ => recordAndSkip_concludes rfl rfl rfl, ?_⟩
  rintro p rfl
  exact ⟨trivial, fun b => tryWebhook_concludes rfl rfl rfl, concludes_early rfl rfl,
    fun _ => concludes_early rfl rfl⟩

end

/-! ## The deliveries of an event -/

/-- The booking will not expire, it is checked after its end, and the customer
is notified. -/
structure FollowedUp (P : Caller) (id : Uuid) : Prop where
  replies : queueReplies P.op.ctx P.hist = followUps id
  expiry : ∀ now found q, (bookingJobs now found (queueReplies P.op.ctx P.hist) q).find?
    (BookingQueueService.expireJobId id) = none
  overdue : ∀ now found q b, found id = some b →
    BookingQueueService.appointmentEnd b + 2 * 60 * 60 * 1000 - now > 0 →
      ((bookingJobs now found (queueReplies P.op.ctx P.hist) q).find?
        (BookingQueueService.overdueJobId id)).isSome

theorem FollowedUp.of_replies {P : Caller} {id : Uuid}
    (h : queueReplies P.op.ctx P.hist = followUps id) : FollowedUp P id := by
  refine ⟨h, fun now found q => ?_, fun now found q b hb hahead => ?_⟩
  · rw [h]
    show (BookingQueueService.scheduleBookingOverdueCheck now id (found id)
      (BookingQueueService.cancelPaymentExpiration id q)).find? _ = none
    rw [BookingQueueService.find?_expireJobId_scheduleBookingOverdueCheck,
      BookingQueueService.cancelPaymentExpiration, Queue.find?_remove, if_pos rfl]
  · rw [h]
    show ((BookingQueueService.scheduleBookingOverdueCheck now id (found id)
      (BookingQueueService.cancelPaymentExpiration id q)).find? _).isSome
    rw [hb]
    exact BookingQueueService.find?_scheduleBookingOverdueCheck hahead

/-- Some delivery of the event has been answered without error. -/
def EventAnswered (host : Host) (c : System) (eventId : String) : Prop :=
  ∃ P ∈ c.procs, P.op.eventId host = some eventId ∧ (returned P.prog).isSome

/-- Once the event has been answered, what it has confirmed is followed up. -/
def NeverDropped (host : Host) (c : System) (eventId : String) : Prop :=
  EventAnswered host c eventId → ∀ id,
    (∃ P ∈ c.procs, P.op.eventId host = some eventId ∧ id ∈ confirmedIn (kept P.hist)) →
      ∃ P ∈ c.procs, P.op.eventId host = some eventId ∧ FollowedUp P id

theorem rowsOf_ne_nil_of_confirmed {id : Uuid} {l : List ((s : Stmt) × Ans s)}
    (h : id ∈ confirmedIn l) : rowsOf Db l ≠ [] := by
  obtain ⟨⟨s, a⟩, hx, hid⟩ := List.mem_filterMap.mp h
  cases s with
  | updateBooking id' data =>
      have hmem : Row.booking a ∈ rowsOf Db l := mem_rowsOf.mpr ⟨_, hx, List.mem_cons_self⟩
      exact List.ne_nil_of_mem hmem
  | _ => cases hid

section
variable {host : Host} {db : Db} {Ok : System → Event Op Exn → Prop} {c : System}
  {eventId : String}

/-- A delivery that has ended has concluded. -/
theorem concludes_of_run (hrun : Run (program host) Ok ⟨db, []⟩ c) {P : Caller} (hP : P ∈ c.procs)
    (hid : P.op.eventId host = some eventId) (hended : P.prog.head.isNone) :
    Concludes P.op.ctx P.hist := by
  have hobeys := hrun.obeys (Q := fun _ _ _ => True)
    (R := fun op h _ => op.eventId host = some eventId → Concludes op.ctx h) (fun _ op _ => ?_)
    rfl P hP
  · cases hprog : P.prog with
    | ask i k => simp [hprog, head] at hended
    | ret a =>
        rw [hprog] at hobeys
        exact hobeys hid
    | throw e =>
        rw [hprog] at hobeys
        exact hobeys hid
  · obtain ⟨ctx, request⟩ := op
    cases request with
    | handleWebhookEvent delivery =>
        refine obeys_map.mpr (handleWebhookEvent_concludes.mono (fun _ _ hq => hq) ?_)
        rintro h (e | a) hconcludes _
        · exact hconcludes
        · exact hconcludes
    | _ => exact Obeys.of_forall (fun _ _ => trivial) (fun _ _ h => nomatch h) _ _

/-- One delivery at most confirms a booking. -/
theorem confirmed_once (hrun : Run (program host) Ok ⟨db, []⟩ c) {P Q : Caller}
    (hP : P ∈ c.procs) (hQ : Q ∈ c.procs) (hp : P.op.eventId host = some eventId)
    (hq : Q.op.eventId host = some eventId) {id id' : Uuid} (hid : id ∈ confirmedIn (kept P.hist))
    (hid' : id' ∈ confirmedIn (kept Q.hist)) : P = Q := by
  have hdid : ∀ {P : Caller} {id : Uuid}, P ∈ c.procs → P.op.eventId host = some eventId →
      id ∈ confirmedIn (kept P.hist) → Did (Inserts eventId) (standing P.hist) :=
    fun hP hp hid => did_standing.mpr (Or.inr (did_of_committed (dedups_of_run hrun hP hp).2
      (rowsOf_ne_nil_of_confirmed hid)))
  obtain ⟨p, hp'⟩ := List.mem_iff_getElem?.mp hP
  obtain ⟨q, hq'⟩ := List.mem_iff_getElem?.mp hQ
  by_cases hpq : p = q
  · subst hpq
    exact Option.some.inj (hp'.symm.trans hq')
  · exact absurd (hdid hQ hq hid')
      ((marked_inserts hrun).once p q P Q hpq hp' hq' (hdid hP hp hid))

/-- **The follow-ups of a confirmation are dropped just when a queue refuses
one**: in every run, at every time when no delivery of the event is under way. -/
theorem follow_ups_kept (host : Host) (db : Db) (c : System) (eventId : String)
    (hrun : Run (program host) (fun _ _ => True) ⟨db, []⟩ c)
    (hended : ∀ P ∈ c.procs, P.op.eventId host = some eventId → P.prog.head.isNone) :
    NeverDropped host c eventId ↔ (EventAnswered host c eventId →
      ∀ P ∈ c.procs, P.op.eventId host = some eventId → QueuesTook P) := by
  refine forall_congr' fun _ => ⟨fun hfollowed P hP hid x hx => ?_, ?_⟩
  · rcases concludes_of_run hrun hP hid (hended P hP hid) with ⟨_, hnone⟩ | ⟨id, hone, hall | hcut⟩
    · rw [hnone] at hx
      exact absurd hx List.not_mem_nil
    · rw [hall] at hx
      simp only [followUps, List.mem_cons, List.not_mem_nil, or_false] at hx
      rcases hx with rfl | rfl | rfl <;> rfl
    · -- no other delivery makes up for what this one was refused
      have hconfirmed : id ∈ confirmedIn (kept P.hist) := by rw [hone]; exact List.mem_cons_self
      obtain ⟨Q, hQ, hq, hfollow⟩ := hfollowed id ⟨P, hP, hid, hconfirmed⟩
      have hmade : (.scheduleBookingLifecycleNotifications id, true) ∈
          queueReplies Q.op.ctx Q.hist := by
        rw [hfollow.replies]
        exact List.mem_cons_self
      rcases concludes_of_run hrun hQ hq (hended Q hQ hq) with ⟨_, hnone⟩ | ⟨id', hone', _⟩
      · rw [hnone] at hmade
        exact absurd hmade List.not_mem_nil
      · have hconfirmed' : id' ∈ confirmedIn (kept Q.hist) := by rw [hone']; exact List.mem_cons_self
        obtain rfl := confirmed_once hrun hP hQ hid hq hconfirmed hconfirmed'
        exact absurd hmade hcut.2
  · rintro htook id ⟨P, hP, hid, hconfirmed⟩
    refine ⟨P, hP, hid, FollowedUp.of_replies ?_⟩
    rcases concludes_of_run hrun hP hid (hended P hP hid) with ⟨hnone, _⟩ | ⟨id', hone, hall | hcut⟩
    · rw [hnone] at hconfirmed
      exact absurd hconfirmed List.not_mem_nil
    · rw [hone] at hconfirmed
      rw [List.mem_singleton.mp hconfirmed]
      exact hall
    · obtain ⟨x, hx, hrefused⟩ := hcut.1
      exact absurd (htook P hP hid x hx) (by simp [hrefused])

end

/-! ## Two runs -/

namespace Sample

/-- A delivery of `evt_1` while the queue is out of reach. -/
def deliverUnqueued : Op :=
  { deliver 1 "payment.captured" with
    ctx := { ctx 1 with queue := fun _ => .error "Connection is closed." } }

/-- The next delivery of `evt_1`. -/
def deliverAgain : Op := { deliver 1 "payment.captured" with ctx := ctx 2 }

/-- `evt_1` is delivered twice, one delivery after the other. -/
def twice : List (Event Op Exn) :=
  .spawn (deliver 1 "payment.captured") :: steps 0 15 ++ .spawn deliverAgain :: steps 1 1

/-- The same, and the queue is out of reach the first time. -/
def twiceUnqueued : List (Event Op Exn) :=
  .spawn deliverUnqueued :: steps 0 13 ++ .spawn deliverAgain :: steps 1 1

end Sample

/-- Every delivery of `evt_1` has ended, one of them without error. -/
def AtRest (c : System) : Prop :=
  (∀ P ∈ c.procs, P.op.eventId Sample.host = some "evt_1" → P.prog.head.isNone) ∧
    ∃ P ∈ c.procs, P.op.eventId Sample.host = some "evt_1" ∧ (returned P.prog).isSome

instance (c : System) : Decidable (AtRest c) := inferInstanceAs (Decidable (_ ∧ _))

/-- The booking is confirmed and followed up. -/
theorem follow_ups_kept_sample : ∃ c,
    runChecked (program Sample.host) (fun _ _ => True) ⟨Sample.booked, []⟩ Sample.twice = some c ∧
    AtRest c ∧ (∃ P ∈ c.procs, Sample.bookingId ∈ confirmedIn (kept P.hist)) ∧
    NeverDropped Sample.host c "evt_1" := by
  obtain ⟨c, hc⟩ := Option.isSome_iff_exists.mp
    (show (runChecked (program Sample.host) (fun _ _ => True) ⟨Sample.booked, []⟩
      Sample.twice).isSome by decide +kernel)
  have hrest : ∀ c ∈ runChecked (program Sample.host) (fun _ _ => True) ⟨Sample.booked, []⟩
      Sample.twice, AtRest c ∧ (∃ P ∈ c.procs, Sample.bookingId ∈ confirmedIn (kept P.hist)) ∧
        ∀ P ∈ c.procs, ∀ x ∈ queueReplies P.op.ctx P.hist, x.2 = true := by
    decide +kernel
  obtain ⟨⟨hended, hanswered⟩, hconfirmed, htook⟩ := hrest c hc
  exact ⟨c, hc, ⟨hended, hanswered⟩, hconfirmed, (follow_ups_kept Sample.host Sample.booked c "evt_1"
    (Run.of_runChecked _ _ hc) hended).mpr fun _ P hP _ => htook P hP⟩

/-- The booking is confirmed and the event answered, and no call was taken. -/
theorem not_follow_ups_kept : ∃ c,
    runChecked (program Sample.host) (fun _ _ => True) ⟨Sample.booked, []⟩
      Sample.twiceUnqueued = some c ∧
    AtRest c ∧ (∃ P ∈ c.procs, Sample.bookingId ∈ confirmedIn (kept P.hist)) ∧
    (∀ P ∈ c.procs, ∀ x ∈ queueReplies P.op.ctx P.hist, x.2 = false) ∧
    ¬ NeverDropped Sample.host c "evt_1" := by
  obtain ⟨c, hc⟩ := Option.isSome_iff_exists.mp
    (show (runChecked (program Sample.host) (fun _ _ => True) ⟨Sample.booked, []⟩
      Sample.twiceUnqueued).isSome by decide +kernel)
  have hdropped : ∀ c ∈ runChecked (program Sample.host) (fun _ _ => True) ⟨Sample.booked, []⟩
      Sample.twiceUnqueued, AtRest c ∧ (∃ P ∈ c.procs, P.op.eventId Sample.host = some "evt_1" ∧
        Sample.bookingId ∈ confirmedIn (kept P.hist)) ∧
        ∀ P ∈ c.procs, ∀ x ∈ queueReplies P.op.ctx P.hist, x.2 = false := by
    decide +kernel
  obtain ⟨hrest, ⟨P, hP, hid, hconfirmed⟩, hrefused⟩ := hdropped c hc
  refine ⟨c, hc, hrest, ⟨P, hP, hconfirmed⟩, hrefused, fun hnever => ?_⟩
  obtain ⟨Q, hQ, _, hfollow⟩ := hnever hrest.2 Sample.bookingId ⟨P, hP, hid, hconfirmed⟩
  have htaken := hrefused Q hQ (.cancelPaymentExpiration Sample.bookingId, true)
    (by rw [hfollow.replies]; simp [followUps])
  cases htaken

end ServiceHub
