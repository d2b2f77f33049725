/-
# `Acknowledged` — what `already_processed` tells

A delivery answers `already_processed` in two places: it finds its event
processed, or its transaction fails with P2002.  Neither compares the body.  The
event id comes from a header that nobody signs, or is composed of the payment
and the name of the event; so the event found may be another one.  And P2002 is
raised by the unique index on the gateway's payment id, too.

`TellsApart` asks that an event which is looked up or inserted is recorded under
its id with the same body, if at all, and that no other payment has the payment
id that an update sets.  Then what is acknowledged was processed before
(`acknowledged_processed`).
-/
import ServiceHub.Deliveries
import ServiceHub.Txn.Refusals

namespace ServiceHub

open Data Txn Prog

/-! ## What an answer rests on -/

/-- The answers that a delivery takes for a sign that its event was
processed. -/
def Suggests : (i : Instr Stmt Ext) → Except Exn (i.Ans Ans) → Prop
  | .stmt (.findEvent _ _), .ok found => (found.bind (·.processedAt)).isSome
  | _, .error e => e.isDuplicate
  | _, _ => False

theorem suggests_error {i : Instr Stmt Ext} {e : Exn} : Suggests i (.error e) ↔ e.isDuplicate := by
  cases i with
  | stmt s => cases s <;> exact Iff.rfl
  | _ => exact Iff.rfl

/-- Such an answer was given before `already_processed`. -/
def Suggested (h : CallHist) (r : Except Exn WebhookResult) : Prop :=
  r = .ok .alreadyProcessed → ∃ x ∈ h, Suggests x.1 x.2

/-- Where a delivery of the event looks it up and inserts it. -/
def Consults (eventId : String) (h : CallHist) : Instr Stmt Ext → Prop
  | .stmt (.findEvent gateway id) => gateway = .razorpay ∧ id = eventId ∧ sinceBegin h = none
  | .stmt (.createEvent e) => e.gateway = .razorpay ∧ e.eventId = eventId ∧
      (sinceBegin h).getD [] = []
  | .stmt (.createPayment _) | .stmt (.updatePayments _ _) => False
  | _ => True

section
variable {host : Host} {ctx : Ctx} {h : CallHist} {event : WebhookEvent} {eventType eventId : String}
  {payment : PaymentWithBooking}

/-- Its own errors are no duplicates. -/
abbrev Candid {α : Type} (p : Call α) : Prop := Relays (fun e => e.isDuplicate = true) p

theorem candid_requireString {o : Option Json} : Candid (autocommit Ext (requireString o)) := by
  rw [requireString, autocommit_orThrow]
  exact Relays.orThrow (by simp [Exn.isDuplicate])

theorem candid_optionalString {o : Option Json} : Candid (autocommit Ext (optionalString host o)) := by
  unfold optionalString
  rw [autocommit_ite, autocommit_bind, autocommit_orThrow]
  refine Relays.ite (Relays.bind (Relays.orThrow ?_) fun _ => Relays.pure) Relays.pure
  simp [Exn.isDuplicate]

theorem candid_recordWebhookEvent {e : PaymentWebhookEvent} :
    Candid (autocommit Ext (PaymentRepository.recordWebhookEvent host e)) := by
  unfold PaymentRepository.recordWebhookEvent
  rw [autocommit_bind, autocommit_throwIf]
  exact Relays.bind (Relays.throwIf nofun) fun _ => Relays.stmt

theorem candid_settleBooking : Candid (autocommit Ext (settleBooking ctx payment)) := by
  unfold settleBooking
  simp only [autocommit_bind, autocommit_ite]
  refine Relays.bind Relays.stmt fun _ => Relays.ite ?_ ?_
  · exact Relays.bind Relays.stmt fun _ => Relays.bind Relays.stmt fun _ => Relays.pure
  · exact Relays.bind Relays.stmt fun _ => Relays.pure

theorem candid_settlePayment : Candid (autocommit Ext (settlePayment host ctx payment event eventType)) := by
  unfold settlePayment
  simp only [autocommit_bind]
  refine Relays.bind candid_optionalString fun _ => ?_
  exact Relays.bind Relays.stmt fun _ => Relays.bind Relays.stmt fun _ => Relays.pure

theorem candid_handleCaptured :
    Candid (autocommit Ext (handleCaptured host ctx payment event eventType)) := by
  unfold handleCaptured
  simp only [autocommit_ite]
  refine Relays.ite Relays.pure (Relays.ite Relays.pure (Relays.ite Relays.pure ?_))
  cases hcurrency : currencyDiffers host payment.toPayment event.paymentEntity with
  | error e =>
      refine Relays.throw ?_
      unfold currencyDiffers at hcurrency
      split at hcurrency
      · split at hcurrency
        · cases hcurrency
        · cases hcurrency
          simp [Exn.isDuplicate]
      · cases hcurrency
  | ok differs =>
      cases differs with
      | true => exact Relays.pure
      | false =>
          show Candid (autocommit Ext (settleCapture host ctx payment event eventType))
          unfold settleCapture
          simp only [autocommit_bind]
          exact Relays.bind candid_settleBooking fun _ =>
            Relays.bind candid_settlePayment fun _ => Relays.pure

theorem candid_handleEvent :
    Candid (autocommit Ext (handleEvent host ctx payment event eventType)) := by
  unfold handleEvent
  simp only [autocommit_ite, autocommit_bind]
  refine Relays.ite candid_handleCaptured (Relays.ite ?_ (Relays.ite ?_ Relays.pure))
  · unfold handleFailed
    simp only [autocommit_ite, autocommit_bind]
    refine Relays.bind (Relays.ite ?_ Relays.pure) fun _ => Relays.pure
    refine Relays.bind candid_optionalString fun _ => ?_
    exact Relays.bind Relays.stmt fun _ => Relays.bind Relays.stmt fun _ => Relays.pure
  · unfold handleRefunded
    simp only [autocommit_ite, autocommit_bind]
    refine Relays.bind (Relays.ite ?_ Relays.pure) fun _ => Relays.pure
    exact Relays.bind Relays.stmt fun _ => Relays.pure

theorem consults_of_handles {i : Instr Stmt Ext}
    (hi : Handles host ctx payment event eventType h i) : Consults eventId h i := by
  cases i with
  | stmt s =>
      cases s with
      | findEvent _ _ | createEvent _ | createPayment _ | updatePayments _ _ => exact hi.elim
      | _ => trivial
  | _ => trivial

/-- The body of the transaction: what it throws, it relays. -/
theorem webhookTx_consults (hopen : sinceBegin h = some []) :
    Obeys (Consults eventId) (Relayed fun e => e.isDuplicate = true) h
      (autocommit Ext (webhookTx host ctx payment event eventId)) := by
  have hcandid : Candid (autocommit Ext (webhookTx host ctx payment event eventId)) := by
    unfold webhookTx
    simp only [autocommit_bind]
    refine Relays.bind candid_requireString fun _ =>
      Relays.bind candid_recordWebhookEvent fun _ => ?_
    exact Relays.bind candid_handleEvent fun _ => Relays.bind Relays.stmt fun _ => Relays.pure
  have hasks : Obeys (Consults eventId) (fun _ _ => True) h
      (autocommit Ext (webhookTx host ctx payment event eventId)) := by
    unfold webhookTx requireString
    simp only [autocommit_bind, obeys_bind, autocommit_orThrow, obeys_orThrow,
      PaymentRepository.obeys_recordWebhookEvent]
    refine ⟨fun _ => trivial, fun eventType _ => ⟨fun _ => trivial, fun _ =>
      ⟨⟨rfl, rfl, by simp [hopen]⟩, fun row => ?_, fun _ => trivial⟩⟩⟩
    refine handleEvent_handles.mono (fun _ _ => consults_of_handles) ?_
    rintro h' (e | confirmed) _
    · trivial
    · simp only [PaymentRepository.obeys_markWebhookEventProcessed, autocommit_pure, obeys_pure]
      exact ⟨trivial, fun _ => trivial, fun _ => trivial⟩
  exact (hasks.and (hcandid h)).mono (fun _ _ hq => hq.1) fun _ _ hr => hr.2

theorem suggested_error {e : Exn} : Suggested h (.error e) := by
  intro hr
  cases hr

theorem suggested_processed : Suggested h (.ok .processed) := by
  intro hr
  cases hr

theorem recordAndSkip_consults (hout : sinceBegin h = none) :
    Obeys (Consults eventId) Suggested h (autocommit Ext (recordAndSkip host ctx event eventId)) := by
  unfold recordAndSkip requireString
  simp only [autocommit_bind, obeys_bind, autocommit_orThrow, obeys_orThrow,
    PaymentRepository.obeys_recordWebhookEvent, autocommit_pure, obeys_pure]
  refine ⟨fun _ => suggested_error, fun _ _ => ⟨fun _ => suggested_error, fun _ =>
    ⟨⟨rfl, rfl, by simp [hout]⟩, fun _ hr => ?_, fun _ => suggested_error⟩⟩⟩
  cases hr

theorem candid_enqueue {i : Nat} {c : Ext} : Candid (enqueue ctx i c) := by
  unfold enqueue external
  refine Relays.bind Relays.perform fun _ => ?_
  cases ctx.queue i with
  | ok a => exact Relays.pure
  | error m => exact Relays.throw (by simp [Exn.isDuplicate])

theorem afterConfirmation_consults {bookingId : Uuid} : Obeys (Consults eventId)
    (Relayed fun e => e.isDuplicate = true) h (afterConfirmation ctx bookingId) := by
  have hcandid : Candid (afterConfirmation ctx bookingId) :=
    Relays.bind candid_enqueue fun _ => Relays.bind candid_enqueue fun _ => candid_enqueue
  have hasks : Obeys (Consults eventId) (fun _ _ => True) h (afterConfirmation ctx bookingId) := by
    unfold afterConfirmation
    simp only [obeys_bind, enqueue, obeys_external]
    simp [Consults]
  exact (hasks.and (hcandid h)).mono (fun _ _ hq => hq.1) fun _ _ hr => hr.2

/-- What a delivery asks, and what its answer rests on. -/
theorem handleWebhookEvent_consults {delivery : Delivery}
    (hid : Op.eventId host ⟨ctx, .handleWebhookEvent delivery⟩ = some eventId) :
    Obeys (Consults eventId) Suggested [] (handleWebhookEvent host ctx delivery) := by
  unfold handleWebhookEvent
  cases hread : readDelivery host delivery with
  | error e => exact suggested_error
  | ok event =>
  have hasText : asText event.eventId = some eventId := by
    simpa [Op.eventId, Op.event, hread, Except.toOption] using hid
  simp only [processWebhookEvent, requireString, autocommit_orThrow, obeys_bind, obeys_orThrow,
    obeys_ite, obeys_pure, PaymentRepository.obeys_findWebhookEvent, hasText, Option.some.injEq,
    forall_eq']
  refine ⟨fun _ => suggested_error, ⟨rfl, rfl, rfl⟩, fun found => ⟨fun hprocessed _ => ?_, fun _ =>
    ⟨fun _ => recordAndSkip_consults rfl, fun _ => ⟨fun _ => suggested_error, fun orderId _ => ?_⟩⟩⟩,
    fun _ => suggested_error⟩
  · exact ⟨_, List.mem_cons_self, hprocessed⟩
  refine PaymentRepository.obeys_findByGatewayOrderId.mpr ⟨trivial, fun o => ?_,
    fun _ => suggested_error⟩
  refine PaymentRepository.obeys_includeBooking.mpr ⟨fun _ => recordAndSkip_consults rfl, ?_⟩
  rintro p rfl
  refine ⟨trivial, fun b => ?_, suggested_error, fun _ => suggested_error⟩
  have hcatch : ∀ (h : CallHist) (e : Exn), Relayed (fun e => e.isDuplicate = true) h
      (.error e : Except Exn WebhookResult) → Obeys (Consults eventId) Suggested h
      (if e.isDuplicate then (pure .alreadyProcessed : Call WebhookResult) else .throw e) := by
    intro h e hrelayed
    split
    · rename_i hdup
      obtain ⟨i, hi⟩ := hrelayed e rfl hdup
      exact fun _ => ⟨_, hi, suggests_error.mpr hdup⟩
    · exact suggested_error
  have hhead : ∀ {h : CallHist} {i : Instr Stmt Ext} {e : Exn}, Relayed
      (fun e => e.isDuplicate = true) (⟨i, .error e⟩ :: h) (.error e : Except Exn WebhookResult) := by
    intro h i e e' he _
    cases he
    exact ⟨i, List.mem_cons_self⟩
  refine obeys_catching.mpr (obeys_bind.mpr (obeys_transaction.mpr
    ⟨trivial, fun e => hcatch _ e hhead, ?_⟩))
  refine (webhookTx_consults rfl).mono (fun _ _ hq => hq) ?_
  rintro h (e | confirmed) hrelayed
  · refine ⟨trivial, fun r' => hcatch _ _ fun e' he hdup => ?_⟩
    cases he
    obtain ⟨i, hi⟩ := hrelayed e rfl hdup
    exact ⟨i, List.mem_cons_of_mem _ hi⟩
  · refine ⟨trivial, ?_, fun e => hcatch _ e hhead⟩
    cases confirmed with
    | none => exact suggested_processed
    | some bookingId =>
        refine obeys_bind.mpr (afterConfirmation_consults.mono (fun _ _ hq => hq) ?_)
        rintro h' (e | _) hrelayed
        · exact hcatch _ e fun e' he hdup => by
            cases he
            exact hrelayed e rfl hdup
        · exact suggested_processed

end

/-! ## Two rows of one order or event -/

/-- Two payments of one order, or two rows of one event. -/
def Doubles : Row → Row → Prop
  | .payment p, .payment q => p.gatewayOrderId = q.gatewayOrderId
  | .event e, .event f => e.gateway = f.gateway ∧ e.eventId = f.eventId
  | _, _ => False

theorem clash_of_doubles {r r' : Row} (h : Doubles r r') : clash r r' = true := by
  cases r <;> cases r' <;> try exact h.elim
  · have h : _ = _ := h
    simp [clash, h]
  · obtain ⟨hgateway, hid⟩ := h
    simp [clash, hgateway, hid]

theorem doubles_comm (r r' : Row) (h : Doubles r r') : Doubles r' r := by
  cases r <;> cases r' <;> try exact h.elim
  · exact Eq.symm h
  · exact ⟨h.1.symm, h.2.symm⟩

theorem excludes_doubles : Excludes Db Doubles := by
  refine excludes_of_clash (fun _ _ => clash_of_doubles) doubles_comm ?_
  intro s db a hexec w hw w' hw' hkey hdoubles
  cases s with
  | updateBookings _ _ =>
      obtain ⟨_, _, rfl⟩ := List.mem_map.mp hw
      exact hdoubles
  | updatePayments cond data =>
      cases w <;> cases w' <;> try exact hdoubles.elim
      · rename_i p q
        have horder : p.gatewayOrderId = q.gatewayOrderId := hdoubles
        -- the new version of the one clashes with the old one of the other
        rcases Stmt.written_payment hexec hw' with ⟨hs, _⟩ | ⟨q', data', hq', rfl, _⟩
        · cases hs
        have hclash := not_clash_of_refusal (Stmt.written_spec hexec _ hw).2 hq' hkey
        have hold : clash (.payment p) (.payment q') = true :=
          clash_of_doubles (show Doubles (.payment p) (.payment q') from horder)
        rw [hold] at hclash
        cases hclash
      · obtain ⟨_, _, heq⟩ := List.mem_map.mp hw
        cases heq
  | createBooking _ | updateBooking _ _ | createPayment _ | updatePayment _ _ | createEvent _
  | updateEvent _ _ | createAudit _ =>
      rw [List.mem_singleton.mp hw, List.mem_singleton.mp hw'] at hkey
      exact hkey rfl
  | _ => exact absurd hw List.not_mem_nil

/-- The recorded events and the payments before the run. -/
structure Settled (db : Db) : Prop where
  processed : ∀ e ∈ db.paymentWebhookEvents.rows, e.processedAt.isSome
  events : ∀ e ∈ db.paymentWebhookEvents.rows, ∀ f ∈ db.paymentWebhookEvents.rows,
    e.eventId = f.eventId → e = f
  orders : ∀ p ∈ db.payments.rows, ∀ q ∈ db.payments.rows, p.gatewayOrderId = q.gatewayOrderId → p = q

theorem Settled.exclusive {db : Db} (h : Settled db) : Exclusive Doubles db := by
  intro k k' r r' hk hr hr' hdoubles
  obtain rfl := Db.key_of_get hr
  obtain rfl := Db.key_of_get hr'
  cases r <;> cases r' <;> try exact hdoubles.elim
  · obtain ⟨p, hp, heq⟩ := Option.map_eq_some_iff.mp hr
    obtain ⟨q, hq, heq'⟩ := Option.map_eq_some_iff.mp hr'
    cases heq
    cases heq'
    exact hk (congrArg (fun p => Row.key (.payment p))
      (h.orders _ (Table.mem_of_find? hp) _ (Table.mem_of_find? hq) hdoubles))
  · obtain ⟨e, he, heq⟩ := Option.map_eq_some_iff.mp hr
    obtain ⟨f, hf, heq'⟩ := Option.map_eq_some_iff.mp hr'
    cases heq
    cases heq'
    exact hk (congrArg (fun e => Row.key (.event e))
      (h.events _ (Table.mem_of_find? he) _ (Table.mem_of_find? hf) hdoubles.2))

/-! ## Telling events apart -/

/-- The body of the delivery is recorded under its event id, and processed. -/
def Recorded (db : Db) (event : WebhookEvent) : Prop :=
  ∃ row ∈ db.paymentWebhookEvents.rows, asText event.eventId = some row.eventId ∧
    row.processedAt.isSome ∧ row.payload = event.payload

/-- The call is about to look an event up or to insert it. -/
def consults (P : Caller) : Bool :=
  match P.prog with
  | .ask (.stmt (.findEvent _ _)) _ | .ask (.stmt (.createEvent _)) _ => true
  | _ => false

/-- The payment as the call is about to update it. -/
def updates (c : System) (P : Caller) : Option Payment :=
  match P.prog with
  | .ask (.stmt (.updatePayment id data)) _ => ((view c.db P).payments.find? id).map data.on
  | _ => none

/-- A delivery that looks up or inserts its event finds no other body under the
event id, and none sets a payment id that another payment has.  A failure on the
way is no violation of a unique index. -/
def TellsApart (host : Host) (c : System) : Event Op Exn → Prop
  | .exec p => ∀ P ∈ c.procs[p]?, ∀ event ∈ P.op.event host,
      (consults P → ∀ row ∈ c.db.paymentWebhookEvents.rows,
        asText event.eventId = some row.eventId → row.payload = event.payload) ∧
      ∀ p' ∈ updates c P, p'.gatewayPaymentId.isSome → ∀ q ∈ (view c.db P).payments.rows,
        q.id ≠ p'.id → q.gatewayPaymentId ≠ p'.gatewayPaymentId
  | .fail _ e => ¬ e.isDuplicate
  | .spawn _ => True

instance (host : Host) (c : System) : ∀ e, Decidable (TellsApart host c e)
  | .exec p => inferInstanceAs (Decidable (∀ P ∈ c.procs[p]?, ∀ event ∈ P.op.event host,
      (consults P → ∀ row ∈ c.db.paymentWebhookEvents.rows,
        asText event.eventId = some row.eventId → row.payload = event.payload) ∧
      ∀ p' ∈ updates c P, p'.gatewayPaymentId.isSome → ∀ q ∈ (view c.db P).payments.rows,
        q.id ≠ p'.id → q.gatewayPaymentId ≠ p'.gatewayPaymentId))
  | .fail _ e => inferInstanceAs (Decidable (¬ e.isDuplicate))
  | .spawn _ => .isTrue trivial

section
variable {host : Host} {db : Db} {c c' : System} {e : Event Op Exn} {P : Caller} {event : WebhookEvent}
  {eventId : String}

/-- What a delivery goes on to ask, and what its answer rests on. -/
theorem consults_of_run {Ok : System → Event Op Exn → Prop} (hrun : Run (program host) Ok ⟨db, []⟩ c)
    (hP : P ∈ c.procs) (hid : P.op.eventId host = some eventId) :
    Obeys (Consults eventId) (fun h r => r = .ok (.webhook .alreadyProcessed) →
      ∃ x ∈ h, Suggests x.1 x.2) P.hist P.prog := by
  have hprog : ∀ op : Op, Obeys
      (fun h i => op.eventId host = some eventId → Consults eventId h i)
      (fun h r => op.eventId host = some eventId → r = .ok (.webhook .alreadyProcessed) →
        ∃ x ∈ h, Suggests x.1 x.2) [] (program host op) := by
    intro op
    by_cases hop : op.eventId host = some eventId
    · obtain ⟨ctx, request⟩ := op
      cases request with
      | handleWebhookEvent delivery =>
          refine obeys_map.mpr ((handleWebhookEvent_consults hop).mono (fun _ _ hq _ => hq) ?_)
          rintro h (e | a) hsuggested _ hr
          · cases hr
          · exact hsuggested (congrArg Except.ok (Response.webhook.inj (Except.ok.inj hr)))
      | _ => cases hop
    · exact Obeys.of_forall (fun _ _ h => absurd h hop) (fun _ _ h => absurd h hop) _ _
  refine (hrun.obeys (Q := fun op h i => op.eventId host = some eventId → Consults eventId h i)
    (R := fun op h r => op.eventId host = some eventId → r = .ok (.webhook .alreadyProcessed) →
      ∃ x ∈ h, Suggests x.1 x.2) (fun _ op _ => hprog op) rfl P hP).mono ?_ ?_
  · exact fun _ _ hq => hq hid
  · exact fun _ _ hr => hr hid

/-- An event without an id is refused. -/
theorem unnamed_of_run {Ok : System → Event Op Exn → Prop} (hrun : Run (program host) Ok ⟨db, []⟩ c)
    (hP : P ∈ c.procs) (hevent : P.op.event host = some event) (hid : asText event.eventId = none) :
    Obeys (fun _ _ => True) (fun _ r => ∀ a, r ≠ .ok a) P.hist P.prog := by
  have hprog : ∀ op : Op, Obeys (fun _ _ => True)
      (fun _ r => op.event host = some event → ∀ a, r ≠ .ok a) [] (program host op) := by
    intro op
    by_cases hop : op.event host = some event
    · obtain ⟨delivery, hrequest, hread⟩ := (Op.event_eq host).mp hop
      obtain ⟨ctx, request⟩ := op
      obtain rfl : request = .handleWebhookEvent delivery := hrequest
      refine obeys_map.mpr ?_
      simp only [handleWebhookEvent, hread, processWebhookEvent, requireString, autocommit_orThrow,
        obeys_bind, obeys_orThrow, hid]
      refine ⟨fun _ _ _ hr => ?_, fun _ hsome => ?_⟩
      · cases hr
      · cases hsome
    · exact Obeys.of_forall (fun _ _ => trivial) (fun _ _ h => absurd h hop) _ _
  refine (hrun.obeys (Q := fun _ _ _ => True) (R := fun op _ r => op.event host = some event →
    ∀ a, r ≠ .ok a) (fun _ op _ => hprog op) rfl P hP).mono (fun _ _ hq => hq) ?_
  exact fun _ _ hr => hr hevent

/-- What is recorded and processed stays so. -/
theorem Recorded.next (hset : Settled db) (h : Recorded c.db event)
    (hrun : Run (program host) (TellsApart host) ⟨db, []⟩ c) (hok : TellsApart host c e)
    (hn : next (program host) c e = some c') : Recorded c'.db event := by
  obtain ⟨row, hrow, hid, hprocessed, hpayload⟩ := h
  have hget : c.db.get (.event row.id) = some (.event row) :=
    Option.map_eq_some_iff.mpr ⟨row, Table.find?_of_mem hrow, rfl⟩
  obtain ⟨r, hr, hrevises⟩ := revises_of_run hrun (.step .start hok hn) hget
  cases r with
  | event row' =>
      have hcolumns : row' = { row with processedAt := row'.processedAt } := hrevises
      obtain ⟨x, hx, heq⟩ := Option.map_eq_some_iff.mp hr
      cases heq
      have hid' : row'.eventId = row.eventId := by rw [hcolumns]
      refine ⟨row', Table.mem_of_find? hx, hid.trans (congrArg some hid'.symm), ?_, ?_⟩
      · exact processed_of_run (fun e he _ => hset.processed e he) (.step hrun hok hn) _ row' hr rfl
      · rw [hcolumns]
        exact hpayload
  | _ => exact hrevises.elim

/-- A row under the event id of a delivery that consults it. -/
theorem recorded_of_found (hset : Settled db)
    (hrun : Run (program host) (TellsApart host) ⟨db, []⟩ c) {p : Nat} (hP : c.procs[p]? = some P)
    (hok : TellsApart host c (.exec p)) (hevent : P.op.event host = some event)
    (hconsults : consults P) {row : PaymentWebhookEvent} {k : Key}
    (hrow : c.db.get k = some (.event row)) (hid : asText event.eventId = some row.eventId) :
    Recorded c.db event := by
  obtain rfl := Db.key_of_get hrow
  obtain ⟨x, hx, heq⟩ := Option.map_eq_some_iff.mp hrow
  cases heq
  have hmem := Table.mem_of_find? hx
  refine ⟨row, hmem, hid, ?_, (hok P hP event hevent).1 hconsults row hmem hid⟩
  exact processed_of_run (fun e he _ => hset.processed e he) hrun _ row hrow rfl

/-- What is refused with P2002 clashes with a row that the call sees. -/
theorem target_of_duplicate {s : Stmt} {db : Db} {x : Exn} (hexec : db.exec s = .error x)
    (hdup : x.isDuplicate) : ∃ w ∈ s.targets db, clashError w = x ∧
      ∃ o ∈ db.siblings w, o.key ≠ w.key ∧ clash w o = true := by
  have hclash : ∀ {w : Row}, db.clashes w = true → ∃ o ∈ db.siblings w, o.key ≠ w.key ∧
      clash w o = true := by
    intro w hw
    obtain ⟨o, ho, hboth⟩ := List.any_eq_true.mp hw
    simp only [Bool.and_eq_true, decide_eq_true_eq] at hboth
    exact ⟨o, ho, hboth⟩
  have hall : ∀ {R : Type} {row : R → Row} {f : R → R} {old : List R},
      db.updateAll row f old = .error x → ∃ y ∈ old, db.refusal (row (f y)) = some x := by
    intro R row f old h
    unfold Db.updateAll at h
    split at h
    · rename_i e hfind
      cases h
      obtain ⟨y, hy, hrefusal⟩ := List.exists_of_findSome?_eq_some hfind
      obtain ⟨z, hz, rfl⟩ := List.mem_map.mp hy
      exact ⟨z, hz, hrefusal⟩
    · cases h
  cases s with
  | createBooking _ | createPayment _ | createEvent _ | createAudit _ =>
      obtain ⟨hclashes, herror⟩ := Db.insert_duplicate hexec hdup
      exact ⟨_, List.mem_singleton.mpr rfl, herror, hclash hclashes⟩
  | updateBooking _ _ | updatePayment _ _ | updateEvent _ _ =>
      obtain ⟨y, hy, hclashes, herror⟩ := Db.update_duplicate hexec hdup
      exact ⟨_, by simp [Stmt.targets, hy], herror, hclash hclashes⟩
  | updateBookings _ _ | updatePayments _ _ =>
      obtain ⟨y, hy, hrefusal⟩ := hall hexec
      obtain ⟨hclashes, herror⟩ := Db.clashes_of_duplicate hrefusal hdup
      exact ⟨_, List.mem_map.mpr ⟨y, hy, rfl⟩, herror, hclash hclashes⟩
  | _ => cases hexec

theorem get_of_sibling {db : Db} {w o : Row} (h : o ∈ db.siblings w) : db.get o.key = some o := by
  cases w <;>
    obtain ⟨x, hx, rfl⟩ := List.mem_map.mp h <;>
    exact Option.map_eq_some_iff.mpr ⟨x, Table.find?_of_mem hx, rfl⟩

/-- A call sees its own versions only where it has written any. -/
theorem view_of_empty (hrun : Run (program host) (TellsApart host) ⟨db, []⟩ c) (hP : P ∈ c.procs)
    (hempty : (sinceBegin P.hist).getD [] = []) : view c.db P = c.db := by
  have htx := Run.tx_eq rfl hrun P hP
  cases hopen : sinceBegin P.hist with
  | none => simp [view, Proc.pending, htx, hopen]
  | some l =>
      rw [hopen] at hempty
      obtain rfl : l = [] := hempty
      simp [view, Proc.pending, htx, hopen, rowsOf]

/-- The event that a delivery finds processed. -/
theorem recorded_of_lookup (hset : Settled db)
    (hrun : Run (program host) (TellsApart host) ⟨db, []⟩ c) {p : Nat} (hP : c.procs[p]? = some P)
    (hok : TellsApart host c (.exec p)) {gateway : PaymentGateway} {id : String}
    {k : Except Exn (Option PaymentWebhookEvent) → Call Response}
    (hk : P.prog = .ask (.stmt (.findEvent gateway id)) k) {row : PaymentWebhookEvent}
    (hexec : (view c.db P).eventById gateway id = some row) (hevent : P.op.event host = some event)
    (hid : asText event.eventId = some eventId) : Recorded c.db event := by
  have hmem := List.mem_of_getElem? hP
  have hconsults : Obeys (Consults eventId) _ P.hist P.prog :=
    consults_of_run hrun hmem (by simp [Op.eventId, hevent, hid])
  rw [hk] at hconsults
  obtain ⟨_, rfl, hout⟩ := hconsults.1
  rw [view_of_empty hrun hmem (by simp [hout])] at hexec
  have hrow := List.mem_of_find?_eq_some hexec
  have htest := List.find?_some hexec
  simp only [Bool.and_eq_true, beq_iff_eq] at htest
  refine recorded_of_found hset hrun hP hok hevent (by simp [consults, hk])
    (k := .event row.id) ?_ (by rw [hid, htest.2])
  exact Option.map_eq_some_iff.mpr ⟨row, Table.find?_of_mem hrow, rfl⟩

/-- A delivery that is refused with P2002 was about to insert its event. -/
theorem recorded_of_refused (hset : Settled db)
    (hrun : Run (program host) (TellsApart host) ⟨db, []⟩ c) {p : Nat} (hP : c.procs[p]? = some P)
    (hok : TellsApart host c (.exec p)) {s : Stmt} {k : Except Exn (Ans s) → Call Response}
    (hk : P.prog = .ask (.stmt s) k) {x : Exn} (hexec : (view c.db P).exec s = .error x)
    (hdup : x.isDuplicate) (hevent : P.op.event host = some event)
    (hid : asText event.eventId = some eventId) : Recorded c.db event := by
  have hmem := List.mem_of_getElem? hP
  have hconsults : Obeys (Consults eventId) _ P.hist P.prog :=
    consults_of_run hrun hmem (by simp [Op.eventId, hevent, hid])
  rw [hk] at hconsults
  have hasked : Consults eventId P.hist (.stmt s) := hconsults.1
  have hexclusive := (hrun.excluded excludes_doubles hset.exclusive rfl).views P hmem
  obtain ⟨w, hw, herror, o, ho, hkey, hclash⟩ := target_of_duplicate hexec hdup
  have hget := get_of_sibling ho
  cases s with
  | createEvent row =>
      obtain ⟨hgateway, hrow, hempty⟩ := hasked
      obtain rfl := List.mem_singleton.mp hw
      rw [view_of_empty hrun hmem hempty] at hget
      cases o with
      | event f =>
          simp only [clash, Bool.and_eq_true, beq_iff_eq] at hclash
          refine recorded_of_found hset hrun hP hok hevent (by simp [consults, hk]) hget ?_
          rw [hid, ← hclash.2, hrow]
      | _ => cases hclash
  | updateEvent id t =>
      -- the row that is marked clashed with the other one before
      obtain ⟨y, hy, rfl⟩ := by simpa [Stmt.targets] using hw
      cases o with
      | event f =>
          have hboth : (y.gateway == f.gateway && y.eventId == f.eventId) = true := hclash
          obtain ⟨hgateway, hsame⟩ := Bool.and_eq_true_iff.mp hboth
          have hfound : (view c.db P).get (.event y.id) = some (.event y) :=
            Option.map_eq_some_iff.mpr ⟨y, (Table.key_of_find? hy).symm ▸ hy, rfl⟩
          exact absurd ⟨beq_iff_eq.mp hgateway, beq_iff_eq.mp hsame⟩
            (hexclusive (.event y.id) (.event f.id) _ _ (fun h => hkey h.symm) hfound hget)
      | _ => cases hclash
  | updatePayment id data =>
      obtain ⟨y, hy, rfl⟩ := by simpa [Stmt.targets] using hw
      cases o with
      | payment q =>
          have hfound : (view c.db P).get (.payment y.id) = some (.payment y) :=
            Option.map_eq_some_iff.mpr ⟨y, (Table.key_of_find? hy).symm ▸ hy, rfl⟩
          simp only [clash, Bool.or_eq_true, Bool.and_eq_true, beq_iff_eq] at hclash
          rcases hclash with horder | ⟨hsome, hpaid⟩
          · exact absurd horder
              (hexclusive (.payment y.id) (.payment q.id) _ _ (fun h => hkey h.symm) hfound hget)
          · -- another payment has the payment id
            obtain ⟨z, hz, heq⟩ := Option.map_eq_some_iff.mp hget
            cases heq
            have hupdates : data.on y ∈ updates c P := by simp [updates, hk, hy]
            exact absurd hpaid.symm ((hok P hP event hevent).2 _ hupdates hsome q
              (Table.mem_of_find? hz) fun h => hkey (congrArg Key.payment h))
      | _ => cases hclash
  | createPayment _ => exact hasked.elim
  | updatePayments _ _ => exact hasked.elim
  | createBooking b =>
      obtain rfl := List.mem_singleton.mp hw
      subst herror
      cases hdup
  | updateBooking id data =>
      obtain ⟨y, _, rfl⟩ := by simpa [Stmt.targets] using hw
      subst herror
      cases hdup
  | updateBookings cond data =>
      obtain ⟨y, _, rfl⟩ := List.mem_map.mp hw
      subst herror
      cases hdup
  | createAudit a =>
      obtain rfl := List.mem_singleton.mp hw
      cases o <;> cases hclash
  | _ => cases hexec

/-- **What suggests that an event was processed** is right about it. -/
theorem recorded_of_suggests (hset : Settled db)
    (hrun : Run (program host) (TellsApart host) ⟨db, []⟩ c) {p : Nat} (hP : c.procs[p]? = some P)
    (hok : TellsApart host c e) {i : Instr Stmt Ext} {k : Except Exn (i.Ans Ans) → Call Response}
    (hk : P.prog = .ask i k) {r : Except Exn (i.Ans Ans)} {tx : Option (List Row)} {db' : Db}
    (heff : Effect c.db (others c.procs p) P.tx p i e r tx db') (hevent : P.op.event host = some event)
    (hid : asText event.eventId = some eventId) (hsuggests : Suggests i r) :
    Recorded c.db event := by
  cases r with
  | error x =>
      have hdup := suggests_error.mp hsuggests
      rcases heff.refused with rfl | ⟨s, rfl, rfl, hexec⟩
      · exact absurd hdup hok
      · exact recorded_of_refused hset hrun hP hok hk hexec hdup hevent hid
  | ok a =>
      cases i with
      | stmt s =>
          cases s with
          | findEvent gateway id =>
              obtain ⟨rfl, hexec⟩ := heff.exec_of_ok
              have hsome : (a.bind (·.processedAt)).isSome := hsuggests
              cases a with
              | none => cases hsome
              | some row =>
                  exact recorded_of_lookup hset hrun hP hok hk (Except.ok.inj hexec) hevent hid
          | _ => exact hsuggests.elim
      | _ => exact hsuggests.elim

/-- The delivery was answered `already_processed`. -/
def answersAlready (P : Caller) : Bool :=
  match returned P.prog with
  | some (.webhook .alreadyProcessed) => true
  | _ => false

theorem answersAlready_iff : answersAlready P ↔ P.prog = .ret (.webhook .alreadyProcessed) := by
  unfold answersAlready returned
  cases P.prog with
  | ret a =>
      cases a with
      | webhook w => cases w <;> simp
      | _ => simp
  | _ => simp

end

/-- **What is acknowledged was processed**: in every run that tells events apart,
a delivery that answers `already_processed` has its body recorded under its
event id, and processed. -/
theorem acknowledged_processed (host : Host) (db : Db) (c : System) (hset : Settled db)
    (hrun : Run (program host) (TellsApart host) ⟨db, []⟩ c) :
    ∀ P ∈ c.procs, ∀ event, P.op.event host = some event → answersAlready P →
      Recorded c.db event := by
  have hnoted := hrun.noted
    (K := fun c (op : Op) i r => ∀ event eventId, op.event host = some event →
      asText event.eventId = some eventId → Suggests i r → Recorded c.db event)
    (fun c c' e op i r hrun hok hn hK event eventId hevent hid hsuggests =>
      (hK event eventId hevent hid hsuggests).next hset hrun hok hn)
    (fun c e p P i k r tx db' hrun hok hP hk heff event eventId hevent hid hsuggests =>
      recorded_of_suggests hset hrun hP hok hk heff hevent hid hsuggests) rfl
  intro P hP event hevent hanswers
  have hprog := answersAlready_iff.mp hanswers
  cases hid : asText event.eventId with
  | none =>
      have hnever := unnamed_of_run hrun hP hevent hid
      rw [hprog] at hnever
      exact absurd rfl (hnever _)
  | some eventId =>
      have hconsults : Obeys (Consults eventId) _ P.hist P.prog :=
        consults_of_run hrun hP (by simp [Op.eventId, hevent, hid])
      rw [hprog] at hconsults
      obtain ⟨x, hx, hsuggests⟩ := hconsults rfl
      exact hnoted P hP x hx event eventId hevent hid hsuggests

/-! ## Two runs -/

instance (db : Db) (event : WebhookEvent) : Decidable (Recorded db event) :=
  inferInstanceAs (Decidable (∃ row ∈ db.paymentWebhookEvents.rows, _ ∧ _ ∧ _))

namespace Sample

/-- The `n`-th refund of a part of `pay_1`. -/
def partRefund (n : String) : String :=
  "\x7b\"event\":\"refund.processed\",\"payload\":\x7b\"refund\":\x7b\"entity\":\x7b\"id\":\"rfnd_" ++ n ++
    "\"\x7d\x7d,\"payment\":\x7b\"entity\":\x7b\"id\":\"pay_1\",\"order_id\":\"order_1\"\x7d\x7d\x7d\x7d"

def partRefundJson (n : String) : Json :=
  .obj [("event", .str "refund.processed"), ("payload", .obj
    [("refund", .obj [("entity", .obj [("id", .str ("rfnd_" ++ n))])]),
      ("payment", .obj [("entity", .obj [("id", .str "pay_1"), ("order_id", .str "order_1")])])])]

def partRefundSignature : String → String
  | "1" => "0391628abd0445631511c10b692fd4729d90578c984e7f934d7553db8eb23753"
  | _ => "b2e0319c62578385a3630d841d6b3ae3e7879405c260de22a9dd5a3325cea923"

def refundHost : Host :=
  { host with
    hmacSha256 := fun _ data => (["1", "2"].find? fun n => data = utf8 (partRefund n)).elim ""
      partRefundSignature
    jsonParse := fun data =>
      (["1", "2"].find? fun n => data = utf8 (partRefund n)).map partRefundJson }

/-- It is delivered without an event id. -/
def deliverRefund (i : Nat) (n : String) : Op :=
  ⟨ctx i, .handleWebhookEvent ⟨utf8 (partRefund n), some (partRefundSignature n), none⟩⟩

/-- Two refunds, one after the other. -/
def partRefunds : List (Event Op Exn) :=
  .spawn (deliverRefund 1 "1") :: steps 0 8 ++ .spawn (deliverRefund 2 "2") :: steps 1 1

end Sample

/-- The capture is delivered twice at once, and acknowledged the second time. -/
theorem acknowledged_processed_sample : Settled Sample.booked ∧ ∃ c,
    runChecked (program Sample.host) (TellsApart Sample.host) ⟨Sample.booked, []⟩
      Sample.redelivery = some c ∧
    c.procs.map answersAlready = [false, true] ∧
    ∀ P ∈ c.procs, ∀ event, P.op.event Sample.host = some event → answersAlready P →
      Recorded c.db event := by
  have hset : Settled Sample.booked := by
    have hnone : Sample.booked.paymentWebhookEvents.rows = [] := by decide +kernel
    refine ⟨by simp [hnone], by simp [hnone], ?_⟩
    have hone : Sample.booked.payments.rows.length ≤ 1 := by decide +kernel
    intro p hp q hq _
    match hrows : Sample.booked.payments.rows, hone with
    | [], _ => simp [hrows] at hp
    | [x], _ =>
        rw [hrows] at hp hq
        exact (List.mem_singleton.mp hp).trans (List.mem_singleton.mp hq).symm
  obtain ⟨c, hc⟩ := Option.isSome_iff_exists.mp
    (show (runChecked (program Sample.host) (TellsApart Sample.host) ⟨Sample.booked, []⟩
      Sample.redelivery).isSome by decide +kernel)
  have hanswered : ∀ c ∈ runChecked (program Sample.host) (TellsApart Sample.host)
      ⟨Sample.booked, []⟩ Sample.redelivery, c.procs.map answersAlready = [false, true] := by
    decide +kernel
  exact ⟨hset, c, hc, hanswered c hc, acknowledged_processed _ _ c hset (Run.of_runChecked _ _ hc)⟩

/-- Two refunds of one payment have the same event id, so the second one is
acknowledged and was never processed. -/
theorem not_acknowledged_processed : ∃ c,
    runEvents (program Sample.refundHost) ⟨Sample.booked, []⟩ Sample.partRefunds = some c ∧
    (∀ P ∈ c.procs, P.prog.head.isNone) ∧
    ∃ P ∈ c.procs, answersAlready P ∧
      ∃ event ∈ P.op.event Sample.refundHost, ¬ Recorded c.db event := by
  obtain ⟨c, hc⟩ := Option.isSome_iff_exists.mp
    (show (runEvents (program Sample.refundHost) ⟨Sample.booked, []⟩ Sample.partRefunds).isSome by
      decide +kernel)
  have hlost : ∀ c ∈ runEvents (program Sample.refundHost) ⟨Sample.booked, []⟩ Sample.partRefunds,
      (∀ P ∈ c.procs, P.prog.head.isNone) ∧
      ∃ P ∈ c.procs, answersAlready P ∧
        ∃ event ∈ P.op.event Sample.refundHost, ¬ Recorded c.db event := by decide +kernel
  exact ⟨c, hc, hlost c hc⟩

end ServiceHub
