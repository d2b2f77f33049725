/-
# `Deliveries` — an event of the gateway is processed once

The gateway delivers an event again until it is answered, and may deliver it
twice at the same time.  A delivery looks whether its event was processed,
inserts the event as the first statement of its transaction and marks it as the
last one; two early exits insert it outside a transaction, marked already.

The unique index on the gateway and the event id makes a second insert wait for
the first transaction, and fail if that commits.  So of all deliveries of an
event at most one commits anything (`processed_once`).
-/
import ServiceHub.Writes

namespace ServiceHub

open Data Txn Prog

/-! ## What a delivery writes -/

/-- The statement writes nothing. -/
def Stmt.reads : Stmt → Bool
  | .findProviderService _ | .findAvailability _ | .findProvider _ | .findBooking _
  | .findPayment _ | .findPaymentByOrder _ | .findPaymentByBooking _ | .findEvent _ _ => true
  | _ => false

theorem Stmt.written_of_reads {s : Stmt} (h : s.reads = true) (a : Ans s) : s.written a = [] := by
  cases s with
  | createBooking _ | updateBooking _ _ | updateBookings _ _ | createPayment _
  | updatePayment _ _ | updatePayments _ _ | createEvent _ | updateEvent _ _
  | createAudit _ => cases h
  | _ => rfl

/-- The transaction has inserted the event, one row, and has marked it last. -/
def Records (eventId : String) (l : List ((s : Stmt) × Ans s)) : Prop :=
  ∃ e a t u rest, l = ⟨.updateEvent a.id t, u⟩ :: rest ∧
    (⟨.createEvent e, a⟩ : (s : Stmt) × Ans s) ∈ rest ∧ e.eventId = eventId ∧
    ∀ e' a', (⟨.createEvent e', a'⟩ : (s : Stmt) × Ans s) ∈ rest → a' = a

/-- When a delivery of the event may write and commit. -/
def Dedups (eventId : String) (h : CallHist) : Instr Stmt Ext → Prop
  | .stmt (.createEvent e) => e.eventId = eventId ∧ (sinceBegin h = none → e.processedAt.isSome)
  | .stmt s => sinceBegin h = none → s.reads = true
  | .commit => ∃ l, sinceBegin h = some l ∧ Records eventId l
  | _ => True

/-- The insert of the event. -/
def Inserts (eventId : String) : (s : Stmt) → Ans s → Prop
  | .createEvent e, _ => e.eventId = eventId
  | _, _ => False

/-- A delivery that answers `processed` has committed the event. -/
def Processes (eventId : String) (h : CallHist) (r : Except Exn WebhookResult) : Prop :=
  r = .ok .processed → Did (Inserts eventId) (kept h)

section
variable {host : Host} {ctx : Ctx} {h : CallHist} {event : WebhookEvent} {eventId : String}

theorem processes_error {e : Exn} : Processes eventId h (.error e) := by
  intro hr
  cases hr

theorem processes_alreadyProcessed : Processes eventId h (.ok .alreadyProcessed) := by
  intro hr
  cases hr

theorem dedups_of_handles {payment : PaymentWithBooking} {eventType : String}
    {i : Instr Stmt Ext} {l : List ((s : Stmt) × Ans s)} (hopen : sinceBegin h = some l)
    (hi : Handles host ctx payment event eventType h i) : Dedups eventId h i := by
  cases i with
  | stmt s =>
      cases s with
      | createEvent e => exact hi.elim
      | _ => exact fun hout => absurd (hout.symm.trans hopen) (by simp)
  | commit => exact hi.elim
  | _ => trivial

theorem recordAndSkip_dedups :
    Obeys (Dedups eventId) (Processes eventId) h
      (autocommit Ext (recordAndSkip host ctx event eventId)) := by
  unfold recordAndSkip requireString
  simp only [autocommit_bind, obeys_bind, autocommit_orThrow, obeys_orThrow,
    PaymentRepository.obeys_recordWebhookEvent, autocommit_pure, obeys_pure]
  simp [Dedups, newWebhookEvent, Processes]

/-- The body of the transaction ends with the row marked. -/
theorem webhookTx_dedups {payment : PaymentWithBooking} (hopen : sinceBegin h = some []) :
    Obeys (Dedups eventId) (fun h' r => ∀ a, r = .ok a → ∃ l, sinceBegin h' = some l ∧
      Records eventId l) h (autocommit Ext (webhookTx host ctx payment event eventId)) := by
  unfold webhookTx requireString
  simp only [autocommit_bind, obeys_bind, autocommit_orThrow, obeys_orThrow,
    PaymentRepository.obeys_recordWebhookEvent]
  refine ⟨fun _ a ha => (nomatch ha), fun eventType _ => ⟨fun _ a ha => (nomatch ha), fun _ =>
    ⟨⟨rfl, fun hout => ?_⟩, fun row => ?_, fun _ a ha => (nomatch ha)⟩⟩⟩
  · exact absurd (hout.symm.trans hopen) (by simp)
  let row₀ := newWebhookEvent ctx eventId eventType event.payload none
  have hopen' : sinceBegin (⟨.stmt (.createEvent row₀), .ok row⟩ :: h) =
      some [⟨.createEvent row₀, row⟩] := by simp [sinceBegin, hopen]
  refine (Obeys.since (fun _ _ => stmt_of_handles) .refl handleEvent_handles).mono ?_ ?_
  · rintro h' i ⟨hsince, hi⟩
    obtain ⟨new, hnew, _⟩ := hsince.sinceBegin hopen'
    exact dedups_of_handles hnew hi
  · rintro h' (e | confirmed) ⟨hsince, _⟩
    · intro a ha
      cases ha
    · obtain ⟨new, hnew, hall⟩ := hsince.sinceBegin hopen'
      simp only [PaymentRepository.obeys_markWebhookEventProcessed, autocommit_pure, obeys_pure]
      refine ⟨fun hout => absurd (hout.symm.trans hnew) (by simp), fun u a _ => ?_,
        fun _ a ha => (nomatch ha)⟩
      refine ⟨⟨.updateEvent row.id (ctx.clock 5), u⟩ :: (new ++ [⟨.createEvent row₀, row⟩]),
        by simp [sinceBegin, hnew], row₀, row, ctx.clock 5, u, _, rfl, by simp, rfl,
        fun e' a' hmem => ?_⟩
      -- the handler of the event inserts none
      rcases List.mem_append.mp hmem with hmem | hmem
      · obtain ⟨_, _, hhandles⟩ := hall _ hmem
        exact hhandles.elim
      · cases List.mem_singleton.mp hmem
        rfl

theorem afterConfirmation_dedups {bookingId : Uuid} : Obeys (Dedups eventId)
    (fun h' _ => kept h' = kept h) h (afterConfirmation ctx bookingId) := by
  unfold afterConfirmation
  simp only [obeys_bind, enqueue, obeys_external]
  simp [Dedups, kept]

theorem handleWebhookEvent_dedups {delivery : Delivery}
    (hid : Op.eventId host ⟨ctx, .handleWebhookEvent delivery⟩ = some eventId) :
    Obeys (Dedups eventId) (Processes eventId) [] (handleWebhookEvent host ctx delivery) := by
  unfold handleWebhookEvent
  cases hread : readDelivery host delivery with
  | error e => exact processes_error
  | ok event =>
  have hasText : asText event.eventId = some eventId := by
    simpa [Op.eventId, Op.event, hread, Except.toOption] using hid
  simp only [processWebhookEvent, requireString, autocommit_orThrow, obeys_bind, obeys_orThrow,
    obeys_ite, obeys_pure, PaymentRepository.obeys_findWebhookEvent, hasText, Option.some.injEq,
    forall_eq']
  refine ⟨fun _ => processes_error, fun _ => rfl, fun found => ⟨fun _ => processes_alreadyProcessed, fun _ =>
    ⟨fun _ => recordAndSkip_dedups, fun _ => ⟨fun _ => processes_error, fun orderId _ => ?_⟩⟩⟩,
    fun _ => processes_error⟩
  refine PaymentRepository.obeys_findByGatewayOrderId.mpr ⟨fun _ => rfl, fun o => ?_,
    fun _ => processes_error⟩
  refine PaymentRepository.obeys_includeBooking.mpr ⟨fun _ => recordAndSkip_dedups, ?_⟩
  rintro p rfl
  refine ⟨fun _ => rfl, fun b => ?_, processes_error, fun _ => processes_error⟩
  have hcatch : ∀ (h : CallHist) (e : Exn), Obeys (Dedups eventId) (Processes eventId) h
      (if e.isDuplicate then (pure .alreadyProcessed : Call WebhookResult) else .throw e) := by
    intro h e
    split
    · exact processes_alreadyProcessed
    · exact processes_error
  refine obeys_catching.mpr (obeys_bind.mpr (obeys_transaction.mpr
    ⟨trivial, fun e => hcatch _ e, ?_⟩))
  refine (webhookTx_dedups rfl).mono (fun _ _ hq => hq) ?_
  rintro h (e | confirmed) hrecorded
  · exact ⟨trivial, fun _ => hcatch _ _⟩
  · obtain ⟨l, hl, hrecords⟩ := hrecorded confirmed rfl
    have hdid : Did (Inserts eventId) (kept (⟨.commit, .ok ()⟩ :: h)) := by
      obtain ⟨row, a, t, u, rest, rfl, hmem, hrow, _⟩ := hrecords
      exact ⟨⟨.createEvent row, a⟩, by simp [kept, hl, hmem], hrow⟩
    refine ⟨⟨l, hl, hrecords⟩, ?_, fun e => hcatch _ e⟩
    cases confirmed with
    | none => exact fun _ => hdid
    | some bookingId =>
        refine obeys_bind.mpr (afterConfirmation_dedups.mono (fun _ _ hq => hq) ?_)
        rintro h' (e | _) hkept
        · exact hcatch _ e
        · exact fun _ => hkept ▸ hdid

end

/-! ## The rows of an event -/

/-- A row of the event. -/
def OfEvent (eventId : String) : Row → Prop
  | .event e => e.eventId = eventId
  | _ => False

theorem clash_of_event {eventId : String} {r r' : Row} (h : OfEvent eventId r)
    (h' : OfEvent eventId r') : clash r r' = true := by
  cases r <;> cases r' <;> first | exact h.elim | exact h'.elim | skip
  simp only [OfEvent] at h h'
  simp [clash, h, h']

/-- The index refuses a second insert, or lets it wait. -/
theorem blocking_inserts (eventId : String) : Blocking Db (Inserts eventId) (OfEvent eventId) := by
  refine ⟨fun s db a hexec hinserts => ?_, fun s db a hexec hinserts k r hr hmark => ?_,
    fun s db others a hwait hexec hinserts o ho hmark => ?_⟩
  all_goals
    cases s with
    | createEvent e => ?_
    | _ => exact hinserts.elim
    obtain ⟨ha, hnone, _, hrefusal⟩ := Db.insert_ok hexec
  · refine ⟨List.cons_ne_nil _ _, fun w hw => ?_⟩
    rw [List.mem_singleton.mp hw, ha]
    exact hinserts
  · have hfree : Row.key (.event e) ≠ k := by
      rintro rfl
      exact absurd (hr.symm.trans hnone) (by simp)
    have hclash := not_clash_of_refusal hrefusal hr hfree
    rw [clash_of_event (r := .event e) hinserts hmark] at hclash
    cases hclash
  · have hclash := (Stmt.written_apart hwait hexec _ (List.mem_singleton.mpr rfl) o ho).2
    rw [ha, clash_of_event (r := .event e) hinserts hmark] at hclash
    cases hclash

theorem excludes_events (eventId : String) :
    Excludes Db fun r r' => OfEvent eventId r ∧ OfEvent eventId r' := by
  refine excludes_of_clash (fun _ _ h => clash_of_event h.1 h.2) (fun _ _ h => ⟨h.2, h.1⟩) ?_
  intro s db a hexec w hw w' hw' hkey h
  cases s with
  | updateBookings _ _ | updatePayments _ _ =>
      obtain ⟨_, _, rfl⟩ := List.mem_map.mp hw
      exact h.1
  | createBooking _ | updateBooking _ _ | createPayment _ | updatePayment _ _ | createEvent _
  | updateEvent _ _ | createAudit _ =>
      rw [List.mem_singleton.mp hw, List.mem_singleton.mp hw'] at hkey
      exact hkey rfl
  | _ => exact absurd hw List.not_mem_nil

/-! ## The calls of a run -/

/-- The delivery was answered `processed`. -/
def answersProcessed (P : Caller) : Bool :=
  match returned P.prog with
  | some (.webhook .processed) => true
  | _ => false

section
variable {host : Host} {db : Db} {Ok : System → Event Op Exn → Prop} {c c' : System}
  {e : Event Op Exn} {eventId : String}

theorem program_dedups {op : Op} (hid : op.eventId host = some eventId) :
    Obeys (Dedups eventId)
      (fun h r => r = .ok (.webhook .processed) → Did (Inserts eventId) (kept h)) []
      (program host op) := by
  obtain ⟨ctx, request⟩ := op
  cases request with
  | handleWebhookEvent delivery =>
      refine obeys_map.mpr ((handleWebhookEvent_dedups hid).mono (fun _ _ hq => hq) ?_)
      rintro h (e | a) hprocesses
      · exact fun hr => (nomatch hr)
      · exact fun hr => hprocesses (congrArg Except.ok (Response.webhook.inj (Except.ok.inj hr)))
  | _ => cases hid

/-- What a delivery of the event goes on to do, and what it has done. -/
theorem dedups_of_run (hrun : Run (program host) Ok ⟨db, []⟩ c) {P : Caller} (hP : P ∈ c.procs)
    (hid : P.op.eventId host = some eventId) :
    Obeys (Dedups eventId)
      (fun h r => r = .ok (.webhook .processed) → Did (Inserts eventId) (kept h)) P.hist P.prog ∧
    Obeyed (Dedups eventId) P.hist := by
  have hprog : ∀ op : Op, Obeys
      (fun h i => op.eventId host = some eventId → Dedups eventId h i)
      (fun h r => op.eventId host = some eventId → r = .ok (.webhook .processed) →
        Did (Inserts eventId) (kept h)) [] (program host op) := by
    intro op
    by_cases hop : op.eventId host = some eventId
    · exact (program_dedups hop).mono (fun _ _ hq _ => hq) fun _ _ hr _ => hr
    · exact Obeys.of_forall (fun _ _ h => absurd h hop) (fun _ _ h => absurd h hop) _ _
  constructor
  · refine (hrun.obeys (Q := fun op h i => op.eventId host = some eventId → Dedups eventId h i)
      (R := fun op h r => op.eventId host = some eventId → r = .ok (.webhook .processed) →
        Did (Inserts eventId) (kept h)) (fun _ op _ => hprog op) rfl P hP).mono ?_ ?_
    · exact fun _ _ hq => hq hid
    · exact fun _ _ hr => hr hid
  · exact (hrun.obeyed (fun _ op _ => hprog op) rfl P hP).mono fun _ _ hq => hq hid

/-- The event is inserted by one call at most. -/
theorem marked_inserts (hrun : Run (program host) Ok ⟨db, []⟩ c) :
    Marked (Inserts eventId) (OfEvent eventId) c := by
  refine Run.marked (blocking_inserts eventId) rfl ?_ hrun
  intro c hrun P hP s k a hk hexec w hw r hr hmark
  rcases Stmt.written_revises hexec hw with ⟨_, hnone⟩ | ⟨r', hr', hrevises⟩
  · exact absurd (hr.symm.trans hnone) (by simp)
  · obtain rfl := Option.some.inj (hr.symm.trans hr')
    cases r with
    | event e =>
        cases w with
        | event e' =>
            have hcolumns : e' = { e with processedAt := e'.processedAt } := hrevises
            rw [hcolumns]
            exact hmark
        | _ => exact hrevises.elim
    | _ => exact hmark.elim

/-- What a delivery has committed it has committed with the event. -/
theorem did_of_committed : ∀ {h : CallHist}, Obeyed (Dedups eventId) h →
    rowsOf Db (kept h) ≠ [] → Did (Inserts eventId) (kept h)
  | [], _, hrows => absurd rfl hrows
  | ⟨i, r⟩ :: h, ⟨hasked, hbefore⟩, hrows => by
      have hold : kept (⟨i, r⟩ :: h) = kept h → Did (Inserts eventId) (kept (⟨i, r⟩ :: h)) := by
        intro hsame
        rw [hsame] at hrows ⊢
        exact did_of_committed hbefore hrows
      cases i with
      | begin => exact hold rfl
      | rollback => exact hold rfl
      | call _ => exact hold rfl
      | commit =>
          cases r with
          | error _ => exact hold rfl
          | ok _ =>
              obtain ⟨l, hl, row, a, t, u, rest, rfl, hmem, hrow, _⟩ := hasked
              exact ⟨⟨.createEvent row, a⟩, by simp [kept, hl, hmem], hrow⟩
      | stmt s =>
          cases r with
          | error _ => exact hold rfl
          | ok a =>
              cases hopen : sinceBegin h with
              | some l => exact hold (by simp [kept, hopen])
              | none =>
                  have hcons : kept (⟨.stmt s, .ok a⟩ :: h) = ⟨s, a⟩ :: kept h := by
                    simp [kept, hopen]
                  by_cases hreads : s.reads = true
                  · rw [hcons, rowsOf_cons] at hrows
                    have hnil : Txn.Database.written Db s a = ([] : List Row) :=
                      Stmt.written_of_reads hreads a
                    rw [hnil, List.append_nil] at hrows
                    obtain ⟨x, hx, hdid⟩ := did_of_committed hbefore hrows
                    exact ⟨x, hcons ▸ List.mem_cons_of_mem _ hx, hdid⟩
                  · cases s with
                    | createEvent row =>
                        exact ⟨⟨.createEvent row, a⟩, hcons ▸ List.mem_cons_self, hasked.1⟩
                    | _ => exact absurd (hasked hopen) hreads

/-- Where an event row that is not processed comes from. -/
theorem inserted_of_written {s : Stmt} {db : Db} {a : Ans s} (hexec : db.exec s = .ok a)
    {row : PaymentWebhookEvent} (hw : Row.event row ∈ s.written a)
    (hset : row.processedAt.isSome = false) : s = .createEvent row := by
  cases s with
  | createEvent x =>
      obtain ⟨ha, _⟩ := Db.insert_ok hexec
      rw [Row.event.inj (List.mem_singleton.mp hw), ha]
  | updateEvent id t =>
      obtain ⟨y, _, ha, _⟩ := Db.update_ok hexec
      rw [Row.event.inj (List.mem_singleton.mp hw), ha] at hset
      cases hset
  | updateBookings _ _ | updatePayments _ _ =>
      obtain ⟨_, _, heq⟩ := List.mem_map.mp hw
      cases heq
  | createBooking _ | updateBooking _ _ | createPayment _ | updatePayment _ _ | createAudit _ =>
      cases List.mem_singleton.mp hw
  | _ => exact absurd hw List.not_mem_nil

/-- A row that is inserted unprocessed is not the one that the transaction
leaves. -/
theorem processed_of_records {l : List ((s : Stmt) × Ans s)} (hrecords : Records eventId l)
    (hexecuted : ∀ x ∈ l, ∃ db : Db, db.exec x.1 = .ok x.2) {k : Key} {row : PaymentWebhookEvent}
    (hrow : (puts db (rowsOf Db l)).get k = some (.event row))
    (hinserted : (⟨.createEvent row, row⟩ : (s : Stmt) × Ans s) ∈ l) : row.processedAt.isSome := by
  obtain ⟨x, a, t, u, rest, rfl, _, _, hone⟩ := hrecords
  have hmem : (⟨.createEvent row, row⟩ : (s : Stmt) × Ans s) ∈ rest := by
    rcases List.mem_cons.mp hinserted with heq | hmem
    · cases heq
    · exact hmem
  obtain rfl := hone row row hmem
  obtain ⟨db', hexec⟩ := hexecuted _ List.mem_cons_self
  obtain ⟨y, hy, heq, _⟩ := Db.update_ok hexec
  have hu : u = y.processed t := heq
  have hid : u.id = row.id := by
    rw [hu]
    show y.id = row.id
    exact Table.key_of_find? hy
  obtain rfl := Db.key_of_get hrow
  rw [rowsOf_cons, Txn.puts_append] at hrow
  have hlast : (puts (puts db (rowsOf Db rest)) [.event u]).get (.event row.id) = some (.event u) := by
    show ((puts db (rowsOf Db rest)).put (.event u)).get (.event row.id) = _
    rw [Db.get_put]
    exact if_pos (congrArg Key.event hid)
  obtain rfl := Row.event.inj (Option.some.inj (hlast.symm.trans hrow))
  rw [hu]
  rfl

theorem processed_of_run (hset : ∀ e ∈ db.paymentWebhookEvents.rows, e.eventId = eventId →
      e.processedAt.isSome) (hrun : Run (program host) Ok ⟨db, []⟩ c) :
    ∀ k row, c.db.get k = some (.event row) → row.eventId = eventId → row.processedAt.isSome := by
  induction hrun with
  | start =>
      intro k row hrow hid
      obtain rfl := Db.key_of_get hrow
      obtain ⟨x, hx, heq⟩ := Option.map_eq_some_iff.mp hrow
      cases heq
      exact hset row (Table.mem_of_find? hx) hid
  | step hrun hok hn ih =>
      intro k row hrow hid
      by_contra hunset
      have hunset : row.processedAt.isSome = false := by simpa using hunset
      rcases hrun.db_next rfl hn with hdb |
        ⟨p, P, hP, _, ⟨next, l, hk, hl, hdb⟩ | ⟨s, next, a, hk, hout, hexec, hdb⟩⟩
      · exact absurd (ih k row (hdb ▸ hrow) hid) (by simp [hunset])
      · -- a transaction
        have hmem := List.mem_of_getElem? hP
        have hin : ∀ x ∈ l, (⟨.stmt x.1, .ok x.2⟩ : (i : Instr Stmt Ext) × Except Exn (i.Ans Ans))
            ∈ P.hist := fun x hx => mem_of_sinceBegin (by rwa [hl])
        have hexecuted := fun x hx => hrun.executed rfl hmem (hin x hx)
        rw [hdb] at hrow
        rcases view_row hrow with ⟨hnew, _⟩ | hold
        · obtain ⟨⟨s, a⟩, hx, hw⟩ := mem_rowsOf.mp hnew
          obtain ⟨db', hexec⟩ := hexecuted _ hx
          obtain rfl := inserted_of_written hexec hw hunset
          obtain rfl : row = a := (Db.insert_ok hexec).1.symm
          obtain ⟨_, _, hop⟩ := (wrote_of_run hrun P hmem).of_mem (hin _ hx)
          have hop : P.op.eventId host = some eventId := hid ▸ hop
          have hdedups := (dedups_of_run hrun hmem hop).1
          rw [hk] at hdedups
          obtain ⟨l', hl', hrecords⟩ := hdedups.1
          obtain rfl := Option.some.inj (hl.symm.trans hl')
          exact absurd (processed_of_records hrecords hexecuted hrow hx) (by simp [hunset])
        · exact absurd (ih k row hold hid) (by simp [hunset])
      · -- a statement of its own
        have hmem := List.mem_of_getElem? hP
        rw [hdb] at hrow
        rcases view_row hrow with ⟨hnew, _⟩ | hold
        · obtain rfl := inserted_of_written hexec hnew hunset
          have hwrites := writes_of_run hrun P hmem
          rw [hk] at hwrites
          have hop : P.op.eventId host = some eventId := hid ▸ hwrites.1
          have hdedups := (dedups_of_run hrun hmem hop).1
          rw [hk] at hdedups
          exact absurd (hdedups.1.2 hout) (by simp [hunset])
        · exact absurd (ih k row hold hid) (by simp [hunset])

/-- The index holds of the committed rows. -/
theorem exclusive_events (hone : ∀ e ∈ db.paymentWebhookEvents.rows,
      ∀ e' ∈ db.paymentWebhookEvents.rows, e.eventId = eventId → e'.eventId = eventId → e = e')
    (hrun : Run (program host) Ok ⟨db, []⟩ c) :
    Exclusive (fun r r' => OfEvent eventId r ∧ OfEvent eventId r') c.db := by
  refine hrun.exclusive (excludes_events eventId) ?_ rfl
  rintro k k' r r' hk hr hr' ⟨h, h'⟩
  obtain rfl := Db.key_of_get hr
  obtain rfl := Db.key_of_get hr'
  cases r <;> cases r' <;> first | exact h.elim | exact h'.elim | skip
  obtain ⟨x, hx, heq⟩ := Option.map_eq_some_iff.mp hr
  obtain ⟨y, hy, heq'⟩ := Option.map_eq_some_iff.mp hr'
  cases heq
  cases heq'
  exact hk (congrArg (fun e => Row.key (.event e))
    (hone _ (Table.mem_of_find? hx) _ (Table.mem_of_find? hy) h h'))

end

/-- **An event is processed once**, however often and at whatever times it is
delivered. -/
theorem processed_once (host : Host) (db : Db) (c : System) (eventId : String)
    (hone : ∀ e ∈ db.paymentWebhookEvents.rows, ∀ e' ∈ db.paymentWebhookEvents.rows,
      e.eventId = eventId → e'.eventId = eventId → e = e')
    (hset : ∀ e ∈ db.paymentWebhookEvents.rows, e.eventId = eventId → e.processedAt.isSome)
    (hrun : Run (program host) (fun _ _ => True) ⟨db, []⟩ c) :
    (∀ e ∈ c.db.paymentWebhookEvents.rows, ∀ e' ∈ c.db.paymentWebhookEvents.rows,
      e.eventId = eventId → e'.eventId = eventId → e = e') ∧
    (∀ e ∈ c.db.paymentWebhookEvents.rows, e.eventId = eventId → e.processedAt.isSome) ∧
    c.procs.countP (fun P => P.op.eventId host = some eventId && answersProcessed P) ≤ 1 ∧
    c.procs.countP (fun P => P.op.eventId host = some eventId && !(committed P).isEmpty) ≤ 1 := by
  have hmarked : Marked (Inserts eventId) (OfEvent eventId) c := marked_inserts hrun
  have hdone := hmarked.once
  have honce : ∀ f : Caller → Bool, (∀ P ∈ c.procs, P.op.eventId host = some eventId → f P →
      Did (Inserts eventId) (kept P.hist)) →
        c.procs.countP (fun P => P.op.eventId host = some eventId && f P) ≤ 1 := by
    intro f hf
    refine countP_le_one fun p q P Q hpq hP hQ hp hq => ?_
    simp only [Bool.and_eq_true, decide_eq_true_eq] at hp hq
    exact hdone p q P Q hpq hP hQ
      (did_standing.mpr (Or.inr (hf P (List.mem_of_getElem? hP) hp.1 hp.2)))
      (did_standing.mpr (Or.inr (hf Q (List.mem_of_getElem? hQ) hq.1 hq.2)))
  refine ⟨?_, ?_, honce _ fun P hP hid hprocessed => ?_, honce _ fun P hP hid hrows => ?_⟩
  · intro e he e' he' hid hid'
    by_contra hne
    have hget : ∀ e ∈ c.db.paymentWebhookEvents.rows, c.db.get (.event e.id) = some (.event e) :=
      fun e he => Option.map_eq_some_iff.mpr ⟨e, Table.find?_of_mem he, rfl⟩
    refine exclusive_events hone hrun (.event e.id) (.event e'.id) _ _ (fun hkey => hne ?_)
      (hget e he) (hget e' he') ⟨hid, hid'⟩
    exact Row.event.inj (Option.some.inj ((hget e he).symm.trans (hkey ▸ hget e' he')))
  · intro row hrow hid
    exact processed_of_run hset hrun (.event row.id) row
      (Option.map_eq_some_iff.mpr ⟨row, Table.find?_of_mem hrow, rfl⟩) hid
  · have hobeys := (dedups_of_run hrun hP hid).1
    cases hprog : P.prog with
    | ret a =>
        rw [hprog] at hobeys
        cases a with
        | webhook r =>
            cases r with
            | processed => exact hobeys rfl
            | _ => simp [answersProcessed, returned, hprog] at hprocessed
        | _ => simp [answersProcessed, returned, hprog] at hprocessed
    | _ => simp [answersProcessed, returned, hprog] at hprocessed
  · refine did_of_committed (dedups_of_run hrun hP hid).2 ?_
    simpa [committed] using hrows

/-! ## A run -/

namespace Sample

/-- The event `evt_1` is delivered a second time while the first delivery is in
its transaction. -/
def redelivery : List (Event Op Exn) :=
  .spawn (deliver 1 "payment.captured") :: steps 0 6 ++
    .spawn { deliver 1 "payment.captured" with ctx := ctx 2 } :: steps 1 4 ++ steps 0 9 ++ steps 1 2

end Sample

/-- The first delivery answers `processed`, the second one commits nothing. -/
theorem processed_once_sample : ∃ c : System,
    runChecked (program Sample.host) (fun _ _ => True) ⟨Sample.booked, []⟩ Sample.redelivery = some c ∧
    c.procs.map answersProcessed = [true, false] ∧
    c.procs.map (fun P => (committed P).isEmpty) = [false, true] ∧
    (∀ e ∈ c.db.paymentWebhookEvents.rows, ∀ e' ∈ c.db.paymentWebhookEvents.rows,
      e.eventId = "evt_1" → e'.eventId = "evt_1" → e = e') ∧
    (∀ e ∈ c.db.paymentWebhookEvents.rows, e.eventId = "evt_1" → e.processedAt.isSome) ∧
    c.procs.countP (fun P => P.op.eventId Sample.host = some "evt_1" && answersProcessed P) ≤ 1 ∧
    c.procs.countP (fun P => P.op.eventId Sample.host = some "evt_1" && !(committed P).isEmpty)
      ≤ 1 := by
  obtain ⟨c, hc⟩ := Option.isSome_iff_exists.mp
    (show (runChecked (program Sample.host) (fun _ _ => True) ⟨Sample.booked, []⟩
      Sample.redelivery).isSome by decide +kernel)
  have hended : ∀ c ∈ runChecked (program Sample.host) (fun _ _ => True) ⟨Sample.booked, []⟩
      Sample.redelivery, c.procs.map answersProcessed = [true, false] ∧
        c.procs.map (fun P => (committed P).isEmpty) = [false, true] := by decide +kernel
  have hnone : Sample.booked.paymentWebhookEvents.rows = [] := by decide +kernel
  refine ⟨c, hc, (hended c hc).1, (hended c hc).2, processed_once Sample.host Sample.booked c
    "evt_1" ?_ ?_ (Run.of_runChecked _ _ hc)⟩
  · simp [hnone]
  · simp [hnone]

end ServiceHub
