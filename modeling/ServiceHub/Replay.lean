/-
# `Replay` — the same body under another event id

The signature covers the body and not the header with the event id, so a body
can be delivered again under an id that was never recorded.  What keeps it from
acting twice are the statuses: a capture, a failure and a refund each set the
status that they leave alone (`not_acts_again`).

And what was refused is refused again.  Whether a handler goes through depends
on the body and on the tables of users, bookings and payments (`Goes`), not on
the event id, the clock or the ids generated, as long as these are new and the
event id fits its column (`StorableId`).  A longer event id is refused by the
column, so the delivery that carries it does nothing, and the next one acts.
-/
import ServiceHub.Integrity

namespace ServiceHub

open Data Txn Prog

/-! ## Deliveries of one body -/

/-- The body under an event id in the header. -/
def Delivery.under (delivery : Delivery) (eventId : String) : Delivery :=
  { delivery with headerEventId := some eventId }

/-- An id that the header can give and the column can hold. -/
def StorableId (eventId : String) : Prop := eventId ≠ "" ∧ tooLong 255 eventId = false

/-- The ids that the call generates are new. -/
structure NewIds (ctx : Ctx) (db : Db) : Prop extends FreshAudit ctx db where
  event : db.paymentWebhookEvents.find? (ctx.uuid 0) = none

/-- The tables of the business are the same. -/
def SameBusiness (db db' : Db) : Prop :=
  db'.bookings = db.bookings ∧ db'.payments = db.payments ∧ db'.auditLogs = db.auditLogs

section
variable {host : Host} {ctx ctx' : Ctx} {db db' : Db} {payment : PaymentWithBooking}
  {event event' : WebhookEvent} {eventId eventId' : String} {delivery : Delivery}

theorem SameButEvents.business (h : SameButEvents db db') : SameBusiness db db' := by
  rw [h]
  exact ⟨rfl, rfl, rfl⟩

/-- The two events differ in their ids only. -/
def SameBody (event event' : WebhookEvent) : Prop :=
  ∃ eventId, event' = { event with eventId := eventId }

/-- Under whichever id a body is delivered, the rest of it is read the same. -/
theorem readDelivery_under {i j : String} (h : readDelivery host (delivery.under i) = .ok event) :
    ∃ event', readDelivery host (delivery.under j) = .ok event' ∧ SameBody event event' := by
  unfold readDelivery Delivery.under at h ⊢
  simp only at h ⊢
  split at h
  · cases h
  rename_i hsigned
  split at h
  · cases h
  rename_i hvalid
  rw [if_neg hvalid]
  split at h
  · cases h
  · cases h
  rename_i hparsed hnotNull
  cases h
  exact ⟨_, rfl, _, rfl⟩

theorem asText_eventId {i : String} (hstorable : StorableId i)
    (h : readDelivery host (delivery.under i) = .ok event) : asText event.eventId = some i := by
  unfold readDelivery Delivery.under at h
  simp only at h
  split at h
  · cases h
  split at h
  · cases h
  split at h
  · cases h
  · cases h
  cases h
  have htruthy : Json.truthy (some (.str i)) = true := by simp [Json.truthy, hstorable.1]
  simp [readWebhookEvent, Json.or, htruthy, asText]

/-- A body that is refused before its event id is looked at. -/
theorem not_read_under {i j : String} {e : Exn}
    (h : readDelivery host (delivery.under i) = .error e) :
    ∃ e', readDelivery host (delivery.under j) = .error e' := by
  cases hj : readDelivery host (delivery.under j) with
  | error e' => exact ⟨e', rfl⟩
  | ok event' =>
      obtain ⟨event, hi, _⟩ := readDelivery_under (j := i) hj
      exact absurd (h.symm.trans hi) (by simp)

/-! ## What a body can still do -/

/-- The body has nothing more to do: where it would go through, it does not
act. -/
def Spent (host : Host) (db : Db) (event : WebhookEvent) : Prop :=
  ∀ payment eventType, Concerns db event payment → asText event.eventName = some eventType →
    host.storesJson event.payload = true → tooLong 100 eventType = false →
    Goes host db payment event eventType →
    ¬ Acts host payment.toPayment event eventType

theorem concerns_unique {payment' : PaymentWithBooking} (h : Concerns db event payment)
    (h' : Concerns db event payment') : payment' = payment := by
  obtain ⟨orderId, horder, hp⟩ := h.orderId
  obtain ⟨orderId', horder', hp'⟩ := h'.orderId
  obtain rfl := Option.some.inj (horder.symm.trans horder')
  have hpayment : payment'.toPayment = payment.toPayment := Option.some.inj (hp'.symm.trans hp)
  have hbooking : payment'.booking = payment.booking := by
    have hb' := h'.booking
    rw [hpayment] at hb'
    exact Option.some.inj (hb'.symm.trans h.booking)
  cases payment
  cases payment'
  exact congrArg₂ PaymentWithBooking.mk hpayment hbooking

/-- A spent body leaves the business as it is, under every event id. -/
theorem spent_leaves (hspent : Spent host db event) (hbody : SameBody event event') :
    Ends (processWebhookEvent host ctx event') db fun db' _ => SameBusiness db db' := by
  obtain ⟨id, rfl⟩ := hbody
  refine processWebhookEvent_leaves ⟨rfl, rfl, rfl⟩ (fun _ => ⟨rfl, rfl, rfl⟩) ?_
  intro payment eventId _ hconcerns
  have hconcerned : Concerns db event payment :=
    ⟨hconcerns.given, hconcerns.orderId, hconcerns.booking⟩
  obtain ⟨orderId, _, hfound⟩ := hconcerned.orderId
  have hp := (Db.find?_of_paymentByOrder hfound).1
  intro db' r hreturned
  obtain ⟨eventType, hname, hrecordable, hgoes⟩ :=
    webhookTx_goes hconcerns.booking hp db' r hreturned
  obtain ⟨eventType', hname', hmoved⟩ := webhookTx_acts hconcerns.booking hp db' r hreturned
  obtain rfl := Option.some.inj (hname.symm.trans hname')
  rcases hmoved with ⟨_, hsame⟩ | ⟨hacts, _⟩
  · exact hsame.business
  · have hgoes : Goes host db payment event eventType :=
      ⟨hgoes.currency, hgoes.bookingFits, hgoes.paymentFits, hgoes.paymentId, hgoes.actor⟩
    exact absurd hacts (hspent payment eventType hconcerned hname hrecordable.stored
      hrecordable.typeFits hgoes)

theorem spent_of_not_concerned (h : ∀ payment, ¬ Concerns db event payment) : Spent host db event :=
  fun payment _ hconcerns => absurd hconcerns (h payment)

/-- The row of a payment is replaced where it stood, so its order finds it. -/
theorem Db.paymentByOrder_put {db' : Db} {orderId : String} {p p' : Payment} (hid : p'.id = p.id)
    (horder : p'.gatewayOrderId = p.gatewayOrderId)
    (hput : db'.payments = db.payments.put p') (h : db.paymentByOrder orderId = some p) :
    db'.paymentByOrder orderId = some p' := by
  have hp : db.payments.find? p'.id = some p := hid ▸ (Db.find?_of_paymentByOrder h).1
  have hmatch : (p'.gatewayOrderId == orderId) = true := by
    simpa [horder] using (Db.find?_of_paymentByOrder h).2
  obtain ⟨l, l', hrows, hrows', hne⟩ := Table.rows_put_split hp
  unfold Db.paymentByOrder at h ⊢
  rw [hrows, List.find?_append] at h
  rw [hput, hrows', List.find?_append]
  cases hl : l.find? (·.gatewayOrderId == orderId) with
  | some q =>
      -- an earlier row of the order would have been found before
      rw [hl] at h
      obtain rfl : q = p := by simpa using h
      exact absurd hid.symm (hne q (List.mem_append_left _ (List.mem_of_find?_eq_some hl)))
  | none => simp [hmatch]

/-- What a transaction leaves of the body is spent. -/
theorem spent_of_returns {eventId : String} (hconcerns : Concerns db event payment) :
    (webhookTx host ctx payment event eventId).Returns db fun db' _ => Spent host db' event := by
  obtain ⟨orderId, horder, hfound⟩ := hconcerns.orderId
  have hp := (Db.find?_of_paymentByOrder hfound).1
  refine (webhookTx_acts hconcerns.booking hp).mono ?_
  rintro db' _ ⟨eventType, hname, hmoved⟩ payment' eventType' hconcerns' hname' _ _ _
  obtain rfl := Option.some.inj (hname.symm.trans hname')
  rcases hmoved with ⟨hidle, hsame⟩ | ⟨_, _, data, hdata, hput⟩
  · -- the payment is the one that it was
    have hsame' : Concerns db event payment' := by
      rw [hsame] at hconcerns'
      exact ⟨hconcerns'.given, hconcerns'.orderId, hconcerns'.booking⟩
    obtain rfl := concerns_unique hconcerns hsame'
    exact hidle
  · obtain ⟨orderId', horder', hfound'⟩ := hconcerns'.orderId
    obtain rfl := Option.some.inj (horder.symm.trans horder')
    have hset : db'.paymentByOrder orderId = some (data.on payment.toPayment) :=
      Db.paymentByOrder_put (p := payment.toPayment) rfl rfl hput hfound
    have hnow : payment'.toPayment = data.on payment.toPayment :=
      Option.some.inj (hfound'.symm.trans hset)
    rw [hnow]
    exact not_acts_again hdata

/-- A transaction that throws leaves a body that was spent before. -/
theorem spent_of_throws {eventId : String} (hconcerns : Concerns db event payment)
    (hfits : tooLong 255 eventId = false) (hnew : NewIds ctx db)
    (hfresh : db.eventById .razorpay eventId = none) :
    (webhookTx host ctx payment event eventId).Throws db fun _ _ => Spent host db event := by
  obtain ⟨orderId, _, hfound⟩ := hconcerns.orderId
  have hp := (Db.find?_of_paymentByOrder hfound).1
  intro db' e hthrown payment' eventType hconcerns' hname hstored htype hgoes
  obtain rfl := concerns_unique hconcerns hconcerns'
  have hrecordable : Recordable host ctx db event eventId eventType :=
    ⟨hstored, hfits, htype, hfresh, hnew.event⟩
  exact (webhookTx_throws_not hname hrecordable hgoes hnew.toFreshAudit hconcerns.booking hp
    db' e hthrown).elim

/-- **One delivery spends the body**, whatever it answers. -/
theorem delivery_spends {eventId : String} (hid : asText event.eventId = some eventId)
    (hfits : tooLong 255 eventId = false) (hnew : NewIds ctx db)
    (hfresh : db.eventById .razorpay eventId = none) :
    Ends (processWebhookEvent host ctx event) db fun db' _ => Spent host db' event := by
  by_cases hconcerned : ∃ payment, Concerns db event payment
  · obtain ⟨payment, hconcerns⟩ := hconcerned
    exact concerned_leaves hid hfresh hconcerns (spent_of_returns hconcerns)
      (spent_of_throws hconcerns hfits hnew hfresh)
  · push Not at hconcerned
    refine processWebhookEvent_leaves (spent_of_not_concerned hconcerned) (fun _ => ?_) ?_
    · refine spent_of_not_concerned fun payment h => hconcerned payment ?_
      exact ⟨h.given, h.orderId, h.booking⟩
    · exact fun payment _ _ hconcerns => absurd hconcerns (hconcerned payment)

theorem runAlone_unread {e : Exn} (h : readDelivery host delivery = .error e) :
    (runAlone host ⟨ctx, .handleWebhookEvent delivery⟩ db).1 = db := by
  refine runAlone_of_ends (fun db' _ => db' = db) (Ends.map ?_)
  unfold handleWebhookEvent
  rw [h]
  exact Ends.throw rfl

end

/-- **Replaying a body under another event id** changes no booking, no payment
and no audit row, if the first event id is one that can be stored. -/
theorem replay_leaves_business (host : Host) (delivery : Delivery) (i j : String) (ctx ctx' : Ctx)
    (db : Db) (hunrecorded : db.eventById .razorpay i = none) (hstorable : StorableId i)
    (hnew : NewIds ctx db) :
    let once := (runAlone host ⟨ctx, .handleWebhookEvent (delivery.under i)⟩ db).1
    SameBusiness once (runAlone host ⟨ctx', .handleWebhookEvent (delivery.under j)⟩ once).1 := by
  intro once
  cases hread : readDelivery host (delivery.under i) with
  | error e =>
      obtain ⟨e', hread'⟩ := not_read_under (j := j) hread
      rw [runAlone_unread hread']
      exact ⟨rfl, rfl, rfl⟩
  | ok event =>
      obtain ⟨event', hread', hbody⟩ := readDelivery_under (j := j) hread
      have hspent : Spent host once event := runAlone_delivery hread
        (delivery_spends (asText_eventId hstorable hread) hstorable.2 hnew hunrecorded)
      exact runAlone_delivery hread' (spent_leaves hspent hbody)

namespace Sample

theorem newIds (n : Nat) (h : (ctx n).uuid 0 ∉ booked.paymentWebhookEvents.rows.map (·.id) ∧
    (ctx n).uuid 1 ∉ booked.auditLogs.rows.map (·.id) ∧
    (ctx n).uuid 2 ∉ booked.auditLogs.rows.map (·.id) ∧ (ctx n).uuid 1 ≠ (ctx n).uuid 2) :
    NewIds (ctx n) booked := by
  obtain ⟨hevent, hfirst, hsecond, hapart⟩ := h
  exact
    { first := Table.find?_eq_none.mpr fun a ha hid => hfirst (List.mem_map.mpr ⟨a, ha, hid⟩)
      second := Table.find?_eq_none.mpr fun a ha hid => hsecond (List.mem_map.mpr ⟨a, ha, hid⟩)
      apart := hapart
      event := Table.find?_eq_none.mpr fun a ha hid => hevent (List.mem_map.mpr ⟨a, ha, hid⟩) }

/-- An event id of 256 characters. -/
def longId : String := String.ofList (List.replicate 256 'e')

end Sample

/-- The capture under two event ids. -/
theorem replay_sample : Sample.booked.eventById .razorpay "evt_1" = none ∧ StorableId "evt_1" ∧
    NewIds (Sample.ctx 1) Sample.booked ∧
    let once := (runAlone Sample.host ⟨Sample.ctx 1,
      .handleWebhookEvent (Sample.capture.under "evt_1")⟩ Sample.booked).1
    SameBusiness once (runAlone Sample.host ⟨Sample.ctx 2,
      .handleWebhookEvent (Sample.capture.under "evt_2")⟩ once).1 := by
  have hunrecorded : Sample.booked.eventById .razorpay "evt_1" = none :=
    Option.isNone_iff_eq_none.mp (by decide +kernel)
  have hstorable : StorableId "evt_1" := ⟨by decide, by decide⟩
  have hnew := Sample.newIds 1 (by decide +kernel)
  exact ⟨hunrecorded, hstorable, hnew,
    replay_leaves_business _ _ _ _ _ (Sample.ctx 2) _ hunrecorded hstorable hnew⟩

/-- Under an event id that the column does not hold, the body is refused, and
the next delivery of it acts. -/
theorem replay_not_idle : Sample.booked.eventById .razorpay Sample.longId = none ∧
    NewIds (Sample.ctx 1) Sample.booked ∧
    let once := (runAlone Sample.host ⟨Sample.ctx 1,
      .handleWebhookEvent (Sample.capture.under Sample.longId)⟩ Sample.booked).1
    ¬ SameBusiness once (runAlone Sample.host ⟨Sample.ctx 2,
      .handleWebhookEvent (Sample.capture.under "evt_1")⟩ once).1 := by
  refine ⟨Option.isNone_iff_eq_none.mp (by decide +kernel), Sample.newIds 1 (by decide +kernel), ?_⟩
  intro once hsame
  have hbefore : (once.payments.find? Sample.paymentId).map (·.status) = some .created := by
    decide +kernel
  have hafter : ((runAlone Sample.host ⟨Sample.ctx 2,
      .handleWebhookEvent (Sample.capture.under "evt_1")⟩ once).1.payments.find?
        Sample.paymentId).map (·.status) = some .success := by decide +kernel
  rw [hsame.2.1, hbefore] at hafter
  cases hafter

end ServiceHub
