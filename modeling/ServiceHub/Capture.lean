/-
# `Capture` — captured money is kept

A `payment.captured` event that fits its payment and is answered without an
error leaves the payment settled for good, and its booking confirmed or flagged
for a refund (`MoneyKept`).  The code keeps this promise except where

| | |
| :-- | :-- |
| the payment has FAILED | the state machine forbids FAILED to SUCCESS, and the handler breaks off; `expireBooking` and `payment.failed` fail payments |
| the event was recorded by another delivery | the delivery is answered as a duplicate of one that was about something else |
| the gateway payment id belongs to another payment | the unique index refuses the row, which is taken for a duplicate as well |
| `payment.failed` comes last | it fails a payment that is settled |

`CapturesPayable` excludes the first three, and `DeliversInOrder` the last.
-/
import ServiceHub.LifeCycle

namespace ServiceHub

open Data Txn

variable {host : Host} {db : Db} {op : Op}

/-- A delivery of `payment.captured` whose amount and currency are those of an
existing payment. -/
structure Captures (host : Host) (db : Db) (op : Op) (event : WebhookEvent)
    (payment : PaymentWithBooking) : Prop where
  read : ∃ delivery, op.request = .handleWebhookEvent delivery ∧
    readDelivery host delivery = .ok event
  name : asText event.eventName = some "payment.captured"
  concerns : Concerns db event payment
  amount : amountDiffers host payment.toPayment event.paymentEntity = false
  currency : currencyDiffers host payment.toPayment event.paymentEntity = .ok false

/-- The payment is settled, and the booking was confirmed or is flagged. -/
def MoneyKept (host : Host) (db : Db) (ops : List Op) (payment : PaymentWithBooking) : Prop :=
  (∃ p, (runAll host db ops).payments.find? payment.id = some p ∧ p.settled) ∧
  ((∃ s ∈ serialSteps host db ops, ∃ b, s.after.bookings.find? payment.bookingId = some b ∧
      b.bookingStatus = .confirmed) ∨
    Flagged (runAll host db ops) payment.bookingId)

/-- A capture finds its payment settled already, or finds it neither FAILED nor
its event id recorded nor its gateway payment id taken. -/
def CapturesPayable (host : Host) (db : Db) (op : Op) : Prop :=
  ∀ event payment, Captures host db op event payment →
    payment.settled ∨
      payment.status ≠ .failed ∧
      (∀ eventId ∈ asText event.eventId, (db.eventById .razorpay eventId).isNone) ∧
      db.clashes
        (.payment ((captureData host op.ctx payment.toPayment event).on payment.toPayment)) = false

/-- What a run has to keep to. -/
def KeepsMoney (host : Host) (db : Db) (op : Op) : Prop :=
  DeliversInOrder host db op ∧ CapturesPayable host db op

/-! ## One operation -/

theorem Concerns.unique {event : WebhookEvent} {payment payment' : PaymentWithBooking}
    (h : Concerns db event payment) (h' : Concerns db event payment') : payment = payment' :=
  Option.some.inj (((concerned_eq db).mpr h).symm.trans ((concerned_eq db).mpr h'))

theorem settled_iff {p : Payment} (hp : db.payments.find? p.id = some p) :
    p.settled ↔ db.ledger.Received p.id p.bookingId := by
  rw [Ledger.Received, ledger_payment hp]
  constructor
  · exact fun h => ⟨_, rfl, h⟩
  · rintro ⟨s, hs, h⟩
    cases hs
    exact h

/-- Received money stays received. -/
theorem runAlone_received {id bookingId : Uuid} (h : db.ledger.Received id bookingId)
    (hop : DeliversInOrder host db op) :
    (runAlone host op db).1.ledger.Received id bookingId := by
  obtain ⟨a, hallowed, hledger, hcause⟩ := runAlone_refines host op db
  rw [hledger]
  refine h.act hallowed ?_
  rintro rfl
  obtain ⟨event, payment, hdelivers, hfree, rfl⟩ := hcause
  obtain ⟨s, hs, hsettled⟩ := h
  rw [ledger_payment hdelivers.find?_payment] at hs
  obtain ⟨rfl, rfl⟩ := Prod.mk.inj (Option.some.inj hs)
  exact (hop _ _ _ hdelivers).1 rfl hfree hsettled

/-- Money is received for a booking that is confirmed then, or flagged. -/
theorem received_of_runAlone {id bookingId : Uuid} (hop : DeliversInOrder host db op)
    (h : (runAlone host op db).1.ledger.Received id bookingId) :
    db.ledger.Received id bookingId ∨
    (∃ b, (runAlone host op db).1.bookings.find? bookingId = some b ∧
      b.bookingStatus = .confirmed) ∨
    Flagged (runAlone host op db).1 bookingId := by
  obtain ⟨a, hallowed, hledger, hcause⟩ := runAlone_refines host op db
  rw [hledger] at h
  rcases Ledger.received_of_act hallowed h with hold | hconfirmed | rfl | rfl
  · exact Or.inl hold
  · rw [← hledger] at hconfirmed
    exact Or.inr (Or.inl (Option.map_eq_some_iff.mp hconfirmed))
  · exact Or.inr (Or.inr hcause)
  · -- a refund is delivered after the money was received
    obtain ⟨event, eventType, payment, hdelivers, hrefund, rfl⟩ := hcause
    obtain ⟨s, hs⟩ := hallowed
    have hp := hdelivers.find?_payment
    rw [ledger_payment hp] at hs
    obtain ⟨rfl, _⟩ := Prod.mk.inj (Option.some.inj hs)
    exact Or.inl ((settled_iff hp).mp ((hop _ _ _ hdelivers).2 hrefund))

/-- A capture that is answered without an error receives the money. -/
theorem runAlone_captured {event : WebhookEvent} {payment : PaymentWithBooking} {r : Response}
    (hcaptures : Captures host db op event payment) (hanswer : (runAlone host op db).2 = .ok r)
    (hop : KeepsMoney host db op) :
    (runAlone host op db).1.ledger.Received payment.id payment.bookingId := by
  obtain ⟨orderId, _, hfound⟩ := hcaptures.concerns.orderId
  have hp := (Db.find?_of_paymentByOrder hfound).1
  rcases hop.2 event payment hcaptures with hsettled | ⟨hlive, hfresh, hfree⟩
  · exact runAlone_received ((settled_iff hp).mp hsettled) hop.1
  obtain ⟨ctx, request⟩ := op
  obtain ⟨delivery, rfl, hread⟩ := hcaptures.read
  rcases runAlone_webhook host ctx delivery db with ⟨e, he, _⟩ | ⟨event', rows, result, hread',
    hrows, hresult, hchange⟩
  · rw [hread] at he
    cases he
  obtain rfl : event = event' := Except.ok.inj (hread.symm.trans hread')
  rw [hrows]
  cases hchange with
  | refused e =>
      rw [hresult] at hanswer
      cases hanswer
  | duplicate hid hold =>
      have hnone := hfresh _ hid
      rw [hold] at hnone
      cases hnone
  | skipped _ _ hnone => exact absurd hcaptures.concerns (hnone payment)
  | clashed hname hconcerns hsets hclash =>
      obtain rfl := hcaptures.concerns.unique hconcerns
      obtain rfl := Option.some.inj (hcaptures.name.symm.trans hname)
      rcases hsets with ⟨_, rfl⟩ | ⟨hfailed, _⟩ | ⟨hrefund, _⟩
      · rw [hfree] at hclash
        cases hclash
      · exact absurd hfailed (by decide)
      · exact absurd hrefund (by decide)
  | @processed eventId eventType payment' rows' _ _ hname hconcerns _ hevent _ =>
      obtain rfl := hcaptures.concerns.unique hconcerns
      obtain rfl := Option.some.inj (hcaptures.name.symm.trans hname)
      have hcaptured : ∀ db' : Db, db'.payments = db.payments.put
          ((captureData host ctx payment.toPayment event).on payment.toPayment) →
            db'.ledger.Received payment.id payment.bookingId := by
        intro db' hput
        refine ⟨.success, ?_, Or.inl rfl⟩
        show (db'.payments.find? payment.id).map _ = _
        rw [hput, Table.find?_put, PaymentUpdate.id_on, if_pos rfl]
        rfl
      cases hevent with
      | paidAlready _ hpaid => exact (settled_iff hp).mp (Or.inl hpaid)
      | notPayable _ hcannot =>
          refine (settled_iff hp).mp (Or.inr ?_)
          cases hs : payment.status with
          | failed => exact absurd hs hlive
          | refunded => rfl
          | _ =>
              rw [hs] at hcannot
              cases hcannot
      | tampered _ ht =>
          rcases ht with ht | ht
          · rw [hcaptures.amount] at ht
            cases ht
          · rw [hcaptures.currency] at ht
            cases ht
      | confirmed _ _ _ _ => exact hcaptured _ rfl
      | flagged _ _ _ _ _ => exact hcaptured _ rfl
      | failed hname _ _ => exact absurd hname (by decide)
      | reconciled hrefund _ _ => exact absurd hrefund (by decide)
      | other hno => exact absurd (Or.inl rfl) hno

/-! ## Runs -/

/-- Received money was received for a booking that was confirmed, or is
flagged. -/
theorem runAll_received {id bookingId : Uuid} (hpayments : db.payments.rows = []) (ops : List Op)
    (hops : ∀ s ∈ serialSteps host db ops, DeliversInOrder host s.before s.op)
    (h : (runAll host db ops).ledger.Received id bookingId) :
    (∃ s ∈ serialSteps host db ops, ∃ b, s.after.bookings.find? bookingId = some b ∧
      b.bookingStatus = .confirmed) ∨ Flagged (runAll host db ops) bookingId := by
  induction ops using List.reverseRecOn with
  | nil =>
      obtain ⟨s, hs, _⟩ := h
      obtain ⟨p, hp, _⟩ := mem_of_ledger_payment hs
      rw [show (runAll host db []).payments.rows = [] from hpayments] at hp
      exact absurd hp List.not_mem_nil
  | append_singleton ops op ih =>
      rw [serialSteps_append] at hops ⊢
      rw [runAll_append] at h ⊢
      have hlast := hops ⟨runAll host db ops, op, _, _⟩
        (List.mem_append_right _ List.mem_cons_self)
      rcases received_of_runAlone hlast h with hold | ⟨b, hb, hconfirmed⟩ | hflagged
      · rcases ih (fun s hs => hops s (List.mem_append_left _ hs)) hold with
          ⟨s, hs, hconfirmed⟩ | ⟨x, hx, hflag⟩
        · exact Or.inl ⟨s, List.mem_append_left _ hs, hconfirmed⟩
        · exact Or.inr ⟨x, mem_auditLogs_runAlone hx, hflag⟩
      · exact Or.inl ⟨_, List.mem_append_right _ List.mem_cons_self, b, hb, hconfirmed⟩
      · exact Or.inr hflagged

/-- **Captured money is kept** in every run whose steps keep to
`KeepsMoney`. -/
theorem runAll_moneyKept (host : Host) (db : Db) (before : List Op) (op : Op) (after : List Op)
    (event : WebhookEvent) (payment : PaymentWithBooking) (r : Response)
    (hpayments : db.payments.rows = [])
    (hops : ∀ s ∈ serialSteps host db (before ++ op :: after), KeepsMoney host s.before s.op)
    (hcaptures : Captures host (runAll host db before) op event payment)
    (hanswer : (runAlone host op (runAll host db before)).2 = .ok r) :
    MoneyKept host db (before ++ op :: after) payment := by
  rw [serialSteps_append] at hops
  have hop : KeepsMoney host (runAll host db before) op :=
    hops ⟨_, op, _, _⟩ (List.mem_append_right _ List.mem_cons_self)
  have hafter : ∀ s ∈ serialSteps host (runAlone host op (runAll host db before)).1 after,
      DeliversInOrder host s.before s.op :=
    fun s hs => (hops s (List.mem_append_right _ (List.mem_cons_of_mem _ hs))).1
  have hreceived : (runAll host db (before ++ op :: after)).ledger.Received payment.id
      payment.bookingId := by
    rw [runAll_append]
    have hstep : ∀ db op, db.ledger.Received payment.id payment.bookingId →
        DeliversInOrder host db op →
          (runAlone host op db).1.ledger.Received payment.id payment.bookingId :=
      fun _ _ h hop => runAlone_received h hop
    show (runAll host (runAlone host op (runAll host db before)).1 after).ledger.Received _ _
    exact runAll_invariant hstep (runAlone_captured hcaptures hanswer hop) hafter
  refine ⟨?_, runAll_received hpayments _ (fun s hs => ?_) hreceived⟩
  · obtain ⟨s, hs, hsettled⟩ := hreceived
    obtain ⟨p, hp, hstatus⟩ := Option.map_eq_some_iff.mp hs
    obtain rfl : p.status = s := (Prod.mk.inj hstatus).2
    exact ⟨p, hp, hsettled⟩
  · rw [serialSteps_append] at hs
    exact (hops s hs).1

/-! ## Computed -/

/-- The capture that a call delivers, and what it is about. -/
def captured (host : Host) (db : Db) (op : Op) : Option (WebhookEvent × PaymentWithBooking) := do
  let event ← op.event host
  let payment ← concerned db event
  if asText event.eventName = some "payment.captured" ∧
      amountDiffers host payment.toPayment event.paymentEntity = false ∧
      (currencyDiffers host payment.toPayment event.paymentEntity).toOption = some false
  then some (event, payment) else none

theorem captured_eq {event : WebhookEvent} {payment : PaymentWithBooking} :
    captured host db op = some (event, payment) ↔ Captures host db op event payment := by
  have hcurrency : ∀ r : Except Exn Bool, r.toOption = some false ↔ r = .ok false := by
    intro r
    cases r <;> simp [Except.toOption]
  simp only [captured, Option.bind_eq_bind, Option.bind_eq_some_iff, Op.event_eq, concerned_eq,
    Option.ite_none_right_eq_some, Option.some.injEq, Prod.mk.injEq, hcurrency]
  constructor
  · rintro ⟨_, hread, _, hconcerns, ⟨hname, hamount, hcur⟩, rfl, rfl⟩
    exact ⟨hread, hname, hconcerns, hamount, hcur⟩
  · rintro ⟨hread, hname, hconcerns, hamount, hcur⟩
    exact ⟨event, hread, payment, hconcerns, ⟨hname, hamount, hcur⟩, rfl, rfl⟩

instance (host : Host) (db : Db) (op : Op) : Decidable (CapturesPayable host db op) :=
  decidable_of_iff (∀ x ∈ captured host db op, x.2.settled ∨ x.2.status ≠ .failed ∧
      (∀ eventId ∈ asText x.1.eventId, (db.eventById .razorpay eventId).isNone) ∧
      db.clashes (.payment ((captureData host op.ctx x.2.toPayment x.1).on x.2.toPayment)) = false)
    ⟨fun h _ _ hc => h _ (captured_eq.mpr hc), fun h _ hx => h _ _ (captured_eq.mp hx)⟩

instance (host : Host) (db : Db) (op : Op) : Decidable (KeepsMoney host db op) :=
  inferInstanceAs (Decidable (_ ∧ _))

theorem ok_of_isOk {r : Except Exn Response} (h : r.isOk = true) : ∃ a, r = .ok a := by
  cases r with
  | ok a => exact ⟨a, rfl⟩
  | error e => cases h

/-- The capture of a booking that waits for it, its repetition, and the
refund. -/
theorem moneyKept_captured : ∃ payment, payment.id = Sample.paymentId ∧
    MoneyKept Sample.host Sample.db ([Sample.book] ++ Sample.deliver 1 "payment.captured" ::
      [Sample.deliver 2 "order.paid", Sample.refund 3]) payment := by
  obtain ⟨⟨event, payment⟩, hx⟩ := Option.isSome_iff_exists.mp
    (show (captured Sample.host (runAll Sample.host Sample.db [Sample.book])
      (Sample.deliver 1 "payment.captured")).isSome by decide +kernel)
  have hid : ∀ x ∈ captured Sample.host (runAll Sample.host Sample.db [Sample.book])
      (Sample.deliver 1 "payment.captured"), x.2.id = Sample.paymentId := by decide +kernel
  obtain ⟨r, hr⟩ := ok_of_isOk (show (runAlone Sample.host (Sample.deliver 1 "payment.captured")
      (runAll Sample.host Sample.db [Sample.book])).2.isOk by decide +kernel)
  exact ⟨payment, hid _ hx, runAll_moneyKept _ _ _ _ _ event payment r rfl (by decide +kernel)
    (captured_eq.mp hx) hr⟩

/-- The booking expires before the money arrives: the capture is answered as
processed, and the payment stays FAILED. -/
theorem not_moneyKept : ∃ event payment r,
    Captures Sample.host (runAll Sample.host Sample.db [Sample.book, Sample.expire 1])
      (Sample.deliver 2 "payment.captured") event payment ∧
    (runAlone Sample.host (Sample.deliver 2 "payment.captured")
      (runAll Sample.host Sample.db [Sample.book, Sample.expire 1])).2 = .ok r ∧
    ¬ MoneyKept Sample.host Sample.db
      ([Sample.book, Sample.expire 1] ++ Sample.deliver 2 "payment.captured" :: []) payment := by
  obtain ⟨⟨event, payment⟩, hx⟩ := Option.isSome_iff_exists.mp
    (show (captured Sample.host (runAll Sample.host Sample.db [Sample.book, Sample.expire 1])
      (Sample.deliver 2 "payment.captured")).isSome by decide +kernel)
  have hid : ∀ x ∈ captured Sample.host (runAll Sample.host Sample.db
      [Sample.book, Sample.expire 1]) (Sample.deliver 2 "payment.captured"),
      x.2.id = Sample.paymentId := by decide +kernel
  obtain ⟨r, hr⟩ := ok_of_isOk (show (runAlone Sample.host (Sample.deliver 2 "payment.captured")
      (runAll Sample.host Sample.db [Sample.book, Sample.expire 1])).2.isOk by decide +kernel)
  refine ⟨event, payment, r, captured_eq.mp hx, hr, ?_⟩
  rintro ⟨⟨p, hp, hsettled⟩, _⟩
  have hunsettled : ∀ p ∈ (runAll Sample.host Sample.db ([Sample.book, Sample.expire 1] ++
      [Sample.deliver 2 "payment.captured"])).payments.find? Sample.paymentId, ¬ p.settled := by
    decide +kernel
  rw [hid _ hx] at hp
  exact hunsettled p hp hsettled

end ServiceHub
