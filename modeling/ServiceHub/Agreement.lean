/-
# `Agreement` — bookings and payments agree

In every state of a sequence of operations,

    a booking that is CONFIRMED or COMPLETED has a SUCCESS payment   (`Agree.paid`)
    a booking in PENDING_PAYMENT has none                            (`Agree.unpaid`)

The second holds whatever the operations are (`serialSteps_unpaid`).  The first
fails where `payment.failed`, `refund.processed` or `payment.refunded` is
delivered about the only SUCCESS payment of a booking: the handlers of these
events rewrite the payment and leave the booking as it is, other than
`refundPayment`, which cancels it.  `KeepsPaid` excludes just these deliveries.
-/
import ServiceHub.Refinement

namespace ServiceHub

open Data Txn

variable {host : Host} {db : Db}

structure Agree (db : Db) : Prop where
  paid : ∀ b ∈ db.bookings.rows, Ledger.Takes b.bookingStatus →
    ∃ p ∈ db.payments.rows, p.bookingId = b.id ∧ p.status = .success
  unpaid : ∀ b ∈ db.bookings.rows, b.bookingStatus = .pendingPayment →
    ∀ p ∈ db.payments.rows, p.bookingId = b.id → p.status ≠ .success

instance (s : BookingStatus) : Decidable (Ledger.Takes s) := inferInstanceAs (Decidable (_ ∨ _))

instance (db : Db) : Decidable (Agree db) :=
  decidable_of_iff (_ ∧ _) ⟨fun h => ⟨h.1, h.2⟩, fun h => ⟨h.1, h.2⟩⟩

/-- A failure or refund delivered about a SUCCESS payment of a booking that
takes place finds another SUCCESS payment of it. -/
def KeepsPaid (host : Host) (db : Db) (op : Op) : Prop :=
  ∀ event eventType payment, Delivers host db op event eventType payment →
    (eventType = "payment.failed" ∧
      db.clashes (.payment ((failData host event).on payment.toPayment)) = false ∨
      isRefund eventType) →
    payment.status = .success → Ledger.Takes payment.booking.bookingStatus →
      ∃ q ∈ db.payments.rows, q.id ≠ payment.id ∧ q.bookingId = payment.bookingId ∧
        q.status = .success

instance (host : Host) (db : Db) (op : Op) : Decidable (KeepsPaid host db op) :=
  inferInstanceAs (Decidable (∀ event eventType payment,
    Delivers host db op event eventType payment → _))

/-! ## Against the ledger -/

theorem agree_of_ledger (hpaid : db.ledger.Paid) (hunpaid : db.ledger.Unpaid) : Agree db where
  paid b hb htakes := by
    obtain ⟨id, hid⟩ := hpaid b.id _ (ledger_booking (Table.find?_of_mem hb)) htakes
    obtain ⟨p, hp, _, hbooking, hsuccess⟩ := mem_of_ledger_payment hid
    exact ⟨p, hp, hbooking, hsuccess⟩
  unpaid b hb hpending p hp hbooking hsuccess := by
    have hpay := ledger_payment (Table.find?_of_mem hp)
    rw [hbooking, hsuccess] at hpay
    exact hunpaid p.id b.id hpay (hpending ▸ ledger_booking (Table.find?_of_mem hb))

theorem spares_of_keepsPaid {op : Op} {after : Db} {a : Ledger.Action Uuid Uuid}
    (hcause : Cause host db op after a) (hop : KeepsPaid host db op) : db.ledger.Spares a := by
  -- whichever of the two events it is, the payment is the one delivered
  have hkeep : ∀ {event eventType payment}, Delivers host db op event eventType payment →
      (eventType = "payment.failed" ∧
        db.clashes (.payment ((failData host event).on payment.toPayment)) = false ∨
        isRefund eventType) →
      ∀ b, db.ledger.payment payment.id = some (b, .success) →
        ∀ s, db.ledger.booking b = some s → Ledger.Takes s →
          ∃ q, q ≠ payment.id ∧ db.ledger.payment q = some (b, .success) := by
    intro event eventType payment hdelivers hevent b hp s hb hs
    rw [ledger_payment hdelivers.find?_payment] at hp
    obtain ⟨rfl, hsuccess⟩ := Prod.mk.inj (Option.some.inj hp)
    rw [ledger_booking hdelivers.concerns.booking] at hb
    obtain rfl := Option.some.inj hb
    obtain ⟨q, hq, hne, hbooking, hsuccess⟩ := hop _ _ _ hdelivers hevent hsuccess hs
    refine ⟨q.id, hne, ?_⟩
    rw [ledger_payment (Table.find?_of_mem hq), hbooking, hsuccess]
  rintro b p (rfl | rfl)
  · obtain ⟨event, payment, hdelivers, hfree, rfl⟩ := hcause
    exact hkeep hdelivers (Or.inl ⟨rfl, hfree⟩) b
  · obtain ⟨event, eventType, payment, hdelivers, hrefund, rfl⟩ := hcause
    exact hkeep hdelivers (Or.inr hrefund) b

/-! ## Runs -/

theorem ledger_owned_of_empty (hpayments : db.payments.rows = []) :
    db.ledger.Owned ∧ db.ledger.Unpaid := by
  have hnone : ∀ p b s, db.ledger.payment p ≠ some (b, s) := by
    intro p b s h
    obtain ⟨x, hx, _⟩ := mem_of_ledger_payment h
    rw [hpayments] at hx
    exact List.not_mem_nil hx
  exact ⟨fun p b s h => absurd h (hnone p b s), fun p b h => absurd h (hnone p b _)⟩

/-- No operation leaves a paid booking waiting for its money. -/
theorem runAlone_unpaid (op : Op) (h : db.ledger.Owned ∧ db.ledger.Unpaid) :
    (runAlone host op db).1.ledger.Owned ∧ (runAlone host op db).1.ledger.Unpaid := by
  obtain ⟨a, hallowed, hledger, _⟩ := runAlone_refines host op db
  rw [hledger]
  exact ⟨h.1.act hallowed, h.2.act h.1 hallowed⟩

theorem serialSteps_unpaid {ops : List Op} (hpayments : db.payments.rows = []) {s : SerialStep}
    (hs : s ∈ serialSteps host db ops) : s.before.ledger.Unpaid ∧ s.after.ledger.Unpaid := by
  have hstep : ∀ db op, db.ledger.Owned ∧ db.ledger.Unpaid → True →
      (runAlone host op db).1.ledger.Owned ∧ (runAlone host op db).1.ledger.Unpaid :=
    fun _ op h _ => runAlone_unpaid op h
  obtain ⟨hbefore, hafter⟩ :=
    serialSteps_invariant hstep (ledger_owned_of_empty hpayments) (fun _ _ => trivial) hs
  exact ⟨hbefore.2, hafter.2⟩

/-- **Bookings and payments agree** in every state of a sequence whose
deliveries keep what is paid. -/
theorem serialSteps_agree (host : Host) (db : Db) (ops : List Op)
    (hbookings : db.bookings.rows = []) (hpayments : db.payments.rows = [])
    (hops : ∀ s ∈ serialSteps host db ops, KeepsPaid host s.before s.op) :
    ∀ s ∈ serialSteps host db ops, Agree s.before ∧ Agree s.after := by
  intro s hs
  have hpaid : db.ledger.Paid := by
    intro b t hb
    obtain ⟨x, hx, _⟩ := mem_of_ledger_booking hb
    rw [hbookings] at hx
    exact absurd hx List.not_mem_nil
  have hstep : ∀ db op, db.ledger.Paid → KeepsPaid host db op →
      (runAlone host op db).1.ledger.Paid := by
    intro db op h hop
    obtain ⟨a, hallowed, hledger, hcause⟩ := runAlone_refines host op db
    rw [hledger]
    exact h.act hallowed (spares_of_keepsPaid hcause hop)
  obtain ⟨hbefore, hafter⟩ := serialSteps_invariant hstep hpaid hops hs
  obtain ⟨hbefore', hafter'⟩ := serialSteps_unpaid hpayments hs
  exact ⟨agree_of_ledger hbefore hbefore', agree_of_ledger hafter hafter'⟩

/-- The life of a booking, with the events that follow its steps. -/
theorem agree_completed :
    (serialSteps Sample.host Sample.db [Sample.book, Sample.verify 1,
      Sample.deliver 2 "payment.captured", Sample.complete 3, Sample.refund 4,
      Sample.deliver 5 "payment.refunded"]).map (fun s => s.result.isOk) =
        [true, true, true, true, true, true] ∧
    ∀ s ∈ serialSteps Sample.host Sample.db
      [Sample.book, Sample.verify 1, Sample.deliver 2 "payment.captured", Sample.complete 3,
        Sample.refund 4, Sample.deliver 5 "payment.refunded"],
      Agree s.before ∧ Agree s.after := by
  refine ⟨by decide +kernel, serialSteps_agree _ _ _ rfl rfl ?_⟩
  decide +kernel

/-- The refund is made at the gateway, and the booking stays CONFIRMED. -/
theorem not_agree : ∃ s ∈ serialSteps Sample.host Sample.db
    [Sample.book, Sample.deliver 1 "payment.captured", Sample.deliver 2 "payment.refunded"],
    ¬ Agree s.after := by
  decide +kernel

end ServiceHub
