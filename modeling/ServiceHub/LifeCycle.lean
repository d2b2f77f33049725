/-
# `LifeCycle` — status changes against the transition tables

Every operation runs to completion before the next one starts, and commits at
most once.  A step conforms if each booking (`BookingsConform`) and each payment
(`PaymentsConform`) that it moves to another status is moved along the table of
its state machine.

**Where the code does not conform.**

| | |
| :-- | :-- |
| bookings | `refundPayment` cancels any booking that is not cancelled yet, also one that is COMPLETED, EXPIRED or PAYMENT_FAILED |
| payments | `payment.failed` fails any payment that has not failed yet, `refund.processed` and `payment.refunded` refund any payment that is not refunded yet |

Proved here: these are the only writers that do not, so that a sequence whose
refunds find a live booking (`RefundsLiveBooking`) conforms for bookings, and
one whose late events find a payment that the table lets them move
(`DeliversInOrder`) conforms for payments.
-/
import ServiceHub.Refinement

namespace ServiceHub

open Data Txn

variable {host : Host} {db : Db}

/-! ## Bookings -/

def BookingsConform (before after : Db) : Prop :=
  ∀ id b b', before.bookings.find? id = some b → after.bookings.find? id = some b' →
    b.bookingStatus ≠ b'.bookingStatus →
      canTransitionBooking b.bookingStatus b'.bookingStatus = true

/-- A refund that passes its checks finds its booking in PENDING_PAYMENT,
CONFIRMED or CANCELLED. -/
def RefundsLiveBooking (host : Host) (db : Db) (op : Op) : Prop :=
  ∀ adminUserId paymentId dto p b, op.request = .refundPayment adminUserId paymentId dto →
    RefundPasses host op.ctx db paymentId dto p b →
      b.bookingStatus = .pendingPayment ∨ b.bookingStatus = .confirmed ∨
        b.bookingStatus = .cancelled

/-- Run alone, an operation that is no refund of a dead booking conforms. -/
theorem runAlone_bookingsConform (op : Op) (hop : RefundsLiveBooking host db op) :
    BookingsConform db (runAlone host op db).1 := by
  obtain ⟨a, hallowed, hledger, hcause⟩ := runAlone_refines host op db
  intro id b b' hb hb' hne
  have hafter := ledger_booking hb'
  rw [hledger] at hafter
  rcases Ledger.act_booking hallowed (ledger_booking hb) hafter hne with hcan | ⟨p, rfl, hcancelled⟩
  · exact hcan
  · obtain ⟨_, _, dto, payment, booking, hrequest, hpasses, hid, _⟩ := hcause
    have hbooking : db.bookings.find? booking.id = some booking :=
      Table.find?_of_mem (Table.mem_of_find? hpasses.booking)
    rw [hid, hb] at hbooking
    obtain rfl : b = booking := Option.some.inj hbooking
    rw [hcancelled] at hne ⊢
    rcases hop _ _ _ _ _ hrequest hpasses with h | h | h
    · rw [h]; rfl
    · rw [h]; rfl
    · exact absurd h hne

/-- **Bookings conform** in every sequence whose refunds find a live booking. -/
theorem serialSteps_bookingsConform (host : Host) (db : Db) (ops : List Op)
    (hops : ∀ s ∈ serialSteps host db ops, RefundsLiveBooking host s.before s.op) :
    ∀ s ∈ serialSteps host db ops, BookingsConform s.before s.after := by
  intro s hs
  rw [(mem_serialSteps hs).2.1]
  exact runAlone_bookingsConform s.op (hops s hs)

theorem refundsLiveBooking_of_all {op : Op}
    (h : ∀ b ∈ db.bookings.rows, b.bookingStatus ∈
      [BookingStatus.pendingPayment, .confirmed, .cancelled]) : RefundsLiveBooking host db op := by
  intro _ _ _ p b _ hpasses
  simpa using h b (Table.mem_of_find? hpasses.booking)

/-- A confirmed booking may be refunded. -/
theorem bookingsConform_refund :
    (serialSteps Sample.host Sample.db
      [Sample.book, Sample.verify 1, Sample.refund 2]).map (fun s => s.result.isOk) =
        [true, true, true] ∧
    ∀ s ∈ serialSteps Sample.host Sample.db [Sample.book, Sample.verify 1, Sample.refund 2],
      BookingsConform s.before s.after := by
  refine ⟨by decide +kernel, serialSteps_bookingsConform _ _ _ fun s hs =>
    refundsLiveBooking_of_all ?_⟩
  revert s
  decide +kernel

/-- A completed one is cancelled by its refund. -/
theorem not_bookingsConform : ∃ s ∈ serialSteps Sample.host Sample.db
    [Sample.book, Sample.verify 1, Sample.complete 2, Sample.refund 3],
    ¬ BookingsConform s.before s.after := by
  have hsteps : ∃ s ∈ serialSteps Sample.host Sample.db
      [Sample.book, Sample.verify 1, Sample.complete 2, Sample.refund 3],
      (s.before.bookings.find? Sample.bookingId).map (·.bookingStatus) = some .completed ∧
      (s.after.bookings.find? Sample.bookingId).map (·.bookingStatus) = some .cancelled := by
    decide +kernel
  obtain ⟨s, hs, hbefore, hafter⟩ := hsteps
  obtain ⟨b, hb, hcompleted⟩ := Option.map_eq_some_iff.mp hbefore
  obtain ⟨b', hb', hcancelled⟩ := Option.map_eq_some_iff.mp hafter
  refine ⟨s, hs, fun hconform => ?_⟩
  have hcan := hconform _ b b' hb hb' (by rw [hcompleted, hcancelled]; decide)
  rw [hcompleted, hcancelled] at hcan
  cases hcan

/-! ## Payments -/

def PaymentsConform (before after : Db) : Prop :=
  ∀ id p p', before.payments.find? id = some p → after.payments.find? id = some p' →
    p.status ≠ p'.status → p'.status ∈ validPaymentTransitions p.status

/-- The money of the payment was received. -/
def Payment.settled (p : Payment) : Prop := p.status = .success ∨ p.status = .refunded

instance (p : Payment) : Decidable p.settled := inferInstanceAs (Decidable (_ ∨ _))

/-- A failure is delivered before the money was received, a refund after. -/
def DeliversInOrder (host : Host) (db : Db) (op : Op) : Prop :=
  ∀ event eventType payment, Delivers host db op event eventType payment →
    (eventType = "payment.failed" →
      db.clashes (.payment ((failData host event).on payment.toPayment)) = false →
        ¬ payment.settled) ∧
    (isRefund eventType → payment.settled)

instance (host : Host) (db : Db) (op : Op) : Decidable (DeliversInOrder host db op) :=
  inferInstanceAs (Decidable (∀ event eventType payment,
    Delivers host db op event eventType payment → _))

/-- Run alone, an operation that is no late failure and no early refund
conforms. -/
theorem runAlone_paymentsConform (op : Op) (hop : DeliversInOrder host db op) :
    PaymentsConform db (runAlone host op db).1 := by
  obtain ⟨a, hallowed, hledger, hcause⟩ := runAlone_refines host op db
  intro id p p' hp hp' hne
  have hafter := ledger_payment hp'
  rw [hledger] at hafter
  rcases (Ledger.act_payment hallowed (ledger_payment hp) hafter).2 with
    hcan | ⟨rfl, hfailed⟩ | ⟨rfl, hrefunded⟩
  · simpa [canTransitionPayment, hne] using hcan
  · obtain ⟨event, payment, hdelivers, hfree, rfl⟩ := hcause
    obtain rfl : p = payment.toPayment := Option.some.inj (hp.symm.trans hdelivers.find?_payment)
    have hunsettled := (hop _ _ _ hdelivers).1 rfl hfree
    rw [hfailed] at hne ⊢
    cases hs : payment.status with
    | created => decide
    | pending => decide
    | success => exact absurd (Or.inl hs) hunsettled
    | failed => exact absurd hs hne
    | refunded => exact absurd (Or.inr hs) hunsettled
  · obtain ⟨event, eventType, payment, hdelivers, hrefund, rfl⟩ := hcause
    obtain rfl : p = payment.toPayment := Option.some.inj (hp.symm.trans hdelivers.find?_payment)
    rw [hrefunded] at hne ⊢
    rcases (hop _ _ _ hdelivers).2 hrefund with h | h
    · rw [h]; exact List.mem_singleton.mpr rfl
    · exact absurd h hne

/-- **Payments conform** in every sequence whose deliveries come in order. -/
theorem serialSteps_paymentsConform (host : Host) (db : Db) (ops : List Op)
    (hops : ∀ s ∈ serialSteps host db ops, DeliversInOrder host s.before s.op) :
    ∀ s ∈ serialSteps host db ops, PaymentsConform s.before s.after := by
  intro s hs
  rw [(mem_serialSteps hs).2.1]
  exact runAlone_paymentsConform s.op (hops s hs)

/-- The capture, then the refund. -/
theorem paymentsConform_refunded :
    (serialSteps Sample.host Sample.db [Sample.book, Sample.deliver 1 "payment.captured",
      Sample.deliver 2 "payment.refunded"]).map (fun s => s.result.isOk) = [true, true, true] ∧
    ∀ s ∈ serialSteps Sample.host Sample.db
      [Sample.book, Sample.deliver 1 "payment.captured", Sample.deliver 2 "payment.refunded"],
      PaymentsConform s.before s.after := by
  refine ⟨by decide +kernel, serialSteps_paymentsConform _ _ _ ?_⟩
  decide +kernel

/-- A failure delivered after the capture. -/
theorem not_paymentsConform : ∃ s ∈ serialSteps Sample.host
    (runAlone Sample.host Sample.book Sample.db).1
    [Sample.deliver 1 "payment.captured", Sample.deliver 2 "payment.failed"],
    ¬ PaymentsConform s.before s.after := by
  have hsteps : ∃ s ∈ serialSteps Sample.host (runAlone Sample.host Sample.book Sample.db).1
      [Sample.deliver 1 "payment.captured", Sample.deliver 2 "payment.failed"],
      (s.before.payments.find? Sample.paymentId).map (·.status) = some .success ∧
      (s.after.payments.find? Sample.paymentId).map (·.status) = some .failed := by
    decide +kernel
  obtain ⟨s, hs, hbefore, hafter⟩ := hsteps
  obtain ⟨p, hp, hsuccess⟩ := Option.map_eq_some_iff.mp hbefore
  obtain ⟨p', hp', hfailed⟩ := Option.map_eq_some_iff.mp hafter
  refine ⟨s, hs, fun hconform => ?_⟩
  have hmem := hconform _ p p' hp hp' (by rw [hsuccess, hfailed]; decide)
  rw [hsuccess, hfailed] at hmem
  exact absurd hmem (by decide)

end ServiceHub
