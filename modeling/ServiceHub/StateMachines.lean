/-
# `StateMachines` — the tables of allowed status changes

`domain/booking-state-machine.ts` and `domain/payment-state-machine.ts`.  The
two differ in one point: a payment may also stay as it is.
-/
import ServiceHub.Schema

namespace ServiceHub

/-- `VALID_BOOKING_TRANSITIONS`. -/
def validBookingTransitions : BookingStatus → List BookingStatus
  | .pendingPayment => [.confirmed, .paymentFailed, .cancelled, .expired]
  | .confirmed => [.completed, .cancelled]
  | .paymentFailed => [.pendingPayment, .expired]
  | .completed => []
  | .cancelled => []
  | .expired => []

/-- The status has to change. -/
def canTransitionBooking (current next : BookingStatus) : Bool :=
  decide (next ∈ validBookingTransitions current)

/-- `VALID_PAYMENT_TRANSITIONS`. -/
def validPaymentTransitions : PaymentStatus → List PaymentStatus
  | .created => [.pending, .success, .failed]
  | .pending => [.success, .failed]
  | .success => [.refunded]
  | .failed => []
  | .refunded => []

/-- A payment may also stay as it is. -/
def canTransitionPayment (current next : PaymentStatus) : Bool :=
  decide (current = next) || decide (next ∈ validPaymentTransitions current)

/-- No change leads out of the status. -/
def BookingStatus.terminal (s : BookingStatus) : Prop := validBookingTransitions s = []

instance (s : BookingStatus) : Decidable s.terminal :=
  decidable_of_iff (validBookingTransitions s = []) Iff.rfl

end ServiceHub
