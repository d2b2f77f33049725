/-
# `Schema` — the rows of the database

The models of `prisma/schema.prisma` that bookings and payments live in, with
the columns that some modelled function reads or writes.

**Column types.**

| | |
| :-- | :-- |
| `Uuid` | a text; only equality is ever asked of it |
| `Decimal(10, 2)` | a rational number |
| `DateTime` | `Time`, milliseconds since the epoch |
| `Date` | the number of days since the epoch |
| `Time(0)` | the number of seconds since midnight, at most 86400 |
| `Json` | `Json` |

`Time(0)` rounds to the nearest second, so that 23:59:59.5 is stored as
24:00:00 (`timeColumn`).

The bounds that the DTOs put on a provider's offering and schedule are carried
by the rows themselves: an offering lasts at least one minute, a working window
is written `HH:mm` (`isHHmm`), which ends a day at 23:59.
-/
import ServiceHub.Data.Calendar
import ServiceHub.Data.Json
import Mathlib.Data.Rat.Defs

namespace ServiceHub

open Data

/-- What `@db.Uuid` columns hold. -/
abbrev Uuid : Type := String

/-! ## Enumerations -/

inductive Role where
  | user | admin
  deriving DecidableEq, Repr

/-- A provider is listed, and can be booked, only while its user is `ACTIVE`. -/
inductive UserStatus where
  | active | inactive | blocked | suspended
  deriving DecidableEq, Repr

/-- Where a service is rendered; a booking keeps a copy. -/
inductive ServiceMode where
  | atCustomerLocation | atProviderLocation | online
  deriving DecidableEq, Repr

/-- Of a provider profile, and of each of its documents. -/
inductive VerificationStatus where
  | pending | verified | rejected | suspended
  deriving DecidableEq, Repr

/-- The states of `validBookingTransitions`. -/
inductive BookingStatus where
  | pendingPayment | paymentFailed | confirmed | completed | cancelled | expired
  deriving DecidableEq, Repr

inductive PaymentGateway where
  | razorpay
  deriving DecidableEq, Repr

/-- The states of `validPaymentTransitions`. -/
inductive PaymentStatus where
  | created | pending | success | failed | refunded
  deriving DecidableEq, Repr

/-- What an audit row records. -/
inductive AuditAction where
  | bookingCreated | bookingConfirmed | bookingCancelled | bookingCompleted
  | bookingFlaggedOverdue | paymentSuccess | paymentFailed | paymentRefunded
  | userSuspended | userStatusUpdated
  | providerVerified | providerSuspended | providerRejected
  deriving DecidableEq, Repr

inductive NotificationType where
  | bookingConfirmed | bookingCancelled | paymentSuccess | paymentFailed | reminder | reviewRequest
  deriving DecidableEq

inductive NotificationChannel where
  | email | sms | push
  deriving DecidableEq

/-- A notification is `PENDING` until its job has been processed. -/
inductive NotificationStatus where
  | pending | sent | failed
  deriving DecidableEq

instance : ToString UserStatus where
  toString
    | .active => "ACTIVE"
    | .inactive => "INACTIVE"
    | .blocked => "BLOCKED"
    | .suspended => "SUSPENDED"

instance : ToString VerificationStatus where
  toString
    | .pending => "PENDING"
    | .verified => "VERIFIED"
    | .rejected => "REJECTED"
    | .suspended => "SUSPENDED"

instance : ToString BookingStatus where
  toString
    | .pendingPayment => "PENDING_PAYMENT"
    | .paymentFailed => "PAYMENT_FAILED"
    | .confirmed => "CONFIRMED"
    | .completed => "COMPLETED"
    | .cancelled => "CANCELLED"
    | .expired => "EXPIRED"

instance : ToString PaymentStatus where
  toString
    | .created => "CREATED"
    | .pending => "PENDING"
    | .success => "SUCCESS"
    | .failed => "FAILED"
    | .refunded => "REFUNDED"

/-! ## Users, providers and what they offer -/

/-- The table `users`; `email` and `phone` are unique. -/
structure User where
  id : Uuid
  email : String
  passwordHash : String
  firstName : String
  lastName : String
  phone : String
  role : Role
  refreshTokenHash : Option String
  status : UserStatus
  lastLoginAt : Option Time
  createdAt : Time

/-- The table `provider_profiles`, as far as a booking reads it. -/
structure ProviderProfile where
  id : Uuid
  userId : Uuid
  businessName : String
  verificationStatus : VerificationStatus
  averageRating : ℚ
  totalReviews : Nat

/-- The table `services`, as far as a booking copies it. -/
structure Service where
  id : Uuid
  name : String
  serviceMode : ServiceMode

/-- `CreateProviderServiceDto` asks for `durationMinutes >= 1` and
`bufferMinutes >= 0`. -/
structure ProviderService where
  id : Uuid
  providerId : Uuid
  serviceId : Uuid
  price : ℚ
  currency : String
  durationMinutes : Nat
  bufferMinutes : Nat
  isActive : Bool
  durationMinutes_pos : 1 ≤ durationMinutes

/-- `/^([0-1]?[0-9]|2[0-3]):[0-5][0-9]$/`, the pattern of
`AvailabityIntervalDto`. -/
def isHHmm (s : String) : Bool :=
  match s.toList with
  | [h, ':', m₁, m₂] => h.isDigit && ('0' ≤ m₁ && m₁ ≤ '5') && m₂.isDigit
  | [h₁, h₂, ':', m₁, m₂] =>
      (('0' ≤ h₁ && h₁ ≤ '1' && h₂.isDigit) || (h₁ == '2' && '0' ≤ h₂ && h₂ ≤ '3')) &&
        ('0' ≤ m₁ && m₁ ≤ '5') && m₂.isDigit
  | _ => false

/-- A working window of one weekday, 0 being Sunday. -/
structure Availability where
  id : Uuid
  providerId : Uuid
  weekday : Nat
  startTime : String
  endTime : String
  isAvailable : Bool
  startTime_valid : isHHmm startTime = true
  endTime_valid : isHHmm endTime = true

/-! ## Bookings, payments, webhook events, audit rows -/

/-- The table `bookings`. What was offered is copied at the time of the booking,
so that a later change of the offering or of the profile does not show in it. -/
structure Booking where
  id : Uuid
  customerId : Uuid
  providerId : Uuid
  providerServiceId : Uuid
  bookingDate : Int
  startTime : Int
  endTime : Int
  bookingStatus : BookingStatus
  bookedPrice : ℚ
  bookedDuration : Nat
  bookedServiceMode : ServiceMode
  serviceName : String
  providerBusinessName : String
  customerNotes : Option String
  cancellationReason : Option String
  cancelledAt : Option Time
  completedAt : Option Time
  overdueAt : Option Time
  needsReview : Bool
  createdAt : Time

/-- The table `payments`: one order at the gateway. `gatewayOrderId` and
`gatewayPaymentId` are unique. -/
structure Payment where
  id : Uuid
  bookingId : Uuid
  gateway : PaymentGateway
  gatewayOrderId : String
  gatewayPaymentId : Option String
  gatewaySignature : Option String
  amount : ℚ
  currency : String
  status : PaymentStatus
  paidAt : Option Time
  refundedAt : Option Time
  createdAt : Time

/-- The table `payment_webhook_events`; of one gateway, `eventId` is unique. -/
structure PaymentWebhookEvent where
  id : Uuid
  gateway : PaymentGateway
  eventId : String
  eventType : String
  payload : Json
  processedAt : Option Time
  createdAt : Time

/-- The table `audit_logs`; `actorUserId` is empty where the system acts. -/
structure AuditLog where
  id : Uuid
  actorUserId : Option Uuid
  entityType : String
  entityId : Uuid
  action : AuditAction
  oldValue : Option Json
  newValue : Option Json
  createdAt : Time

/-- What a `Date` becomes in a `Time(0)` column. -/
def timeColumn (t : Time) : Int := (t.msOfDay + 500) / 1000

/-- What a `Date` becomes in a `Date` column. -/
def dateColumn (t : Time) : Int := t.utcDay

end ServiceHub
