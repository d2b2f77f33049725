/-
# `Database` — the tables, and the statements the repositories issue

The PostgreSQL database behind Prisma, as an instance of `Txn.Database`.  One
statement is one query of a repository; the relations that a query includes and
its caller reads are part of the answer where they are read only (`provider`,
`user`, `service`), and a statement of their own where they change (the booking
of a payment).

**Constraints.**  A row is stored only if

    its texts fit their columns                                        (P2000)
    the rows it refers to exist                                        (P2003)
    no other row has its gateway order id, gateway payment id, or
    its gateway and event id                                           (P2002)
    no other active booking of its provider overlaps it                (23P01)

The last one is `no_provider_booking_overlap`: it compares
`tsrange(bookingDate + startTime, bookingDate + endTime)` of the rows in
PENDING_PAYMENT or CONFIRMED.  Row ids are generated at random; a clash of two
is a failure of the statement like a lost connection.

**Waiting.**  A statement waits while another transaction has an uncommitted
version of a row it would write, or one that its own row would violate a
constraint with.

`createdAt` of a payment is read back (`findByBookingId`), the one of other
rows is only stored; `updatedAt` is read by no modelled function and left out.
-/
import ServiceHub.Schema
import ServiceHub.Data.Table
import ServiceHub.Txn.Store
import Mathlib.Data.List.MinMax
import Mathlib.Data.List.Sort

namespace ServiceHub

open Data

/-! ## Errors -/

/-- What a call may throw: the HTTP exceptions of NestJS, Prisma's known and
validation errors, an error of the database driver, and errors of the runtime,
the payment gateway, the queues and the connection. -/
inductive Exn where
  | notFound (message : String)
  | badRequest (message : String)
  | unauthorized (message : String)
  | forbidden (message : String)
  | conflict (message : String)
  | knownRequest (code message : String)
  | validation (message : String)
  | driver (code message : String)
  | typeError (message : String)
  | gateway (message : String)
  | queue (message : String)
  | failure (message : String)
  deriving DecidableEq

/-- `error?.code`. -/
def Exn.code : Exn → Option String
  | .knownRequest code _ => some code
  | .driver code _ => some code
  | _ => none

/-- `error?.message`. -/
def Exn.message : Exn → String
  | .notFound m | .badRequest m | .unauthorized m | .forbidden m | .conflict m => m
  | .knownRequest _ m | .driver _ m => m
  | .validation m | .typeError m | .gateway m | .queue m | .failure m => m

/-- `error instanceof PrismaClientKnownRequestError && error.code === "P2002"`,
the error of a unique index. -/
def Exn.isDuplicate : Exn → Bool
  | .knownRequest code _ => code == "P2002"
  | _ => false

/-! ## Rows and tables -/

/-- The tables. -/
structure Db where
  users : Table User Uuid User.id
  providers : Table ProviderProfile Uuid ProviderProfile.id
  services : Table Service Uuid Service.id
  providerServices : Table ProviderService Uuid ProviderService.id
  availability : Table Availability Uuid Availability.id
  bookings : Table Booking Uuid Booking.id
  payments : Table Payment Uuid Payment.id
  paymentWebhookEvents : Table PaymentWebhookEvent Uuid PaymentWebhookEvent.id
  auditLogs : Table AuditLog Uuid AuditLog.id

/-- A row of a table that is written. -/
inductive Row where
  | booking (b : Booking)
  | payment (p : Payment)
  | event (e : PaymentWebhookEvent)
  | audit (a : AuditLog)

inductive Key where
  | booking (id : Uuid)
  | payment (id : Uuid)
  | event (id : Uuid)
  | audit (id : Uuid)
  deriving DecidableEq

def Row.key : Row → Key
  | .booking b => .booking b.id
  | .payment p => .payment p.id
  | .event e => .event e.id
  | .audit a => .audit a.id

namespace Db

def get (db : Db) : Key → Option Row
  | .booking id => (db.bookings.find? id).map .booking
  | .payment id => (db.payments.find? id).map .payment
  | .event id => (db.paymentWebhookEvents.find? id).map .event
  | .audit id => (db.auditLogs.find? id).map .audit

def put (db : Db) : Row → Db
  | .booking b => { db with bookings := db.bookings.put b }
  | .payment p => { db with payments := db.payments.put p }
  | .event e => { db with paymentWebhookEvents := db.paymentWebhookEvents.put e }
  | .audit a => { db with auditLogs := db.auditLogs.put a }

/-- The rows of the table that a row belongs to. -/
def siblings (db : Db) : Row → List Row
  | .booking _ => db.bookings.rows.map .booking
  | .payment _ => db.payments.rows.map .payment
  | .event _ => db.paymentWebhookEvents.rows.map .event
  | .audit _ => db.auditLogs.rows.map .audit

end Db

/-! ## Constraints -/

/-- The predicate of the exclusion constraint. -/
def Booking.active (b : Booking) : Bool :=
  b.bookingStatus == .pendingPayment || b.bookingStatus == .confirmed

/-- `bookingDate + startTime` and `bookingDate + endTime`, in seconds. -/
def Booking.lower (b : Booking) : Int := b.bookingDate * 86400 + b.startTime
def Booking.upper (b : Booking) : Int := b.bookingDate * 86400 + b.endTime

/-- `tsrange(a, b) && tsrange(c, d)`; a range without a point overlaps none. -/
def rangesOverlap (a b c d : Int) : Bool :=
  decide (a < b) && decide (c < d) && decide (a < d) && decide (c < b)

/-- Two rows that a unique index or the exclusion constraint keeps apart. -/
def clash : Row → Row → Bool
  | .booking b, .booking c =>
      b.active && c.active && b.providerId == c.providerId &&
        rangesOverlap b.lower b.upper c.lower c.upper
  | .payment p, .payment q =>
      p.gatewayOrderId == q.gatewayOrderId ||
        (p.gatewayPaymentId.isSome && p.gatewayPaymentId == q.gatewayPaymentId)
  | .event e, .event f => e.gateway == f.gateway && e.eventId == f.eventId
  | _, _ => false

/-- The error that keeps a row out because of a `clash`. -/
def clashError : Row → Exn
  | .booking _ => .driver "23P01"
      "conflicting key value violates exclusion constraint \"no_provider_booking_overlap\""
  | _ => .knownRequest "P2002" "Unique constraint failed"

def tooLong (width : Nat) (s : String) : Bool := decide (width < s.length)

/-- Some text of the row is wider than its column. -/
def Row.tooLong : Row → Bool
  | .booking b => ServiceHub.tooLong 150 b.serviceName ||
      ServiceHub.tooLong 150 b.providerBusinessName
  | .payment p => ServiceHub.tooLong 255 p.gatewayOrderId ||
      p.gatewayPaymentId.any (ServiceHub.tooLong 255)
  | .event e => ServiceHub.tooLong 255 e.eventId || ServiceHub.tooLong 100 e.eventType
  | .audit _ => false

/-- The range of the exclusion constraint cannot be built. -/
def Row.inverted : Row → Bool
  | .booking b => b.active && decide (b.upper < b.lower)
  | _ => false

namespace Db

/-- Some row that the row refers to does not exist. -/
def dangling (db : Db) : Row → Bool
  | .booking b => (db.users.find? b.customerId).isNone ||
      (db.providers.find? b.providerId).isNone ||
      (db.providerServices.find? b.providerServiceId).isNone
  | .payment p => (db.bookings.find? p.bookingId).isNone
  | .event _ => false
  | .audit a => a.actorUserId.any fun id => (db.users.find? id).isNone

/-- Another row of the table clashes with the row. -/
def clashes (db : Db) (r : Row) : Bool :=
  (db.siblings r).any fun o => decide (o.key ≠ r.key) && clash r o

/-- Why a row cannot be stored, inserted or updated. -/
def refusal (db : Db) (r : Row) : Option Exn :=
  if r.tooLong then
    some (.knownRequest "P2000" "The provided value for the column is too long for the column's type")
  else if r.inverted then
    some (.driver "22000" "range lower bound must be less than or equal to range upper bound")
  else if db.clashes r then some (clashError r)
  else none

/-- INSERT. -/
def insert {α : Type} (db : Db) (r : Row) (answer : α) : Except Exn α :=
  if (db.get r.key).isSome then .error (.failure "id already taken")
  else if db.dangling r then .error (.knownRequest "P2003" "Foreign key constraint violated")
  else match db.refusal r with
    | some e => .error e
    | none => .ok answer

/-- UPDATE of the row under an id; `old` is what was found there. -/
def update {R : Type} (db : Db) (row : R → Row) (f : R → R) (old : Option R) : Except Exn R :=
  match old with
  | none => .error (.knownRequest "P2025" "No record was found for an update")
  | some r =>
      match db.refusal (row (f r)) with
      | some e => .error e
      | none => .ok (f r)

/-- UPDATE of the rows that meet a condition. -/
def updateAll {R : Type} (db : Db) (row : R → Row) (f : R → R) (old : List R) :
    Except Exn (List R) :=
  match (old.map f).findSome? fun r => db.refusal (row r) with
  | some e => .error e
  | none => .ok (old.map f)

end Db

/-! ## Statements -/

/-- The columns of a booking that some update sets. -/
structure BookingUpdate where
  bookingStatus : Option BookingStatus := none
  cancellationReason : Option String := none
  cancelledAt : Option Time := none
  completedAt : Option Time := none
  needsReview : Option Bool := none
  overdueAt : Option Time := none

def BookingUpdate.on (data : BookingUpdate) (b : Booking) : Booking :=
  { b with
    bookingStatus := data.bookingStatus.getD b.bookingStatus
    cancellationReason := data.cancellationReason.or b.cancellationReason
    cancelledAt := data.cancelledAt.or b.cancelledAt
    completedAt := data.completedAt.or b.completedAt
    needsReview := data.needsReview.getD b.needsReview
    overdueAt := data.overdueAt.or b.overdueAt }

structure BookingWhere where
  id : Uuid
  bookingStatus : BookingStatus
  needsReview : Option Bool := none

def BookingWhere.test (w : BookingWhere) (b : Booking) : Bool :=
  b.id == w.id && b.bookingStatus == w.bookingStatus && w.needsReview.all (b.needsReview == ·)

/-- The columns of a payment that some update sets. -/
structure PaymentUpdate where
  status : PaymentStatus
  gatewayPaymentId : Option (Option String) := none
  gatewaySignature : Option String := none
  paidAt : Option Time := none
  refundedAt : Option Time := none

def PaymentUpdate.on (data : PaymentUpdate) (p : Payment) : Payment :=
  { p with
    status := data.status
    gatewayPaymentId := data.gatewayPaymentId.getD p.gatewayPaymentId
    gatewaySignature := data.gatewaySignature.or p.gatewaySignature
    paidAt := data.paidAt.or p.paidAt
    refundedAt := data.refundedAt.or p.refundedAt }

structure PaymentWhere where
  bookingId : Uuid
  status : List PaymentStatus

def PaymentWhere.test (w : PaymentWhere) (p : Payment) : Bool :=
  p.bookingId == w.bookingId && decide (p.status ∈ w.status)

def PaymentWebhookEvent.processed (t : Time) (e : PaymentWebhookEvent) : PaymentWebhookEvent :=
  { e with processedAt := some t }

/-- A provider with its user. -/
structure ProviderWithUser extends ProviderProfile where
  user : Option User

/-- An offering with its provider and its service. -/
structure ProviderServiceFull extends ProviderService where
  provider : Option ProviderWithUser
  service : Option Service

inductive Stmt where
  | findProviderService (id : Uuid)
  | findAvailability (providerId : Uuid)
  | findProvider (id : Uuid)
  | findBooking (id : Uuid)
  | createBooking (b : Booking)
  | updateBooking (id : Uuid) (data : BookingUpdate)
  | updateBookings (where_ : BookingWhere) (data : BookingUpdate)
  | findPayment (id : Uuid)
  | findPaymentByOrder (gatewayOrderId : String)
  | findPaymentByBooking (bookingId : Uuid)
  | createPayment (p : Payment)
  | updatePayment (id : Uuid) (data : PaymentUpdate)
  | updatePayments (where_ : PaymentWhere) (data : PaymentUpdate)
  | findEvent (gateway : PaymentGateway) (eventId : String)
  | createEvent (e : PaymentWebhookEvent)
  | updateEvent (id : Uuid) (processedAt : Time)
  | createAudit (a : AuditLog)

/-- What a statement answers: the row found or written, or all rows written. -/
abbrev Ans : Stmt → Type
  | .findProviderService _ => Option ProviderServiceFull
  | .findAvailability _ => List Availability
  | .findProvider _ => Option ProviderProfile
  | .findBooking _ => Option Booking
  | .createBooking _ => Booking
  | .updateBooking _ _ => Booking
  | .updateBookings _ _ => List Booking
  | .findPayment _ => Option Payment
  | .findPaymentByOrder _ => Option Payment
  | .findPaymentByBooking _ => Option Payment
  | .createPayment _ => Payment
  | .updatePayment _ _ => Payment
  | .updatePayments _ _ => List Payment
  | .findEvent _ _ => Option PaymentWebhookEvent
  | .createEvent _ => PaymentWebhookEvent
  | .updateEvent _ _ => PaymentWebhookEvent
  | .createAudit _ => AuditLog

namespace Db

def providerWithUser (db : Db) (id : Uuid) : Option ProviderWithUser :=
  (db.providers.find? id).map fun p => ⟨p, db.users.find? p.userId⟩

def providerServiceFull (db : Db) (id : Uuid) : Option ProviderServiceFull :=
  (db.providerServices.find? id).map fun ps =>
    ⟨ps, db.providerWithUser ps.providerId, db.services.find? ps.serviceId⟩

/-- `orderBy: [{ weekday: "asc" }, { startTime: "asc" }]`. -/
def schedule (db : Db) (providerId : Uuid) : List Availability :=
  (db.availability.rows.filter (·.providerId == providerId)).insertionSort fun a b =>
    a.weekday < b.weekday ∨ a.weekday = b.weekday ∧ ¬ b.startTime < a.startTime

/-- `orderBy: { createdAt: "desc" }`, the first. -/
def latestPayment (db : Db) (bookingId : Uuid) : Option Payment :=
  letI : Preorder Int := Int.instLinearOrder.toPreorder
  (db.payments.rows.filter (·.bookingId == bookingId)).argmax (·.createdAt)

def paymentByOrder (db : Db) (gatewayOrderId : String) : Option Payment :=
  db.payments.rows.find? (·.gatewayOrderId == gatewayOrderId)

def eventById (db : Db) (gateway : PaymentGateway) (eventId : String) :
    Option PaymentWebhookEvent :=
  db.paymentWebhookEvents.rows.find? fun e => e.gateway == gateway && e.eventId == eventId

def exec : (s : Stmt) → Db → Except Exn (Ans s)
  | .findProviderService id, db => .ok (db.providerServiceFull id)
  | .findAvailability providerId, db => .ok (db.schedule providerId)
  | .findProvider id, db => .ok (db.providers.find? id)
  | .findBooking id, db => .ok (db.bookings.find? id)
  | .createBooking b, db => db.insert (.booking b) b
  | .updateBooking id data, db => db.update .booking data.on (db.bookings.find? id)
  | .updateBookings w data, db =>
      db.updateAll .booking data.on (db.bookings.rows.filter w.test)
  | .findPayment id, db => .ok (db.payments.find? id)
  | .findPaymentByOrder orderId, db => .ok (db.paymentByOrder orderId)
  | .findPaymentByBooking bookingId, db => .ok (db.latestPayment bookingId)
  | .createPayment p, db => db.insert (.payment p) p
  | .updatePayment id data, db => db.update .payment data.on (db.payments.find? id)
  | .updatePayments w data, db =>
      db.updateAll .payment data.on (db.payments.rows.filter w.test)
  | .findEvent gateway eventId, db => .ok (db.eventById gateway eventId)
  | .createEvent e, db => db.insert (.event e) e
  | .updateEvent id t, db =>
      db.update .event (·.processed t) (db.paymentWebhookEvents.find? id)
  | .createAudit a, db => db.insert (.audit a) a

end Db

/-- The rows that a statement wrote. -/
def Stmt.written : (s : Stmt) → Ans s → List Row
  | .createBooking _, b => [.booking b]
  | .updateBooking _ _, b => [.booking b]
  | .updateBookings _ _, bs => bs.map .booking
  | .createPayment _, p => [.payment p]
  | .updatePayment _ _, p => [.payment p]
  | .updatePayments _ _, ps => ps.map .payment
  | .createEvent _, e => [.event e]
  | .updateEvent _ _, e => [.event e]
  | .createAudit _, a => [.audit a]
  | _, _ => []

/-- Another transaction has an uncommitted version of the row, of one that
clashes with it, or of a row whose committed version clashes with it. -/
def Db.mustWait (db : Db) (others : List Row) (r : Row) : Bool :=
  others.any (fun o => decide (o.key = r.key) || clash r o) ||
    (db.siblings r).any fun o => clash r o && others.any fun x => decide (x.key = o.key)

/-- The rows that a statement would write. -/
def Stmt.targets (db : Db) : Stmt → List Row
  | .createBooking b => [.booking b]
  | .updateBooking id data => ((db.bookings.find? id).map fun b => Row.booking (data.on b)).toList
  | .updateBookings w data =>
      (db.bookings.rows.filter w.test).map fun b => Row.booking (data.on b)
  | .createPayment p => [.payment p]
  | .updatePayment id data => ((db.payments.find? id).map fun p => Row.payment (data.on p)).toList
  | .updatePayments w data =>
      (db.payments.rows.filter w.test).map fun p => Row.payment (data.on p)
  | .createEvent e => [.event e]
  | .updateEvent id t =>
      ((db.paymentWebhookEvents.find? id).map fun e => Row.event (e.processed t)).toList
  | .createAudit a => [.audit a]
  | _ => []

instance : Txn.Database Db Row Key Stmt Exn Ans where
  key := Row.key
  get := Db.get
  put := Db.put
  exec := Db.exec
  written := Stmt.written
  waits s db others := (s.targets db).any (db.mustWait others)

/-! ## What a statement did -/

namespace Db

variable {db : Db} {r : Row}

theorem insert_ok {α : Type} {a a' : α} (h : db.insert r a = .ok a') :
    a' = a ∧ db.get r.key = none ∧ db.dangling r = false ∧ db.refusal r = none := by
  unfold insert at h
  split at h
  · cases h
  · rename_i hkey
    split at h
    · cases h
    · rename_i hdangling
      split at h
      · cases h
      · rename_i href
        cases h
        exact ⟨rfl, by simpa using hkey, by simpa using hdangling, href⟩

theorem insert_of_refusal {α : Type} {a : α} (hkey : db.get r.key = none)
    (hdangling : db.dangling r = false) (href : db.refusal r = none) :
    db.insert r a = .ok a := by
  simp [insert, hkey, hdangling, href]

theorem update_ok {R : Type} {row : R → Row} {f : R → R} {old : Option R} {x : R}
    (h : db.update row f old = .ok x) :
    ∃ y, old = some y ∧ x = f y ∧ db.refusal (row (f y)) = none := by
  unfold update at h
  split at h
  · cases h
  · rename_i y
    split at h
    · cases h
    · rename_i href
      cases h
      exact ⟨y, rfl, rfl, href⟩

theorem updateAll_ok {R : Type} {row : R → Row} {f : R → R} {old xs : List R}
    (h : db.updateAll row f old = .ok xs) :
    xs = old.map f ∧ ∀ x ∈ xs, db.refusal (row x) = none := by
  unfold updateAll at h
  split at h
  · cases h
  · rename_i href
    cases h
    exact ⟨rfl, List.findSome?_eq_none_iff.mp href⟩

theorem clashes_of_refusal (h : db.refusal r = none) : db.clashes r = false := by
  unfold refusal at h
  split at h
  · cases h
  · split at h
    · cases h
    · split at h
      · cases h
      · rename_i hc
        simpa using hc

end Db

theorem clash_comm (r o : Row) : clash r o = clash o r := by
  cases r <;> cases o <;> simp only [clash]
  · rename_i b c
    rw [Bool.eq_iff_iff]
    simp only [rangesOverlap, Bool.and_eq_true, decide_eq_true_eq, beq_iff_eq]
    constructor
    · rintro ⟨⟨⟨hb, hc⟩, hp⟩, ⟨⟨h₁, h₂⟩, h₃⟩, h₄⟩
      exact ⟨⟨⟨hc, hb⟩, hp.symm⟩, ⟨⟨h₂, h₁⟩, h₄⟩, h₃⟩
    · rintro ⟨⟨⟨hc, hb⟩, hp⟩, ⟨⟨h₂, h₁⟩, h₄⟩, h₃⟩
      exact ⟨⟨⟨hb, hc⟩, hp.symm⟩, ⟨⟨h₁, h₂⟩, h₃⟩, h₄⟩
  · rename_i p q
    rw [Bool.eq_iff_iff]
    simp only [Bool.or_eq_true, Bool.and_eq_true, beq_iff_eq]
    constructor
    · rintro (h | ⟨hs, h⟩)
      · exact Or.inl h.symm
      · exact Or.inr ⟨h ▸ hs, h.symm⟩
    · rintro (h | ⟨hs, h⟩)
      · exact Or.inl h.symm
      · exact Or.inr ⟨h ▸ hs, h.symm⟩
  · rename_i e f
    rw [Bool.eq_iff_iff]
    simp only [Bool.and_eq_true, beq_iff_eq]
    exact and_congr Iff.rfl eq_comm

namespace Db

variable {db : Db} {r : Row} {e : Exn}

theorem clashes_of_duplicate (h : db.refusal r = some e) (he : e.isDuplicate) :
    db.clashes r = true ∧ clashError r = e := by
  unfold refusal at h
  split at h
  · cases h
    exact absurd he (by decide)
  · split at h
    · cases h
      exact absurd he (by decide)
    · split at h
      · rename_i hc
        exact ⟨hc, Option.some.inj h⟩
      · cases h

theorem insert_duplicate {α : Type} {a : α} (h : db.insert r a = .error e) (he : e.isDuplicate) :
    db.clashes r = true ∧ clashError r = e := by
  unfold insert at h
  split at h
  · cases h
    exact absurd he (by decide)
  · split at h
    · cases h
      exact absurd he (by decide)
    · split at h
      · rename_i href
        cases h
        exact clashes_of_duplicate href he
      · cases h

theorem update_duplicate {R : Type} {row : R → Row} {f : R → R} {old : Option R}
    (h : db.update row f old = .error e) (he : e.isDuplicate) :
    ∃ x, old = some x ∧ db.clashes (row (f x)) = true ∧ clashError (row (f x)) = e := by
  unfold update at h
  split at h
  · cases h
    exact absurd he (by decide)
  · rename_i x
    split at h
    · rename_i href
      cases h
      exact ⟨x, rfl, clashes_of_duplicate href he⟩
    · cases h

theorem clashes_payment_congr {db' : Db} (h : db'.payments = db.payments) (p : Payment) :
    db'.clashes (.payment p) = db.clashes (.payment p) := by
  simp only [clashes, siblings, h]

theorem clashes_event_congr {db' : Db} (h : db'.paymentWebhookEvents = db.paymentWebhookEvents)
    (x : PaymentWebhookEvent) : db'.clashes (.event x) = db.clashes (.event x) := by
  simp only [clashes, siblings, h]

/-- An event that could be recorded was not recorded before. -/
theorem eventById_of_insert {α : Type} {a a' : α} {x : PaymentWebhookEvent}
    (h : db.insert (.event x) a = .ok a') : db.eventById x.gateway x.eventId = none := by
  obtain ⟨_, hkey, _, href⟩ := insert_ok h
  refine List.find?_eq_none.mpr fun y hy hsame => ?_
  have hid : y.id ≠ x.id := by
    intro hid
    have hfind : db.paymentWebhookEvents.find? x.id = some y := hid ▸ Table.find?_of_mem hy
    simp [get, Row.key, hfind] at hkey
  have hclash : db.clashes (.event x) = true := by
    refine List.any_eq_true.mpr ⟨.event y, List.mem_map.mpr ⟨y, hy, rfl⟩, ?_⟩
    rw [clash_comm]
    simpa [Row.key, hid, clash] using hsame
  rw [clashes_of_refusal href] at hclash
  cases hclash

/-- Audit rows are only ever added. -/
theorem find?_audit_of_insert {α : Type} {a a' : α} {x : AuditLog}
    (h : db.insert (.audit x) a = .ok a') : db.auditLogs.find? x.id = none := by
  obtain ⟨_, hkey, _⟩ := insert_ok h
  exact Option.map_eq_none_iff.mp hkey

/-- A recorded event clashes with nothing when it is marked as processed. -/
theorem clashes_event_processed {x : PaymentWebhookEvent} {t : Time}
    (h : db.clashes (.event x) = false) :
    (db.put (.event x)).clashes (.event (x.processed t)) = false := by
  refine List.any_eq_false.mpr fun o ho => ?_
  obtain ⟨y, hy, rfl⟩ := List.mem_map.mp ho
  rcases Table.mem_put.mp hy with rfl | ⟨hy, _⟩
  · simp [Row.key, PaymentWebhookEvent.processed]
  · exact List.any_eq_false.mp h (.event y) (List.mem_map.mpr ⟨y, hy, rfl⟩)

/-- Audit rows are under no constraint but their id. -/
theorem clashes_audit (a : AuditLog) : db.clashes (.audit a) = false := by
  refine List.any_eq_false.mpr fun o _ => ?_
  cases o <;> simp [clash]

theorem clashes_event {x : PaymentWebhookEvent} (h : db.clashes (.event x) = true) :
    ∃ y, db.eventById x.gateway x.eventId = some y := by
  obtain ⟨o, ho, hclash⟩ := List.any_eq_true.mp h
  obtain ⟨y, hy, rfl⟩ := List.mem_map.mp ho
  have hsame : (y.gateway == x.gateway && y.eventId == x.eventId) = true := by
    have hsym := (Bool.and_eq_true_iff.mp hclash).2
    rwa [clash_comm] at hsym
  cases hfind : db.eventById x.gateway x.eventId with
  | some z => exact ⟨z, rfl⟩
  | none => exact absurd hsame (List.find?_eq_none.mp hfind y hy)

end Db

/-- The rows written are the rows it was to write, and none was refused. -/
theorem Stmt.written_spec {s : Stmt} {db : Db} {a : Ans s} (h : db.exec s = .ok a) :
    ∀ r ∈ s.written a, r ∈ s.targets db ∧ db.refusal r = none := by
  cases s <;> simp only [Stmt.written] <;>
    try exact fun r hr => absurd hr List.not_mem_nil
  case createBooking b =>
    obtain ⟨ha, _, _, href⟩ := Db.insert_ok h
    simp [Stmt.targets, ha, href]
  case updateBooking id data =>
    obtain ⟨y, hy, ha, href⟩ := Db.update_ok h
    simp [Stmt.targets, hy, ha, href]
  case updateBookings w data =>
    obtain ⟨rfl, href⟩ := Db.updateAll_ok h
    intro r hr
    obtain ⟨x, hx, rfl⟩ := List.mem_map.mp hr
    refine ⟨?_, href x hx⟩
    obtain ⟨y, hy, rfl⟩ := List.mem_map.mp hx
    exact List.mem_map.mpr ⟨y, hy, rfl⟩
  case createPayment p =>
    obtain ⟨ha, _, _, href⟩ := Db.insert_ok h
    simp [Stmt.targets, ha, href]
  case updatePayment id data =>
    obtain ⟨y, hy, ha, href⟩ := Db.update_ok h
    simp [Stmt.targets, hy, ha, href]
  case updatePayments w data =>
    obtain ⟨rfl, href⟩ := Db.updateAll_ok h
    intro r hr
    obtain ⟨x, hx, rfl⟩ := List.mem_map.mp hr
    refine ⟨?_, href x hx⟩
    obtain ⟨y, hy, rfl⟩ := List.mem_map.mp hx
    exact List.mem_map.mpr ⟨y, hy, rfl⟩
  case createEvent e =>
    obtain ⟨ha, _, _, href⟩ := Db.insert_ok h
    simp [Stmt.targets, ha, href]
  case updateEvent id t =>
    obtain ⟨y, hy, ha, href⟩ := Db.update_ok h
    simp [Stmt.targets, hy, ha, href]
  case createAudit b =>
    obtain ⟨ha, _, _, href⟩ := Db.insert_ok h
    simp [Stmt.targets, ha, href]

/-- A statement that need not wait writes no row that another transaction holds
or that clashes with one it holds. -/
theorem Stmt.written_apart {s : Stmt} {db : Db} {others : List Row} {a : Ans s}
    (hwait : (s.targets db).any (db.mustWait others) = false) (h : db.exec s = .ok a) :
    ∀ r ∈ s.written a, ∀ o ∈ others, o.key ≠ r.key ∧ clash r o = false := by
  intro r hr o ho
  have hfree : db.mustWait others r = false := by
    simpa using List.any_eq_false.mp hwait r (Stmt.written_spec h r hr).1
  have hany : others.any (fun o => decide (o.key = r.key) || clash r o) = false := by
    unfold Db.mustWait at hfree
    exact (Bool.or_eq_false_iff.mp hfree).1
  have ho' := List.any_eq_false.mp hany o ho
  simpa using ho'

theorem Db.get_put (db : Db) (r : Row) (k : Key) :
    (db.put r).get k = if r.key = k then some r else db.get k := by
  cases r <;> cases k <;> simp only [Db.put, Db.get, Row.key, reduceCtorEq, if_false,
    Key.booking.injEq, Key.payment.injEq, Key.event.injEq, Key.audit.injEq, Table.find?_put] <;>
    split <;> rfl

instance : Txn.Lawful Db where
  get_put := Db.get_put
  apart s db others a hwait hex r hr o ho := (Stmt.written_apart hwait hex r hr o ho).1
  alone s db := by
    refine List.any_eq_false.mpr fun r _ => ?_
    simp [Db.mustWait]

/-! ## The tables after a write -/

namespace Db

variable (db : Db) (b : Booking) (p : Payment) (e : PaymentWebhookEvent) (a : AuditLog) (r : Row)

@[simp] theorem users_put : (db.put r).users = db.users := by cases r <;> rfl
@[simp] theorem providers_put : (db.put r).providers = db.providers := by cases r <;> rfl
@[simp] theorem services_put : (db.put r).services = db.services := by cases r <;> rfl
@[simp] theorem providerServices_put : (db.put r).providerServices = db.providerServices := by
  cases r <;> rfl
@[simp] theorem availability_put : (db.put r).availability = db.availability := by
  cases r <;> rfl

@[simp] theorem bookings_put_booking : (db.put (.booking b)).bookings = db.bookings.put b := rfl
@[simp] theorem bookings_put_payment : (db.put (.payment p)).bookings = db.bookings := rfl
@[simp] theorem bookings_put_event : (db.put (.event e)).bookings = db.bookings := rfl
@[simp] theorem bookings_put_audit : (db.put (.audit a)).bookings = db.bookings := rfl

@[simp] theorem payments_put_booking : (db.put (.booking b)).payments = db.payments := rfl
@[simp] theorem payments_put_payment : (db.put (.payment p)).payments = db.payments.put p := rfl
@[simp] theorem payments_put_event : (db.put (.event e)).payments = db.payments := rfl
@[simp] theorem payments_put_audit : (db.put (.audit a)).payments = db.payments := rfl

@[simp] theorem events_put_booking :
    (db.put (.booking b)).paymentWebhookEvents = db.paymentWebhookEvents := rfl
@[simp] theorem events_put_payment :
    (db.put (.payment p)).paymentWebhookEvents = db.paymentWebhookEvents := rfl
@[simp] theorem events_put_event :
    (db.put (.event e)).paymentWebhookEvents = db.paymentWebhookEvents.put e := rfl
@[simp] theorem events_put_audit :
    (db.put (.audit a)).paymentWebhookEvents = db.paymentWebhookEvents := rfl

@[simp] theorem auditLogs_put_booking : (db.put (.booking b)).auditLogs = db.auditLogs := rfl
@[simp] theorem auditLogs_put_payment : (db.put (.payment p)).auditLogs = db.auditLogs := rfl
@[simp] theorem auditLogs_put_event : (db.put (.event e)).auditLogs = db.auditLogs := rfl
@[simp] theorem auditLogs_put_audit : (db.put (.audit a)).auditLogs = db.auditLogs.put a := rfl

end Db

namespace Db

variable {db : Db}

theorem auditLogs_puts : ∀ {rows : List Row} (db : Db), (∀ a, Row.audit a ∉ rows) →
    (Txn.puts db rows).auditLogs = db.auditLogs
  | [], _, _ => rfl
  | r :: rows, db, h => by
      refine (auditLogs_puts (db.put r) fun a ha => h a (List.mem_cons_of_mem _ ha)).trans ?_
      cases r with
      | audit a => exact absurd List.mem_cons_self (h a)
      | _ => rfl

/-- **The audit log only grows**, whatever the statement. -/
theorem mem_auditLogs_of_exec {s : Stmt} {a : Ans s} {x : AuditLog} (hexec : db.exec s = .ok a)
    (hx : x ∈ db.auditLogs.rows) : x ∈ (Txn.puts db (s.written a)).auditLogs.rows := by
  cases s with
  | createAudit l =>
      have hl : a = l := (insert_ok hexec).1
      show x ∈ (db.put (.audit a)).auditLogs.rows
      rw [hl]
      refine Table.mem_put.mpr (Or.inr ⟨hx, fun hid => ?_⟩)
      have hfind := Table.find?_of_mem hx
      rw [hid, find?_audit_of_insert hexec] at hfind
      cases hfind
  | _ =>
      rw [auditLogs_puts]
      · exact hx
      · intro l hl
        simp [Stmt.written] at hl

end Db

@[simp] theorem BookingUpdate.id_on (data : BookingUpdate) (b : Booking) :
    (data.on b).id = b.id := rfl

@[simp] theorem PaymentUpdate.id_on (data : PaymentUpdate) (p : Payment) :
    (data.on p).id = p.id := rfl

@[simp] theorem PaymentUpdate.bookingId_on (data : PaymentUpdate) (p : Payment) :
    (data.on p).bookingId = p.bookingId := rfl

@[simp] theorem PaymentUpdate.status_on (data : PaymentUpdate) (p : Payment) :
    (data.on p).status = data.status := rfl

/-- After a write a booking is one of the rows written, or what it was. -/
theorem Db.find?_booking_puts (db : Db) (rows : List Row) (id : Uuid) :
    (∃ b, Row.booking b ∈ rows ∧ b.id = id ∧ (Txn.puts db rows).bookings.find? id = some b) ∨
    ((∀ b, Row.booking b ∈ rows → b.id ≠ id) ∧
      (Txn.puts db rows).bookings.find? id = db.bookings.find? id) := by
  have hget : ∀ db' : Db, Txn.Database.get db' (Key.booking id)
      = (db'.bookings.find? id).map Row.booking := fun _ => rfl
  rcases Txn.get_puts (Key.booking id) rows db with ⟨w, hw, hk, hg⟩ | ⟨hn, hg⟩
  · left
    rw [hget, Option.map_eq_some_iff] at hg
    obtain ⟨b, hb, rfl⟩ := hg
    exact ⟨b, hw, Key.booking.inj hk, hb⟩
  · right
    refine ⟨fun b hb hid => hn (.booking b) hb (congrArg Key.booking hid), ?_⟩
    rw [hget, hget] at hg
    exact Option.map_injective (fun _ _ h => Row.booking.inj h) hg

/-- After a write a payment is one of the rows written, or what it was. -/
theorem Db.find?_payment_puts (db : Db) (rows : List Row) (id : Uuid) :
    (∃ p, Row.payment p ∈ rows ∧ p.id = id ∧ (Txn.puts db rows).payments.find? id = some p) ∨
    ((∀ p, Row.payment p ∈ rows → p.id ≠ id) ∧
      (Txn.puts db rows).payments.find? id = db.payments.find? id) := by
  have hget : ∀ db' : Db, Txn.Database.get db' (Key.payment id)
      = (db'.payments.find? id).map Row.payment := fun _ => rfl
  rcases Txn.get_puts (Key.payment id) rows db with ⟨w, hw, hk, hg⟩ | ⟨hn, hg⟩
  · left
    rw [hget, Option.map_eq_some_iff] at hg
    obtain ⟨p, hp, rfl⟩ := hg
    exact ⟨p, hw, Key.payment.inj hk, hp⟩
  · right
    refine ⟨fun p hp hid => hn (.payment p) hp (congrArg Key.payment hid), ?_⟩
    rw [hget, hget] at hg
    exact Option.map_injective (fun _ _ h => Row.payment.inj h) hg

end ServiceHub
