/-
# `Repositories` — the queries of the services

Each repository function is the statements it issues, whether inside a
transaction or outside one (`tx || this.prisma`).  Where Prisma issues one query
for a row and another for a row it includes, so does the function here.
-/
import ServiceHub.Runtime
import ServiceHub.Txn.Hoare

namespace ServiceHub

open Data Txn Txn.Database

namespace ProviderServiceRepository

def findById (id : Uuid) : Query (Option ProviderServiceFull) := query (.findProviderService id)

end ProviderServiceRepository

namespace ProviderAvailabilityRepository

def findByProviderId (providerId : Uuid) : Query (List Availability) :=
  query (.findAvailability providerId)

end ProviderAvailabilityRepository

namespace AuditLogRepository

def create (row : AuditLog) : Query AuditLog := query (.createAudit row)

end AuditLogRepository

namespace BookingRepository

def create (row : Booking) : Query Booking := query (.createBooking row)

def findById (id : Uuid) : Query (Option Booking) := query (.findBooking id)

/-- `include: { provider: … }`. -/
def includeProvider (booking : Booking) : Query (Option ProviderProfile) :=
  query (.findProvider booking.providerId)

/-- No condition on the row but its id. -/
def update (id : Uuid) (data : BookingUpdate) : Query Booking := query (.updateBooking id data)

/-- The number of rows updated. -/
def updateMany (where_ : BookingWhere) (data : BookingUpdate) : Query Nat := do
  let rows ← query (.updateBookings where_ data)
  pure (List.length rows)

/-- The columns that `updateStatus` sets; `now` is what `new Date()` would be. -/
def statusData (now : Time) (status : BookingStatus) (cancellationReason : Option String) :
    BookingUpdate where
  bookingStatus := some status
  cancellationReason := cancellationReason.filter (· ≠ "")
  cancelledAt := if status = .cancelled then some now else none

/-- `cancelledAt` is set with the status `CANCELLED`, and with no other. -/
def updateStatus (now : Time) (id : Uuid) (status : BookingStatus)
    (cancellationReason : Option String) : Query Booking :=
  query (.updateBooking id (statusData now status cancellationReason))

end BookingRepository

/-- A payment with its booking. -/
structure PaymentWithBooking extends Payment where
  booking : Booking

namespace PaymentRepository

def create (row : Payment) : Query Payment := query (.createPayment row)

/-- The number of rows updated. -/
def updateMany (where_ : PaymentWhere) (data : PaymentUpdate) : Query Nat := do
  let rows ← query (.updatePayments where_ data)
  pure (List.length rows)

/-- `include: { booking: true }`. -/
def includeBooking : Option Payment → Query (Option PaymentWithBooking)
  | none => pure none
  | some payment => do
      let found ← BookingRepository.findById payment.bookingId
      let booking ← Prog.orThrow found
        (.failure "Inconsistent query result: Field booking is required to return data")
      pure (some ⟨payment, booking⟩)

def findById (id : Uuid) : Query (Option PaymentWithBooking) := do
  let payment ← query (.findPayment id)
  includeBooking payment

def findByBookingId (bookingId : Uuid) : Query (Option Payment) :=
  query (.findPaymentByBooking bookingId)

/-- `include: { booking: true }`, as for an id. -/
def findByGatewayOrderId (gatewayOrderId : String) : Query (Option PaymentWithBooking) := do
  let payment ← query (.findPaymentByOrder gatewayOrderId)
  includeBooking payment

/-- What an update of a nullable text column takes: a text, or the operation
`{ set: … }`. -/
inductive TextInput where
  | text (s : String)
  | set (value : Option String)

/-- An operation is an object, and counts as true whatever it sets. -/
def TextInput.truthy : TextInput → Bool
  | .text s => decide (s ≠ "")
  | .set _ => true

/-- What the column holds after it. -/
def TextInput.value : TextInput → Option String
  | .text s => some s
  | .set value => value

/-- What `updateStatus` may set besides the status. -/
structure Details where
  gatewayPaymentId : Option TextInput := none
  gatewaySignature : Option String := none
  paidAt : Option Time := none
  refundedAt : Option Time := none

/-- The columns that `updateStatus` sets. -/
def statusData (status : PaymentStatus) (details : Details) : PaymentUpdate where
  status := status
  gatewayPaymentId := (details.gatewayPaymentId.filter (·.truthy)).map (·.value)
  gatewaySignature := details.gatewaySignature.filter (· ≠ "")
  paidAt := details.paidAt
  refundedAt := details.refundedAt

/-- Whether the status may follow on the one that is there is not asked. -/
def updateStatus (id : Uuid) (status : PaymentStatus) (details : Details) : Query Payment :=
  query (.updatePayment id (statusData status details))

def findWebhookEvent (gateway : PaymentGateway) (eventId : String) :
    Query (Option PaymentWebhookEvent) := query (.findEvent gateway eventId)

/-- The error of a payload that the column does not take. -/
def notStorable : Exn := .driver "22P05" "unsupported Unicode escape sequence"

/-- The payload is stored with the event. -/
def recordWebhookEvent (host : Host) (row : PaymentWebhookEvent) :
    Query PaymentWebhookEvent := do
  Prog.throwIf (host.storesJson row.payload = false) notStorable
  query (.createEvent row)

/-- `now` is what `new Date()` would be. -/
def markWebhookEventProcessed (now : Time) (id : Uuid) : Query PaymentWebhookEvent :=
  query (.updateEvent id now)

end PaymentRepository

/-! ## What the statements return, run alone

Each one is judged by what it found and what it stored; a read changes
nothing. -/

section Returns
variable {db : Db}

theorem returns_read (s : Stmt) {a : Ans s} {Q : Db → Ans s → Prop}
    (hexec : db.exec s = .ok a) (hw : s.written a = []) : (query s).Returns db Q ↔ Q db a := by
  refine Prog.returns_perform.trans ⟨fun h => ?_, ?_⟩
  · have hq := h a hexec
    rwa [show written Db s a = [] from hw] at hq
  · intro h a' ha
    obtain rfl : a = a' := Except.ok.inj (hexec.symm.trans ha)
    rwa [show written Db s a = [] from hw]

theorem throws_read (s : Stmt) {a : Ans s} {E : Db → Exn → Prop} (hexec : db.exec s = .ok a) :
    (query s).Throws db E := by
  refine Prog.throws_perform.mpr fun e he => ?_
  cases hexec.symm.trans he

/-- A statement that fails changes nothing. -/
theorem throws_query (s : Stmt) {E : Db → Exn → Prop}
    (h : ∀ e, db.exec s = .error e → E db e) : (query s).Throws db E :=
  Prog.throws_perform.mpr h

theorem returns_insert (s : Stmt) {r : Row} {a : Ans s} {Q : Db → Ans s → Prop}
    (hexec : db.exec s = db.insert r a) (hw : s.written a = [r]) :
    (query s).Returns db Q ↔ (db.insert r a = .ok a → Q (db.put r) a) := by
  refine Prog.returns_perform.trans ⟨fun h hins => ?_, ?_⟩
  · have hq := h a (hexec.trans hins)
    rwa [show written Db s a = [r] from hw] at hq
  · intro h a' ha
    have hins := hexec.symm.trans ha
    obtain rfl := (Db.insert_ok hins).1
    rw [show written Db s a' = [r] from hw]
    exact h hins

theorem returns_update (s : Stmt) {row : Ans s → Row} {f : Ans s → Ans s} {old : Option (Ans s)}
    {Q : Db → Ans s → Prop} (hexec : db.exec s = db.update row f old)
    (hw : ∀ a, s.written a = [row a]) :
    (query s).Returns db Q ↔
      ∀ x, old = some x → db.refusal (row (f x)) = none → Q (db.put (row (f x))) (f x) := by
  refine Prog.returns_perform.trans ⟨fun h x hx href => ?_, ?_⟩
  · have hup : db.exec s = .ok (f x) := by simp only [hexec, Db.update, hx, href]
    have hq := h (f x) hup
    rwa [show written Db s (f x) = [row (f x)] from hw _] at hq
  · intro h a ha
    obtain ⟨x, hx, rfl, href⟩ := Db.update_ok (hexec.symm.trans ha)
    rw [show written Db s (f x) = [row (f x)] from hw _]
    exact h x hx href

theorem ProviderServiceRepository.returns_findById {id : Uuid}
    {Q : Db → Option ProviderServiceFull → Prop} :
    (ProviderServiceRepository.findById id).Returns db Q ↔ Q db (db.providerServiceFull id) :=
  returns_read (.findProviderService id) rfl rfl

theorem ProviderServiceRepository.throws_findById {id : Uuid} {E : Db → Exn → Prop} :
    (ProviderServiceRepository.findById id).Throws db E := throws_read (.findProviderService id) rfl

theorem ProviderAvailabilityRepository.throws_findByProviderId {id : Uuid}
    {E : Db → Exn → Prop} : (ProviderAvailabilityRepository.findByProviderId id).Throws db E :=
  throws_read (.findAvailability id) rfl

theorem ProviderAvailabilityRepository.returns_findByProviderId {id : Uuid}
    {Q : Db → List Availability → Prop} :
    (ProviderAvailabilityRepository.findByProviderId id).Returns db Q ↔ Q db (db.schedule id) :=
  returns_read (.findAvailability id) rfl rfl

theorem AuditLogRepository.throws_create {l : AuditLog} {E : Db → Exn → Prop}
    (h : ∀ e, ¬ e.isDuplicate → E db e) : (AuditLogRepository.create l).Throws db E := by
  refine throws_query (.createAudit l) fun e he => h e fun hdup => ?_
  have hclash := (Db.insert_duplicate he hdup).1
  rw [Db.clashes_audit] at hclash
  cases hclash

theorem AuditLogRepository.returns_create {l : AuditLog} {Q : Db → AuditLog → Prop} :
    (AuditLogRepository.create l).Returns db Q ↔
      (db.insert (.audit l) l = .ok l → Q (db.put (.audit l)) l) :=
  returns_insert (.createAudit l) rfl rfl

namespace BookingRepository

theorem returns_create {b : Booking} {Q : Db → Booking → Prop} :
    (create b).Returns db Q ↔ (db.insert (.booking b) b = .ok b → Q (db.put (.booking b)) b) :=
  returns_insert (.createBooking b) rfl rfl

theorem returns_findById {id : Uuid} {Q : Db → Option Booking → Prop} :
    (findById id).Returns db Q ↔ Q db (db.bookings.find? id) := returns_read (.findBooking id) rfl rfl

theorem throws_findById {id : Uuid} {E : Db → Exn → Prop} : (findById id).Throws db E :=
  throws_read (.findBooking id) rfl

theorem returns_includeProvider {b : Booking} {Q : Db → Option ProviderProfile → Prop} :
    (includeProvider b).Returns db Q ↔ Q db (db.providers.find? b.providerId) :=
  returns_read (.findProvider b.providerId) rfl rfl

theorem throws_includeProvider {b : Booking} {E : Db → Exn → Prop} :
    (includeProvider b).Throws db E := throws_read (.findProvider b.providerId) rfl

theorem returns_update {id : Uuid} {data : BookingUpdate} {Q : Db → Booking → Prop} :
    (update id data).Returns db Q ↔
      ∀ b, db.bookings.find? id = some b → db.refusal (.booking (data.on b)) = none →
        Q (db.put (.booking (data.on b))) (data.on b) :=
  ServiceHub.returns_update (.updateBooking id data) rfl fun _ => rfl

theorem throws_updateStatus {now : Time} {id : Uuid} {status : BookingStatus}
    {reason : Option String} {E : Db → Exn → Prop} (h : ∀ e, ¬ e.isDuplicate → E db e) :
    (updateStatus now id status reason).Throws db E := by
  refine throws_query (.updateBooking id (statusData now status reason)) fun e he => h e fun hdup => ?_
  obtain ⟨x, _, _, rfl⟩ := Db.update_duplicate he hdup
  simp [clashError, Exn.isDuplicate] at hdup

theorem returns_updateStatus {now : Time} {id : Uuid} {status : BookingStatus}
    {reason : Option String} {Q : Db → Booking → Prop} :
    (updateStatus now id status reason).Returns db Q ↔
      ∀ b, db.bookings.find? id = some b →
        db.refusal (.booking ((statusData now status reason).on b)) = none →
          Q (db.put (.booking ((statusData now status reason).on b)))
            ((statusData now status reason).on b) :=
  returns_update

theorem returns_updateMany {w : BookingWhere} {data : BookingUpdate} {Q : Db → Nat → Prop}
    (h : Q (puts db ((db.bookings.rows.filter w.test).map fun b => Row.booking (data.on b)))
      (db.bookings.rows.filter w.test).length) : (updateMany w data).Returns db Q := by
  refine Prog.returns_bind.mpr (Prog.returns_perform.mpr ?_)
  intro a ha
  obtain ⟨rfl, _⟩ := Db.updateAll_ok ha
  refine Prog.returns_pure.mpr ?_
  simpa [Stmt.written, Database.written, Function.comp_def] using h

end BookingRepository

namespace PaymentRepository

theorem returns_create {p : Payment} {Q : Db → Payment → Prop} :
    (create p).Returns db Q ↔ (db.insert (.payment p) p = .ok p → Q (db.put (.payment p)) p) :=
  returns_insert (.createPayment p) rfl rfl

theorem throws_create {p : Payment} {E : Db → Exn → Prop} (h : ∀ e, E db e) :
    (create p).Throws db E := throws_query (.createPayment p) fun e _ => h e

theorem returns_findByBookingId {id : Uuid} {Q : Db → Option Payment → Prop} :
    (findByBookingId id).Returns db Q ↔ Q db (db.latestPayment id) := returns_read (.findPaymentByBooking id) rfl rfl

theorem throws_findByBookingId {id : Uuid} {E : Db → Exn → Prop} :
    (findByBookingId id).Throws db E := throws_read (.findPaymentByBooking id) rfl

theorem throws_includeBooking {o : Option Payment} {E : Db → Exn → Prop} (h : ∀ e, E db e) :
    (includeBooking o).Throws db E := by
  cases o with
  | none => exact Prog.throws_pure.mpr trivial
  | some p =>
      simp only [includeBooking, Prog.throws_bind, BookingRepository.throws_findById,
        BookingRepository.returns_findById, Prog.throws_orThrow, Prog.returns_orThrow,
        Prog.throws_pure, true_and, implies_true, and_true]
      exact fun _ => h _

theorem returns_includeBooking {o : Option Payment} {Q : Db → Option PaymentWithBooking → Prop} :
    (includeBooking o).Returns db Q ↔
      (o = none → Q db none) ∧
      ∀ p b, o = some p → db.bookings.find? p.bookingId = some b → Q db (some ⟨p, b⟩) := by
  cases o with
  | none => simp [includeBooking]
  | some p =>
      simp only [includeBooking, Prog.returns_bind, BookingRepository.returns_findById,
        Prog.returns_orThrow, Prog.returns_pure, reduceCtorEq, false_implies, true_and,
        Option.some.injEq]
      exact ⟨fun h p' b hp => hp ▸ h b, fun h b => h p b rfl⟩

theorem returns_findById {id : Uuid} {Q : Db → Option PaymentWithBooking → Prop} :
    (findById id).Returns db Q ↔
      (db.payments.find? id = none → Q db none) ∧
      ∀ p b, db.payments.find? id = some p → db.bookings.find? p.bookingId = some b →
        Q db (some ⟨p, b⟩) := by
  refine Prog.returns_bind.trans (Iff.trans ?_ returns_includeBooking)
  exact returns_read (.findPayment id) rfl rfl

theorem returns_findByGatewayOrderId {orderId : String}
    {Q : Db → Option PaymentWithBooking → Prop} :
    (findByGatewayOrderId orderId).Returns db Q ↔
      (db.paymentByOrder orderId = none → Q db none) ∧
      ∀ p b, db.paymentByOrder orderId = some p → db.bookings.find? p.bookingId = some b →
        Q db (some ⟨p, b⟩) := by
  refine Prog.returns_bind.trans (Iff.trans ?_ returns_includeBooking)
  exact returns_read (.findPaymentByOrder orderId) rfl rfl

theorem throws_findById {id : Uuid} {E : Db → Exn → Prop} (h : ∀ e, E db e) :
    (findById id).Throws db E :=
  Prog.throws_bind.mpr ⟨throws_read (.findPayment id) rfl,
    (returns_read (.findPayment id) rfl rfl).mpr (throws_includeBooking h)⟩

theorem throws_findByGatewayOrderId {orderId : String} {E : Db → Exn → Prop} (h : ∀ e, E db e) :
    (findByGatewayOrderId orderId).Throws db E :=
  Prog.throws_bind.mpr ⟨throws_read (.findPaymentByOrder orderId) rfl,
    (returns_read (.findPaymentByOrder orderId) rfl rfl).mpr (throws_includeBooking h)⟩

theorem throws_updateStatus {id : Uuid} {status : PaymentStatus} {details : Details}
    {E : Db → Exn → Prop}
    (h : ∀ e, (e.isDuplicate → ∃ p, db.payments.find? id = some p ∧
      db.clashes (.payment ((statusData status details).on p)) = true) → E db e) :
    (updateStatus id status details).Throws db E := by
  refine throws_query (.updatePayment id (statusData status details)) fun e he => h e fun hdup => ?_
  obtain ⟨p, hp, hclash, _⟩ := Db.update_duplicate he hdup
  exact ⟨p, hp, hclash⟩

theorem returns_updateStatus {id : Uuid} {status : PaymentStatus} {details : Details}
    {Q : Db → Payment → Prop} :
    (updateStatus id status details).Returns db Q ↔
      ∀ p, db.payments.find? id = some p →
        db.refusal (.payment ((statusData status details).on p)) = none →
          Q (db.put (.payment ((statusData status details).on p)))
            ((statusData status details).on p) :=
  returns_update (.updatePayment id (statusData status details)) rfl fun _ => rfl

theorem returns_updateMany {w : PaymentWhere} {data : PaymentUpdate} {Q : Db → Nat → Prop}
    (h : Q (puts db ((db.payments.rows.filter w.test).map fun p => Row.payment (data.on p)))
      (db.payments.rows.filter w.test).length) : (updateMany w data).Returns db Q := by
  refine Prog.returns_bind.mpr (Prog.returns_perform.mpr ?_)
  intro a ha
  obtain ⟨rfl, _⟩ := Db.updateAll_ok ha
  refine Prog.returns_pure.mpr ?_
  simpa [Stmt.written, Database.written, Function.comp_def] using h

theorem returns_findWebhookEvent {g : PaymentGateway} {eventId : String}
    {Q : Db → Option PaymentWebhookEvent → Prop} :
    (findWebhookEvent g eventId).Returns db Q ↔ Q db (db.eventById g eventId) :=
  returns_read (.findEvent g eventId) rfl rfl

theorem throws_findWebhookEvent {g : PaymentGateway} {eventId : String} {E : Db → Exn → Prop} :
    (findWebhookEvent g eventId).Throws db E := throws_read (.findEvent g eventId) rfl

theorem throws_recordWebhookEvent {host : Host} {x : PaymentWebhookEvent} {E : Db → Exn → Prop}
    (h : ∀ e, (e.isDuplicate → db.clashes (.event x) = true) → E db e) :
    (recordWebhookEvent host x).Throws db E := by
  refine Prog.throws_bind.mpr ⟨Prog.throws_throwIf.mpr fun _ => h _ nofun, ?_⟩
  refine Prog.returns_throwIf.mpr fun _ => throws_query (.createEvent x) fun e he => h e fun hdup => ?_
  exact (Db.insert_duplicate he hdup).1

theorem throws_markWebhookEventProcessed {now : Time} {id : Uuid} {E : Db → Exn → Prop}
    (h : ∀ e, (e.isDuplicate → ∃ x, db.paymentWebhookEvents.find? id = some x ∧
      db.clashes (.event (x.processed now)) = true) → E db e) :
    (markWebhookEventProcessed now id).Throws db E := by
  refine throws_query (.updateEvent id now) fun e he => h e fun hdup => ?_
  obtain ⟨x, hx, hclash, _⟩ := Db.update_duplicate he hdup
  exact ⟨x, hx, hclash⟩

theorem returns_recordWebhookEvent {host : Host} {e : PaymentWebhookEvent}
    {Q : Db → PaymentWebhookEvent → Prop} :
    (recordWebhookEvent host e).Returns db Q ↔
      (host.storesJson e.payload = true → db.insert (.event e) e = .ok e →
        Q (db.put (.event e)) e) := by
  rw [recordWebhookEvent, Prog.returns_bind, Prog.returns_throwIf, Bool.not_eq_false]
  exact imp_congr_right fun _ => returns_insert (.createEvent e) rfl rfl

theorem returns_markWebhookEventProcessed {now : Time} {id : Uuid}
    {Q : Db → PaymentWebhookEvent → Prop} :
    (markWebhookEventProcessed now id).Returns db Q ↔
      ∀ e, db.paymentWebhookEvents.find? id = some e →
        db.refusal (.event (e.processed now)) = none →
          Q (db.put (.event (e.processed now))) (e.processed now) :=
  returns_update (.updateEvent id now) rfl fun _ => rfl

end PaymentRepository

end Returns

/-! ## What they ask, whatever they are answered -/

/-- What a call has asked and been answered. -/
abbrev CallHist : Type := Hist (Instr Stmt Ext) (Instr.Ans Ans) Exn

section Obeys
variable {Q : CallHist → Instr Stmt Ext → Prop} {h : CallHist}

theorem ProviderServiceRepository.obeys_findById {id : Uuid}
    {R : CallHist → Except Exn (Option ProviderServiceFull) → Prop} :
    Obeys Q R h (autocommit Ext (ProviderServiceRepository.findById id)) ↔
      Q h (.stmt (.findProviderService id)) ∧
      (∀ a, R (⟨.stmt (.findProviderService id), .ok a⟩ :: h) (.ok a)) ∧
      ∀ e, R (⟨.stmt (.findProviderService id), .error e⟩ :: h) (.error e) := obeys_stmt

theorem ProviderAvailabilityRepository.obeys_findByProviderId {id : Uuid}
    {R : CallHist → Except Exn (List Availability) → Prop} :
    Obeys Q R h (autocommit Ext (ProviderAvailabilityRepository.findByProviderId id)) ↔
      Q h (.stmt (.findAvailability id)) ∧
      (∀ a, R (⟨.stmt (.findAvailability id), .ok a⟩ :: h) (.ok a)) ∧
      ∀ e, R (⟨.stmt (.findAvailability id), .error e⟩ :: h) (.error e) := obeys_stmt

theorem AuditLogRepository.obeys_create {l : AuditLog}
    {R : CallHist → Except Exn AuditLog → Prop} :
    Obeys Q R h (autocommit Ext (AuditLogRepository.create l)) ↔
      Q h (.stmt (.createAudit l)) ∧
      (∀ a, R (⟨.stmt (.createAudit l), .ok a⟩ :: h) (.ok a)) ∧
      ∀ e, R (⟨.stmt (.createAudit l), .error e⟩ :: h) (.error e) := obeys_stmt

namespace BookingRepository

variable {R : CallHist → Except Exn Booking → Prop}

theorem obeys_create {b : Booking} : Obeys Q R h (autocommit Ext (create b)) ↔
    Q h (.stmt (.createBooking b)) ∧
    (∀ a, R (⟨.stmt (.createBooking b), .ok a⟩ :: h) (.ok a)) ∧
    ∀ e, R (⟨.stmt (.createBooking b), .error e⟩ :: h) (.error e) := obeys_stmt

theorem obeys_findById {id : Uuid} {R : CallHist → Except Exn (Option Booking) → Prop} :
    Obeys Q R h (autocommit Ext (findById id)) ↔
      Q h (.stmt (.findBooking id)) ∧
      (∀ a, R (⟨.stmt (.findBooking id), .ok a⟩ :: h) (.ok a)) ∧
      ∀ e, R (⟨.stmt (.findBooking id), .error e⟩ :: h) (.error e) := obeys_stmt

theorem obeys_includeProvider {b : Booking}
    {R : CallHist → Except Exn (Option ProviderProfile) → Prop} :
    Obeys Q R h (autocommit Ext (includeProvider b)) ↔
      Q h (.stmt (.findProvider b.providerId)) ∧
      (∀ a, R (⟨.stmt (.findProvider b.providerId), .ok a⟩ :: h) (.ok a)) ∧
      ∀ e, R (⟨.stmt (.findProvider b.providerId), .error e⟩ :: h) (.error e) := obeys_stmt

theorem obeys_update {id : Uuid} {data : BookingUpdate} :
    Obeys Q R h (autocommit Ext (update id data)) ↔
      Q h (.stmt (.updateBooking id data)) ∧
      (∀ a, R (⟨.stmt (.updateBooking id data), .ok a⟩ :: h) (.ok a)) ∧
      ∀ e, R (⟨.stmt (.updateBooking id data), .error e⟩ :: h) (.error e) := obeys_stmt

theorem obeys_updateStatus {now : Time} {id : Uuid} {status : BookingStatus}
    {reason : Option String} : Obeys Q R h (autocommit Ext (updateStatus now id status reason)) ↔
      Q h (.stmt (.updateBooking id (statusData now status reason))) ∧
      (∀ a, R (⟨.stmt (.updateBooking id (statusData now status reason)), .ok a⟩ :: h) (.ok a)) ∧
      ∀ e, R (⟨.stmt (.updateBooking id (statusData now status reason)), .error e⟩ :: h)
        (.error e) := obeys_stmt

theorem obeys_updateMany {w : BookingWhere} {data : BookingUpdate}
    {R : CallHist → Except Exn Nat → Prop} : Obeys Q R h (autocommit Ext (updateMany w data)) ↔
      Q h (.stmt (.updateBookings w data)) ∧
      (∀ a, R (⟨.stmt (.updateBookings w data), .ok a⟩ :: h) (.ok a.length)) ∧
      ∀ e, R (⟨.stmt (.updateBookings w data), .error e⟩ :: h) (.error e) := by
  rw [updateMany, autocommit_bind, obeys_bind]
  exact obeys_stmt

end BookingRepository

namespace PaymentRepository

variable {R : CallHist → Except Exn Payment → Prop}

theorem obeys_create {p : Payment} : Obeys Q R h (autocommit Ext (create p)) ↔
    Q h (.stmt (.createPayment p)) ∧
    (∀ a, R (⟨.stmt (.createPayment p), .ok a⟩ :: h) (.ok a)) ∧
    ∀ e, R (⟨.stmt (.createPayment p), .error e⟩ :: h) (.error e) := obeys_stmt

theorem obeys_updateMany {w : PaymentWhere} {data : PaymentUpdate}
    {R : CallHist → Except Exn Nat → Prop} : Obeys Q R h (autocommit Ext (updateMany w data)) ↔
      Q h (.stmt (.updatePayments w data)) ∧
      (∀ a, R (⟨.stmt (.updatePayments w data), .ok a⟩ :: h) (.ok a.length)) ∧
      ∀ e, R (⟨.stmt (.updatePayments w data), .error e⟩ :: h) (.error e) := by
  rw [updateMany, autocommit_bind, obeys_bind]
  exact obeys_stmt

theorem obeys_findByBookingId {id : Uuid} {R : CallHist → Except Exn (Option Payment) → Prop} :
    Obeys Q R h (autocommit Ext (findByBookingId id)) ↔
      Q h (.stmt (.findPaymentByBooking id)) ∧
      (∀ a, R (⟨.stmt (.findPaymentByBooking id), .ok a⟩ :: h) (.ok a)) ∧
      ∀ e, R (⟨.stmt (.findPaymentByBooking id), .error e⟩ :: h) (.error e) := obeys_stmt

theorem obeys_updateStatus {id : Uuid} {status : PaymentStatus} {details : Details} :
    Obeys Q R h (autocommit Ext (updateStatus id status details)) ↔
      Q h (.stmt (.updatePayment id (statusData status details))) ∧
      (∀ a, R (⟨.stmt (.updatePayment id (statusData status details)), .ok a⟩ :: h) (.ok a)) ∧
      ∀ e, R (⟨.stmt (.updatePayment id (statusData status details)), .error e⟩ :: h)
        (.error e) := obeys_stmt

theorem obeys_findWebhookEvent {g : PaymentGateway} {eventId : String}
    {R : CallHist → Except Exn (Option PaymentWebhookEvent) → Prop} :
    Obeys Q R h (autocommit Ext (findWebhookEvent g eventId)) ↔
      Q h (.stmt (.findEvent g eventId)) ∧
      (∀ a, R (⟨.stmt (.findEvent g eventId), .ok a⟩ :: h) (.ok a)) ∧
      ∀ e, R (⟨.stmt (.findEvent g eventId), .error e⟩ :: h) (.error e) := obeys_stmt

theorem obeys_recordWebhookEvent {host : Host} {row : PaymentWebhookEvent}
    {R : CallHist → Except Exn PaymentWebhookEvent → Prop} :
    Obeys Q R h (autocommit Ext (recordWebhookEvent host row)) ↔
      (host.storesJson row.payload = false → R h (.error notStorable)) ∧
      (host.storesJson row.payload = true →
        Q h (.stmt (.createEvent row)) ∧
        (∀ a, R (⟨.stmt (.createEvent row), .ok a⟩ :: h) (.ok a)) ∧
        ∀ e, R (⟨.stmt (.createEvent row), .error e⟩ :: h) (.error e)) := by
  rw [recordWebhookEvent, autocommit_bind, obeys_bind, autocommit_throwIf, obeys_throwIf,
    Bool.not_eq_false]
  exact and_congr_right fun _ => imp_congr_right fun _ => obeys_stmt

theorem obeys_markWebhookEventProcessed {now : Time} {id : Uuid}
    {R : CallHist → Except Exn PaymentWebhookEvent → Prop} :
    Obeys Q R h (autocommit Ext (markWebhookEventProcessed now id)) ↔
      Q h (.stmt (.updateEvent id now)) ∧
      (∀ a, R (⟨.stmt (.updateEvent id now), .ok a⟩ :: h) (.ok a)) ∧
      ∀ e, R (⟨.stmt (.updateEvent id now), .error e⟩ :: h) (.error e) := obeys_stmt

variable {R : CallHist → Except Exn (Option PaymentWithBooking) → Prop}

theorem obeys_includeBooking {o : Option Payment} :
    Obeys Q R h (autocommit Ext (includeBooking o)) ↔
      (o = none → R h (.ok none)) ∧ ∀ p, o = some p →
        Q h (.stmt (.findBooking p.bookingId)) ∧
        (∀ b, R (⟨.stmt (.findBooking p.bookingId), .ok (some b)⟩ :: h) (.ok (some ⟨p, b⟩))) ∧
        R (⟨.stmt (.findBooking p.bookingId), .ok none⟩ :: h) (.error
          (.failure "Inconsistent query result: Field booking is required to return data")) ∧
        ∀ e, R (⟨.stmt (.findBooking p.bookingId), .error e⟩ :: h) (.error e) := by
  cases o with
  | none => simp [includeBooking]
  | some p =>
      simp only [includeBooking, autocommit_bind, obeys_bind, BookingRepository.obeys_findById,
        autocommit_orThrow, obeys_orThrow, autocommit_pure, obeys_pure, reduceCtorEq,
        false_implies, true_and, Option.some.injEq, forall_eq']
      constructor
      · rintro ⟨hq, hfound, herror⟩
        exact ⟨hq, fun b => (hfound (some b)).2 b rfl, (hfound none).1 rfl, herror⟩
      · rintro ⟨hq, hfound, hnone, herror⟩
        refine ⟨hq, fun found => ⟨?_, ?_⟩, herror⟩
        · rintro rfl
          exact hnone
        · rintro b rfl
          exact hfound b

theorem obeys_findById {id : Uuid} : Obeys Q R h (autocommit Ext (findById id)) ↔
    Q h (.stmt (.findPayment id)) ∧
    (∀ o, Obeys Q R (⟨.stmt (.findPayment id), .ok o⟩ :: h) (autocommit Ext (includeBooking o))) ∧
    ∀ e, R (⟨.stmt (.findPayment id), .error e⟩ :: h) (.error e) := by
  rw [findById, autocommit_bind, obeys_bind]
  exact obeys_stmt

theorem obeys_findByGatewayOrderId {orderId : String} :
    Obeys Q R h (autocommit Ext (findByGatewayOrderId orderId)) ↔
      Q h (.stmt (.findPaymentByOrder orderId)) ∧
      (∀ o, Obeys Q R (⟨.stmt (.findPaymentByOrder orderId), .ok o⟩ :: h)
        (autocommit Ext (includeBooking o))) ∧
      ∀ e, R (⟨.stmt (.findPaymentByOrder orderId), .error e⟩ :: h) (.error e) := by
  rw [findByGatewayOrderId, autocommit_bind, obeys_bind]
  exact obeys_stmt

end PaymentRepository

/-! ### Calls to the outside -/

theorem obeys_external {α : Type} {R : CallHist → Except Exn α → Prop} {c : Ext}
    {reply : Except String α} {error : String → Exn} : Obeys Q R h (external c reply error) ↔
      Q h (.call c) ∧
      (∀ a, reply = .ok a → R (⟨.call c, .ok ()⟩ :: h) (.ok a)) ∧
      (∀ m, reply = .error m → R (⟨.call c, .ok ()⟩ :: h) (.error (error m))) ∧
      ∀ e, R (⟨.call c, .error e⟩ :: h) (.error e) := by
  unfold external
  refine (obeys_bind.trans obeys_perform).trans (and_congr Iff.rfl ?_)
  cases reply with
  | ok a => simpa using fun _ => ⟨fun hr => hr (), fun hr _ => hr⟩
  | error m => simpa using fun _ => ⟨fun hr => hr (), fun hr _ => hr⟩

end Obeys

end ServiceHub
