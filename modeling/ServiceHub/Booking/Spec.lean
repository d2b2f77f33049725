/-
# `Booking.Spec` — what the operations of `BookingService` commit

One theorem for each transaction body (`…Tx_returns`) and, from it, one for each
operation (`…_change`): run alone, it leaves the database as it was or writes
the rows that `Change` lists for it, its audit rows being new.
-/
import ServiceHub.Changes

namespace ServiceHub

open Data Txn Prog Txn.Database

/-- The database after a call is the one before it with some rows of `C`
written. -/
def Leaves {α : Type} (db : Db) (C : List Row → Prop) : Db → Except Exn α → Prop :=
  fun db' _ => ∃ rows, db' = puts db rows ∧ C rows

/-- The rows were written, and the audit rows are new. -/
def Wrote (db : Db) (rows : List Row) (db' : Db) : Prop := db' = puts db rows ∧ Audited db rows

/-- The rows that `Change` lists, with new audit rows. -/
def Logged (host : Host) (ctx : Ctx) (db : Db) (request : Request) (rows : List Row) : Prop :=
  Audited db rows ∧ Change host ctx db request rows

theorem Leaves.nothing {α : Type} {host : Host} {ctx : Ctx} {db : Db} {request : Request}
    {r : Except Exn α} : Leaves db (Logged host ctx db request) db r :=
  ⟨[], rfl, trivial, .nothing request⟩

theorem Leaves.wrote {α : Type} {host : Host} {ctx : Ctx} {db db' : Db} {request : Request}
    {rows : List Row} {r : Except Exn α} (h : Wrote db rows db')
    (hchange : Change host ctx db request rows) : Leaves db (Logged host ctx db request) db' r :=
  ⟨rows, h.1, h.2, hchange⟩

/-! ## Calls to the outside -/

theorem Ends.external_bind {α β : Type} {db : Db} {Q : Db → Except Exn β → Prop} {c : Ext}
    {reply : Except String α} {error : String → Exn} {f : α → Call β}
    (hok : ∀ a, reply = .ok a → Ends (f a) db Q)
    (herr : ∀ m, reply = .error m → Q db (.error (error m))) :
    Ends (external c reply error >>= f) db Q := by
  refine Ends.bind (Ends.bind (Ends.call ?_))
  cases reply with
  | ok a => exact Ends.pure (hok a rfl)
  | error m => exact Ends.throw (herr m rfl)

theorem Ends.enqueue_bind {β : Type} {db : Db} {Q : Db → Except Exn β → Prop} {ctx : Ctx}
    {i : Nat} {c : Ext} {f : Unit → Call β} (hok : Ends (f ()) db Q)
    (herr : ∀ m, Q db (.error (.queue m))) : Ends (enqueue ctx i c >>= f) db Q :=
  Ends.external_bind (fun _ _ => hok) fun m _ => herr m

theorem Ends.onBookingError {α : Type} {db : Db} {Q : Db → Except Exn α → Prop} {e : Exn}
    (h : ∀ e, Q db (.error e)) : Ends (onBookingError e) db Q := by
  unfold ServiceHub.onBookingError
  split
  · exact Ends.throw (h _)
  · exact Ends.throw (h _)

variable {host : Host} {ctx : Ctx} {db : Db}

/-! ## createBooking -/

theorem createBookingTx_returns {customerId : Uuid} {row : Booking}
    {gatewayOrderId currency : String} {startsAtDate endsAtDate : Time} :
    (createBookingTx ctx customerId row gatewayOrderId currency startsAtDate endsAtDate).Returns db
      fun db' _ => db.bookings.find? row.id = none ∧ db.payments.find? (ctx.uuid 1) = none ∧
        Wrote db
          [.booking row,
            .payment (newPayment (ctx.uuid 1) row.id gatewayOrderId row.bookedPrice currency
              (ctx.clock 4)),
            .audit (bookingCreatedAudit ctx customerId row gatewayOrderId startsAtDate
              endsAtDate)] db' := by
  simp only [createBookingTx, returns_bind, BookingRepository.returns_create,
    PaymentRepository.returns_create, AuditLogRepository.returns_create, returns_pure]
  intro hbooking hpayment haudit
  have hb : db.get (.booking row.id) = none := (Db.insert_ok hbooking).2.1
  have hp : (db.put (.booking row)).get (.payment (ctx.uuid 1)) = none :=
    (Db.insert_ok hpayment).2.1
  refine ⟨?_, ?_, rfl, Db.find?_audit_of_insert haudit, trivial⟩
  · simpa [Db.get] using hb
  · simpa [Db.get] using hp

theorem createBooking_change {customerId : Uuid} {dto : CreateBookingDto} :
    Ends (createBooking host ctx customerId dto) db
      (Leaves db (Logged host ctx db (.createBooking customerId dto))) := by
  have hnone : ∀ {α : Type} {r : Except Exn α},
      Leaves db (Logged host ctx db (.createBooking customerId dto)) db r :=
    Leaves.nothing
  unfold createBooking
  refine Ends.autocommit_bind ?_ ProviderServiceRepository.throws_findById
  rw [ProviderServiceRepository.returns_findById]
  refine Ends.orThrow_bind (fun offering hoffering => ?_) fun _ => hnone
  obtain ⟨hfound, -⟩ := Option.filter_eq_some_iff.mp hoffering
  refine Ends.orThrow_bind (fun provider _ => ?_) fun _ => hnone
  refine Ends.throwIf_bind (fun _ => ?_) fun _ => hnone
  refine Ends.orThrow_bind (fun startsAtDate hdate => ?_) fun _ => hnone
  refine Ends.throwIf_bind (fun _ => ?_) fun _ => hnone
  refine Ends.throwIf_bind (fun _ => ?_) fun _ => hnone
  refine Ends.autocommit_bind ?_ ProviderAvailabilityRepository.throws_findByProviderId
  rw [ProviderAvailabilityRepository.returns_findByProviderId]
  split
  · exact Ends.throw hnone
  · rename_i hours
    refine Ends.external_bind (fun gatewayOrder _ => ?_) fun _ _ => hnone
    refine Ends.cont (Ends.orThrow_bind (fun service _ => ?_)
      fun _ => Ends.onBookingError fun _ => hnone)
    refine Ends.transaction_bind (createBookingTx_returns.mono ?_)
      fun _ _ _ => Ends.onBookingError fun _ => hnone
    rintro db' result ⟨hb, hp, hdb⟩
    have hleaves : ∀ {r : Except Exn CreatedBooking},
        Leaves db (Logged host ctx db (.createBooking customerId dto)) db' r :=
      Leaves.wrote hdb (.created hfound hdate hours hb hp)
    refine Ends.enqueue_bind (Ends.pure (Ends.pure hleaves)) fun m => ?_
    exact Ends.onBookingError fun _ => hleaves

/-! ## cancelBookingAsCustomer -/

/-- What a cancellation does once it has found the booking. -/
def cancelFound (ctx : Ctx) (bookingId customerId : Uuid) (dto : CancelBookingDto)
    (found : Option Booking) : Call Booking := do
  let booking ← orThrow found (.notFound s!"Booking with ID \"{bookingId}\" not found")
  throwIf (canTransitionBooking booking.bookingStatus .cancelled = false)
    (.badRequest s!"Cannot cancel booking in \"{booking.bookingStatus}\" status")
  throwIf (ctx.clock 0 ≥ booking.appointmentStart - 2 * 60 * 60 * 1000)
    (.conflict "Bookings cannot be cancelled within 2 hours of the scheduled appointment time.")
  let updatedBooking ← transaction Ext
    (cancelBookingTx ctx bookingId customerId (orDefault dto.reason "Cancelled by customer") booking)
  enqueue ctx 0 (.cancelPaymentExpiration bookingId)
  enqueue ctx 1 (.cancelOverdueCheck bookingId)
  enqueue ctx 2 (.cancelBookingReminders bookingId)
  pure updatedBooking

theorem cancelBookingAsCustomer_eq (ctx : Ctx) (bookingId customerId : Uuid)
    (dto : CancelBookingDto) : cancelBookingAsCustomer ctx bookingId customerId dto =
      autocommit Ext (BookingRepository.findById bookingId) >>= fun found =>
        cancelFound ctx bookingId customerId dto (found.filter (·.customerId = customerId)) := rfl

theorem cancelBookingTx_returns {bookingId customerId : Uuid} {dto : CancelBookingDto}
    {booking b : Booking} (hb : db.bookings.find? bookingId = some b) :
    (cancelBookingTx ctx bookingId customerId (orDefault dto.reason "Cancelled by customer")
      booking).Returns db fun db' _ => Wrote db
        [.booking ((cancelData ctx dto).on b),
          .audit (cancelledAudit ctx bookingId customerId
            (orDefault dto.reason "Cancelled by customer") booking)] db' := by
  simp only [cancelBookingTx, returns_bind, BookingRepository.returns_updateStatus,
    AuditLogRepository.returns_create, returns_pure]
  intro b' hb' _ haudit
  obtain rfl : b = b' := Option.some.inj (hb.symm.trans hb')
  exact ⟨rfl, Db.find?_audit_of_insert haudit, trivial⟩

theorem cancelBookingAsCustomer_change {bookingId customerId : Uuid} {dto : CancelBookingDto} :
    Ends (cancelBookingAsCustomer ctx bookingId customerId dto) db
      (Leaves db (Logged host ctx db (.cancelBookingAsCustomer bookingId customerId dto))) := by
  have hnone : ∀ {r : Except Exn Booking},
      Leaves db (Logged host ctx db (.cancelBookingAsCustomer bookingId customerId dto)) db r :=
    Leaves.nothing
  unfold cancelBookingAsCustomer
  refine Ends.autocommit_bind ?_ BookingRepository.throws_findById
  rw [BookingRepository.returns_findById]
  refine Ends.orThrow_bind (fun b hfound => ?_) fun _ => hnone
  obtain ⟨hb, -⟩ := Option.filter_eq_some_iff.mp hfound
  refine Ends.throwIf_bind (fun hcan => ?_) fun _ => hnone
  refine Ends.throwIf_bind (fun _ => ?_) fun _ => hnone
  refine Ends.transaction_bind ((cancelBookingTx_returns hb).mono ?_) fun _ _ _ => hnone
  intro db' x hdb
  have hleaves : ∀ {r : Except Exn Booking},
      Leaves db (Logged host ctx db (.cancelBookingAsCustomer bookingId customerId dto)) db' r :=
    Leaves.wrote hdb (.cancelled hb (by simpa using hcan))
  refine Ends.enqueue_bind ?_ fun _ => hleaves
  refine Ends.enqueue_bind ?_ fun _ => hleaves
  exact Ends.enqueue_bind (Ends.pure hleaves) fun _ => hleaves

/-! ## expireBooking -/

theorem expireBookingTx_returns {bookingId : Uuid} :
    (expireBookingTx ctx bookingId).Returns db fun db' _ =>
      Leaves db (Logged host ctx db (.expireBooking bookingId)) db' (.ok ()) := by
  unfold expireBookingTx
  rw [returns_bind, BookingRepository.returns_findById]
  split
  · exact returns_pure.mpr Leaves.nothing
  · rename_i b hb
    rw [returns_ite]
    refine ⟨fun _ => returns_pure.mpr Leaves.nothing, fun hpending => ?_⟩
    have hstatus : b.bookingStatus = .pendingPayment := by simpa using hpending
    -- the condition of the update is met by this booking and no other
    have hid : b.id = bookingId := Table.key_of_find? hb
    have hrows : db.bookings.rows.filter
        (BookingWhere.test { id := bookingId, bookingStatus := .pendingPayment }) = [b] := by
      refine Table.filter_eq_singleton (hid ▸ hb) ?_ ?_
      · simp [BookingWhere.test, hid, hstatus]
      · intro x hx
        simp only [BookingWhere.test, Bool.and_eq_true, beq_iff_eq] at hx
        exact hx.1.1.trans hid.symm
    refine returns_bind.mpr (BookingRepository.returns_updateMany ?_)
    rw [hrows]
    refine returns_ite.mpr ⟨fun h => absurd h (by simp), fun _ => ?_⟩
    refine returns_bind.mpr (PaymentRepository.returns_updateMany ?_)
    rw [returns_bind, AuditLogRepository.returns_create]
    intro haudit
    refine returns_pure.mpr (Leaves.wrote ⟨?_, ?_⟩ (.expired hb hstatus))
    · rw [List.cons_append, puts_cons, puts_append]
      rfl
    · refine audited_append.mpr ⟨audited_payments _ _ (db.put _), ?_⟩
      rw [puts_cons]
      exact ⟨Db.find?_audit_of_insert haudit, trivial⟩

theorem expireBooking_change {bookingId : Uuid} :
    Ends (expireBooking ctx bookingId) db
      (Leaves db (Logged host ctx db (.expireBooking bookingId))) :=
  Ends.transaction expireBookingTx_returns fun _ _ _ => Leaves.nothing

/-! ## completeBooking -/

theorem completeBookingTx_returns {bookingId userId : Uuid} {booking b : Booking}
    (hb : db.bookings.find? bookingId = some b) :
    (completeBookingTx ctx bookingId userId booking).Returns db fun db' _ => Wrote db
      [.booking ((completeData ctx).on b),
        .audit (completedAudit ctx bookingId userId booking ((completeData ctx).on b))] db' := by
  simp only [completeBookingTx, returns_bind, BookingRepository.returns_update,
    AuditLogRepository.returns_create, returns_pure]
  intro b' hb' _ haudit
  obtain rfl : b = b' := Option.some.inj (hb.symm.trans hb')
  exact ⟨rfl, Db.find?_audit_of_insert haudit, trivial⟩

theorem completeBooking_change {bookingId userId : Uuid} {role : Option Role} :
    Ends (completeBooking ctx bookingId userId role) db
      (Leaves db (Logged host ctx db (.completeBooking bookingId userId role))) := by
  have hnone : ∀ {r : Except Exn Booking},
      Leaves db (Logged host ctx db (.completeBooking bookingId userId role)) db r :=
    Leaves.nothing
  unfold completeBooking
  refine Ends.autocommit_bind ?_ BookingRepository.throws_findById
  rw [BookingRepository.returns_findById]
  refine Ends.orThrow_bind (fun b hb => ?_) fun _ => hnone
  refine Ends.autocommit_bind ?_ BookingRepository.throws_includeProvider
  rw [BookingRepository.returns_includeProvider]
  refine Ends.throwIf_bind (fun _ => ?_) fun _ => hnone
  refine Ends.throwIf_bind (fun hcan => ?_) fun _ => hnone
  refine Ends.transaction_bind ((completeBookingTx_returns hb).mono ?_) fun _ _ _ => hnone
  intro db' x hdb
  have hleaves : ∀ {r : Except Exn Booking},
      Leaves db (Logged host ctx db (.completeBooking bookingId userId role)) db' r :=
    Leaves.wrote hdb (.completed hb (by simpa using hcan))
  exact Ends.enqueue_bind (Ends.pure hleaves) fun _ => hleaves

/-! ## flagOverdueBooking -/

theorem flagOverdueBookingTx_returns {bookingId : Uuid} :
    (flagOverdueBookingTx ctx bookingId).Returns db fun db' _ =>
      Leaves db (Logged host ctx db (.flagOverdueBooking bookingId)) db' (.ok ()) := by
  unfold flagOverdueBookingTx
  rw [returns_bind, BookingRepository.returns_findById]
  split
  · exact returns_pure.mpr Leaves.nothing
  · rename_i b hb
    rw [returns_ite]
    refine ⟨fun _ => returns_pure.mpr Leaves.nothing, fun hconfirmed => ?_⟩
    have hstatus : b.bookingStatus = .confirmed := by simpa using hconfirmed
    rw [returns_ite]
    refine ⟨fun _ => returns_pure.mpr Leaves.nothing, fun hreview => ?_⟩
    have hid : b.id = bookingId := Table.key_of_find? hb
    have hrows : db.bookings.rows.filter (BookingWhere.test
        { id := bookingId, bookingStatus := .confirmed, needsReview := some false }) = [b] := by
      refine Table.filter_eq_singleton (hid ▸ hb) ?_ ?_
      · simp [BookingWhere.test, hid, hstatus, hreview]
      · intro x hx
        simp only [BookingWhere.test, Bool.and_eq_true, beq_iff_eq] at hx
        exact hx.1.1.trans hid.symm
    refine returns_bind.mpr (BookingRepository.returns_updateMany ?_)
    rw [hrows]
    refine returns_ite.mpr ⟨fun h => absurd h (by simp), fun _ => ?_⟩
    rw [returns_bind, AuditLogRepository.returns_create]
    intro haudit
    refine returns_pure.mpr (Leaves.wrote ?_ (.overdue hb hstatus))
    exact ⟨rfl, Db.find?_audit_of_insert haudit, trivial⟩

theorem flagOverdueBooking_change {bookingId : Uuid} :
    Ends (flagOverdueBooking ctx bookingId) db
      (Leaves db (Logged host ctx db (.flagOverdueBooking bookingId))) :=
  Ends.transaction flagOverdueBookingTx_returns fun _ _ _ => Leaves.nothing

end ServiceHub
