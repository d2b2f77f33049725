/-
# `Privacy` — nobody learns of the records of others

A user may read a booking or a payment, list bookings, and cancel one.  What
comes back is a function of the bookings that the user takes part in, as the
customer or as the provider's user (`Db.own`): a record of others is answered
as one that does not exist.

    `getBookingById`             looks the id up among one's own             (`getBookingById_eq`)
    `getPaymentById`             among the payments of one's own             (`getPaymentById_eq`)
    `getCustomerBookings`        filters, sorts and counts one's own         (`getCustomerBookings_eq`)
    `cancelBookingAsCustomer`    states that agree on one's own are alike    (`cancel_alike`)

So two states that agree on one's own bookings cannot be told apart
(`reads_own`).
-/
import ServiceHub.Booking.Spec
import ServiceHub.Booking.Records
import ServiceHub.Providers.Service
import ServiceHub.Txn.Alike

namespace ServiceHub.Records

open Data Txn

/-- The user is the customer, or the provider's user. -/
def BookingRecord.involves (userId : Uuid) (r : BookingRecord) : Bool :=
  r.booking.customerId == userId || r.provider.userId == userId

/-- The bookings that the user takes part in. -/
def Db.own (userId : Uuid) (db : Db) : List BookingRecord := db.records.filter (·.involves userId)

/-! ## Records -/

section
variable {db : Db} {id userId : Uuid} {b : Booking} {r : BookingRecord}

theorem booking_of_record (h : db.record b = some r) : r.booking = b := by
  simp only [Db.record, Option.bind_eq_bind, Option.bind_eq_some_iff] at h
  obtain ⟨_, _, _, _, _, _, _, _, hr⟩ := h
  cases hr
  rfl

theorem payments_of_record (h : db.record b = some r) :
    r.payments = db.payments.rows.filter (·.bookingId == b.id) := by
  simp only [Db.record, Option.bind_eq_bind, Option.bind_eq_some_iff] at h
  obtain ⟨_, _, _, _, _, _, _, _, hr⟩ := h
  cases hr
  rfl

theorem record_isSome (h : b ∈ db.bookings.rows) : ∃ r, db.record b = some r := by
  obtain ⟨customer, hcustomer⟩ := Option.isSome_iff_exists.mp (db.hasCustomer b h)
  obtain ⟨provider, hprovider⟩ := Option.isSome_iff_exists.mp (db.hasProvider b h)
  obtain ⟨user, huser⟩ :=
    Option.isSome_iff_exists.mp (db.hasUser provider (Table.mem_of_find? hprovider))
  obtain ⟨offering, hoffering⟩ := Option.isSome_iff_exists.mp (db.hasOffering b h)
  simp [Db.record, hcustomer, hprovider, huser, hoffering]

theorem mem_records : r ∈ db.records ↔ r.booking ∈ db.bookings.rows ∧ db.record r.booking = some r := by
  refine List.mem_filterMap.trans ⟨?_, fun ⟨hmem, hr⟩ => ⟨r.booking, hmem, hr⟩⟩
  rintro ⟨b, hmem, hr⟩
  obtain rfl := booking_of_record hr
  exact ⟨hmem, hr⟩

theorem mem_own : r ∈ db.own userId ↔ (r.booking ∈ db.bookings.rows ∧ db.record r.booking = some r) ∧
    r.involves userId = true :=
  List.mem_filter.trans (and_congr mem_records Iff.rfl)

theorem bind_record_eq_some : (db.bookings.find? id).bind db.record = some r ↔
    (r.booking ∈ db.bookings.rows ∧ db.record r.booking = some r) ∧ r.booking.id = id := by
  constructor
  · intro h
    obtain ⟨b, hb, hr⟩ := Option.bind_eq_some_iff.mp h
    obtain rfl := booking_of_record hr
    exact ⟨⟨Table.mem_of_find? hb, hr⟩, Table.key_of_find? hb⟩
  · rintro ⟨⟨hmem, hr⟩, rfl⟩
    exact Option.bind_eq_some_iff.mpr ⟨r.booking, Table.find?_of_mem hmem, hr⟩

/-- What a query finds under an id, if the user takes part in it. -/
theorem find?_own : ((db.bookings.find? id).bind db.record).filter (·.involves userId) =
    (db.own userId).find? (·.booking.id == id) := by
  cases hfound : (db.own userId).find? (·.booking.id == id) with
  | some r =>
      obtain ⟨hrecord, hinvolves⟩ := mem_own.mp (List.mem_of_find?_eq_some hfound)
      have hid := List.find?_some hfound
      exact Option.filter_eq_some_iff.mpr
        ⟨bind_record_eq_some.mpr ⟨hrecord, eq_of_beq hid⟩, hinvolves⟩
  | none =>
      refine Option.eq_none_iff_forall_ne_some.mpr fun r hr => ?_
      obtain ⟨hbind, hinvolves⟩ := Option.filter_eq_some_iff.mp hr
      obtain ⟨hrecord, hid⟩ := bind_record_eq_some.mp hbind
      exact List.find?_eq_none.mp hfound r (mem_own.mpr ⟨hrecord, hinvolves⟩) (beq_iff_eq.mpr hid)

/-! ## One booking -/

theorem getBookingById_eq : BookingService.getBookingById db id userId =
    match (db.own userId).find? (·.booking.id == id) with
    | none => .error (BookingService.bookingNotFound id)
    | some r => .ok (.of r) := by
  rw [← find?_own, BookingService.getBookingById, BookingRepository.findById]
  cases hfound : (db.bookings.find? id).bind db.record with
  | none => rfl
  | some r =>
      by_cases hinvolves : r.involves userId = true
      · rw [Option.filter_some, if_pos hinvolves]
        refine if_neg fun hneither => ?_
        rcases Bool.or_eq_true_iff.mp hinvolves with h | h
        · exact hneither.1 (eq_of_beq h)
        · exact hneither.2 (eq_of_beq h)
      · rw [Option.filter_some, if_neg hinvolves]
        refine if_pos ⟨fun h => hinvolves ?_, fun h => hinvolves ?_⟩
        · exact Bool.or_eq_true_iff.mpr (Or.inl (beq_iff_eq.mpr h))
        · exact Bool.or_eq_true_iff.mpr (Or.inr (beq_iff_eq.mpr h))

/-! ## One payment -/

/-- A payment of one of the bookings. -/
def paymentOf (id : Uuid) (r : BookingRecord) : Option PaymentDetails :=
  (r.payments.find? (·.id == id)).map fun p => .of p r

theorem findPayment_eq_some {d : PaymentDetails} : PaymentRepository.findById db id = some d ↔
    ∃ r, (r.booking ∈ db.bookings.rows ∧ db.record r.booking = some r) ∧ paymentOf id r = some d := by
  simp only [PaymentRepository.findById, Option.bind_eq_bind, Option.bind_eq_some_iff, paymentOf,
    Option.map_eq_some_iff]
  constructor
  · rintro ⟨p, hp, b, hb, r, hr, hd⟩
    cases hd
    obtain rfl := booking_of_record hr
    refine ⟨r, ⟨Table.mem_of_find? hb, hr⟩, p, ?_, rfl⟩
    have hbooking := Table.key_of_find? hb
    rw [payments_of_record hr]
    exact Table.find?_filter hp (beq_iff_eq.mpr hbooking.symm)
  · rintro ⟨r, ⟨hmem, hr⟩, p, hp, rfl⟩
    have hpayment := List.mem_of_find?_eq_some hp
    rw [payments_of_record hr] at hpayment
    obtain ⟨hrow, hbooking⟩ := List.mem_filter.mp hpayment
    have hid : p.id = id := by simpa using List.find?_some hp
    refine ⟨p, by rw [← hid]; exact Table.find?_of_mem hrow, r.booking, ?_, r, hr, rfl⟩
    rw [eq_of_beq hbooking]
    exact Table.find?_of_mem hmem

theorem getPaymentById_eq : PaymentService.getPaymentById db id userId =
    match (db.own userId).findSome? (paymentOf id) with
    | none => .error (PaymentService.paymentNotFound id)
    | some d => .ok d := by
  cases hfound : (db.own userId).findSome? (paymentOf id) with
  | some d =>
      obtain ⟨r, hr, hd⟩ := List.exists_of_findSome?_eq_some hfound
      obtain ⟨hrecord, hinvolves⟩ := mem_own.mp hr
      have hfind : PaymentRepository.findById db id = some d := findPayment_eq_some.mpr ⟨r, hrecord, hd⟩
      obtain ⟨p, _, rfl⟩ := Option.map_eq_some_iff.mp hd
      rw [PaymentService.getPaymentById, hfind]
      refine if_neg fun hneither => ?_
      rcases Bool.or_eq_true_iff.mp hinvolves with h | h
      · exact hneither.1 (eq_of_beq h)
      · exact hneither.2 (eq_of_beq h)
  | none =>
      rw [PaymentService.getPaymentById]
      cases hfind : PaymentRepository.findById db id with
      | none => rfl
      | some d =>
          obtain ⟨r, hrecord, hd⟩ := findPayment_eq_some.mp hfind
          have hnot : ¬ r.involves userId = true := fun hinvolves =>
            absurd (hd.symm.trans (List.findSome?_eq_none_iff.mp hfound r
              (mem_own.mpr ⟨hrecord, hinvolves⟩))) (by simp)
          obtain ⟨p, _, rfl⟩ := Option.map_eq_some_iff.mp hd
          refine if_pos ⟨fun h => hnot ?_, fun h => hnot ?_⟩
          · exact Bool.or_eq_true_iff.mpr (Or.inl (beq_iff_eq.mpr h))
          · exact Bool.or_eq_true_iff.mpr (Or.inr (beq_iff_eq.mpr h))

/-! ## A page of bookings -/

/-- What `findAll` makes of the bookings that it finds. -/
def pageOf (host : Host) (mul : ℚ → ℚ → ℚ) (records : List BookingRecord)
    (queryDto : QueryBookingsDto) (filters : BookingFilters) :
    Except Exn (Catalog.PaginatedResult BookingItem) := do
  let page := queryDto.page.getD 1
  let limit := queryDto.limit.getD 10
  let w ← BookingRepository.where_ host queryDto filters
  let found := (records.filter w.test).insertionSort laterFirst
  let data ← Catalog.window (mul (page - 1) limit) limit (found.map BookingItem.of)
  pure (Catalog.paginate (· / ·) data found.length page limit)

theorem getCustomerBookings_eq (host : Host) (mul : ℚ → ℚ → ℚ) (hu : userId ≠ "")
    (queryDto : QueryBookingsDto) : BookingService.getCustomerBookings host mul db userId queryDto =
      pageOf host mul (db.own userId) queryDto { customerId := some userId } := by
  unfold BookingService.getCustomerBookings BookingRepository.findCustomerBooking
    BookingRepository.findAll pageOf
  cases hw : BookingRepository.where_ host queryDto { customerId := some userId } with
  | error e => rfl
  | ok w =>
      have hcustomer : w.customerId = some userId := by
        have hkept : (some userId).filter (· ≠ "") = some userId :=
          Option.filter_eq_some_iff.mpr ⟨rfl, decide_eq_true hu⟩
        unfold BookingRepository.where_ at hw
        cases hgte : dateArgument host (orElse queryDto.dateFrom queryDto.from_) with
        | error e =>
            rw [hgte] at hw
            cases hw
        | ok gte =>
            rw [hgte] at hw
            cases hlte : dateArgument host ((orElse queryDto.dateTo queryDto.to_).map endOfDay) with
            | error e =>
                rw [hlte] at hw
                cases hw
            | ok lte =>
                rw [hlte] at hw
                cases hw
                rw [orElse, hkept]
                rfl
      have hfilter : db.records.filter w.test = (db.own userId).filter w.test := by
        rw [Db.own, List.filter_filter]
        refine List.filter_congr fun r _ => ?_
        cases htest : w.test r with
        | false => rfl
        | true =>
            simp only [BookingWhere.test, hcustomer, Option.all_some, Bool.and_eq_true] at htest
            obtain ⟨⟨⟨⟨⟨hmine, _⟩, _⟩, _⟩, _⟩, _⟩ := htest
            have hinvolves : r.involves userId = true :=
              Bool.or_eq_true_iff.mpr (Or.inl (beq_iff_eq.mpr (eq_of_beq hmine).symm))
            rw [hinvolves]
            rfl
      simp only [bind, Except.bind, hfilter]

/-! ## A cancellation -/

/-- The booking that a customer may cancel. -/
theorem find?_cancel : (db.bookings.find? id).filter (·.customerId = userId) =
    (((db.own userId).find? (·.booking.id == id)).map (·.booking)).filter (·.customerId = userId) := by
  rw [← find?_own]
  cases hb : db.bookings.find? id with
  | none => rfl
  | some b =>
      obtain ⟨r, hr⟩ := record_isSome (Table.mem_of_find? hb)
      obtain rfl := booking_of_record hr
      rw [Option.bind_some, hr]
      by_cases hmine : r.booking.customerId = userId
      · have hinvolves : r.involves userId = true := Bool.or_eq_true_iff.mpr (Or.inl (beq_iff_eq.mpr hmine))
        rw [Option.filter_some, Option.filter_some, if_pos hinvolves, Option.map_some, Option.filter_some]
      · rw [Option.filter_some, if_neg (by simpa using hmine)]
        refine (Option.filter_eq_none_iff.mpr ?_).symm
        intro b hb
        obtain ⟨r', hr', rfl⟩ := Option.map_eq_some_iff.mp hb
        obtain ⟨hr', _⟩ := Option.filter_eq_some_iff.mp hr'
        cases hr'
        simpa using hmine

end

section
variable {bookingId userId auditId : Uuid}

/-- The states agree on the booking, on whether the user is there, and on the
audit row that is to be written. -/
structure SameBooking (bookingId userId auditId : Uuid) (db db' : ServiceHub.Db) : Prop where
  booking : db.bookings.find? bookingId = db'.bookings.find? bookingId
  user : (db.users.find? userId).isNone = (db'.users.find? userId).isNone
  audit : db.auditLogs.find? auditId = db'.auditLogs.find? auditId

/-- What a cancellation writes. -/
def Cancels (bookingId userId auditId : Uuid) : Stmt → Prop
  | .updateBooking id data => id = bookingId ∧ data.bookingStatus = some .cancelled
  | .createAudit a => a.id = auditId ∧ a.actorUserId = some userId
  | _ => False

theorem clashes_of_none {db : ServiceHub.Db} {r : Row} (h : ∀ o, clash r o = false) :
    db.clashes r = false :=
  List.any_eq_false.mpr fun o _ => by simp [h o]

/-- Nothing keeps out a cancelled booking but the width of its texts. -/
theorem refusal_cancelled (db db' : ServiceHub.Db) {b : Booking} (hb : b.bookingStatus = .cancelled) :
    db.refusal (.booking b) = db'.refusal (.booking b) := by
  have hactive : b.active = false := by
    rw [Booking.active, hb]
    rfl
  have hnone : ∀ o, clash (.booking b) o = false := by
    intro o
    cases o with
    | booking c => simp only [clash, hactive, Bool.false_and]
    | _ => rfl
  unfold ServiceHub.Db.refusal
  rw [clashes_of_none hnone, clashes_of_none hnone]

/-- Nothing keeps out an audit row. -/
theorem refusal_audit (db : ServiceHub.Db) (a : AuditLog) : db.refusal (.audit a) = none := by
  have hnone : ∀ o, clash (.audit a) o = false := fun o => by cases o <;> rfl
  unfold ServiceHub.Db.refusal
  rw [clashes_of_none hnone]
  rfl

theorem answeredAlike_of_cancels {s : Stmt} (hs : Cancels bookingId userId auditId s) :
    AnsweredAlike (SameBooking bookingId userId auditId) s := by
  intro db db' h
  cases s with
  | updateBooking id data =>
      obtain ⟨rfl, hdata⟩ := hs
      have hexec : db.exec (.updateBooking id data) = db'.exec (.updateBooking id data) := by
        simp only [ServiceHub.Db.exec, ServiceHub.Db.update, h.booking]
        cases db'.bookings.find? id with
        | none => rfl
        | some b =>
            have hstatus : (data.on b).bookingStatus = .cancelled := by
              rw [BookingUpdate.on, hdata]
              rfl
            simp only [refusal_cancelled db db' hstatus]
      refine ⟨hexec, fun b _ => ⟨?_, h.user, h.audit⟩⟩
      show (db.bookings.put b).find? id = (db'.bookings.put b).find? id
      rw [Table.find?_put, Table.find?_put, h.booking]
  | createAudit a =>
      obtain ⟨rfl, hactor⟩ := hs
      have hexec : db.exec (.createAudit a) = db'.exec (.createAudit a) := by
        simp only [ServiceHub.Db.exec, ServiceHub.Db.insert, Row.key, ServiceHub.Db.get, h.audit,
          ServiceHub.Db.dangling, hactor, Option.any_some, h.user, refusal_audit]
      refine ⟨hexec, fun x _ => ⟨h.booking, h.user, ?_⟩⟩
      show (db.auditLogs.put x).find? a.id = (db'.auditLogs.put x).find? a.id
      rw [Table.find?_put, Table.find?_put, h.audit]
  | _ => exact hs.elim

theorem cancel_eq (ctx : Ctx) (dto : CancelBookingDto) (db : ServiceHub.Db) :
    ((ServiceHub.cancelBookingAsCustomer ctx bookingId userId dto).serial ⟨none, db, []⟩).2 =
      ((cancelFound ctx bookingId userId dto
        ((db.bookings.find? bookingId).filter (·.customerId = userId))).serial ⟨none, db, []⟩).2 := by
  unfold ServiceHub.cancelBookingAsCustomer
  rw [Prog.serial_bind, Prog.serial_autocommit]
  rfl

theorem cancelFound_obeys (ctx : Ctx) (dto : CancelBookingDto) (found : Option Booking) :
    Obeys (fun _ i => ∀ s, i = .stmt s → Cancels bookingId userId (ctx.uuid 0) s) (fun _ _ => True) []
      (cancelFound ctx bookingId userId dto found) := by
  unfold cancelFound cancelBookingTx
  simp only [obeys_bind, obeys_orThrow, obeys_throwIf, obeys_transaction, autocommit_bind,
    BookingRepository.obeys_updateStatus, AuditLogRepository.obeys_create, autocommit_pure, obeys_pure,
    enqueue, obeys_external]
  simp only [Instr.stmt.injEq, reduceCtorEq, forall_eq', Cancels, false_implies, implies_true,
    and_true, true_and]
  intro b _ _ _
  exact ⟨rfl, fun _ => ⟨rfl, rfl⟩⟩

theorem cancel_alike (ctx : Ctx) (dto : CancelBookingDto) {db db' : Db}
    (hagree : db.own userId = db'.own userId) (hfresh : db.auditLogs.find? (ctx.uuid 0) = none)
    (hfresh' : db'.auditLogs.find? (ctx.uuid 0) = none) :
    BookingService.cancelBookingAsCustomer ctx db bookingId userId dto =
      BookingService.cancelBookingAsCustomer ctx db' bookingId userId dto := by
  have hsame : (db.bookings.find? bookingId).filter (·.customerId = userId) =
      (db'.bookings.find? bookingId).filter (·.customerId = userId) := by
    rw [find?_cancel, find?_cancel, hagree]
  unfold BookingService.cancelBookingAsCustomer
  rw [cancel_eq, cancel_eq]
  show ((cancelFound ctx bookingId userId dto
        ((db.bookings.find? bookingId).filter (·.customerId = userId))).serial ⟨none, db.core, []⟩).2 =
    ((cancelFound ctx bookingId userId dto
        ((db'.bookings.find? bookingId).filter (·.customerId = userId))).serial ⟨none, db'.core, []⟩).2
  rw [← hsame]
  cases hb : (db.bookings.find? bookingId).filter (·.customerId = userId) with
  | none => rfl
  | some b =>
      have hb' := hsame.symm.trans hb
      obtain ⟨hfound, hmine⟩ := Option.filter_eq_some_iff.mp hb
      obtain ⟨hfound', _⟩ := Option.filter_eq_some_iff.mp hb'
      obtain rfl := of_decide_eq_true hmine
      have huser : (db.users.find? b.customerId).isNone = (db'.users.find? b.customerId).isNone := by
        have hthere := db.hasCustomer b (Table.mem_of_find? hfound)
        have hthere' := db'.hasCustomer b (Table.mem_of_find? hfound')
        rw [Option.isNone_eq_false_iff.mpr hthere, Option.isNone_eq_false_iff.mpr hthere']
      have hlike : SameBooking bookingId b.customerId (ctx.uuid 0) db.core db'.core :=
        ⟨hfound.trans hfound'.symm, huser, hfresh.trans hfresh'.symm⟩
      exact result_alike (fun s => answeredAlike_of_cancels) (cancelFound_obeys ctx dto (some b))
        (.of_db hlike [])

end

namespace Sample

open ServiceHub.Sample (user host ctx)
open Providers.Sample (provider offering service booking)

/-- Alice has a booking. -/
def db : Db where
  users := ((Table.empty.put (user "alice" .user)).put (user "bob" .user)).put (user "owner" .user)
  providers := Table.empty.put provider
  services := Table.empty.put service
  providerServices := Table.empty.put offering
  availability := .empty
  bookings := Table.empty.put booking
  payments := .empty
  paymentWebhookEvents := .empty
  reviews := .empty
  notifications := .empty
  auditLogs := .empty
  hasCustomer := by decide
  hasProvider := by decide
  hasOffering := by decide
  hasUser := by decide

/-- Bob has one too, and has paid for it. -/
def crowded : Db where
  users := db.users
  providers := db.providers
  services := db.services
  providerServices := db.providerServices
  availability := .empty
  bookings := db.bookings.put { booking with id := "other", customerId := "bob" }
  payments := Table.empty.put
    ⟨"payment", "other", .razorpay, "order_1", some "pay_1", none, 500, "INR", .success, some 0, none, 0⟩
  paymentWebhookEvents := .empty
  reviews := .empty
  notifications := .empty
  auditLogs := .empty
  hasCustomer := by decide
  hasProvider := by decide
  hasOffering := by decide
  hasUser := by decide

/-- The first page. -/
def everything : QueryBookingsDto :=
  ⟨none, none, none, none, none, none, none, none, none, none⟩

end Sample

/-! ## What is told -/

/-- **What is told of bookings and payments is told of one's own.**  In two
states with the same bookings of a user, with their payments and everything else
that is related to them, the user is given the same booking or payment for an
id, the same page for a query and the same outcome of a cancellation, be it an
answer or an error. -/
theorem reads_own (host : Host) (mul : ℚ → ℚ → ℚ) (ctx : Ctx) (db db' : Db) (userId id : Uuid)
    (queryDto : QueryBookingsDto) (dto : CancelBookingDto) (hu : userId ≠ "")
    (hagree : db.own userId = db'.own userId) (hfresh : db.auditLogs.find? (ctx.uuid 0) = none)
    (hfresh' : db'.auditLogs.find? (ctx.uuid 0) = none) :
    BookingService.getBookingById db id userId = BookingService.getBookingById db' id userId ∧
    PaymentService.getPaymentById db id userId = PaymentService.getPaymentById db' id userId ∧
    BookingService.getCustomerBookings host mul db userId queryDto =
      BookingService.getCustomerBookings host mul db' userId queryDto ∧
    BookingService.cancelBookingAsCustomer ctx db id userId dto =
      BookingService.cancelBookingAsCustomer ctx db' id userId dto := by
  refine ⟨?_, ?_, ?_, cancel_alike ctx dto hagree hfresh hfresh'⟩
  · rw [getBookingById_eq, getBookingById_eq, hagree]
  · rw [getPaymentById_eq, getPaymentById_eq, hagree]
  · rw [getCustomerBookings_eq host mul hu, getCustomerBookings_eq host mul hu, hagree]

theorem reads_own_sample :
    BookingService.getBookingById Sample.db "other" "alice" =
      BookingService.getBookingById Sample.crowded "other" "alice" ∧
    PaymentService.getPaymentById Sample.db "other" "alice" =
      PaymentService.getPaymentById Sample.crowded "other" "alice" ∧
    BookingService.getCustomerBookings Sample.host (· * ·) Sample.db "alice" Sample.everything =
      BookingService.getCustomerBookings Sample.host (· * ·) Sample.crowded "alice" Sample.everything ∧
    BookingService.cancelBookingAsCustomer (Sample.ctx 0) Sample.db "other" "alice" ⟨none⟩ =
      BookingService.cancelBookingAsCustomer (Sample.ctx 0) Sample.crowded "other" "alice" ⟨none⟩ :=
  reads_own Sample.host (· * ·) (Sample.ctx 0) Sample.db Sample.crowded "alice" "other"
    Sample.everything ⟨none⟩ (by decide) rfl rfl rfl

end ServiceHub.Records
