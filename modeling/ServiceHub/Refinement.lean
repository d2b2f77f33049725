/-
# `Refinement` — operations run alone are actions of the ledger

`Db.ledger` reads the statuses off the database.  Whatever an operation writes
when it runs alone is one action of the ledger (`Change.refines`), and the
actions that the ledger hardly guards have their cause in the request
(`Cause`): a refund has passed its checks, and a payment is failed or reconciled
by a delivery of such an event.
-/
import ServiceHub.Payment.Spec
import ServiceHub.Ledger

namespace ServiceHub

open Data Txn

def Db.ledger (db : Db) : Ledger Uuid Uuid where
  booking id := (db.bookings.find? id).map (·.bookingStatus)
  payment id := (db.payments.find? id).map fun p => (p.bookingId, p.status)

/-- The audit row says that the money for the booking has to be paid back. -/
def RefundFlag (a : AuditLog) (bookingId : Uuid) : Prop :=
  a.entityType = "Booking" ∧ a.entityId = bookingId ∧
    asText (a.newValue.bind (Json.prop "flag")) = some "REQUIRES_REFUND"

instance (a : AuditLog) (bookingId : Uuid) : Decidable (RefundFlag a bookingId) :=
  inferInstanceAs (Decidable (_ ∧ _))

def Flagged (db : Db) (bookingId : Uuid) : Prop := ∃ a ∈ db.auditLogs.rows, RefundFlag a bookingId

variable {host : Host} {ctx : Ctx} {db : Db} {request : Request} {rows : List Row}

/-- What is behind an action. -/
def Cause (host : Host) (db : Db) (op : Op) (after : Db) :
    Ledger.Action Uuid Uuid → Prop
  | .late b _ => Flagged after b
  | .refund b p => ∃ adminUserId paymentId dto payment booking,
      op.request = .refundPayment adminUserId paymentId dto ∧
      RefundPasses host op.ctx db paymentId dto payment booking ∧ booking.id = b ∧ payment.id = p
  | .fail _ p => ∃ event payment, Delivers host db op event "payment.failed" payment ∧
      db.clashes (.payment ((failData host event).on payment.toPayment)) = false ∧ payment.id = p
  | .reconcile _ p => ∃ event eventType payment, Delivers host db op event eventType payment ∧
      isRefund eventType ∧ payment.id = p
  | _ => True

/-! ## The ledger after a write -/

section
variable (db : Db)

theorem ledger_put_booking (b : Booking) : (db.put (.booking b)).ledger =
    ⟨fun id => if b.id = id then some b.bookingStatus else db.ledger.booking id,
      db.ledger.payment⟩ := by
  have hbooking : (db.put (.booking b)).ledger.booking =
      fun id => if b.id = id then some b.bookingStatus else db.ledger.booking id := by
    funext id
    show ((db.bookings.put b).find? id).map _ = _
    rw [Table.find?_put]
    split <;> rfl
  rw [← hbooking]
  rfl

theorem ledger_put_payment (p : Payment) : (db.put (.payment p)).ledger =
    ⟨db.ledger.booking,
      fun id => if p.id = id then some (p.bookingId, p.status) else db.ledger.payment id⟩ := by
  have hpayment : (db.put (.payment p)).ledger.payment =
      fun id => if p.id = id then some (p.bookingId, p.status) else db.ledger.payment id := by
    funext id
    show ((db.payments.put p).find? id).map _ = _
    rw [Table.find?_put]
    split <;> rfl
  rw [← hpayment]
  rfl

theorem ledger_put_event (e : PaymentWebhookEvent) : (db.put (.event e)).ledger = db.ledger := rfl

theorem ledger_put_audit (a : AuditLog) : (db.put (.audit a)).ledger = db.ledger := rfl

end

theorem ledger_booking {id : Uuid} {b : Booking} (h : db.bookings.find? id = some b) :
    db.ledger.booking id = some b.bookingStatus := by
  show (db.bookings.find? id).map _ = _
  rw [h]
  rfl

theorem ledger_payment {id : Uuid} {p : Payment} (h : db.payments.find? id = some p) :
    db.ledger.payment id = some (p.bookingId, p.status) := by
  show (db.payments.find? id).map _ = _
  rw [h]
  rfl

theorem mem_of_ledger_booking {id : Uuid} {s : BookingStatus} (h : db.ledger.booking id = some s) :
    ∃ b ∈ db.bookings.rows, b.id = id ∧ b.bookingStatus = s := by
  obtain ⟨b, hb, hs⟩ := Option.map_eq_some_iff.mp h
  exact ⟨b, Table.mem_of_find? hb, Table.key_of_find? hb, hs⟩

theorem mem_of_ledger_payment {id bookingId : Uuid} {s : PaymentStatus}
    (h : db.ledger.payment id = some (bookingId, s)) :
    ∃ p ∈ db.payments.rows, p.id = id ∧ p.bookingId = bookingId ∧ p.status = s := by
  obtain ⟨p, hp, hs⟩ := Option.map_eq_some_iff.mp h
  exact ⟨p, Table.mem_of_find? hp, Table.key_of_find? hp, (Prod.mk.inj hs).1, (Prod.mk.inj hs).2⟩

/-! ## Every change is an action -/

theorem Delivers.find?_payment {op : Op} {event : WebhookEvent} {eventType : String}
    {payment : PaymentWithBooking} (h : Delivers host db op event eventType payment) :
    db.payments.find? payment.id = some payment.toPayment := by
  obtain ⟨orderId, _, hfound⟩ := h.concerns.orderId
  exact (Db.find?_of_paymentByOrder hfound).1

/-- A booking that expires takes its unpaid payments with it. -/
theorem ledger_expired {bookingId : Uuid} {b : Booking} (hb : db.bookings.find? bookingId = some b)
    (a : AuditLog) :
    (puts db (.booking (expireData.on b) ::
      (db.unpaid bookingId).map (fun p => Row.payment (expirePaymentData.on p)) ++
        [.audit a])).ledger = db.ledger.act (.expire bookingId) := by
  set rows : List Row := .booking (expireData.on b) ::
    (db.unpaid bookingId).map (fun p => Row.payment (expirePaymentData.on p)) ++ [.audit a]
    with hrows
  have hid := Table.key_of_find? hb
  have hbookings : ∀ id, ((puts db rows).bookings.find? id).map (·.bookingStatus) =
      if bookingId = id then some .expired else db.ledger.booking id := by
    intro id
    rcases Db.find?_booking_puts db rows id with ⟨x, hx, rfl, hfind⟩ | ⟨hnone, hfind⟩
    · obtain rfl : x = expireData.on b := by simpa [hrows] using hx
      rw [hfind, if_pos (show bookingId = (expireData.on b).id from hid.symm)]
      rfl
    · rw [hfind, if_neg]
      · rfl
      · intro h
        exact hnone (expireData.on b) (by simp [hrows]) (hid.trans h)
  have hmem : ∀ p : Payment, Row.payment p ∈ rows ↔
      ∃ q ∈ db.unpaid bookingId, expirePaymentData.on q = p := by
    intro p
    simp [hrows]
  have hpayments : ∀ id, ((puts db rows).payments.find? id).map (fun p => (p.bookingId, p.status)) =
      (db.ledger.payment id).map (Ledger.afterExpiry bookingId) := by
    intro id
    rcases Db.find?_payment_puts db rows id with ⟨x, hx, rfl, hfind⟩ | ⟨hnone, hfind⟩
    · obtain ⟨q, hq, rfl⟩ := (hmem x).mp hx
      obtain ⟨hrow, htest⟩ := List.mem_filter.mp hq
      have hfound : db.payments.find? (expirePaymentData.on q).id = some q :=
        Table.find?_of_mem hrow
      have hunpaid : q.bookingId = bookingId ∧ (q.status = .created ∨ q.status = .pending) := by
        simpa [PaymentWhere.test] using htest
      rw [hfind, ledger_payment hfound, Option.map_some, Option.map_some, Ledger.afterExpiry,
        if_pos hunpaid]
      rfl
    · rw [hfind]
      cases hp : db.payments.find? id with
      | none => simp [Db.ledger, hp]
      | some p =>
          have hpaid : ¬ (p.bookingId = bookingId ∧ (p.status = .created ∨ p.status = .pending)) := by
            intro hunpaid
            have hq : p ∈ db.unpaid bookingId := List.mem_filter.mpr
              ⟨Table.mem_of_find? hp, by simpa [PaymentWhere.test] using hunpaid⟩
            have hid : p.id = id := Table.key_of_find? hp
            exact hnone (expirePaymentData.on p) ((hmem _).mpr ⟨p, hq, rfl⟩) hid
          rw [ledger_payment hp, Option.map_some, Option.map_some, Ledger.afterExpiry, if_neg hpaid]
  have h : (puts db rows).ledger = ⟨fun id => if bookingId = id then some .expired
      else db.ledger.booking id, fun id => (db.ledger.payment id).map (Ledger.afterExpiry bookingId)⟩ :=
    congr (congrArg Ledger.mk (funext hbookings)) (funext hpayments)
  exact h

theorem EventChange.refines {payment : PaymentWithBooking} {event : WebhookEvent}
    {eventType : String} (h : EventChange host ctx db payment event eventType rows)
    (hdelivers : Delivers host db ⟨ctx, request⟩ event eventType payment) {db' : Db}
    (hdb' : db'.ledger = db.ledger) :
    ∃ a, db.ledger.Allowed a ∧ (puts db' rows).ledger = db.ledger.act a ∧
      Cause host db ⟨ctx, request⟩ (puts db' rows) a := by
  obtain ⟨orderId, _, hfound⟩ := hdelivers.concerns.orderId
  have hp := ledger_payment (Db.find?_of_paymentByOrder hfound).1
  have hb := ledger_booking hdelivers.concerns.booking
  have hid : payment.booking.id = payment.bookingId :=
    Table.key_of_find? hdelivers.concerns.booking
  have hquiet : ∃ a, db.ledger.Allowed a ∧ db'.ledger = db.ledger.act a ∧
      Cause host db ⟨ctx, request⟩ db' a := ⟨.quiet, trivial, hdb', trivial⟩
  cases h with
  | paidAlready _ _ => exact hquiet
  | notPayable _ _ => exact hquiet
  | tampered _ _ => exact hquiet
  | other _ => exact hquiet
  | confirmed _ _ hcan hpending =>
      refine ⟨.confirm payment.bookingId payment.id, ⟨hpending ▸ hb, _, hp, hcan⟩, ?_, trivial⟩
      simp only [puts_cons, puts_nil, Database.put, ledger_put_audit, ledger_put_payment,
        ledger_put_booking, BookingUpdate.id_on, hid, hdb']
      rfl
  | flagged _ _ hcan hlate huuid =>
      refine ⟨.late payment.bookingId payment.id, ⟨⟨_, hb, hlate⟩, _, hp, hcan⟩, ?_, ?_⟩
      · simp only [puts_cons, puts_nil, Database.put, ledger_put_audit, ledger_put_payment, hdb']
        rfl
      · refine ⟨refundFlagAudit ctx payment (some payment.booking.bookingStatus), ?_, rfl, rfl, rfl⟩
        refine Table.mem_put.mpr (Or.inr ⟨Table.mem_put.mpr (Or.inl rfl), fun h => huuid h.symm⟩)
  | failed hname _ hfree =>
      subst hname
      refine ⟨.fail payment.bookingId payment.id, ⟨_, hp⟩, ?_, event, payment, hdelivers, hfree, rfl⟩
      simp only [puts_cons, puts_nil, Database.put, ledger_put_audit, ledger_put_payment, hdb']
      rfl
  | reconciled hrefund _ _ =>
      refine ⟨.reconcile payment.bookingId payment.id, ⟨_, hp⟩, ?_, event, eventType, payment,
        hdelivers, hrefund, rfl⟩
      simp only [puts_cons, puts_nil, Database.put, ledger_put_payment, hdb']
      rfl

/-- **Operations refine the ledger.** -/
theorem Change.refines (h : Change host ctx db request rows) :
    ∃ a, db.ledger.Allowed a ∧ (puts db rows).ledger = db.ledger.act a ∧
      Cause host db ⟨ctx, request⟩ (puts db rows) a := by
  cases h with
  | nothing => exact ⟨.quiet, trivial, rfl, trivial⟩
  | created _ _ _ hbook hpay =>
      refine ⟨.book (ctx.uuid 0) (ctx.uuid 1), ⟨?_, ?_⟩, ?_, trivial⟩
      · simp [Db.ledger, hbook]
      · simp [Db.ledger, hpay]
      · simp only [puts_cons, puts_nil, Database.put, ledger_put_audit, ledger_put_payment,
          ledger_put_booking]
        rfl
  | @cancelled bookingId _ _ b hb hcan =>
      obtain rfl := Table.key_of_find? hb
      refine ⟨.cancel b.id, ⟨_, ledger_booking hb, hcan⟩, ?_, trivial⟩
      simp only [puts_cons, puts_nil, Database.put, ledger_put_audit, ledger_put_booking]
      rfl
  | @expired bookingId b hb hpending =>
      have hguard : db.ledger.booking bookingId = some .pendingPayment :=
        hpending ▸ ledger_booking hb
      exact ⟨.expire bookingId, hguard, ledger_expired hb _, trivial⟩
  | @completed bookingId _ _ b hb hcan =>
      obtain rfl := Table.key_of_find? hb
      refine ⟨.complete b.id, ⟨_, ledger_booking hb, hcan⟩, ?_, trivial⟩
      simp only [puts_cons, puts_nil, Database.put, ledger_put_audit, ledger_put_booking]
      rfl
  | @overdue bookingId b hb _ =>
      obtain rfl := Table.key_of_find? hb
      refine ⟨.quiet, trivial, ?_, trivial⟩
      simp only [puts_cons, puts_nil, Database.put, ledger_put_audit, ledger_put_booking]
      refine congrArg (Ledger.mk · db.ledger.payment) (funext fun id => ?_)
      split
      · rename_i hid
        obtain rfl : b.id = id := hid
        exact (ledger_booking hb).symm
      · rfl
  | @ordered _ bookingId b _ _ hb hpending hnew =>
      obtain rfl := Table.key_of_find? hb
      refine ⟨.order b.id (ctx.uuid 0), ⟨hpending ▸ ledger_booking hb, ?_⟩, ?_, trivial⟩
      · simp [Db.ledger, hnew]
      · simp only [puts_cons, puts_nil, Database.put, ledger_put_payment]
        rfl
  | @verified _ _ p b hp hb hpending hcan =>
      have hid : b.id = p.bookingId := Table.key_of_find? hb
      refine ⟨.confirm p.bookingId p.id, ⟨hpending ▸ ledger_booking hb, _,
        ledger_payment (Db.find?_of_paymentByOrder hp).1, hcan⟩, ?_, trivial⟩
      simp only [puts_cons, puts_nil, Database.put, ledger_put_audit, ledger_put_payment,
        ledger_put_booking, BookingUpdate.id_on, hid]
      rfl
  | @delivered delivery event rows result hread hchange =>
      cases hchange with
      | refused e => exact ⟨.quiet, trivial, rfl, trivial⟩
      | duplicate _ _ => exact ⟨.quiet, trivial, rfl, trivial⟩
      | skipped _ _ _ => exact ⟨.quiet, trivial, rfl, trivial⟩
      | clashed _ _ _ _ => exact ⟨.quiet, trivial, rfl, trivial⟩
      | @processed eventId eventType payment rows' _ hid hname hconcerns hfresh hchange _ =>
          have hdelivers : Delivers host db ⟨ctx, .handleWebhookEvent delivery⟩ event eventType
              payment := ⟨⟨delivery, rfl, hread⟩, ⟨eventId, hid, hfresh⟩, hname, hconcerns⟩
          obtain ⟨a, hallowed, hledger, hcause⟩ := hchange.refines hdelivers
            (ledger_put_event db (newWebhookEvent ctx eventId eventType event.payload none))
          rw [List.cons_append, puts_cons, puts_append]
          exact ⟨a, hallowed, hledger, by cases a <;> exact hcause⟩
  | @refunded adminUserId paymentId dto p b refundId hpasses =>
      have hid : b.id = p.bookingId := Table.key_of_find? hpasses.booking
      have hp : p.id = paymentId := Table.key_of_find? hpasses.payment
      refine ⟨.refund p.bookingId p.id, ⟨⟨_, ledger_booking hpasses.booking⟩, ?_⟩, ?_,
        adminUserId, paymentId, dto, p, b, rfl, hpasses, hid, rfl⟩
      · rw [hp, ledger_payment hpasses.payment, hpasses.success]
      by_cases hcancelled : b.bookingStatus = .cancelled
      · rw [if_pos hcancelled]
        simp only [List.cons_append, List.nil_append, puts_cons, puts_nil,
          Database.put, ledger_put_audit, ledger_put_payment]
        -- the booking is cancelled already
        refine congrArg (Ledger.mk · _) (funext fun id => ?_)
        show db.ledger.booking id = if p.bookingId = id then _ else _
        split
        · rename_i hid
          rw [← hid, ledger_booking hpasses.booking, hcancelled]
        · rfl
      · rw [if_neg hcancelled]
        simp only [List.cons_append, List.nil_append, puts_cons, puts_nil, Database.put,
          ledger_put_audit, ledger_put_payment, ledger_put_booking, BookingUpdate.id_on, hid]
        rfl

/-- Run alone, an operation is an action of the ledger. -/
theorem runAlone_refines (host : Host) (op : Op) (db : Db) :
    ∃ a, db.ledger.Allowed a ∧ (runAlone host op db).1.ledger = db.ledger.act a ∧
      Cause host db op (runAlone host op db).1 a := by
  obtain ⟨rows, hrows, hchange⟩ := runAlone_change host op db
  rw [hrows]
  exact hchange.refines

end ServiceHub
