/-
# `Settling` — one payment, several calls that settle it

The client verifies the payment while the gateway delivers `payment.captured`
and `order.paid` for the same order, each with an event id of its own.  Every
one of these calls reads the payment first and settles it in a transaction
afterwards.  A transaction that settles writes, in the order of the call,

    the webhook                  the booking, its audit row, the payment, its audit row
    `verifyClientPayment`        the payment, the booking, the payment's audit row, the booking's

**Two phases.**  Until the first such transaction is committed, every call reads
the payment and the booking as they were at first.  No two transactions can
write at once, since both begin with one of the same two rows (`Run.apart`).
From then on nothing is to be written but rows of webhook events.

A call that read the payment before that commit and writes after it breaks the
second half: it settles the payment again, or finds the booking CONFIRMED and
flags the money for a refund.  `settled_once` is about the runs without one.
-/
import ServiceHub.Confirming

namespace ServiceHub

open Data Txn Prog

/-! ## What a call writes to settle a payment -/

/-- The row says that the money is to be paid back. -/
def AuditLog.flagged (a : AuditLog) : Bool :=
  decide (Json.optProp a.newValue "flag" = text "REQUIRES_REFUND")

/-- BOOKING_CONFIRMED of the booking. -/
def AuditLog.confirmation (bookingId : Uuid) (a : AuditLog) : Bool :=
  a.entityType == "Booking" && a.entityId == bookingId && a.action == .bookingConfirmed

/-- PAYMENT_SUCCESS of the payment. -/
def AuditLog.receipt (paymentId : Uuid) (a : AuditLog) : Bool :=
  a.entityType == "Payment" && a.entityId == paymentId && a.action == .paymentSuccess

/-- The statement writes other rows than those of webhook events. -/
def Stmt.settles : Stmt → Bool
  | .createBooking _ | .updateBooking _ _ | .updateBookings _ _ | .createPayment _
  | .updatePayment _ _ | .updatePayments _ _ | .createAudit _ => true
  | _ => false

inductive Part where
  | booking
  | confirmation
  | payment
  | receipt
  deriving DecidableEq

/-- The part that a statement has in settling the payment. -/
def Stmt.part (payment : Payment) : Stmt → Option Part
  | .updateBooking id data =>
      if id = payment.bookingId ∧ data.bookingStatus = some .confirmed then some .booking else none
  | .updatePayment id data =>
      if id = payment.id ∧ data.status = .success then some .payment else none
  | .createAudit a =>
      if a.flagged then none
      else if a.confirmation payment.bookingId then some .confirmation
      else if a.receipt payment.id then some .receipt
      else none
  | _ => none

/-- The parts of what was written, in order. -/
def parts (payment : Payment) (l : List ((s : Stmt) × Ans s)) : List (Option Part) :=
  (l.reverse.filter (·.1.settles)).map (·.1.part payment)

/-- The webhook, and `verifyClientPayment`. -/
def scripts : List (List (Option Part)) :=
  [[some .booking, some .confirmation, some .payment, some .receipt],
    [some .payment, some .booking, some .receipt, some .confirmation]]

section
variable {payment : Payment} {l l' : List ((s : Stmt) × Ans s)} {s : Stmt} {a : Ans s}

@[simp] theorem parts_nil : parts payment [] = [] := rfl

theorem parts_append : parts payment (l ++ l') = parts payment l' ++ parts payment l := by
  simp [parts]

theorem parts_cons : parts payment (⟨s, a⟩ :: l) =
    parts payment l ++ if s.settles then [s.part payment] else [] := by
  cases hs : s.settles <;> simp [parts, hs]

theorem parts_eq_nil : parts payment l = [] ↔ ∀ x ∈ l, x.1.settles = false := by
  simp [parts]

theorem part_of_mem {x : (s : Stmt) × Ans s} (hx : x ∈ l) (hs : x.1.settles = true) :
    x.1.part payment ∈ parts payment l :=
  List.mem_map.mpr ⟨x, List.mem_filter.mpr ⟨List.mem_reverse.mpr hx, hs⟩, rfl⟩

end

/-! ## What the calls do -/

/-- The call has read the payment and its booking as they were at first. -/
structure Fresh (payment : Payment) (booking : Booking) (h : CallHist) : Prop where
  payment_eq : ∀ o, (⟨.stmt (.findPaymentByOrder payment.gatewayOrderId), .ok o⟩ :
    (i : Instr Stmt Ext) × Except Exn (i.Ans Ans)) ∈ h → o = some payment
  booking_eq : ∀ o, (⟨.stmt (.findBooking payment.bookingId), .ok o⟩ :
    (i : Instr Stmt Ext) × Except Exn (i.Ans Ans)) ∈ h → o = some booking

/-- The rows that a call must not have written when it reads them. -/
def Stmt.rereads : Stmt → Bool
  | .findBooking _ | .findPaymentByOrder _ => true
  | _ => false

theorem Stmt.rereads_of_settles {s : Stmt} (hs : s.settles = true) : s.rereads = false := by
  cases s <;> first | rfl | cases hs

/-- A call that reads no other versions writes by one of the scripts, in a
transaction, and commits all of it or nothing. -/
def Scripted (payment : Payment) (booking : Booking) (h : CallHist) : Instr Stmt Ext → Prop
  | .stmt s => Fresh payment booking h →
      (s.settles = true → ∃ l, sinceBegin h = some l ∧
        ∃ script ∈ scripts, parts payment l ++ [s.part payment] <+: script) ∧
      (s.rereads = true → ∀ l, sinceBegin h = some l → parts payment l = [])
  | .commit => Fresh payment booking h → ∀ l, sinceBegin h = some l →
      parts payment l = [] ∨ parts payment l ∈ scripts
  | _ => True

/-- The event says that the whole amount was captured. -/
def Fits (host : Host) (payment : Payment) (event : WebhookEvent) : Prop :=
  canTransitionPayment payment.status .success = true ∧
    amountDiffers host payment event.paymentEntity = false ∧
    (currencyDiffers host payment event.paymentEntity).toOption = some false

/-- The answer says that the payment is settled. -/
def Reports (host : Host) (payment : Payment) (op : Op) : Response → Prop
  | .verified _ => True
  | .webhook .processed => ∃ event ∈ op.event host, Fits host payment event
  | _ => False

/-- What a call concludes: it has settled the payment if it says so. -/
def Truthful (host : Host) (payment : Payment) (booking : Booking) (op : Op) (h : CallHist) :
    Except Exn Response → Prop
  | .ok r => Fresh payment booking h → Reports host payment op r → parts payment (kept h) ≠ []
  | .error _ => True

section
variable {payment : Payment} {booking : Booking} {h h' : CallHist} {host : Host} {ctx : Ctx}
  {α : Type}

theorem Fresh.nil : Fresh payment booking [] :=
  ⟨fun _ h => absurd h List.not_mem_nil, fun _ h => absurd h List.not_mem_nil⟩

theorem Fresh.of_suffix (hfresh : Fresh payment booking h') (hs : h <:+ h') :
    Fresh payment booking h :=
  ⟨fun o ho => hfresh.payment_eq o (hs.subset ho), fun o ho => hfresh.booking_eq o (hs.subset ho)⟩

/-- Of a call that has read another version, nothing is asked. -/
theorem obeys_of_stale {R : CallHist → Except Exn α → Prop}
    (hr : ∀ h r, ¬ Fresh payment booking h → R h r) : ∀ {p : Call α} {h : CallHist},
      ¬ Fresh payment booking h → Obeys (Scripted payment booking) R h p
  | .ret _, h, hstale => hr h _ hstale
  | .throw _, h, hstale => hr h _ hstale
  | .ask i k, h, hstale => by
      refine ⟨?_, fun r => obeys_of_stale hr fun hfresh =>
        hstale (hfresh.of_suffix (List.suffix_cons _ _))⟩
      cases i with
      | stmt s => exact fun hfresh => absurd hfresh hstale
      | commit => exact fun hfresh => absurd hfresh hstale
      | _ => trivial

/-- In its open transaction the call has written these parts. -/
def Played (payment : Payment) (h : CallHist) (ps : List (Option Part)) : Prop :=
  ∃ l, sinceBegin h = some l ∧ parts payment l = ps

section
variable {ps : List (Option Part)} {s : Stmt} {a : Ans s}

theorem Played.begin (hout : sinceBegin h = none) :
    Played payment (⟨.begin, .ok ()⟩ :: h) [] := ⟨[], by simp [sinceBegin, hout], rfl⟩

theorem Played.write (hw : Played payment h ps) (hs : s.settles = true) :
    Played payment (⟨.stmt s, .ok a⟩ :: h) (ps ++ [s.part payment]) := by
  obtain ⟨l, hl, rfl⟩ := hw
  refine ⟨⟨s, a⟩ :: l, by simp [sinceBegin, hl], ?_⟩
  rw [parts_cons, if_pos hs]

theorem Played.pass (hw : Played payment h ps) (hs : s.settles = false) :
    Played payment (⟨.stmt s, .ok a⟩ :: h) ps := by
  obtain ⟨l, hl, rfl⟩ := hw
  refine ⟨⟨s, a⟩ :: l, by simp [sinceBegin, hl], ?_⟩
  rw [parts_cons, hs]
  exact List.append_nil _

/-- The next part of a script. -/
theorem scripted_write {q : Part} {f : Ans s → Query α} {R : CallHist → Except Exn α → Prop}
    (hw : Played payment h ps) (hs : s.settles = true) (hpart : s.part payment = some q)
    (hnext : ∃ script ∈ scripts, ps ++ [some q] <+: script) (herror : ∀ h e, R h (.error e))
    (hf : ∀ a, Played payment (⟨.stmt s, .ok a⟩ :: h) (ps ++ [some q]) →
      Obeys (Scripted payment booking) R (⟨.stmt s, .ok a⟩ :: h) (autocommit Ext (f a))) :
    Obeys (Scripted payment booking) R h (autocommit Ext (Prog.perform s >>= f)) := by
  rw [autocommit_bind, obeys_bind]
  refine obeys_stmt.mpr ⟨fun _ => ⟨fun _ => ?_, fun hreads => ?_⟩, fun a => hf a ?_,
    fun e => herror _ e⟩
  · obtain ⟨l, hl, rfl⟩ := hw
    exact ⟨l, hl, by rwa [hpart]⟩
  · exact absurd hreads (by simp [Stmt.rereads_of_settles hs])
  · rw [← hpart]
    exact hw.write hs

theorem scripted_pass (hs : s.settles = false)
    (hreads : s.rereads = true → ∀ l, sinceBegin h = some l → parts payment l = []) :
    Scripted payment booking h (.stmt s) :=
  fun _ => ⟨fun hsettles => absurd hsettles (by simp [hs]), hreads⟩

end

/-- A body that returns `a` has written nothing or a script, and `K a` of it. -/
def Closes (payment : Payment) (booking : Booking) (K : α → List (Option Part) → Prop)
    (h : CallHist) (r : Except Exn α) : Prop :=
  ∀ a, r = .ok a → Fresh payment booking h →
    ∃ ps, Played payment h ps ∧ (ps = [] ∨ ps ∈ scripts) ∧ K a ps

variable {K : α → List (Option Part) → Prop}

theorem closes_error (h : CallHist) (e : Exn) :
    Closes payment booking K h (.error e : Except Exn α) := fun _ ha => nomatch ha

theorem closes_of_stale (h : CallHist) (r : Except Exn α) (hstale : ¬ Fresh payment booking h) :
    Closes payment booking K h r := fun _ _ hfresh => absurd hfresh hstale

/-- **A transaction** that writes a script or nothing settles accordingly. -/
theorem transaction_scripted {body : Query α} (hout : sinceBegin h = none)
    (hbody : Obeys (Scripted payment booking) (Closes payment booking K)
      (⟨.begin, .ok ()⟩ :: h) (autocommit Ext body)) :
    Obeys (Scripted payment booking)
      (fun h' r => ∀ a, r = .ok a → Fresh payment booking h' →
        ∃ ps, parts payment (kept h') = parts payment (kept h) ++ ps ∧ K a ps)
      h (transaction Ext body) := by
  have hopen : sinceBegin (⟨.begin, .ok ()⟩ :: h) = some [] := by simp [sinceBegin, hout]
  refine obeys_transaction.mpr ⟨trivial, fun e a ha => (by cases ha), ?_⟩
  refine (obeys_autocommit_since .refl hbody).mono (fun _ _ hq => hq) ?_
  rintro h' (e | a) ⟨hs, hr⟩
  · exact ⟨trivial, fun _ a ha => by cases ha⟩
  refine ⟨fun hfresh l hl => ?_, ?_, fun e a ha => by cases ha⟩
  · obtain ⟨_, ⟨l', hl', rfl⟩, hps, _⟩ := hr a rfl hfresh
    obtain rfl := Option.some.inj (hl.symm.trans hl')
    exact hps
  · rintro _ ⟨⟩ hfresh
    obtain ⟨_, ⟨l, hl, rfl⟩, _, hk⟩ := hr a rfl (hfresh.of_suffix (List.suffix_cons _ _))
    refine ⟨parts payment l, ?_, hk⟩
    have hkept : kept h' = kept h := hs.kept hopen
    rw [← hkept, ← parts_append]
    simp [kept, hl]

theorem afterConfirmation_scripted {bookingId : Uuid} :
    Obeys (Scripted payment booking) (fun h' _ => kept h' = kept h ∧ h <:+ h') h
      (afterConfirmation ctx bookingId) := by
  unfold afterConfirmation
  simp only [obeys_bind, enqueue, obeys_external]
  simp [Scripted, kept, List.suffix_cons_iff]

/-! ### verifyClientPayment -/

theorem flagged_of_none {a : AuditLog} (h : Json.optProp a.newValue "flag" = none) :
    a.flagged = false := by
  simp [AuditLog.flagged, h, text]

theorem part_confirmation {a : AuditLog} (hflag : Json.optProp a.newValue "flag" = none)
    (ha : a.confirmation payment.bookingId = true) :
    (Stmt.createAudit a).part payment = some .confirmation := by
  simp [Stmt.part, flagged_of_none hflag, ha]

theorem part_receipt {a : AuditLog} (hflag : Json.optProp a.newValue "flag" = none)
    (ha : a.receipt payment.id = true) :
    (Stmt.createAudit a).part payment = some .receipt := by
  have hother : a.confirmation payment.bookingId = false := by
    simp only [AuditLog.receipt, Bool.and_eq_true, beq_iff_eq] at ha
    simp [AuditLog.confirmation, ha.1.1]
  simp [Stmt.part, flagged_of_none hflag, hother, ha]

theorem part_updatePayment {details : PaymentRepository.Details} :
    (Stmt.updatePayment payment.id (PaymentRepository.statusData .success details)).part payment =
      some .payment := by
  simp [Stmt.part, PaymentRepository.statusData]

theorem part_updateBooking {now : Time} :
    (Stmt.updateBooking payment.bookingId
      (BookingRepository.statusData now .confirmed none)).part payment = some .booking := by
  simp [Stmt.part, BookingRepository.statusData]

theorem verifyClientPaymentTx_scripted {customerId : Uuid} {dto : VerifyPaymentDto}
    (hw : Played payment h []) :
    Obeys (Scripted payment booking) (Closes payment booking fun _ ps => ps ≠ []) h
      (autocommit Ext (verifyClientPaymentTx ctx customerId dto ⟨payment, booking⟩)) := by
  unfold verifyClientPaymentTx
  have hreceipt : (Stmt.createAudit (verifiedPaymentAudit ctx customerId dto
      ⟨payment, booking⟩)).part payment = some .receipt :=
    part_receipt rfl (by simp [verifiedPaymentAudit, AuditLog.receipt])
  have hconfirmation : (Stmt.createAudit (verifiedBookingAudit ctx customerId
      ⟨payment, booking⟩)).part payment = some .confirmation :=
    part_confirmation rfl (by simp [verifiedBookingAudit, AuditLog.confirmation])
  refine scripted_write hw rfl part_updatePayment (by decide) closes_error fun _ hw => ?_
  refine scripted_write hw rfl part_updateBooking (by decide) closes_error fun _ hw => ?_
  refine scripted_write hw rfl hreceipt (by decide) closes_error fun _ hw => ?_
  refine scripted_write hw rfl hconfirmation (by decide) closes_error fun _ hw => ?_
  intro _ _ _
  exact ⟨_, hw, Or.inr (by decide), List.cons_ne_nil _ _⟩

/-- What a call reads first: the payment and its booking, unless they have been
written since. -/
theorem findByGatewayOrderId_scripted {f : Option PaymentWithBooking → Call α}
    {R : CallHist → Except Exn α → Prop} (hout : sinceBegin h = none)
    (hstale : ∀ h r, ¬ Fresh payment booking h → R h r) (herror : ∀ h e, R h (.error e))
    (hf : Obeys (Scripted payment booking) R
      (⟨.stmt (.findBooking payment.bookingId), .ok (some booking)⟩ ::
        ⟨.stmt (.findPaymentByOrder payment.gatewayOrderId), .ok (some payment)⟩ :: h)
      (f (some ⟨payment, booking⟩))) :
    Obeys (Scripted payment booking) R h
      (autocommit Ext (PaymentRepository.findByGatewayOrderId payment.gatewayOrderId) >>= f) := by
  have hread : ∀ (h : CallHist) (s : Stmt), sinceBegin h = none → s.settles = false →
      Scripted payment booking h (.stmt s) := by
    intro h s hout hs
    refine scripted_pass hs fun _ l hl => ?_
    rw [hout] at hl
    cases hl
  refine obeys_bind.mpr (PaymentRepository.obeys_findByGatewayOrderId.mpr
    ⟨hread _ _ hout rfl, fun o => ?_, fun e => herror _ e⟩)
  by_cases ho : o = some payment
  · subst ho
    refine PaymentRepository.obeys_includeBooking.mpr ⟨nofun, ?_⟩
    rintro _ ⟨⟩
    have hout' : sinceBegin (⟨.stmt (.findPaymentByOrder payment.gatewayOrderId),
        .ok (some payment)⟩ :: h : CallHist) = none := by rw [sinceBegin, hout, Option.map_none]
    refine ⟨hread _ _ hout' rfl, fun b => ?_, herror _ _, fun e => herror _ e⟩
    by_cases hb : b = booking
    · subst hb
      exact hf
    · exact obeys_of_stale hstale fun hfresh =>
        hb (Option.some.inj (hfresh.booking_eq _ List.mem_cons_self))
  · refine obeys_of_stale ?_ fun hfresh => ho (hfresh.payment_eq _ List.mem_cons_self)
    rintro h (e | found) hlost
    · exact herror h e
    · exact obeys_of_stale hstale hlost

/-- The call has settled the payment if its answer says so. -/
def SettledIf (payment : Payment) (booking : Booking) (reports : α → Prop) (h : CallHist)
    (r : Except Exn α) : Prop :=
  ∀ a, r = .ok a → Fresh payment booking h → reports a → parts payment (kept h) ≠ []

section
variable {reports : α → Prop}

theorem settled_error (h : CallHist) (e : Exn) :
    SettledIf payment booking reports h (.error e : Except Exn α) := fun _ ha => nomatch ha

theorem settled_of_stale (h : CallHist) (r : Except Exn α) (hstale : ¬ Fresh payment booking h) :
    SettledIf payment booking reports h r := fun _ _ hfresh => absurd hfresh hstale

end

theorem verifyClientPayment_scripted {customerId : Uuid} {dto : VerifyPaymentDto}
    (horder : dto.razorpayOrderId = payment.gatewayOrderId) (hunpaid : payment.status ≠ .success) :
    Obeys (Scripted payment booking) (SettledIf payment booking fun _ => True) []
      (verifyClientPayment host ctx customerId dto) := by
  unfold verifyClientPayment
  simp only [horder]
  refine findByGatewayOrderId_scripted rfl settled_of_stale settled_error ?_
  simp only [obeys_bind, obeys_orThrow, obeys_throwIf, obeys_ite, obeys_pure]
  refine ⟨nofun, ?_⟩
  rintro _ ⟨⟩
  refine ⟨fun _ => settled_error _ _, fun _ => ⟨fun _ => settled_error _ _, fun _ =>
    ⟨fun hpaid => absurd hpaid.1 hunpaid, fun _ => ⟨fun _ => settled_error _ _, fun _ =>
      ⟨fun _ => settled_error _ _, fun _ => ?_⟩⟩⟩⟩⟩
  refine (transaction_scripted (K := fun _ ps => ps ≠ []) rfl
    (verifyClientPaymentTx_scripted (Played.begin rfl))).mono (fun _ _ hq => hq) ?_
  rintro h (e | a) hclosed
  · exact settled_error _ _
  · refine afterConfirmation_scripted.mono (fun _ _ hq => hq) ?_
    rintro h' (e | _) ⟨hkept, hsuffix⟩
    · exact settled_error _ _
    · intro _ _ hfresh _
      obtain ⟨ps, hps, hne⟩ := hclosed a rfl (hfresh.of_suffix hsuffix)
      rw [hkept, hps]
      exact List.append_ne_nil_of_right_ne_nil _ hne

/-! ### handleWebhookEvent -/

/-- A piece of the transaction after which the parts `ps` are written. -/
def Plays (payment : Payment) (booking : Booking) (ps : List (Option Part)) (h : CallHist)
    (r : Except Exn α) : Prop := ∀ a, r = .ok a → Fresh payment booking h → Played payment h ps

section
variable {event : WebhookEvent} {eventType : String} {ps : List (Option Part)}

theorem plays_error (h : CallHist) (e : Exn) :
    Plays payment booking ps h (.error e : Except Exn α) := fun _ ha => nomatch ha

theorem plays_of_stale (h : CallHist) (r : Except Exn α) (hstale : ¬ Fresh payment booking h) :
    Plays payment booking ps h r := fun _ _ hfresh => absurd hfresh hstale

theorem Plays.bind {β : Type} {p : Query β} {f : β → Query α}
    {R : CallHist → Except Exn α → Prop}
    (hp : Obeys (Scripted payment booking) (Plays payment booking ps) h (autocommit Ext p))
    (hstale : ∀ h r, ¬ Fresh payment booking h → R h r) (herror : ∀ h e, R h (.error e))
    (hf : ∀ h' a, Played payment h' ps →
      Obeys (Scripted payment booking) R h' (autocommit Ext (f a))) :
    Obeys (Scripted payment booking) R h (autocommit Ext (p >>= f)) := by
  rw [autocommit_bind, obeys_bind]
  refine hp.mono (fun _ _ hq => hq) ?_
  rintro h' (e | a) hplays
  · exact herror h' e
  · by_cases hfresh : Fresh payment booking h'
    · exact hf h' a (hplays a rfl hfresh)
    · exact obeys_of_stale hstale hfresh

/-- The booking is found as it was at first, and waits for the money. -/
theorem settleBooking_plays (hpending : booking.bookingStatus = .pendingPayment)
    (hw : Played payment h []) :
    Obeys (Scripted payment booking) (Plays payment booking [some .booking, some .confirmation]) h
      (autocommit Ext (settleBooking ctx ⟨payment, booking⟩)) := by
  unfold settleBooking
  rw [autocommit_bind, obeys_bind]
  refine BookingRepository.obeys_findById.mpr ⟨scripted_pass rfl fun _ l hl => ?_, fun o => ?_,
    fun e => plays_error _ e⟩
  · obtain ⟨l', hl', hnone⟩ := hw
    obtain rfl := Option.some.inj (hl.symm.trans hl')
    exact hnone
  by_cases ho : o = some booking
  · subst ho
    have hw := hw.pass (s := .findBooking payment.bookingId) (a := some booking) rfl
    simp only [Option.map_some, hpending, if_true]
    refine scripted_write hw rfl part_updateBooking (by decide) plays_error fun _ hw => ?_
    refine scripted_write hw rfl (part_confirmation rfl ?_) (by decide) plays_error fun _ hw => ?_
    · simp [webhookConfirmedAudit, AuditLog.confirmation]
    exact fun _ _ _ => hw
  · exact obeys_of_stale plays_of_stale fun hfresh =>
      ho (hfresh.booking_eq _ List.mem_cons_self)

theorem settlePayment_plays (hw : Played payment h [some .booking, some .confirmation]) :
    Obeys (Scripted payment booking)
      (Plays payment booking [some .booking, some .confirmation, some .payment, some .receipt]) h
      (autocommit Ext (settlePayment host ctx ⟨payment, booking⟩ event eventType)) := by
  unfold settlePayment
  have hrest : ∀ id : Option PaymentRepository.TextInput, Obeys (Scripted payment booking)
      (Plays payment booking [some .booking, some .confirmation, some .payment, some .receipt]) h
      (autocommit Ext (do
        let _ ← PaymentRepository.updateStatus payment.id .success
          { gatewayPaymentId := id, paidAt := some (ctx.clock 3) }
        let _ ← AuditLogRepository.create (capturedAudit ctx ⟨payment, booking⟩ eventType)
        pure ())) := by
    intro id
    refine scripted_write hw rfl part_updatePayment (by decide) plays_error fun _ hw => ?_
    refine scripted_write hw rfl (part_receipt rfl ?_) (by decide) plays_error fun _ hw => ?_
    · simp [capturedAudit, AuditLog.receipt]
    exact fun _ _ _ => hw
  rw [autocommit_bind, obeys_bind]
  exact obeys_optionalString (hrest _) fun _ => plays_error _ _

theorem settleCapture_plays (hpending : booking.bookingStatus = .pendingPayment)
    (hw : Played payment h []) :
    Obeys (Scripted payment booking)
      (Plays payment booking [some .booking, some .confirmation, some .payment, some .receipt]) h
      (autocommit Ext (settleCapture host ctx ⟨payment, booking⟩ event eventType)) := by
  unfold settleCapture
  refine Plays.bind (settleBooking_plays hpending hw) plays_of_stale plays_error
    fun h' confirmed hw => ?_
  refine Plays.bind (settlePayment_plays hw) plays_of_stale plays_error fun h' _ hw => ?_
  exact fun _ _ _ => hw

theorem markProcessed_closes {K : Option Uuid → List (Option Part) → Prop} {now : Time} {id : Uuid}
    {c : Option Uuid} (hw : Played payment h ps)
    (hps : ps = [] ∨ ps ∈ scripts) (hk : K c ps) :
    Obeys (Scripted payment booking) (Closes payment booking K) h (autocommit Ext (do
      let _ ← PaymentRepository.markWebhookEventProcessed now id
      pure c)) := by
  rw [autocommit_bind, obeys_bind]
  refine PaymentRepository.obeys_markWebhookEventProcessed.mpr ⟨scripted_pass rfl nofun,
    fun row => ?_, fun e => closes_error _ e⟩
  rintro _ ⟨⟩ _
  exact ⟨ps, hw.pass rfl, hps, hk⟩

/-- The transaction of a delivery settles the payment if the amount fits. -/
theorem webhookTx_scripted {eventId : String}
    (hcapture : ∀ eventType, asText event.eventName = some eventType → isCapture eventType)
    (hunpaid : payment.status ≠ .success) (hpending : booking.bookingStatus = .pendingPayment)
    (hw : Played payment h []) :
    Obeys (Scripted payment booking)
      (Closes payment booking fun _ ps => Fits host payment event → ps ≠ []) h
      (autocommit Ext (webhookTx host ctx ⟨payment, booking⟩ event eventId)) := by
  unfold webhookTx requireString
  rw [autocommit_bind, obeys_bind, autocommit_orThrow, obeys_orThrow]
  refine ⟨fun _ => closes_error _ _, fun eventType hname => ?_⟩
  dsimp only
  rw [autocommit_bind, obeys_bind]
  refine PaymentRepository.obeys_recordWebhookEvent.mpr ⟨fun _ => closes_error _ _, fun _ =>
    ⟨scripted_pass rfl nofun, fun row => ?_, fun e => closes_error _ e⟩⟩
  have hw := hw.pass (s := .createEvent (newWebhookEvent ctx eventId eventType event.payload none))
    (a := row) rfl
  dsimp only
  have hcaptured : handleEvent host ctx ⟨payment, booking⟩ event eventType =
      handleCaptured host ctx ⟨payment, booking⟩ event eventType := if_pos (hcapture _ hname)
  rw [hcaptured, handleCaptured, if_neg hunpaid]
  split
  · rename_i hcan
    exact markProcessed_closes hw (Or.inl rfl) fun hfits => absurd hfits.1 (by simp [hcan])
  split
  · rename_i hdiffers
    exact markProcessed_closes hw (Or.inl rfl) fun hfits =>
      absurd hfits.2.1 (by simpa using hdiffers)
  split
  · exact closes_error _ _
  · rename_i hcurrency
    exact markProcessed_closes hw (Or.inl rfl) fun hfits =>
      absurd hfits.2.2 (by simp_all [Except.toOption])
  · exact Plays.bind (settleCapture_plays hpending hw) closes_of_stale closes_error
      fun h' confirmed hw => markProcessed_closes hw (Or.inr (by decide)) fun _ => List.cons_ne_nil _ _

/-- The delivery of a fitting event is processed. -/
def Processed (host : Host) (payment : Payment) (event : WebhookEvent) (a : WebhookResult) : Prop :=
  a = .processed ∧ Fits host payment event

theorem settled_of_ne (result : WebhookResult) (hne : result ≠ .processed) (h : CallHist) :
    SettledIf payment booking (Processed host payment event) h (.ok result) := by
  rintro _ ⟨⟩ _ ⟨hprocessed, _⟩
  exact absurd hprocessed hne

theorem recordAndSkip_scripted {eventId : String} :
    Obeys (Scripted payment booking)
      (SettledIf payment booking (Processed host payment event)) h
      (autocommit Ext (recordAndSkip host ctx event eventId)) := by
  unfold recordAndSkip requireString
  rw [autocommit_bind, obeys_bind, autocommit_orThrow, obeys_orThrow]
  refine ⟨fun _ => settled_error _ _, fun eventType _ => ?_⟩
  dsimp only
  rw [autocommit_bind, obeys_bind]
  exact PaymentRepository.obeys_recordWebhookEvent.mpr ⟨fun _ => settled_error _ _, fun _ =>
    ⟨scripted_pass rfl nofun, fun row => settled_of_ne .ignored nofun _,
      fun e => settled_error _ e⟩⟩

theorem handleWebhookEvent_scripted {delivery : Delivery}
    (hread : readDelivery host delivery = .ok event)
    (hcapture : ∀ eventType, asText event.eventName = some eventType → isCapture eventType)
    (horder : asText event.gatewayOrderId = some payment.gatewayOrderId)
    (hunpaid : payment.status ≠ .success) (hpending : booking.bookingStatus = .pendingPayment) :
    Obeys (Scripted payment booking)
      (SettledIf payment booking (Processed host payment event)) []
      (handleWebhookEvent host ctx delivery) := by
  unfold handleWebhookEvent processWebhookEvent requireString
  rw [hread]
  dsimp only
  rw [autocommit_orThrow, obeys_bind, obeys_orThrow]
  refine ⟨fun _ => settled_error _ _, fun eventId _ => ?_⟩
  dsimp only
  rw [obeys_bind]
  refine PaymentRepository.obeys_findWebhookEvent.mpr ⟨scripted_pass rfl nofun, fun existing => ?_,
    fun e => settled_error _ e⟩
  dsimp only
  rw [obeys_ite, obeys_ite]
  refine ⟨fun _ => settled_of_ne .alreadyProcessed nofun _, fun _ => ⟨fun _ => recordAndSkip_scripted, fun _ => ?_⟩⟩
  rw [autocommit_orThrow, obeys_bind, obeys_orThrow]
  refine ⟨fun _ => settled_error _ _, fun orderId hid => ?_⟩
  obtain rfl := Option.some.inj (hid.symm.trans horder)
  refine findByGatewayOrderId_scripted rfl settled_of_stale settled_error ?_
  have hcatch : ∀ (h : CallHist) (e : Exn), Obeys (Scripted payment booking)
      (SettledIf payment booking (Processed host payment event)) h
        (if e.isDuplicate then (pure .alreadyProcessed : Call WebhookResult) else .throw e) := by
    intro h e
    split
    · exact settled_of_ne .alreadyProcessed nofun h
    · exact settled_error h e
  dsimp only
  rw [obeys_catching, obeys_bind]
  refine (transaction_scripted rfl (webhookTx_scripted hcapture hunpaid hpending
    (Played.begin rfl))).mono (fun _ _ hq => hq) ?_
  rintro h (e | confirmed) hclosed
  · exact hcatch h e
  have hsettled : ∀ h', kept h' = kept h → h <:+ h' →
      SettledIf payment booking (Processed host payment event) h' (.ok .processed) := by
    rintro h' hkept hsuffix _ ⟨⟩ hfresh ⟨_, hfits⟩
    obtain ⟨ps, hps, hne⟩ := hclosed confirmed rfl (hfresh.of_suffix hsuffix)
    rw [hkept, hps]
    exact List.append_ne_nil_of_right_ne_nil _ (hne hfits)
  cases confirmed with
  | none => exact hsettled h rfl List.suffix_rfl
  | some bookingId =>
      dsimp only
      rw [obeys_bind]
      refine afterConfirmation_scripted.mono (fun _ _ hq => hq) ?_
      rintro h' (e | _) ⟨hkept, hsuffix⟩
      · exact hcatch h' e
      · exact hsettled h' hkept hsuffix

end

/-! ### All of them -/

/-- The client verifies the payment of the order, or a capture of it is
delivered. -/
def Op.captures (host : Host) (orderId : String) (op : Op) : Prop :=
  match op.request with
  | .verifyClientPayment _ dto => dto.razorpayOrderId = orderId
  | .handleWebhookEvent _ => ∃ event ∈ op.event host,
      asText event.gatewayOrderId = some orderId ∧
        ∃ eventType ∈ asText event.eventName, isCapture eventType
  | _ => False

instance (orderId : String) : ∀ op : Op, Decidable (op.captures host orderId)
  | ⟨_, .verifyClientPayment _ dto⟩ => inferInstanceAs (Decidable (dto.razorpayOrderId = orderId))
  | ⟨ctx, .handleWebhookEvent delivery⟩ => inferInstanceAs (Decidable
      (∃ event ∈ Op.event host ⟨ctx, .handleWebhookEvent delivery⟩,
        asText event.gatewayOrderId = some orderId ∧
          ∃ eventType ∈ asText event.eventName, isCapture eventType))
  | ⟨_, .createBooking _ _⟩ => .isFalse id
  | ⟨_, .cancelBookingAsCustomer _ _ _⟩ => .isFalse id
  | ⟨_, .expireBooking _⟩ => .isFalse id
  | ⟨_, .completeBooking _ _ _⟩ => .isFalse id
  | ⟨_, .flagOverdueBooking _⟩ => .isFalse id
  | ⟨_, .createPaymentOrder _ _⟩ => .isFalse id
  | ⟨_, .refundPayment _ _ _⟩ => .isFalse id

/-- **What such a call does** on its own. -/
theorem program_scripted {op : Op} (hop : op.captures host payment.gatewayOrderId)
    (hunpaid : payment.status ≠ .success) (hpending : booking.bookingStatus = .pendingPayment) :
    Obeys (Scripted payment booking) (Truthful host payment booking op) [] (program host op) := by
  obtain ⟨ctx, request⟩ := op
  cases request with
  | verifyClientPayment customerId dto =>
      refine obeys_map.mpr ((verifyClientPayment_scripted hop hunpaid).mono (fun _ _ hq => hq) ?_)
      rintro h (e | a) hsettled
      · trivial
      · exact fun hfresh _ => hsettled a rfl hfresh trivial
  | handleWebhookEvent delivery =>
      obtain ⟨event, hevent, horder, eventType, hname, hcapture⟩ := hop
      obtain ⟨_, ⟨⟩, hread⟩ := (Op.event_eq host).mp hevent
      have hnamed : ∀ eventType, asText event.eventName = some eventType → isCapture eventType := by
        intro other hother
        obtain rfl := Option.some.inj (hname.symm.trans hother)
        exact hcapture
      refine obeys_map.mpr ((handleWebhookEvent_scripted hread hnamed horder hunpaid hpending).mono
        (fun _ _ hq => hq) ?_)
      rintro h (e | a) hsettled
      · trivial
      · intro hfresh hreports
        cases a with
        | processed =>
            obtain ⟨event', hevent', hfits⟩ := hreports
            obtain rfl := Option.some.inj (Eq.trans hevent.symm hevent')
            exact hsettled _ rfl hfresh ⟨rfl, hfits⟩
        | _ => exact hreports.elim
  | _ => exact hop.elim

end

end ServiceHub
