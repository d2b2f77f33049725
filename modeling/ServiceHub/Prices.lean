/-
# `Prices` — a payment is of the price that was booked

A payment has an order at the gateway, an amount of its own and a booking with a
price.  `createBooking` asks for the order with the price of the offering before
it opens its transaction, `createPaymentOrder` with the price of a booking that
it has read outside one, and neither compares the three afterwards.  They agree
all the same, in every interleaving (`payment_at_price`): the payment and the
booking of `createBooking` are committed by one transaction (`Obeyed.of_kept`),
and the price of a booking is never updated.
-/
import ServiceHub.Authority
import ServiceHub.LiveOrders
import ServiceHub.Reservations

namespace ServiceHub

open Data Txn

/-- The call pays for the booking, and it is the customer's own. -/
def Request.opensFor (b : Booking) : Request → Prop
  | .createBooking customerId _ => customerId = b.customerId
  | .createPaymentOrder customerId bookingId => customerId = b.customerId ∧ bookingId = b.id
  | _ => False

/-- The insert of the payment `id`. -/
def InsertsPayment (id : Uuid) : (s : Stmt) → Ans s → Prop
  | .createPayment _, p => p.id = id
  | _, _ => False

section
variable {host : Host} {db : Db} {Ok : System → Event Op Exn → Prop} {c : System} {P : Caller}
  {id : Uuid}

theorem pays_of_written {s : Stmt} {db : Db} {a : Ans s} (hexec : db.exec s = .ok a) {w : Row}
    (hw : w ∈ s.written a) (hkey : w.key = .payment id) :
    InsertsPayment id s a ∨ (db.get (.payment id)).isSome := by
  cases w with
  | payment p =>
      obtain rfl : p.id = id := Key.payment.inj hkey
      rcases Stmt.written_payment hexec hw with ⟨rfl, _⟩ | ⟨p₀, _, hget, _⟩
      · have ha : Row.payment p = Row.payment a := List.mem_singleton.mp hw
        exact Or.inl (congrArg Payment.id (Row.payment.inj ha).symm)
      · exact Or.inr (by rw [hget]; rfl)
  | _ => cases hkey

/-- A payment was there at first, or a call has inserted it. -/
theorem paid_of_run (hrun : Run (program host) Ok ⟨db, []⟩ c) {p : Payment}
    (hp : c.db.payments.find? id = some p) (hnew : db.payments.find? id = none) :
    ∃ P ∈ c.procs, Did (InsertsPayment id) (kept P.hist) := by
  have hmade : Made db (InsertsPayment id) (Key.payment id) c :=
    Run.made (fun _ _ _ hexec _ hw hkey => pays_of_written hexec hw hkey) rfl hrun
  have hsome : (c.db.get (.payment id)).isSome := by simp [Db.get, hp]
  rcases hmade.committed hsome with hold | hnow
  · have hold : (db.get (.payment id)).isSome := hold
    simp [Db.get, hnew] at hold
  · exact hnow

/-- What a call has committed is revised, and not replaced. -/
theorem revises_of_committed (hrun : Run (program host) Ok ⟨db, []⟩ c) (hP : P ∈ c.procs) {w : Row}
    (hw : w ∈ committed P) : ∃ r, c.db.get w.key = some r ∧ Revises w r :=
  Run.related_of_kept revises_refl revises_trans
    (fun _ _ _ hexec _ hw => (Stmt.written_revises hexec hw).imp_left And.right)
    (fun _ _ _ hexec _ hw _ hw' hkey => Stmt.eq_of_written hexec hw hw' hkey) rfl hrun hP hw

theorem booking_of_committed (hrun : Run (program host) Ok ⟨db, []⟩ c) (hP : P ∈ c.procs)
    {b : Booking} (hb : Row.booking b ∈ committed P) :
    ∃ b', c.db.bookings.find? b.id = some b' ∧ b' = b.revised b' := by
  obtain ⟨r, hr, hrevises⟩ := revises_of_committed hrun hP hb
  obtain ⟨b', hb', rfl⟩ := Option.map_eq_some_iff.mp hr
  exact ⟨b', hb', hrevises⟩

theorem payment_of_committed (hrun : Run (program host) Ok ⟨db, []⟩ c) (hP : P ∈ c.procs)
    {p : Payment} (hp : Row.payment p ∈ committed P) :
    ∃ p', c.db.payments.find? p.id = some p' ∧ p' = p.revised p' := by
  obtain ⟨r, hr, hrevises⟩ := revises_of_committed hrun hP hp
  obtain ⟨p', hp', rfl⟩ := Option.map_eq_some_iff.mp hr
  exact ⟨p', hp', hrevises⟩

/-- What has been told goes on to have been told. -/
theorem told_mono {x : Ext} {h h' : CallHist} (hs : h <:+ h') (hx : x ∈ told h) : x ∈ told h' := by
  induction h' with
  | nil => rwa [← List.suffix_nil.mp hs]
  | cons entry h' ih =>
      rcases List.suffix_cons_iff.mp hs with rfl | hrest
      · exact hx
      · obtain ⟨i, r⟩ := entry
        cases i with
        | call y => exact List.mem_cons_of_mem _ (ih hrest)
        | _ => exact ih hrest

/-- The booking that a payment was inserted for, and the order. -/
theorem priced_of_orders (hrun : Run (program host) Ok ⟨db, []⟩ c) (hP : P ∈ c.procs) {p : Payment}
    {h : CallHist} (hsuffix : h <:+ P.hist) (horders : Orders P.op h p)
    (hcounts : (sinceBegin h).getD [] ⊆ kept P.hist) :
    Opened P.op h p.gatewayOrderId p.amount ∧
      ∃ b, c.db.bookings.find? p.bookingId = some b ∧ P.op.request.opensFor b ∧
        b.bookedPrice = p.amount := by
  cases horders with
  | @booked b a h' gatewayOrderId currency hh hopen hopened hp =>
      subst hh hp
      have hmem : (⟨.createBooking b, a⟩ : (s : Stmt) × Ans s) ∈ kept P.hist :=
        hcounts (by simp [sinceBegin, hopen])
      obtain ⟨db', hexec⟩ := hrun.executed rfl hP (mem_of_kept hmem)
      have ha : a = b := (Db.insert_ok (show db'.insert (.booking b) b = .ok a from hexec)).1
      have hrow : Row.booking a ∈ committed P :=
        mem_rowsOf.mpr ⟨_, hmem, List.mem_singleton_self _⟩
      obtain ⟨b', hb', hrevised⟩ := booking_of_committed hrun hP hrow
      refine ⟨hopened, b', hb', ?_, ?_⟩
      · obtain ⟨h', _, hasks, _⟩ := issued_of_run hrun hP (mem_of_kept hmem)
        obtain ⟨customerId, dto, _, _, _, _, _, hrequest, _, _, hb⟩ := hasks
        rw [hrequest, hrevised, ha, hb]
        rfl
      · rw [hrevised, ha]
        rfl
  | @ordered customerId bookingId b gatewayOrderId currency hrequest hfound howner hopened hp =>
      subst hp
      obtain ⟨b', hb', hrevised⟩ := (hfound.mono hsuffix).booking hrun hP
      have hid : b'.id = bookingId := Table.key_of_find? hb'
      have hsame : b'.id = b.id := by
        rw [hrevised]
        rfl
      refine ⟨hopened, b', ?_, ?_, ?_⟩
      · exact (show b.id = bookingId from hsame.symm.trans hid) ▸ hb'
      · rw [hrequest]
        refine ⟨?_, hid.symm⟩
        rw [hrevised]
        exact howner.symm
      · rw [hrevised]
        rfl

end

/-- **A payment is of the price that was booked**: every payment of the run was
inserted by a call of the customer of its booking, which has committed the insert,
with an order that the gateway opened for this call, and the amount, the order and
the booking are at one price. -/
theorem payment_at_price (host : Host) (db : Db) (c : System) (id : Uuid) (p : Payment)
    (hrun : Run (program host) (fun _ _ => True) ⟨db, []⟩ c) (hnew : db.payments.find? id = none)
    (hp : c.db.payments.find? id = some p) :
    ∃ P ∈ c.procs, Did (InsertsPayment id) (kept P.hist) ∧
      ∃ b params order, c.db.bookings.find? p.bookingId = some b ∧
        P.op.request.opensFor b ∧ .createOrder params ∈ told P.hist ∧
        P.op.ctx.createOrder = .ok order ∧ order.gatewayOrderId = p.gatewayOrderId ∧
        params.amount = p.amount ∧ b.bookedPrice = p.amount := by
  obtain ⟨P, hP, hdid⟩ := paid_of_run hrun hp hnew
  refine ⟨P, hP, hdid, ?_⟩
  obtain ⟨⟨s, a⟩, hx, hpays⟩ := hdid
  cases s with
  | createPayment row =>
      obtain ⟨db', hexec⟩ := hrun.executed rfl hP (mem_of_kept hx)
      have ha : a = row := (Db.insert_ok (show db'.insert (.payment row) row = .ok a from hexec)).1
      have hrow : Row.payment a ∈ committed P := mem_rowsOf.mpr ⟨_, hx, List.mem_singleton_self _⟩
      obtain ⟨p', hp', hrevised⟩ := payment_of_committed hrun hP hrow
      obtain rfl : a.id = id := hpays
      obtain rfl := Option.some.inj (hp.symm.trans hp')
      have hobeyed := hrun.obeyed (fun _ _ _ => program_permits) rfl P hP
      obtain ⟨h, hsuffix, horders, hcounts⟩ := hobeyed.of_kept hx
      obtain ⟨⟨⟨params, htold, hamount⟩, order, hopened, horder⟩, b, hb, hopens, hprice⟩ :=
        priced_of_orders hrun hP hsuffix horders hcounts
      rw [hrevised, ha]
      exact ⟨b, params, order, hb, hopens, told_mono hsuffix htold, hopened, horder, hamount, hprice⟩
  | _ => exact hpays.elim

/-! ## A run -/

namespace Sample

/-- The first payment fails, and the customer asks for another order. -/
def paidAgain : List (Event Op Exn) :=
  .spawn (deliver 1 "payment.failed") :: steps 0 9 ++ .spawn (reorder 2) :: steps 1 4

end Sample

/-- The order that was asked for again is at the price of the booking. -/
theorem payment_at_price_sample : ∃ (c : System) (p : Payment),
    runChecked (program Sample.host) (fun _ _ => True) ⟨Sample.booked, []⟩ Sample.paidAgain = some c ∧
    c.db.payments.find? ((Sample.ctx 2).uuid 0) = some p ∧
    ∃ P ∈ c.procs, Did (InsertsPayment ((Sample.ctx 2).uuid 0)) (kept P.hist) ∧
      ∃ b params order, c.db.bookings.find? p.bookingId = some b ∧
        P.op.request.opensFor b ∧ .createOrder params ∈ told P.hist ∧
        P.op.ctx.createOrder = .ok order ∧ order.gatewayOrderId = p.gatewayOrderId ∧
        params.amount = p.amount ∧ b.bookedPrice = p.amount := by
  have hends : ∀ c ∈ runChecked (program Sample.host) (fun _ _ => True) ⟨Sample.booked, []⟩
      Sample.paidAgain, (c.db.payments.find? ((Sample.ctx 2).uuid 0)).isSome := by decide +kernel
  obtain ⟨c, hc⟩ := Option.isSome_iff_exists.mp
    (show (runChecked (program Sample.host) (fun _ _ => True) ⟨Sample.booked, []⟩
      Sample.paidAgain).isSome by decide +kernel)
  obtain ⟨p, hp⟩ := Option.isSome_iff_exists.mp (hends c hc)
  exact ⟨c, p, hc, hp, payment_at_price Sample.host Sample.booked c _ p (Run.of_runChecked _ _ hc)
    (Option.isNone_iff_eq_none.mp (by decide +kernel)) hp⟩

end ServiceHub
