/-
# `Isolation` — a call keeps to its booking

Every operation is about one booking, which its request names: by its id, by a
payment, or by the order of a payment.  It reads that booking, and what it writes
are the booking and its payments, though it knows them by what it has read before.
Which booking a payment is of is never updated, so that whatever else runs, a step
of a call changes no other booking and no payment of another one
(`keeps_to_booking`).
-/
import ServiceHub.Prices

namespace ServiceHub

open Data Txn

/-- The booking that a request names. -/
inductive IsAbout (host : Host) (db : Db) (op : Op) (id : Uuid) : Prop where
  | booked {customerId : Uuid} {dto : CreateBookingDto} :
      op.request = .createBooking customerId dto → op.ctx.uuid 0 = id → IsAbout host db op id
  | cancelled {customerId : Uuid} {dto : CancelBookingDto} :
      op.request = .cancelBookingAsCustomer id customerId dto → IsAbout host db op id
  | expired : op.request = .expireBooking id → IsAbout host db op id
  | completed {userId : Uuid} {role : Option Role} :
      op.request = .completeBooking id userId role → IsAbout host db op id
  | flagged : op.request = .flagOverdueBooking id → IsAbout host db op id
  | ordered {customerId : Uuid} : op.request = .createPaymentOrder customerId id →
      IsAbout host db op id
  | verified {customerId : Uuid} {dto : VerifyPaymentDto} {p : Payment} :
      op.request = .verifyClientPayment customerId dto → db.payments.find? p.id = some p →
      p.gatewayOrderId = dto.razorpayOrderId → p.bookingId = id → IsAbout host db op id
  | delivered {delivery : Delivery} {event : WebhookEvent} {p : Payment} :
      op.request = .handleWebhookEvent delivery → readDelivery host delivery = .ok event →
      db.payments.find? p.id = some p → asText event.gatewayOrderId = some p.gatewayOrderId →
      p.bookingId = id → IsAbout host db op id
  | refunded {adminUserId : Uuid} {dto : RefundPaymentDto} {p : Payment} :
      op.request = .refundPayment adminUserId p.id dto → db.payments.find? p.id = some p →
      p.bookingId = id → IsAbout host db op id

section
variable {host : Host} {db : Db} {Ok : System → Event Op Exn → Prop} {c : System} {P : Caller}
  {h : CallHist} {id : Uuid}

/-- Whoever has read a payment by its order is about its booking. -/
theorem about_of_order (hrun : Run (program host) Ok ⟨db, []⟩ c) (hP : P ∈ c.procs)
    {orderId : String} {p : Payment} (hfound : Found P.hist (.findPaymentByOrder orderId) (some p)) :
    ∃ p', c.db.payments.find? p'.id = some p' ∧ p'.id = p.id ∧ p'.gatewayOrderId = orderId ∧
      p'.bookingId = p.bookingId := by
  obtain ⟨horder, p', hp', hrevised⟩ := hfound.order hrun hP
  have hid : p'.id = p.id := Table.key_of_find? hp'
  refine ⟨p', hid ▸ hp', hid, ?_, ?_⟩
  · rw [hrevised]
    exact horder
  · rw [hrevised]
    rfl

theorem about_of_evidence (hrun : Run (program host) Ok ⟨db, []⟩ c) (hP : P ∈ c.procs)
    (hsuffix : h <:+ P.hist) (hevidence : Evidence host P.op h id) : IsAbout host c.db P.op id := by
  unfold Evidence at hevidence
  split at hevidence
  · rename_i customerId dto hrequest
    obtain ⟨_, p, _, hfound, rfl, _⟩ := hevidence
    obtain ⟨p', hp', _, horder, hbooking⟩ := about_of_order hrun hP (hfound.mono hsuffix)
    exact .verified hrequest hp' horder hbooking
  · rename_i delivery hrequest
    obtain ⟨event, _, orderId, p, hread, _, _, horder, hfound, rfl⟩ := hevidence
    obtain ⟨p', hp', _, rfl, hbooking⟩ := about_of_order hrun hP (hfound.mono hsuffix)
    exact .delivered hrequest hread hp' horder hbooking
  · exact hevidence.elim

theorem about_of_sets (hrun : Run (program host) Ok ⟨db, []⟩ c) (hP : P ∈ c.procs)
    (hsuffix : h <:+ P.hist) {data : BookingUpdate} (hsets : SetsBooking host P.op h id data)
    (hwrites : Writes host P.op h (.stmt (.updateBooking id data))) :
    IsAbout host c.db P.op id := by
  cases hsets with
  | cancelled hrequest => exact .cancelled hrequest
  | completed hrequest => exact .completed hrequest
  | confirmed =>
      obtain ⟨_, t, ht, _, hevidence⟩ := hwrites
      exact about_of_evidence hrun hP hsuffix (hevidence (Option.some.inj ht).symm)
  | refunded hrequest hfound hbooking =>
      obtain ⟨rfl, p', hp', hrevised⟩ := (hfound.mono hsuffix).payment hrun hP
      have hid : p'.id = _ := Table.key_of_find? hp'
      refine .refunded (hid ▸ hrequest) (hid ▸ hp') ?_
      rw [hrevised]
      exact hbooking

/-- Whoever settles a payment is about its booking. -/
theorem about_of_settles (hrun : Run (program host) Ok ⟨db, []⟩ c) (hP : P ∈ c.procs)
    (hsuffix : h <:+ P.hist) {data : PaymentUpdate} (hsettles : SettlesPayment host P.op h id data) :
    ∃ p, c.db.payments.find? id = some p ∧ IsAbout host c.db P.op p.bookingId := by
  have hdelivered : ∀ {event eventType p}, Delivered host P.op h event eventType p → p.id = id →
      ∃ p, c.db.payments.find? id = some p ∧ IsAbout host c.db P.op p.bookingId := by
    intro event eventType p hreports hid
    obtain ⟨delivery, hrequest, hread⟩ := hreports.signed
    obtain ⟨orderId, horder, hfound⟩ := hreports.order
    obtain ⟨p', hp', hsame, rfl, _⟩ := about_of_order hrun hP (hfound.mono hsuffix)
    exact ⟨p', (hsame.trans hid) ▸ hp', .delivered hrequest hread hp' horder rfl⟩
  cases hsettles with
  | verified hrequest _ hfound hid =>
      obtain ⟨p', hp', hsame, horder, _⟩ := about_of_order hrun hP (hfound.mono hsuffix)
      exact ⟨p', (hsame.trans hid) ▸ hp', .verified hrequest hp' horder rfl⟩
  | captured hreports hid => exact hdelivered hreports hid
  | failed hreports hid => exact hdelivered hreports hid
  | reconciled hreports hid => exact hdelivered hreports hid
  | refunded hrequest hfound hid =>
      obtain ⟨rfl, p', hp', _⟩ := (hfound.mono hsuffix).payment hrun hP
      have hsame : p'.id = _ := Table.key_of_find? hp'
      exact ⟨p', hid ▸ hp', .refunded (hsame ▸ hrequest) (hsame ▸ hp') rfl⟩

theorem about_of_admitted {db : Db} {op : Op} {b : Booking} (hadmitted : Admitted host op b) :
    IsAbout host db op b.id := by
  obtain ⟨_, _, _, _, _, _, _, hrequest, _, _, rfl⟩ := hadmitted
  exact .booked hrequest rfl

/-- The booking that a call has inserted has the id that it was given. -/
theorem about_of_created (hrun : Run (program host) Ok ⟨db, []⟩ c) (hP : P ∈ c.procs) {b a : Booking}
    (hmem : ⟨.stmt (.createBooking b), .ok a⟩ ∈ P.hist) : IsAbout host c.db P.op a.id := by
  obtain ⟨db', hexec⟩ := hrun.executed rfl hP hmem
  obtain ⟨_, _, hasks, _⟩ := issued_of_run (x := ⟨.createBooking b, a⟩) hrun hP hmem
  have ha : a = b := (Db.insert_ok (show db'.insert (.booking b) b = .ok a from hexec)).1
  exact ha ▸ about_of_admitted hasks

theorem about_of_orders (hrun : Run (program host) Ok ⟨db, []⟩ c) (hP : P ∈ c.procs)
    (hsuffix : h <:+ P.hist) {p : Payment} (horders : Orders P.op h p) :
    IsAbout host c.db P.op p.bookingId := by
  cases horders with
  | booked hh _ _ hp =>
      subst hh hp
      exact about_of_created hrun hP (hsuffix.subset List.mem_cons_self)
  | @ordered customerId bookingId b _ _ hrequest hfound _ _ hp =>
      obtain ⟨h', hmem, _⟩ := hfound
      obtain ⟨db', hexec⟩ := hrun.executed rfl hP ((hmem.trans hsuffix).subset List.mem_cons_self)
      have hb : db'.bookings.find? bookingId = some b := Except.ok.inj hexec
      subst hp
      exact .ordered ((Table.key_of_find? hb) ▸ hrequest)

end

/-- **A call keeps to its booking**: in every step of every interleaving, a booking
that is new or changed is the one that the request of the call names, and a
payment that is new or changed is one of that booking. -/
theorem keeps_to_booking (host : Host) (db : Db) (c c' : System) (e : Event Op Exn)
    (hrun : Run (program host) (fun _ _ => True) ⟨db, []⟩ c)
    (hn : next (program host) c e = some c') :
    (∀ id b', c'.db.bookings.find? id = some b' → c.db.bookings.find? id ≠ some b' →
      ∃ (n : Nat) (P : Caller), e = .exec n ∧ c.procs[n]? = some P ∧ IsAbout host c.db P.op id) ∧
    ∀ id p', c'.db.payments.find? id = some p' → c.db.payments.find? id ≠ some p' →
      ∃ (n : Nat) (P : Caller), e = .exec n ∧ c.procs[n]? = some P ∧
        IsAbout host c.db P.op p'.bookingId := by
  have hprog : ∀ o, Obeys (fun h i => (Asks host o h i ∧ Writes host o h i) ∧ Permits host o h i)
      (fun _ _ => True) [] (program host o) := fun _ =>
    ((program_asks.and program_writes).and program_permits).mono (fun _ _ hq => hq)
      fun _ _ _ => trivial
  refine ⟨fun id b' hb' hnew => ?_, fun id p' hp' hnew => ?_⟩
  · have hget : Txn.Database.get c'.db (Key.booking id) = some (Row.booking b') :=
      Option.map_eq_some_iff.mpr ⟨b', hb', rfl⟩
    have hchanged : Txn.Database.get c.db (Key.booking id) ≠ some (Row.booking b') := by
      intro hsame
      obtain ⟨b, hb, heq⟩ := Option.map_eq_some_iff.mp hsame
      cases heq
      exact hnew hb
    obtain rfl : b'.id = id := Table.key_of_find? hb'
    obtain ⟨n, P, s, a, rfl, hp, hcommits, hw, ⟨db', hexec⟩, h, hsuffix, ⟨hasks, hwrites⟩,
      hpermits⟩ := hrun.changed hprog rfl hn hget hchanged
    have hP := List.mem_of_getElem? hp
    refine ⟨n, P, rfl, hp, ?_⟩
    rcases Stmt.written_booking hexec hw with ⟨rfl, _⟩ | ⟨b₀, data, _, rfl, rfl | ⟨w, rfl, _⟩⟩
    · exact about_of_admitted hasks
    · exact about_of_sets hrun hP hsuffix hpermits hwrites
    · obtain ⟨b₁, hb₁, _, htest⟩ := met_of_committing hrun hP hcommits hw
      simp only [BookingWhere.test, Bool.and_eq_true, beq_iff_eq] at htest
      have hid : (data.on b₀).id = w.id := (Table.key_of_find? hb₁).symm.trans htest.1.1
      rw [hid]
      rcases hwrites.1 with ⟨hrequest, _⟩ | ⟨hrequest, _⟩
      · exact .expired hrequest
      · exact .flagged hrequest
  · have hget : Txn.Database.get c'.db (Key.payment id) = some (Row.payment p') :=
      Option.map_eq_some_iff.mpr ⟨p', hp', rfl⟩
    have hchanged : Txn.Database.get c.db (Key.payment id) ≠ some (Row.payment p') := by
      intro hsame
      obtain ⟨p, hp, heq⟩ := Option.map_eq_some_iff.mp hsame
      cases heq
      exact hnew hp
    obtain rfl : p'.id = id := Table.key_of_find? hp'
    -- a payment that was stored is of the same booking still
    have hstored : ∀ p, c.db.payments.find? p'.id = some p → p'.bookingId = p.bookingId := by
      intro p hp
      obtain ⟨p₁, hp₁, hrevised⟩ := payment_revises hrun (.step .start trivial hn) hp
      obtain rfl := Option.some.inj (hp'.symm.trans hp₁)
      rw [hrevised]
      rfl
    obtain ⟨n, P, s, a, rfl, hp, hcommits, hw, ⟨db', hexec⟩, h, hsuffix, _, hpermits⟩ :=
      hrun.changed hprog rfl hn hget hchanged
    have hP := List.mem_of_getElem? hp
    refine ⟨n, P, rfl, hp, ?_⟩
    rcases Stmt.written_payment hexec hw with ⟨rfl, _⟩ | ⟨p₀, data, _, _, rfl | ⟨w, rfl, _⟩⟩
    · exact about_of_orders hrun hP hsuffix hpermits
    · obtain ⟨p, hp, habout⟩ := about_of_settles hrun hP hsuffix hpermits
      exact hstored p hp ▸ habout
    · obtain ⟨p, hp, htest⟩ := unpaid_of_committing hrun hP hcommits hw
      simp only [PaymentWhere.test, Bool.and_eq_true, beq_iff_eq] at htest
      rw [hstored p hp, htest.1]
      exact .expired hpermits.1

/-! ## A run -/

/-- The commit of a capture, which confirms the booking of its payment. -/
theorem keeps_to_booking_sample : ∃ (c c' : System) (b' : Booking),
    runChecked (program Sample.host) (fun _ _ => True) ⟨Sample.booked, []⟩ Sample.capturing
      = some c ∧ next (program Sample.host) c (.exec 0) = some c' ∧
    c'.db.bookings.find? Sample.bookingId = some b' ∧ b'.bookingStatus = .confirmed ∧
    ∃ (n : Nat) (P : Caller), (Event.exec 0 : Event Op Exn) = .exec n ∧ c.procs[n]? = some P ∧
      IsAbout Sample.host c.db P.op Sample.bookingId := by
  have hbefore : ∀ c ∈ runChecked (program Sample.host) (fun _ _ => True) ⟨Sample.booked, []⟩
      Sample.capturing, ((c.db.bookings.find? Sample.bookingId).any
        (·.bookingStatus == .confirmed)) = false ∧
      ((next (program Sample.host) c (.exec 0)).any fun c' =>
        (c'.db.bookings.find? Sample.bookingId).any (·.bookingStatus == .confirmed)) = true := by
    decide +kernel
  obtain ⟨c, hc⟩ := Option.isSome_iff_exists.mp
    (show (runChecked (program Sample.host) (fun _ _ => True) ⟨Sample.booked, []⟩
      Sample.capturing).isSome by decide +kernel)
  obtain ⟨hwaits, hstep⟩ := hbefore c hc
  obtain ⟨c', hn, hafter⟩ := (Option.any_eq_true _ _).mp hstep
  obtain ⟨b', hb', hconfirmed⟩ := (Option.any_eq_true _ _).mp hafter
  have hnew : c.db.bookings.find? Sample.bookingId ≠ some b' := by
    intro hb
    rw [hb, Option.any_some, hconfirmed] at hwaits
    cases hwaits
  exact ⟨c, c', b', hc, hn, hb', eq_of_beq hconfirmed, (keeps_to_booking Sample.host Sample.booked c
    c' (.exec 0) (Run.of_runChecked _ _ hc) hn).1 Sample.bookingId b' hb' hnew⟩

end ServiceHub
