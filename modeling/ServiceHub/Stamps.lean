/-
# `Stamps` — the times that the rows carry

Beside its status a booking carries what has happened to it, and so does a
payment.  Concurrent calls may overwrite the status, but they set the columns
that go with it in the same statement, and none is ever taken away.  In every
state of every interleaving

    a CANCELLED booking         has `cancelledAt`, and whatever has it has a reason
    a COMPLETED booking         has `completedAt`
    `needsReview`               is set exactly if `overdueAt` is
    a booking that waits for    has none of them
    payment, or waited in vain
    a SUCCESS payment           has `paidAt`, and so has whatever carries a signature
    a REFUNDED payment          has `refundedAt`
    a CREATED payment           has none of them and no payment id

and PENDING, which the schema knows, is the status of no payment (`stamps_kept`).
-/
import ServiceHub.Authority

namespace ServiceHub

open Data Txn

structure Booking.Stamped (b : Booking) : Prop where
  cancelled : b.bookingStatus = .cancelled → b.cancelledAt.isSome
  reason : b.cancellationReason.isSome = b.cancelledAt.isSome
  completed : b.bookingStatus = .completed → b.completedAt.isSome
  review : b.needsReview = b.overdueAt.isSome
  fresh : b.bookingStatus = .pendingPayment ∨ b.bookingStatus = .expired →
    b.cancelledAt = none ∧ b.completedAt = none ∧ b.overdueAt = none

structure Payment.Stamped (p : Payment) : Prop where
  paid : p.status = .success → p.paidAt.isSome
  signed : p.gatewaySignature.isSome → p.paidAt.isSome
  refunded : p.status = .refunded → p.refundedAt.isSome
  fresh : p.status = .created →
    p.paidAt = none ∧ p.refundedAt = none ∧ p.gatewayPaymentId = none
  settled : p.status ≠ .pending

instance (b : Booking) : Decidable b.Stamped :=
  decidable_of_iff
    ((b.bookingStatus = .cancelled → b.cancelledAt.isSome) ∧
      b.cancellationReason.isSome = b.cancelledAt.isSome ∧
      (b.bookingStatus = .completed → b.completedAt.isSome) ∧ b.needsReview = b.overdueAt.isSome ∧
      (b.bookingStatus = .pendingPayment ∨ b.bookingStatus = .expired →
        b.cancelledAt = none ∧ b.completedAt = none ∧ b.overdueAt = none))
    ⟨fun h => ⟨h.1, h.2.1, h.2.2.1, h.2.2.2.1, h.2.2.2.2⟩,
      fun h => ⟨h.cancelled, h.reason, h.completed, h.review, h.fresh⟩⟩

instance (p : Payment) : Decidable p.Stamped :=
  decidable_of_iff
    ((p.status = .success → p.paidAt.isSome) ∧ (p.gatewaySignature.isSome → p.paidAt.isSome) ∧
      (p.status = .refunded → p.refundedAt.isSome) ∧
      (p.status = .created →
        p.paidAt = none ∧ p.refundedAt = none ∧ p.gatewayPaymentId = none) ∧ p.status ≠ .pending)
    ⟨fun h => ⟨h.1, h.2.1, h.2.2.1, h.2.2.2.1, h.2.2.2.2⟩,
      fun h => ⟨h.paid, h.signed, h.refunded, h.fresh, h.settled⟩⟩

def Row.Stamped : Row → Prop
  | .booking b => b.Stamped
  | .payment p => p.Stamped
  | _ => True

/-- All rows carry the times that go with their status. -/
structure Db.Stamped (db : Db) : Prop where
  bookings : ∀ b ∈ db.bookings.rows, b.Stamped
  payments : ∀ p ∈ db.payments.rows, p.Stamped

instance (db : Db) : Decidable db.Stamped :=
  decidable_of_iff ((∀ b ∈ db.bookings.rows, b.Stamped) ∧ ∀ p ∈ db.payments.rows, p.Stamped)
    ⟨fun h => ⟨h.1, h.2⟩, fun h => ⟨h.bookings, h.payments⟩⟩

/-! ## What the updates leave -/

theorem orDefault_ne {t : Option String} {fallback : String} (h : fallback ≠ "") :
    orDefault t fallback ≠ "" := by
  unfold orDefault
  cases ht : t.filter (· ≠ "") with
  | none => exact h
  | some s =>
      obtain ⟨_, hs⟩ := Option.filter_eq_some_iff.mp ht
      simpa using hs

section
variable {host : Host} {op : Op} {h : CallHist} {id : Uuid}

theorem cancelled_stamped {b : Booking} (hb : b.Stamped) (now : Time) {t : Option String}
    {fallback : String} (hfallback : fallback ≠ "") :
    ((BookingRepository.statusData now .cancelled (some (orDefault t fallback))).on b).Stamped := by
  have hreason : orDefault t fallback ≠ "" := orDefault_ne hfallback
  constructor <;> simp [BookingRepository.statusData, BookingUpdate.on, hreason, hb.review]

theorem SetsBooking.stamped {data : BookingUpdate} (hsets : SetsBooking host op h id data)
    {b : Booking} (hb : b.Stamped) : (data.on b).Stamped := by
  cases hsets with
  | cancelled _ _ _ _ => exact cancelled_stamped hb _ (by decide)
  | refunded _ _ _ _ _ => exact cancelled_stamped hb _ (by decide)
  | completed _ _ _ _ =>
      constructor <;> simp [completeData, BookingUpdate.on, hb.reason, hb.review]
  | confirmed =>
      constructor <;>
        simp [confirmData, BookingRepository.statusData, BookingUpdate.on, hb.reason, hb.review]

/-- The two workers, each on the bookings that its condition admits. -/
theorem Worker.stamped {w : BookingWhere} {data : BookingUpdate} (hworker : Worker op w data)
    {b : Booking} (htest : w.test b = true) (hb : b.Stamped) : (data.on b).Stamped := by
  simp only [BookingWhere.test, Bool.and_eq_true, beq_iff_eq] at htest
  rcases hworker with ⟨_, hpending, _, rfl⟩ | ⟨_, hconfirmed, _, rfl⟩
  · have hfresh := hb.fresh (Or.inl (htest.1.2.trans hpending))
    constructor <;>
      simp [expireData, BookingUpdate.on, hb.reason, hb.review, hfresh.1, hfresh.2.1, hfresh.2.2]
  · have hstatus : b.bookingStatus = .confirmed := htest.1.2.trans hconfirmed
    constructor <;> simp [overdueData, BookingUpdate.on, hb.reason, hstatus]

theorem Admitted.stamped {b : Booking} (hadmitted : Admitted host op b) : b.Stamped := by
  obtain ⟨_, _, _, _, _, _, _, _, _, _, rfl⟩ := hadmitted
  constructor <;> simp [newBooking]

theorem Orders.stamped {p : Payment} (horders : Orders op h p) : p.Stamped := by
  cases horders with
  | booked _ _ _ hp | ordered _ _ _ _ hp =>
      subst hp
      constructor <;> simp [newPayment]

theorem SettlesPayment.stamped {data : PaymentUpdate} (hsettles : SettlesPayment host op h id data)
    {p : Payment} (hp : p.Stamped) : (data.on p).Stamped := by
  cases hsettles with
  | verified _ _ _ _ _ _ =>
      constructor <;> simp [verifyData, PaymentRepository.statusData, PaymentUpdate.on]
  | captured _ _ _ _ =>
      constructor <;> simp [captureData, PaymentRepository.statusData, PaymentUpdate.on]
  | failed _ _ =>
      constructor <;> simp [failData, PaymentRepository.statusData, PaymentUpdate.on]
      exact hp.signed
  | reconciled _ _ _ =>
      constructor <;> simp [reconcileData, PaymentRepository.statusData, PaymentUpdate.on]
      exact hp.signed
  | refunded _ _ _ _ _ =>
      constructor <;> simp [refundData, PaymentRepository.statusData, PaymentUpdate.on]
      exact hp.signed

theorem expired_stamped {p : Payment} (hp : p.Stamped) : (expirePaymentData.on p).Stamped := by
  constructor <;> simp [expirePaymentData, PaymentUpdate.on]
  exact hp.signed

/-- What a statement writes carries its times, if what it finds does. -/
theorem stamped_of_written {s : Stmt} {db : Db} {a : Ans s} (hexec : db.exec s = .ok a)
    (hasks : Asks host op h (.stmt s)) (hwrites : Writes host op h (.stmt s))
    (hpermits : Permits host op h (.stmt s))
    (hfound : ∀ k r, db.get k = some r → r.Stamped) : ∀ w ∈ s.written a, w.Stamped := by
  intro w hw
  cases w with
  | booking b' =>
      rcases Stmt.written_booking hexec hw with
        ⟨rfl, _⟩ | ⟨b, data, hget, rfl, rfl | ⟨cond, rfl, htest⟩⟩
      · exact Admitted.stamped hasks
      · exact SetsBooking.stamped hpermits (hfound _ _ hget)
      · exact hwrites.1.stamped htest (hfound _ _ hget)
  | payment p' =>
      rcases Stmt.written_payment hexec hw with
        ⟨rfl, _⟩ | ⟨p, data, hget, rfl, rfl | ⟨cond, rfl, _⟩⟩
      · exact Orders.stamped hpermits
      · exact SettlesPayment.stamped hpermits (hfound _ _ hget)
      · obtain ⟨_, _, rfl, _⟩ := hpermits
        exact expired_stamped (hfound _ _ hget)
  | _ => trivial

end

theorem Db.Stamped.row {db : Db} (h : db.Stamped) {k : Key} {r : Row} (hr : db.get k = some r) :
    r.Stamped := by
  cases k with
  | booking id =>
      obtain ⟨b, hb, rfl⟩ := Option.map_eq_some_iff.mp hr
      exact h.bookings b (Table.mem_of_find? hb)
  | payment id =>
      obtain ⟨p, hp, rfl⟩ := Option.map_eq_some_iff.mp hr
      exact h.payments p (Table.mem_of_find? hp)
  | event id | audit id =>
      obtain ⟨_, _, rfl⟩ := Option.map_eq_some_iff.mp hr
      trivial

/-- **The times go with the statuses**: in every state of every run the bookings
and payments carry the times of what has happened to them. -/
theorem stamps_kept (host : Host) (db : Db) (c : System) (hdb : db.Stamped)
    (hrun : Run (program host) (fun _ _ => True) ⟨db, []⟩ c) : c.db.Stamped := by
  have hall : Everywhere Row.Stamped c := by
    refine hrun.everywhere (I := fun _ => Row.Stamped) (fun _ _ hr => hdb.row hr) rfl
      (fun _ _ _ _ _ h => h) fun c hrun P hP s k a hk hexec hview => ?_
    have hobeys := hrun.obeys (fun _ _ _ => (program_asks.and program_writes).and program_permits)
      rfl P hP
    rw [hk] at hobeys
    obtain ⟨⟨⟨hasks, hwrites⟩, hpermits⟩, _⟩ := hobeys
    exact stamped_of_written hexec hasks hwrites hpermits hview
  refine ⟨fun b hb => ?_, fun p hp => ?_⟩
  · exact hall.committed (.booking b.id) (.booking b)
      (Option.map_eq_some_iff.mpr ⟨b, Table.find?_of_mem hb, rfl⟩)
  · exact hall.committed (.payment p.id) (.payment p)
      (Option.map_eq_some_iff.mpr ⟨p, Table.find?_of_mem hp, rfl⟩)

namespace Sample

/-- The payment is captured, and paid back. -/
def paidBack : List (Event Op Exn) :=
  .spawn (deliver 1 "payment.captured") :: steps 0 15 ++ .spawn (refund 2) :: steps 1 8

end Sample

/-- A booking that was paid and refunded. -/
theorem stamps_kept_sample : ∃ c,
    runChecked (program Sample.host) (fun _ _ => True) ⟨Sample.booked, []⟩ Sample.paidBack = some c ∧
    (∃ b ∈ c.db.bookings.rows, b.bookingStatus = .cancelled ∧ b.cancellationReason.isSome) ∧
    (∃ p ∈ c.db.payments.rows, p.status = .refunded ∧ p.paidAt.isSome) ∧ c.db.Stamped := by
  have hends : ∀ c ∈ runChecked (program Sample.host) (fun _ _ => True) ⟨Sample.booked, []⟩
      Sample.paidBack,
      (∃ b ∈ c.db.bookings.rows, b.bookingStatus = .cancelled ∧ b.cancellationReason.isSome) ∧
        ∃ p ∈ c.db.payments.rows, p.status = .refunded ∧ p.paidAt.isSome := by decide +kernel
  obtain ⟨c, hc⟩ := Option.isSome_iff_exists.mp
    (show (runChecked (program Sample.host) (fun _ _ => True) ⟨Sample.booked, []⟩
      Sample.paidBack).isSome by decide +kernel)
  exact ⟨c, hc, (hends c hc).1, (hends c hc).2, stamps_kept Sample.host Sample.booked c
    (by decide +kernel) (Run.of_runChecked _ _ hc)⟩

end ServiceHub
