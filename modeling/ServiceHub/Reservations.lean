/-
# `Reservations` — a booking that waits for its payment does not wait for ever

`createBooking` commits a booking in PENDING_PAYMENT, which keeps its slot from
everybody else, and schedules the job that is to expire it.  Two things have to
hold for the slot to come free again if nobody pays.

    the job is there      whatever waits was reserved by a call that is still
                          under way, or whose job was refused, or whose job the
                          queue has taken; and nobody has called the job off
                          (`reservation_remembered`)
    the job does its work once an `expireBooking` that was started after the
                          booking was committed has returned, whatever it
                          reports, the booking waits no more (`expiry_settles`)

Both are about every interleaving: payments, cancellations and refunds may come
between any two statements.
-/
import ServiceHub.AllOrNothing
import ServiceHub.Confirming
import ServiceHub.QueueOrder
import ServiceHub.Workers
import ServiceHub.Txn.Origins

namespace ServiceHub

open Data Txn Prog Jobs

/-! ## Where a booking comes from -/

/-- The insert of the booking `id`. -/
def Books (id : Uuid) : (s : Stmt) → Ans s → Prop
  | .createBooking _, b => b.id = id
  | _, _ => False

section
variable {host : Host} {db : Db} {Ok : System → Event Op Exn → Prop} {c : System} {P : Caller}
  {id : Uuid}

theorem books_of_written {s : Stmt} {db : Db} {a : Ans s} (hexec : db.exec s = .ok a) {w : Row}
    (hw : w ∈ s.written a) (hkey : w.key = .booking id) :
    Books id s a ∨ (db.get (.booking id)).isSome := by
  cases w with
  | booking b =>
      obtain rfl : b.id = id := Key.booking.inj hkey
      rcases Stmt.written_booking hexec hw with ⟨rfl, _⟩ | ⟨b₀, _, hget, _⟩
      · have ha : Row.booking b = Row.booking a := List.mem_singleton.mp hw
        exact Or.inl (congrArg Booking.id (Row.booking.inj ha).symm)
      · exact Or.inr (by rw [hget]; rfl)
  | _ => cases hkey

/-- A booking was there at first, or a call has booked it. -/
theorem booked_of_run (hrun : Run (program host) Ok ⟨db, []⟩ c) {b : Booking}
    (hb : c.db.bookings.find? id = some b) (hnew : db.bookings.find? id = none) :
    ∃ P ∈ c.procs, Did (Books id) (kept P.hist) := by
  have hmade : Made db (Books id) (Key.booking id) c :=
    Run.made (fun _ _ _ hexec _ hw hkey => books_of_written hexec hw hkey) rfl hrun
  have hsome : (c.db.get (.booking id)).isSome := by simp [Db.get, hb]
  rcases hmade.committed hsome with hold | hnow
  · have hold : (db.get (.booking id)).isSome := hold
    simp [Db.get, hnew] at hold
  · exact hnow

/-- Only `createBooking` books. -/
theorem books_of_did (hrun : Run (program host) Ok ⟨db, []⟩ c) (hP : P ∈ c.procs)
    (hdid : Did (Books id) (kept P.hist)) : P.op.request.books := by
  obtain ⟨⟨s, a⟩, hx, hbooks⟩ := hdid
  obtain ⟨_, _, hasks, _⟩ := issued_of_run hrun hP (mem_of_kept hx)
  cases s with
  | createBooking row =>
      obtain ⟨_, _, _, _, _, _, _, hrequest, _⟩ := hasks
      rw [hrequest]
      rfl
  | _ => exact hbooks.elim

theorem committed_of_books (hdid : Did (Books id) (kept P.hist)) :
    ∃ b, Row.booking b ∈ committed P ∧ b.id = id := by
  obtain ⟨⟨s, a⟩, hx, hbooks⟩ := hdid
  cases s with
  | createBooking row => exact ⟨a, mem_rowsOf.mpr ⟨_, hx, List.mem_singleton_self _⟩, hbooks⟩
  | _ => exact hbooks.elim

/-- The booking that a call has placed is the one it has booked. -/
theorem id_of_placed {b : CreatedBooking} {h : CallHist} (hplaced : Placed b (kept h))
    (hdid : Did (Books id) (kept h)) : b.id = id := by
  obtain ⟨row, p, payment, a, audit, reads, hkept, hreads, _⟩ := hplaced
  obtain ⟨⟨s, x⟩, hx, hbooks⟩ := hdid
  rw [hkept] at hx
  cases s with
  | createBooking row' =>
      simp only [List.mem_cons, Sigma.mk.injEq, reduceCtorEq, false_and, false_or] at hx
      rcases hx with ⟨hrow, hx⟩ | hx
      · cases hrow
        cases hx
        exact hbooks
      · -- the reads before it wrote nothing
        have hrow : Row.booking x ∈ rowsOf Db reads :=
          mem_rowsOf.mpr ⟨_, hx, List.mem_singleton_self _⟩
        rw [hreads] at hrow
        exact absurd hrow List.not_mem_nil
  | _ => exact hbooks.elim

end

/-! ## The job -/

/-- The job that expires the booking is in the queue of booking jobs after what
the call has put there. -/
def Expires (P : Caller) (id : Uuid) : Prop :=
  ∀ now found q, ((bookingJobs now found (queueReplies P.op.ctx P.hist) q).find?
    (BookingQueueService.expireJobId id)).isSome

/-- **No reservation is forgotten**: a booking of the run that waits for its
payment was made by a `createBooking` that is under way, that a queue has
refused, or that has put the job in the queue; and no call has told the queue to
drop it. -/
theorem reservation_remembered (host : Host) (db : Db) (c : System) (id : Uuid) (b : Booking)
    (hrun : Run (program host) (fun _ _ => True) ⟨db, []⟩ c) (hnew : db.bookings.find? id = none)
    (hb : c.db.bookings.find? id = some b) (hpending : b.bookingStatus = .pendingPayment) :
    (∃ P ∈ c.procs, P.op.request.books ∧ (∃ row, Row.booking row ∈ committed P ∧ row.id = id) ∧
      (P.prog.head.isSome ∨ ¬ QueuesTook P ∨ Expires P id)) ∧
    ∀ Q ∈ c.procs, .cancelPaymentExpiration id ∉ told Q.hist := by
  refine ⟨?_, fun Q hQ htold => ?_⟩
  · obtain ⟨P, hP, hdid⟩ := booked_of_run hrun hb hnew
    have hbooks := books_of_did hrun hP hdid
    have hrow := committed_of_books hdid
    refine ⟨P, hP, hbooks, hrow, ?_⟩
    cases hprog : P.prog with
    | ask i k => exact Or.inl rfl
    | throw e =>
        refine Or.inr (Or.inl fun htook => ?_)
        rcases (concluded_of_run hrun hP hbooks).1 e hprog with ⟨hnone, _⟩ | ⟨b', x, _, hreplies⟩
        · obtain ⟨row, hrow, _⟩ := hrow
          rw [committed, hnone] at hrow
          exact absurd hrow List.not_mem_nil
        · have hx := htook (x, false) (by rw [hreplies]; exact List.mem_cons_self)
          cases hx
    | ret a =>
        obtain ⟨b', _, hplaced, hreplies⟩ := (concluded_of_run hrun hP hbooks).2 a hprog
        have hid : b'.id = id := id_of_placed hplaced hdid
        exact Or.inr (Or.inr (hid ▸ (reserved_of_placed hrun hP hplaced hreplies).job))
  · obtain ⟨b', hb', hleft⟩ := left_of_told hrun hQ htold rfl (by simp [Ext.follows])
    obtain rfl := Option.some.inj (hb.symm.trans hb')
    exact hleft hpending

/-! ## The work of the job -/

/-- What an `expireBooking` that returns has found or done. -/
inductive ExpirySettled (id : Uuid) (h : CallHist) : Prop where
  | missing {h' : CallHist} : (⟨.stmt (.findBooking id), .ok none⟩ :: h') <:+ h →
      rowsOf Db ((sinceBegin h').getD []) = [] → ExpirySettled id h
  | found {h' : CallHist} {b : Booking} : (⟨.stmt (.findBooking id), .ok (some b)⟩ :: h') <:+ h →
      rowsOf Db ((sinceBegin h').getD []) = [] → b.bookingStatus ≠ .pendingPayment → ExpirySettled id h
  | passed {h' : CallHist} :
      (⟨.stmt (.updateBookings ⟨id, .pendingPayment, none⟩ expireData), .ok []⟩ :: h') <:+ h →
      rowsOf Db ((sinceBegin h').getD []) = [] → ExpirySettled id h
  | taken : Did (Takes id (·.bookingStatus ≠ .pendingPayment)) (kept h) → ExpirySettled id h

theorem expireBooking_settles {ctx : Ctx} {id : Uuid} : Obeys (fun _ _ => True)
    (fun h r => ∀ x, r = .ok x → ExpirySettled id h) [] (expireBooking ctx id) := by
  unfold expireBooking expireBookingTx
  simp only [obeys_transaction, autocommit_bind, obeys_bind, BookingRepository.obeys_findById]
  refine ⟨trivial, fun _ _ h => (by cases h), trivial, ?_,
    fun _ => ⟨trivial, fun _ _ h => (by cases h)⟩⟩
  rintro (_ | booking)
  · exact ⟨trivial, fun _ _ => .missing (List.suffix_cons _ _) rfl, fun _ _ h => (by cases h)⟩
  · simp only [autocommit_ite, obeys_ite, autocommit_bind, obeys_bind, autocommit_pure,
      obeys_pure, BookingRepository.obeys_updateMany, AuditLogRepository.obeys_create,
      PaymentRepository.obeys_updateMany]
    simp only [reduceCtorEq, false_implies, implies_true, and_true, true_and, Except.ok.injEq,
      forall_eq']
    refine ⟨fun hleft => .found (List.suffix_cons _ _) rfl hleft, fun _ taken => ⟨fun hnone => ?_,
      fun hsome _ _ => .taken ?_⟩⟩
    · obtain rfl : taken = [] := List.eq_nil_of_length_eq_zero hnone
      exact .passed (List.suffix_cons _ _) rfl
    · refine ⟨⟨.updateBookings ⟨id, .pendingPayment, none⟩ expireData, taken⟩,
        List.mem_append_left _ ?_, rfl, fun (h : taken = []) => hsome (by rw [h]; rfl), fun b hb => ?_⟩
      · exact List.mem_cons_of_mem _ (List.mem_cons_of_mem _ List.mem_cons_self)
      · simp only [BookingWhere.test, Bool.and_eq_true, beq_iff_eq] at hb
        simp [hb.1.2, BookingUpdate.on, expireData]

section
variable {host : Host} {db : Db} {Ok : System → Event Op Exn → Prop} {c c' : System} {P : Caller}
  {id : Uuid}

/-- An `expireBooking` that has returned is settled. -/
theorem settled_of_run (hrun : Run (program host) Ok ⟨db, []⟩ c) (hP : P ∈ c.procs)
    (hrequest : P.op.request = .expireBooking id) {r : Response} (hprog : P.prog = .ret r) :
    ExpirySettled id P.hist := by
  have hobeys := hrun.obeys (Q := fun _ _ _ => True)
    (R := fun op h r => op.request = .expireBooking id → ∀ x, r = .ok x → ExpirySettled id h)
    (fun _ o _ => ?_) rfl P hP
  · rw [hprog] at hobeys
    exact hobeys hrequest r rfl
  · obtain ⟨ctx, request⟩ := o
    cases request with
    | expireBooking id' =>
        refine obeys_map.mpr (expireBooking_settles.mono (fun _ _ hq => hq) ?_)
        rintro h (e | x) hsettled hid _ hx
        · cases hx
        · cases hid
          exact hsettled x rfl
    | _ => exact Obeys.of_forall (fun _ _ => trivial) (fun _ _ h => by cases h) _ _

theorem ret_of_returned {p : Call Response} (h : (returned p).isSome) : ∃ r, p = .ret r := by
  cases p with
  | ret r => exact ⟨r, rfl⟩
  | _ => cases h

theorem request_of_expires {request : Request} (h : request.expires id) :
    request = .expireBooking id := by
  cases request with
  | expireBooking id' => rw [show id' = id by simpa [Request.expires] using h]
  | _ => cases h

/-- A booking that is there goes on to be there. -/
theorem find?_of_run (hrun : Run (program host) Ok ⟨db, []⟩ c) (hrun' : Run (program host) Ok c c')
    {b : Booking} (hb : c.db.bookings.find? id = some b) :
    ∃ b', c'.db.bookings.find? id = some b' := by
  have hget : Txn.Database.get c.db (Key.booking id) = some (Row.booking b) :=
    Option.map_eq_some_iff.mpr ⟨b, hb, rfl⟩
  obtain ⟨r, hr, _⟩ := revises_of_run hrun hrun' hget
  obtain ⟨b', hb', _⟩ := Option.map_eq_some_iff.mp hr
  exact ⟨b', hb'⟩

end

/-- **The expiry settles the booking**: once an `expireBooking` that was made
after the booking was committed has returned, the booking is not PENDING_PAYMENT
any more. -/
theorem expiry_settles (host : Host) (db : Db) (c c' : System) (p : Nat) (P : Caller) (r : Response)
    (id : Uuid) (b : Booking) (hrun : Run (program host) (fun _ _ => True) ⟨db, []⟩ c)
    (hrun' : Run (program host) (fun _ _ => True) c c') (hb : c.db.bookings.find? id = some b)
    (hP : c'.procs[p]? = some P) (hlater : c.procs.length ≤ p)
    (hrequest : P.op.request = .expireBooking id) (hreturned : P.prog = .ret r) :
    ∃ b', c'.db.bookings.find? id = some b' ∧ b'.bookingStatus ≠ .pendingPayment := by
  have hmem := List.mem_of_getElem? hP
  have hboth := hrun.trans hrun'
  cases settled_of_run hboth hmem hrequest hreturned with
  | missing hsuffix hclean =>
      obtain ⟨c₁, hbefore, _, hexec⟩ := hrun.seen_after rfl hrun' hP hlater hsuffix hclean
      obtain ⟨b₁, hb₁⟩ := find?_of_run hrun hbefore hb
      have hread : c₁.db.bookings.find? id = none := Except.ok.inj hexec
      cases hread.symm.trans hb₁
  | found hsuffix hclean hleft =>
      obtain ⟨c₁, hbefore, hafter, hexec⟩ := hrun.seen_after rfl hrun' hP hlater hsuffix hclean
      exact left_pending (hrun.trans hbefore) hafter (Except.ok.inj hexec) hleft
  | passed hsuffix hclean =>
      obtain ⟨c₁, hbefore, hafter, hexec⟩ := hrun.seen_after rfl hrun' hP hlater hsuffix hclean
      obtain ⟨b₁, hb₁⟩ := find?_of_run hrun hbefore hb
      refine left_pending (hrun.trans hbefore) hafter hb₁ fun hpending => ?_
      -- the update would have found the booking
      have hnone := (Db.updateAll_ok (show c₁.db.updateAll .booking expireData.on
        (c₁.db.bookings.rows.filter (BookingWhere.test ⟨id, .pendingPayment, none⟩)) = .ok []
          from hexec)).1
      have htest : b₁ ∈ c₁.db.bookings.rows.filter (BookingWhere.test ⟨id, .pendingPayment, none⟩) := by
        refine List.mem_filter.mpr ⟨Table.mem_of_find? hb₁, ?_⟩
        simp [BookingWhere.test, Table.key_of_find? hb₁, hpending]
      rw [List.map_eq_nil_iff.mp hnone.symm] at htest
      exact absurd htest List.not_mem_nil
  | taken hdid =>
      have hmarked : Marked (Takes id (·.bookingStatus ≠ .pendingPayment))
          (Taken id (·.bookingStatus ≠ .pendingPayment)) c' := by
        refine marked_taken (fun data b _ hne hleft => ?_) (fun b _ => ?_) (fun ctx b hleft => hleft)
          hboth
        · cases hset : data.bookingStatus with
          | none => simpa [BookingUpdate.on, hset] using hleft
          | some s => exact fun h => hne (by simpa [BookingUpdate.on, hset] using h)
        · simp [BookingUpdate.on, expireData]
      obtain ⟨k, r, hr, htaken⟩ := hmarked.committed P hmem hdid
      cases r with
      | booking b' =>
          obtain ⟨rfl, hleft⟩ := htaken
          exact ⟨b', (find?_of_get hr).2, hleft⟩
      | _ => exact htaken.elim

/-! ## Two runs -/

/-- A booking that has just been made waits, and its job is in the queue. -/
theorem reservation_remembered_sample : ∃ c b,
    runChecked (program Sample.host) (fun _ _ => True) ⟨Sample.db, []⟩
      (.spawn Sample.book :: Sample.steps 0 9) = some c ∧
    c.db.bookings.find? Sample.bookingId = some b ∧ b.bookingStatus = .pendingPayment ∧
    (∀ P ∈ c.procs, P.prog.head.isNone ∧ QueuesTook P) ∧
    (∃ P ∈ c.procs, P.op.request.books ∧
      (∃ row, Row.booking row ∈ committed P ∧ row.id = Sample.bookingId) ∧
      (P.prog.head.isSome ∨ ¬ QueuesTook P ∨ Expires P Sample.bookingId)) ∧
    ∀ Q ∈ c.procs, .cancelPaymentExpiration Sample.bookingId ∉ told Q.hist := by
  have hrun : ∀ c ∈ runChecked (program Sample.host) (fun _ _ => True) ⟨Sample.db, []⟩
      (.spawn Sample.book :: Sample.steps 0 9),
      ((c.db.bookings.find? Sample.bookingId).any fun b => b.bookingStatus = .pendingPayment) = true ∧
      ∀ P ∈ c.procs, P.prog.head.isNone ∧ ∀ x ∈ queueReplies P.op.ctx P.hist, x.2 = true := by
    decide +kernel
  obtain ⟨c, hc⟩ := Option.isSome_iff_exists.mp
    (show (runChecked (program Sample.host) (fun _ _ => True) ⟨Sample.db, []⟩
      (.spawn Sample.book :: Sample.steps 0 9)).isSome by decide +kernel)
  obtain ⟨hwaits, hended⟩ := hrun c hc
  obtain ⟨b, hb, hpending⟩ := (Option.any_eq_true _ _).mp hwaits
  exact ⟨c, b, hc, hb, by simpa using hpending, hended, reservation_remembered Sample.host Sample.db c
    Sample.bookingId b (Run.of_runChecked _ _ hc) (by decide) hb (by simpa using hpending)⟩

namespace Sample

/-- The job reads the booking while the payment is being verified, and goes on
after that is committed. -/
def expiryBeside : List (Event Op Exn) :=
  .spawn (verify 1) :: steps 0 5 ++ .spawn (expire 2) :: steps 1 2 ++ steps 0 3 ++ steps 1 2

end Sample

/-- The update of the job finds nothing to expire. -/
theorem expiry_settles_sample : ∃ c', ∃ P ∈ c'.procs[1]?, ∃ r b b',
    runChecked (program Sample.host) (fun _ _ => True) ⟨Sample.booked, []⟩ Sample.expiryBeside
      = some c' ∧
    P.prog = .ret r ∧ Sample.booked.bookings.find? Sample.bookingId = some b ∧
    b.bookingStatus = .pendingPayment ∧ c'.db.bookings.find? Sample.bookingId = some b' ∧
    b'.bookingStatus ≠ .pendingPayment := by
  have hrun : ∀ c ∈ runChecked (program Sample.host) (fun _ _ => True) ⟨Sample.booked, []⟩
      Sample.expiryBeside, (c.procs[1]?.any fun P =>
        P.op.request.expires Sample.bookingId && (returned P.prog).isSome) = true := by
    decide +kernel
  have hbefore : ((Sample.booked.bookings.find? Sample.bookingId).any fun b =>
      b.bookingStatus = .pendingPayment) = true := by decide +kernel
  obtain ⟨c, hc⟩ := Option.isSome_iff_exists.mp
    (show (runChecked (program Sample.host) (fun _ _ => True) ⟨Sample.booked, []⟩
      Sample.expiryBeside).isSome by decide +kernel)
  obtain ⟨P, hP, hended⟩ := (Option.any_eq_true _ _).mp (hrun c hc)
  obtain ⟨hexpires, hreturned⟩ := Bool.and_eq_true_iff.mp hended
  obtain ⟨b, hb, hpending⟩ := (Option.any_eq_true _ _).mp hbefore
  obtain ⟨r, hr⟩ := ret_of_returned hreturned
  obtain ⟨b', hb', hleft⟩ := expiry_settles Sample.host Sample.booked ⟨Sample.booked, []⟩ c 1 P r
    Sample.bookingId b .start (Run.of_runChecked _ _ hc) hb hP (Nat.zero_le _)
    (request_of_expires hexpires) hr
  exact ⟨c, P, hP, r, b, b', hc, hr, hb, by simpa using hpending, hb', hleft⟩

end ServiceHub
