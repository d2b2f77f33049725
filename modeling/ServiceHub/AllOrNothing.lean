/-
# `AllOrNothing` — what a `createBooking` that has ended leaves behind

Booking, payment and audit row are inserted in one transaction; the job that
expires the booking is scheduled after its commit, inside the same `try`.

    it throws before the commit      nothing is committed
    it returns                       the three rows are committed and the job is
                                     in the queue
    the queue refuses the job        it throws, the three rows are committed, and
                                     no job will expire the booking

So the call is all or nothing just when the queue does not refuse the job
(`all_or_nothing`).
-/
import ServiceHub.QueueCalls

namespace ServiceHub

open Data Txn Prog Jobs

/-- The three inserts of a `createBooking`, after statements that wrote
nothing. -/
def Placed (b : CreatedBooking) (l : List ((s : Stmt) × Ans s)) : Prop :=
  ∃ row p payment a audit reads,
    l = ⟨.createAudit a, audit⟩ :: ⟨.createPayment p, payment⟩ ::
      ⟨.createBooking row, b.toBooking⟩ :: reads ∧ rowsOf Db reads = [] ∧
    p.bookingId = b.id ∧ payment.id = b.payment.id ∧ payment.gatewayOrderId = b.payment.orderId ∧
    a.entityType = "Booking" ∧ a.entityId = b.id ∧ a.action = .bookingCreated

/-- What `createBooking` has done when it ends. -/
def Concluded (ctx : Ctx) (h : CallHist) : Except Exn CreatedBooking → Prop
  | .ok b => Placed b (kept h) ∧
      queueReplies ctx h = [(.schedulePaymentExpiration b.id (15 * 60 * 1000), true)]
  | .error _ => (rowsOf Db (kept h) = [] ∧ queueReplies ctx h = []) ∨
      ∃ b x, Placed b (kept h) ∧ queueReplies ctx h = [(x, false)]

section
variable {host : Host} {ctx : Ctx} {h : CallHist}

/-- A call that has written and scheduled nothing may throw. -/
theorem concluded_early {e : Exn} (hrows : rowsOf Db (kept h) = [])
    (hcalls : queueReplies ctx h = []) : Concluded ctx h (.error e) := Or.inl ⟨hrows, hcalls⟩

/-- The `catch` changes the error at most. -/
theorem onBookingError_concludes {e : Exn} (hconcluded : Concluded ctx h (.error e)) :
    Obeys (fun _ _ => True) (Concluded ctx) h (onBookingError e) := by
  unfold onBookingError
  split
  · exact hconcluded
  · exact hconcluded

/-- The transaction commits the three rows, or nothing. -/
theorem createBookingTx_places (hopen : sinceBegin h = none) (hrows : rowsOf Db (kept h) = [])
    {customerId : Uuid} {row : Booking} {gatewayOrderId currency : String} {startsAt endsAt : Time} :
    Obeys (fun _ _ => True) (fun h' r => queueReplies ctx h' = queueReplies ctx h ∧
        match r with
        | .ok b => Placed b (kept h')
        | .error _ => rowsOf Db (kept h') = [])
      h (transaction Ext (createBookingTx ctx customerId row gatewayOrderId currency startsAt
        endsAt)) := by
  unfold createBookingTx
  simp only [obeys_transaction, autocommit_bind, obeys_bind, BookingRepository.obeys_create,
    PaymentRepository.obeys_create, AuditLogRepository.obeys_create, autocommit_pure, obeys_pure]
  simp only [true_and]
  refine ⟨fun _ => ⟨rfl, hrows⟩, fun booking => ⟨fun payment => ⟨fun audit => ⟨?_, ?_⟩, ?_⟩, ?_⟩, ?_⟩
  · exact ⟨rfl, row, newPayment (ctx.uuid 1) booking.id gatewayOrderId row.bookedPrice currency
      (ctx.clock 4), payment, bookingCreatedAudit ctx customerId booking gatewayOrderId startsAt endsAt,
      audit, kept h, by simp [kept, sinceBegin, hopen], hrows, rfl, rfl, rfl, rfl, rfl, rfl⟩
  · exact fun _ => ⟨rfl, hrows⟩
  · exact fun _ _ => ⟨rfl, hrows⟩
  · exact fun _ _ => ⟨rfl, hrows⟩
  · exact fun _ _ => ⟨rfl, hrows⟩

/-- The `try` and its `catch`: the transaction, and the job after it. -/
theorem place_concludes (hopen : sinceBegin h = none) (hrows : rowsOf Db (kept h) = [])
    (hcalls : queueReplies ctx h = []) {service : Option Service} {error : Exn} {customerId : Uuid}
    {row : Service → Booking} {gatewayOrderId currency : String} {startsAt endsAt : Time} :
    Obeys (fun _ _ => True) (Concluded ctx) h
      (catching
        (do
          let service ← orThrow service error
          let result ← transaction Ext (createBookingTx ctx customerId (row service)
            gatewayOrderId currency startsAt endsAt)
          enqueue ctx 0 (.schedulePaymentExpiration result.id (15 * 60 * 1000))
          pure result)
        onBookingError) := by
  refine obeys_catching.mpr (obeys_bind.mpr (obeys_orThrow.mpr ⟨fun _ => ?_, fun service _ => ?_⟩))
  · exact onBookingError_concludes (concluded_early hrows hcalls)
  refine obeys_bind.mpr ((createBookingTx_places hopen hrows).mono (fun _ _ hq => hq) ?_)
  rintro h₁ (e | b) ⟨hnone, hrest⟩
  · exact onBookingError_concludes (concluded_early hrest (hnone.trans hcalls))
  · have hmade : (queueReplies ctx h₁).length = 0 := by rw [hnone, hcalls, List.length_nil]
    refine obeys_bind.mpr ((enqueue_replies rfl hmade).mono (fun _ _ hq => hq) ?_)
    rintro h₂ r ⟨hreplies, hkept⟩
    rw [hnone, hcalls] at hreplies
    have hplaced : Placed b (kept h₂) := hkept ▸ hrest
    cases r with
    | error e => exact onBookingError_concludes (Or.inr ⟨b, _, hplaced, hreplies⟩)
    | ok _ => exact ⟨hplaced, hreplies⟩

theorem createBooking_concludes {customerId : Uuid} {dto : CreateBookingDto} :
    Obeys (fun _ _ => True) (Concluded ctx) [] (createBooking host ctx customerId dto) := by
  unfold createBooking
  simp only [obeys_bind, ProviderServiceRepository.obeys_findById, obeys_orThrow, obeys_throwIf,
    ProviderAvailabilityRepository.obeys_findByProviderId]
  simp only [true_and]
  refine ⟨fun found => ?_, fun _ => concluded_early rfl rfl⟩
  have hread : ∀ e : Exn, Concluded ctx [⟨.stmt (.findProviderService dto.providerServiceId), .ok found⟩]
      (.error e) := fun _ => concluded_early rfl rfl
  refine ⟨fun _ => hread _, fun offering _ => ⟨fun _ => hread _, fun provider _ => ⟨fun _ => hread _,
    fun _ => ⟨fun _ => hread _, fun startsAtDate _ => ⟨fun _ => hread _, fun _ => ⟨fun _ => hread _,
    fun _ => ⟨fun schedules => ?_, fun _ => concluded_early rfl rfl⟩⟩⟩⟩⟩⟩⟩
  split
  · exact concluded_early rfl rfl
  · simp only [obeys_bind, obeys_external]
    exact ⟨trivial, fun order _ => place_concludes rfl rfl rfl, fun _ _ => concluded_early rfl rfl,
      fun _ => concluded_early rfl rfl⟩

end

/-! ## The calls of a run -/

def Request.books : Request → Bool
  | .createBooking _ _ => true
  | _ => false

/-- The booking with its payment and its audit row, and the job that expires
it. -/
structure Reserved (c : System) (P : Caller) (b : CreatedBooking) : Prop where
  rows : ∃ payment audit,
    committed P = [.booking b.toBooking, .payment payment, .audit audit] ∧
      payment.bookingId = b.id ∧ payment.id = b.payment.id ∧
      payment.gatewayOrderId = b.payment.orderId ∧ audit.entityType = "Booking" ∧
      audit.entityId = b.id ∧ audit.action = .bookingCreated
  stored : ∀ r ∈ committed P, (c.db.get r.key).isSome
  job : ∀ now found q, ((bookingJobs now found (queueReplies P.op.ctx P.hist) q).find?
    (BookingQueueService.expireJobId b.id)).isSome

/-- What a call that throws has committed is nothing; what one returns is
reserved. -/
def AllOrNothing (c : System) (P : Caller) : Prop :=
  (∀ e, P.prog = .throw e → committed P = []) ∧
    ∀ b, P.prog = .ret (.created b) → Reserved c P b

section
variable {host : Host} {db : Db} {Ok : System → Event Op Exn → Prop} {c : System}

/-- Every `createBooking` that has ended has concluded. -/
theorem concluded_of_run (hrun : Run (program host) Ok ⟨db, []⟩ c) {P : Caller} (hP : P ∈ c.procs)
    (hbooks : P.op.request.books) :
    (∀ e, P.prog = .throw e → Concluded P.op.ctx P.hist (.error e)) ∧
      ∀ a, P.prog = .ret a → ∃ b, a = .created b ∧ Concluded P.op.ctx P.hist (.ok b) := by
  have hobeys := hrun.obeys (Q := fun _ _ _ => True)
    (R := fun op h r => op.request.books →
      (∀ e, r = .error e → Concluded op.ctx h (.error e)) ∧
        ∀ a, r = .ok a → ∃ b, a = .created b ∧ Concluded op.ctx h (.ok b)) (fun _ o _ => ?_) rfl P hP
  · refine ⟨fun e hprog => ?_, fun a hprog => ?_⟩ <;> rw [hprog] at hobeys
    · exact (hobeys hbooks).1 e rfl
    · exact (hobeys hbooks).2 a rfl
  · obtain ⟨ctx, request⟩ := o
    cases request with
    | createBooking customerId dto =>
        refine obeys_map.mpr (createBooking_concludes.mono (fun _ _ hq => hq) ?_)
        rintro h (e | b) hconcluded _
        · exact ⟨fun _ _ => hconcluded, fun _ h => nomatch h⟩
        · refine ⟨fun _ h => (nomatch h), fun a ha => ?_⟩
          cases ha
          exact ⟨b, rfl, hconcluded⟩
    | _ => exact Obeys.of_forall (fun _ _ => trivial) (fun _ _ h => nomatch h) _ _

/-- What is placed is reserved, once the job is taken. -/
theorem reserved_of_placed (hrun : Run (program host) Ok ⟨db, []⟩ c) {P : Caller}
    (hP : P ∈ c.procs) {b : CreatedBooking} (hplaced : Placed b (kept P.hist))
    (hreplies : queueReplies P.op.ctx P.hist =
      [(.schedulePaymentExpiration b.id (15 * 60 * 1000), true)]) : Reserved c P b := by
  refine ⟨?_, fun r hr => hrun.isSome_of_kept rfl hP hr, fun now found q => ?_⟩
  · obtain ⟨row, p, payment, a, audit, reads, hkept, hreads, hbooking, hid, horder, htype, hentity,
      haction⟩ := hplaced
    have hpayment : payment = p := by
      have hmem : (⟨.createPayment p, payment⟩ : (s : Stmt) × Ans s) ∈ kept P.hist := by
        rw [hkept]
        simp
      obtain ⟨_, hexec⟩ := hrun.executed rfl hP (mem_of_kept hmem)
      exact (Db.insert_ok hexec).1
    have haudit : audit = a := by
      have hmem : (⟨.createAudit a, audit⟩ : (s : Stmt) × Ans s) ∈ kept P.hist := by
        rw [hkept]
        simp
      obtain ⟨_, hexec⟩ := hrun.executed rfl hP (mem_of_kept hmem)
      exact (Db.insert_ok hexec).1
    refine ⟨payment, audit, ?_, hpayment ▸ hbooking, hid, horder, haudit ▸ htype, haudit ▸ hentity,
      haudit ▸ haction⟩
    rw [committed, hkept]
    simp only [rowsOf_cons, hreads]
    rfl
  · rw [hreplies]
    exact BookingQueueService.find?_schedulePaymentExpiration

theorem Placed.committed_ne_nil {P : Caller} {b : CreatedBooking} (h : Placed b (kept P.hist)) :
    committed P ≠ [] := by
  obtain ⟨row, p, payment, a, audit, reads, hkept, hreads, _⟩ := h
  rw [committed, hkept]
  simp only [rowsOf_cons, hreads]
  exact List.cons_ne_nil _ _

/-- **`createBooking` is all or nothing just when no queue refuses its job**: in
every run, for every call that has ended, however it failed. -/
theorem all_or_nothing (host : Host) (db : Db) (c : System)
    (hrun : Run (program host) (fun _ _ => True) ⟨db, []⟩ c) (P : Caller) (hP : P ∈ c.procs)
    (hbooks : P.op.request.books) (hended : P.prog.head.isNone) :
    AllOrNothing c P ↔ QueuesTook P := by
  obtain ⟨herror, hok⟩ := concluded_of_run hrun hP hbooks
  constructor
  · rintro ⟨hnothing, _⟩ x hx
    cases hprog : P.prog with
    | ask i k => simp [hprog, head] at hended
    | throw e =>
        rcases herror e hprog with ⟨_, hreplies⟩ | ⟨b, _, hplaced, _⟩
        · rw [hreplies] at hx
          exact absurd hx List.not_mem_nil
        · -- the rows are committed and the call throws
          exact absurd (hnothing e hprog) hplaced.committed_ne_nil
    | ret a =>
        obtain ⟨b, _, _, hreplies⟩ := hok a hprog
        rw [hreplies] at hx
        rw [List.mem_singleton.mp hx]
  · intro htook
    refine ⟨fun e hprog => ?_, fun b hprog => ?_⟩
    · rcases herror e hprog with ⟨hrows, _⟩ | ⟨b, x, _, hreplies⟩
      · exact hrows
      · have hx := htook (x, false) (by rw [hreplies]; exact List.mem_cons_self)
        cases hx
    · obtain ⟨b', hb', hplaced, hreplies⟩ := hok _ hprog
      obtain rfl := Response.created.inj hb'
      exact reserved_of_placed hrun hP hplaced hreplies

end

/-! ## Two runs -/

/-- The message of the queue that did not answer. -/
def refusedBy : Call Response → Option String
  | .throw (.queue message) => some message
  | _ => none

namespace Sample

/-- The booking while the queue is out of reach. -/
def bookUnqueued : Op :=
  ⟨{ ctx 0 with queue := fun _ => .error "Connection is closed." }, book.request⟩

end Sample

/-- A booking whose job is taken. -/
theorem all_or_nothing_sample : ∃ c, ∃ P ∈ c.procs,
    runChecked (program Sample.host) (fun _ _ => True) ⟨Sample.db, []⟩
      (.spawn Sample.book :: Sample.steps 0 9) = some c ∧
    P.prog.head.isNone ∧ (committed P).length = 3 ∧ QueuesTook P ∧ AllOrNothing c P := by
  obtain ⟨c, hc⟩ := Option.isSome_iff_exists.mp
    (show (runChecked (program Sample.host) (fun _ _ => True) ⟨Sample.db, []⟩
      (.spawn Sample.book :: Sample.steps 0 9)).isSome by decide +kernel)
  have hmade : ∀ c ∈ runChecked (program Sample.host) (fun _ _ => True) ⟨Sample.db, []⟩
      (.spawn Sample.book :: Sample.steps 0 9), ∃ P ∈ c.procs, P.op.request.books ∧
        P.prog.head.isNone ∧ (committed P).length = 3 ∧
        ∀ x ∈ queueReplies P.op.ctx P.hist, x.2 = true := by
    decide +kernel
  obtain ⟨P, hP, hbooks, hended, hthree, htook⟩ := hmade c hc
  exact ⟨c, P, hP, hc, hended, hthree, htook,
    (all_or_nothing Sample.host Sample.db c (Run.of_runChecked _ _ hc) P hP hbooks hended).mpr htook⟩

/-- The call throws; the booking holds its slot, and nothing will expire it. -/
theorem not_all_or_nothing : ∃ c, ∃ P ∈ c.procs,
    runChecked (program Sample.host) (fun _ _ => True) ⟨Sample.db, []⟩
      (.spawn Sample.bookUnqueued :: Sample.steps 0 9) = some c ∧
    refusedBy P.prog = some "Connection is closed." ∧ ¬ AllOrNothing c P ∧
    (committed P).length = 3 ∧ (∃ b ∈ c.db.bookings.rows, b.bookingStatus = .pendingPayment) ∧
    ∀ now found, bookingJobs now found (queueReplies P.op.ctx P.hist) .empty = .empty := by
  obtain ⟨c, hc⟩ := Option.isSome_iff_exists.mp
    (show (runChecked (program Sample.host) (fun _ _ => True) ⟨Sample.db, []⟩
      (.spawn Sample.bookUnqueued :: Sample.steps 0 9)).isSome by decide +kernel)
  have hrefused : ∀ c ∈ runChecked (program Sample.host) (fun _ _ => True) ⟨Sample.db, []⟩
      (.spawn Sample.bookUnqueued :: Sample.steps 0 9), ∃ P ∈ c.procs,
        refusedBy P.prog = some "Connection is closed." ∧ (committed P).length = 3 ∧
        (∃ b ∈ c.db.bookings.rows, b.bookingStatus = .pendingPayment) ∧
        ∀ x ∈ queueReplies P.op.ctx P.hist, x.2 = false := by
    decide +kernel
  obtain ⟨P, hP, hthrown, hthree, hheld, hreplies⟩ := hrefused c hc
  refine ⟨c, P, hP, hc, hthrown, fun hall => ?_, hthree, hheld,
    fun now found => bookingJobs_refused hreplies⟩
  cases hprog : P.prog with
  | throw e => simp [hall.1 e hprog] at hthree
  | _ => simp [hprog, refusedBy] at hthrown

end ServiceHub
