/-
# `Sequences` — the two ways to run the operations are one

`serialSteps` and `runAll` run the operations one after another, each to
completion; `Txn.next (program host)` interleaves their statements.  No
operation leaves a transaction open, however it is answered and whether it
returns or throws (`program_closed`).  So every sequence is one of the
interleavings, call by call with the same results and with the same database
after it (`serial_interleaved`): what is shown of all runs holds of sequences,
and a sequence that goes wrong is a run that does.
-/
import ServiceHub.Operations
import ServiceHub.Txn.Serial

namespace ServiceHub

open Data Txn Prog

section
variable {host : Host} {ctx : Ctx}

theorem closed_external {α : Type} {x : Ext} {reply : Except String α} {error : String → Exn} :
    Closed (external x reply error : Call α) := by
  refine (closed_call x).bind fun _ => ?_
  cases reply with
  | ok a => exact closed_pure a
  | error m => exact closed_throw _

theorem enqueue_closed {i : Nat} {x : Ext} : Closed (enqueue ctx i x) := closed_external

theorem afterConfirmation_closed {bookingId : Uuid} : Closed (afterConfirmation ctx bookingId) :=
  enqueue_closed.bind fun _ => enqueue_closed.bind fun _ => enqueue_closed

theorem createBooking_closed {customerId : Uuid} {dto : CreateBookingDto} :
    Closed (createBooking host ctx customerId dto) := by
  refine (closed_autocommit _).bind fun offering => ?_
  refine closed_orThrow.bind fun providerService => closed_orThrow.bind fun provider => ?_
  refine closed_throwIf.bind fun _ => closed_orThrow.bind fun startsAtDate => ?_
  refine closed_throwIf.bind fun _ => closed_throwIf.bind fun _ => ?_
  refine (closed_autocommit _).bind fun schedules => ?_
  split
  · exact closed_throw _
  · refine closed_external.bind fun gatewayOrder => Closed.catching ?_ fun e => ?_
    · refine closed_orThrow.bind fun service => (closed_transaction _).bind fun result => ?_
      exact enqueue_closed.bind fun _ => closed_pure _
    · exact closed_ite (fun _ => closed_throw _) fun _ => closed_throw _

theorem cancelBookingAsCustomer_closed {bookingId customerId : Uuid} {dto : CancelBookingDto} :
    Closed (cancelBookingAsCustomer ctx bookingId customerId dto) := by
  refine (closed_autocommit _).bind fun found => closed_orThrow.bind fun booking => ?_
  refine closed_throwIf.bind fun _ => closed_throwIf.bind fun _ => ?_
  refine (closed_transaction _).bind fun updatedBooking => enqueue_closed.bind fun _ => ?_
  exact enqueue_closed.bind fun _ => enqueue_closed.bind fun _ => closed_pure _

theorem completeBooking_closed {bookingId userId : Uuid} {role : Option Role} :
    Closed (completeBooking ctx bookingId userId role) := by
  refine (closed_autocommit _).bind fun found => closed_orThrow.bind fun booking => ?_
  refine (closed_autocommit _).bind fun provider => closed_throwIf.bind fun _ => ?_
  refine closed_throwIf.bind fun _ => (closed_transaction _).bind fun updatedBooking => ?_
  exact enqueue_closed.bind fun _ => closed_pure _

theorem createPaymentOrder_closed {customerId bookingId : Uuid} :
    Closed (createPaymentOrder ctx customerId bookingId) := by
  refine (closed_autocommit _).bind fun found => closed_orThrow.bind fun booking => ?_
  refine closed_throwIf.bind fun _ => closed_throwIf.bind fun _ => ?_
  refine (closed_autocommit _).bind fun existingPayment => ?_
  split
  · exact closed_pure _
  · exact closed_external.bind fun gatewayOrder => closed_autocommit _

theorem verifyClientPayment_closed {customerId : Uuid} {dto : VerifyPaymentDto} :
    Closed (verifyClientPayment host ctx customerId dto) := by
  refine (closed_autocommit _).bind fun found => closed_orThrow.bind fun payment => ?_
  refine closed_throwIf.bind fun _ => closed_throwIf.bind fun _ => ?_
  refine closed_ite (fun _ => closed_pure _) fun _ => ?_
  refine closed_throwIf.bind fun _ => closed_throwIf.bind fun _ => ?_
  exact (closed_transaction _).bind fun result =>
    afterConfirmation_closed.bind fun _ => closed_pure _

theorem handleWebhookEvent_closed {delivery : Delivery} :
    Closed (handleWebhookEvent host ctx delivery) := by
  unfold handleWebhookEvent
  split
  · exact closed_throw _
  · refine (closed_autocommit _).bind fun eventId => (closed_autocommit _).bind fun existing => ?_
    refine closed_ite (fun _ => closed_pure _) fun _ => ?_
    refine closed_ite (fun _ => closed_autocommit _) fun _ => ?_
    refine (closed_autocommit _).bind fun gatewayOrderId => (closed_autocommit _).bind fun found => ?_
    cases found with
    | none => exact closed_autocommit _
    | some payment =>
        refine Closed.catching ((closed_transaction _).bind fun confirmed => ?_) fun e => ?_
        · cases confirmed with
          | none => exact closed_pure _
          | some bookingId => exact afterConfirmation_closed.bind fun _ => closed_pure _
        · exact closed_ite (fun _ => closed_pure _) fun _ => closed_throw _

theorem refundPayment_closed {adminUserId paymentId : Uuid} {dto : RefundPaymentDto} :
    Closed (refundPayment host ctx adminUserId paymentId dto) := by
  refine (closed_autocommit _).bind fun found => closed_orThrow.bind fun payment => ?_
  refine closed_throwIf.bind fun _ => closed_throwIf.bind fun _ => ?_
  dsimp only
  split
  · exact closed_throw _
  · refine closed_orThrow.bind fun gatewayPaymentId => closed_external.bind fun result => ?_
    exact closed_transaction _

end

/-- **No operation leaves a transaction open.** -/
theorem program_closed {host : Host} (op : Op) : Closed (program host op) := by
  obtain ⟨ctx, request⟩ := op
  cases request with
  | createBooking customerId dto => exact createBooking_closed.map
  | cancelBookingAsCustomer bookingId customerId dto => exact cancelBookingAsCustomer_closed.map
  | expireBooking bookingId => exact (closed_transaction _).map
  | completeBooking bookingId userId role => exact completeBooking_closed.map
  | flagOverdueBooking bookingId => exact (closed_transaction _).map
  | createPaymentOrder customerId bookingId => exact createPaymentOrder_closed.map
  | verifyClientPayment customerId dto => exact verifyClientPayment_closed.map
  | handleWebhookEvent delivery => exact handleWebhookEvent_closed.map
  | refundPayment adminUserId paymentId dto => exact refundPayment_closed.map

theorem serialResults_eq {host : Host} : ∀ (ops : List Op) (db : Db),
    serialResults (program host) db ops = (serialSteps host db ops).map (·.result) := by
  intro ops
  induction ops with
  | nil => exact fun _ => rfl
  | cons op ops ih => exact fun db => congrArg (_ :: ·) (ih _)

/-- **A sequence of operations is one of the interleavings**, with the same
results and the same database after it. -/
theorem serial_interleaved (host : Host) (db : Db) (ops : List Op) : ∃ c : System,
    Run (program host) (fun _ _ => True) ⟨db, []⟩ c ∧ c.procs.map Proc.op = ops ∧
    List.Forall₂ Ended c.procs ((serialSteps host db ops).map (·.result)) ∧
    c.db = runAll host db ops := by
  have hstart : Run (program host) (fun _ _ => True) (⟨db, []⟩ : System) ⟨db, []⟩ := .start
  obtain ⟨c, Ps, hrun, hprocs, hops, hended, hdb⟩ := Run.serial_all program_closed rfl ops _ hstart
    (fun P hP => absurd hP List.not_mem_nil)
  obtain rfl : c.procs = Ps := hprocs.trans (List.nil_append _)
  exact ⟨c, hrun, hops, serialResults_eq ops db ▸ hended, hdb⟩

end ServiceHub
