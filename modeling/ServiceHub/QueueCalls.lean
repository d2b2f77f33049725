/-
# `QueueCalls` — the calls to the queues in the history of a call

A call to a queue is part of the history when it is made; whether the queue
took it is in the replies of the outside.  `queueReplies` puts the two together,
`bookingJobs` is what the calls that were taken do to the queue of booking jobs.
-/
import ServiceHub.Jobs.Service
import ServiceHub.Writes

namespace ServiceHub

open Data Txn Prog Jobs

/-- A call to one of the two queue services. -/
def Ext.toQueue : Ext → Bool
  | .createOrder _ | .createRefund _ => false
  | _ => true

/-- The calls to the queues, the latest first, and whether each was answered
without error. -/
def queueReplies (ctx : Ctx) : CallHist → List (Ext × Bool)
  | [] => []
  | ⟨.call x, r⟩ :: h =>
      if x.toQueue then
        (x, r.isOk && (ctx.queue (queueReplies ctx h).length).isOk) :: queueReplies ctx h
      else queueReplies ctx h
  | _ :: h => queueReplies ctx h

/-- The queues took what the call put to them. -/
def QueuesTook (P : Caller) : Prop := ∀ x ∈ queueReplies P.op.ctx P.hist, x.2 = true

theorem queueReplies_of_ne_call {ctx : Ctx} {h : CallHist} {i : Instr Stmt Ext}
    {r : Except Exn (i.Ans Ans)} (hi : ∀ x, i ≠ .call x) :
    queueReplies ctx (⟨i, r⟩ :: h) = queueReplies ctx h := by
  cases i with
  | call x => exact absurd rfl (hi x)
  | _ => rfl

/-- What a call does to the queue of booking jobs; `found` is what it reads of
bookings. -/
def Ext.onBookingQueue (now : Time) (found : Uuid → Option Booking) :
    Ext → Queue BookingQueueService.Payload → Queue BookingQueueService.Payload
  | .schedulePaymentExpiration id delayMs =>
      BookingQueueService.schedulePaymentExpiration now id delayMs
  | .cancelPaymentExpiration id => BookingQueueService.cancelPaymentExpiration id
  | .scheduleBookingOverdueCheck id =>
      BookingQueueService.scheduleBookingOverdueCheck now id (found id)
  | .cancelOverdueCheck id => BookingQueueService.cancelOverdueCheck id
  | _ => id

/-- The queue of booking jobs after the calls that it took. -/
def bookingJobs (now : Time) (found : Uuid → Option Booking) (replies : List (Ext × Bool))
    (q : Queue BookingQueueService.Payload) : Queue BookingQueueService.Payload :=
  replies.foldr (fun x q => if x.2 then x.1.onBookingQueue now found q else q) q

/-- What is refused leaves the queue as it is. -/
theorem bookingJobs_refused {now : Time} {found : Uuid → Option Booking}
    {q : Queue BookingQueueService.Payload} : ∀ {replies : List (Ext × Bool)},
    (∀ x ∈ replies, x.2 = false) → bookingJobs now found replies q = q
  | [], _ => rfl
  | x :: replies, h => by
      have hhead : x.2 = false := h x List.mem_cons_self
      have hrest : bookingJobs now found replies q = q :=
        bookingJobs_refused fun y hy => h y (List.mem_cons_of_mem _ hy)
      simp only [bookingJobs, List.foldr_cons, hhead, Bool.false_eq_true, if_false]
      exact hrest

/-- One call to a queue, and nothing else. -/
theorem enqueue_replies {ctx : Ctx} {h : CallHist} {i : Nat} {x : Ext} (hqueue : x.toQueue)
    (hmade : (queueReplies ctx h).length = i) :
    Obeys (fun _ _ => True) (fun h' (r : Except Exn Unit) =>
      queueReplies ctx h' = (x, r.isOk) :: queueReplies ctx h ∧ kept h' = kept h) h
      (enqueue ctx i x) := by
  rw [enqueue, obeys_external]
  refine ⟨trivial, fun _ hok => ?_, fun m herror => ?_, fun e => ?_⟩
  · simp [queueReplies, kept, hqueue, hmade, hok, Except.isOk, Except.toBool]
  · simp [queueReplies, kept, hqueue, hmade, herror, Except.isOk, Except.toBool]
  · simp [queueReplies, kept, hqueue, Except.isOk, Except.toBool]

/-! ## The jobs of a booking -/

namespace Jobs.BookingQueueService

theorem expireJobId_ne_overdueJobId (id id' : Uuid) : expireJobId id ≠ overdueJobId id' := by
  intro h
  have hhead : (expireJobId id).toList.head? = (overdueJobId id').toList.head? := by rw [h]
  simp only [expireJobId, overdueJobId, String.toList_append] at hhead
  cases hhead

/-- A scheduled expiry is a job in the queue. -/
theorem find?_schedulePaymentExpiration {now : Time} {id : Uuid} {delayMs : Int}
    {q : Queue Payload} :
    ((schedulePaymentExpiration now id delayMs q).find? (expireJobId id)).isSome := by
  unfold schedulePaymentExpiration
  rw [Queue.find?_add, if_pos rfl]
  cases q.find? (expireJobId id) with
  | none => rfl
  | some job => rfl

/-- The check of a booking that has yet to end is a job in the queue. -/
theorem find?_scheduleBookingOverdueCheck {now : Time} {id : Uuid} {booking : Booking}
    {q : Queue Payload} (hahead : appointmentEnd booking + 2 * 60 * 60 * 1000 - now > 0) :
    ((scheduleBookingOverdueCheck now id (some booking) q).find? (overdueJobId id)).isSome := by
  simp only [scheduleBookingOverdueCheck, hahead, if_true, scheduleOverdueCheck]
  rw [Queue.find?_add, if_pos rfl]
  cases q.find? (overdueJobId id) with
  | none => rfl
  | some job => rfl

theorem find?_expireJobId_scheduleBookingOverdueCheck {now : Time} {id id' : Uuid}
    {found : Option Booking} {q : Queue Payload} :
    (scheduleBookingOverdueCheck now id found q).find? (expireJobId id') =
      q.find? (expireJobId id') := by
  unfold scheduleBookingOverdueCheck
  cases found with
  | none => rfl
  | some booking =>
      simp only
      split
      · rw [scheduleOverdueCheck, Queue.find?_add,
          if_neg (expireJobId_ne_overdueJobId id' id).symm, Option.or_none]
      · rfl

end Jobs.BookingQueueService

end ServiceHub
