/-
# `Jobs.Service` — the queues and the worker of notifications

`notification.queue.ts`, `booking.queue.ts` and `notification.processor.ts`.
Each function is a function of the state that it works on: the rows of
notifications, the jobs of a queue, and the emails sent.

**Queues.**  A queue has one job under an id, and `add` leaves the one that is
there.  No call to a queue fails here; that a service may find the queue out of
reach is part of the calls to it (`Ext`).

**Attempts.**  `Attempt` is what one attempt of a job is answered from outside:
what it reads of bookings and users, the reply to the INSERT of a tracking row,
and that of the email provider.

Log messages and request ids are left out.
-/
import ServiceHub.Booking.Service

namespace ServiceHub.Jobs

open Data

/-! ## Queues -/

/-- A job with the payload `α`, which may start after `delay` milliseconds. -/
structure Job (α : Type) where
  id : String
  name : String
  data : α
  delay : Int
  timestamp : Time
  /-- `DEFAULT_RETRY_POLICY.attempts`. -/
  attempts : Nat := 3

/-- The jobs of a queue, by their ids. -/
abbrev Queue (α : Type) : Type := Table (Job α) String Job.id

namespace Queue
variable {α : Type}

/-- A job under an id that is there is not added. -/
def add (q : Queue α) (job : Job α) : Queue α :=
  if (q.find? job.id).isSome then q else q.put job

def remove (q : Queue α) (id : String) : Queue α := q.filter fun job => decide (job.id ≠ id)

theorem find?_add (q : Queue α) (job : Job α) (id : String) :
    (q.add job).find? id = (q.find? id).or (if job.id = id then some job else none) := by
  unfold add
  split
  · rename_i hthere
    split
    · rename_i hid
      obtain ⟨old, hold⟩ := Option.isSome_iff_exists.mp hthere
      rw [← hid, hold]
      rfl
    · rw [Option.or_none]
  · rename_i hnew
    rw [Table.find?_put]
    split
    · rename_i hid
      rw [← hid, Option.not_isSome_iff_eq_none.mp hnew]
      rfl
    · rw [Option.or_none]

/-- A job that is there stays. -/
theorem find?_foldl_add_of_some {job : Job α} {id : String} : ∀ {jobs : List (Job α)}
    {q : Queue α}, q.find? id = some job → (jobs.foldl add q).find? id = some job
  | [], _, h => h
  | first :: jobs, q, h => by
      have hfirst : (q.add first).find? id = some job := by
        rw [find?_add, h]
        rfl
      show (jobs.foldl add (q.add first)).find? id = some job
      exact find?_foldl_add_of_some hfirst

/-- Jobs with ids of their own are all added. -/
theorem find?_foldl_add : ∀ {jobs : List (Job α)} {q : Queue α}, (jobs.map Job.id).Nodup →
    (∀ job ∈ jobs, q.find? job.id = none) → ∀ job ∈ jobs,
      (jobs.foldl add q).find? job.id = some job
  | first :: jobs, q, hids, hnew, job, hjob => by
      obtain ⟨hfirst, hrest⟩ := List.nodup_cons.mp hids
      rcases List.mem_cons.mp hjob with rfl | hjob
      · have hadded : (q.add job).find? job.id = some job := by
          rw [find?_add, hnew job List.mem_cons_self, if_pos rfl]
          rfl
        show (jobs.foldl add (q.add job)).find? job.id = some job
        exact find?_foldl_add_of_some hadded
      · show (jobs.foldl add (q.add first)).find? job.id = some job
        refine find?_foldl_add hrest (fun j hj => ?_) job hjob
        have hother : first.id ≠ j.id := fun h => hfirst (h ▸ List.mem_map_of_mem hj)
        rw [find?_add, hnew j (List.mem_cons_of_mem _ hj), if_neg hother]
        rfl

theorem find?_remove (q : Queue α) (id id' : String) :
    (q.remove id).find? id' = if id' = id then none else q.find? id' := by
  rw [remove, Table.find?_filtered]
  cases hfound : q.find? id' with
  | none => simp
  | some job =>
      have hid : job.id = id' := Table.key_of_find? hfound
      simp [Option.filter_some, hid]

end Queue

/-! ## When an appointment starts and ends -/

/-- A UTC date at a time of day, to the second. -/
def atTimeOfDay (date timeOfDay : Int) : Time :=
  let time : Time := timeOfDay * 1000
  Time.setUTCHours (date * Time.msPerDay) time.getUTCHours time.getUTCMinutes time.getUTCSeconds 0

/-! ## `BookingQueueService` -/

namespace BookingQueueService

structure Payload where
  bookingId : Uuid
  expectedPaymentExpiresAt : Option String

def expireJobId (bookingId : Uuid) : String := s!"expire-payment_{bookingId}"

def overdueJobId (bookingId : Uuid) : String := s!"overdue-check_{bookingId}"

def schedulePaymentExpiration (now : Time) (bookingId : Uuid) (delayMs : Int)
    (q : Queue Payload) : Queue Payload :=
  q.add
    { id := expireJobId bookingId
      name := "booking.expire-payment"
      data := ⟨bookingId, some (toISOString (now + delayMs))⟩
      delay := delayMs
      timestamp := now }

def cancelPaymentExpiration (bookingId : Uuid) (q : Queue Payload) : Queue Payload :=
  q.remove (expireJobId bookingId)

def scheduleOverdueCheck (now : Time) (bookingId : Uuid) (delayMs : Int) (q : Queue Payload) :
    Queue Payload :=
  q.add
    { id := overdueJobId bookingId
      name := "booking.process-no-show"
      data := ⟨bookingId, none⟩
      delay := delayMs
      timestamp := now }

def appointmentEnd (booking : Booking) : Time := atTimeOfDay booking.bookingDate booking.endTime

/-- `found` is the booking that is read; the period of grace is two hours. -/
def scheduleBookingOverdueCheck (now : Time) (bookingId : Uuid) (found : Option Booking)
    (q : Queue Payload) : Queue Payload :=
  match found with
  | none => q
  | some booking =>
      let delayOverdue := appointmentEnd booking + 2 * 60 * 60 * 1000 - now
      if delayOverdue > 0 then scheduleOverdueCheck now bookingId delayOverdue q else q

def cancelOverdueCheck (bookingId : Uuid) (q : Queue Payload) : Queue Payload :=
  q.remove (overdueJobId bookingId)

end BookingQueueService

/-! ## Notifications -/

structure Notification where
  id : Uuid
  userId : Uuid
  bookingId : Option Uuid
  type : NotificationType
  channel : NotificationChannel
  status : NotificationStatus
  title : String
  body : String
  scheduledFor : Time
  sentAt : Option Time
  failedAt : Option Time
  failureReason : Option String
  attemptCount : Nat
  deriving DecidableEq

structure SendNotificationJobPayload where
  notificationId : Option Uuid
  userId : Uuid
  bookingId : Option Uuid
  type : NotificationType
  channel : NotificationChannel
  title : String
  body : String
  scheduledFor : Option Time

abbrev NotificationJob : Type := Job SendNotificationJobPayload

structure Mail where
  recipient : String
  subject : String
  text : String
  deriving DecidableEq

abbrev Rows : Type := Table Notification Uuid Notification.id

/-- The rows of notifications, the jobs that are to send them, and the emails
sent. -/
structure World where
  rows : Rows
  queue : Queue SendNotificationJobPayload
  mails : List Mail

/-- An INSERT under an id that is there is refused. -/
def createNotification (row : Notification) (rows : Rows) : Except Exn Rows :=
  if (rows.find? row.id).isSome then
    .error (.knownRequest "P2002" "Unique constraint failed on the fields: (id)")
  else .ok (rows.put row)

/-! ## `NotificationQueueService` -/

namespace NotificationQueueService

/-- The row that `sendNotification` inserts. -/
def newNotification (uuid : Uuid) (now : Time) (data : SendNotificationJobPayload)
    (delayMs : Int) : Notification where
  id := uuid
  userId := data.userId
  bookingId := data.bookingId
  type := data.type
  channel := data.channel
  status := .pending
  title := data.title
  body := data.body
  scheduledFor := data.scheduledFor.getD (now + delayMs)
  sentAt := none
  failedAt := none
  failureReason := none
  attemptCount := 0

/-- The row is inserted first, and then the job is added.  `generated` is the id
that the queue gives to a job without one. -/
def sendNotification (uuid : Uuid) (now : Time) (generated jobName : String)
    (data : SendNotificationJobPayload) (delayMs : Int) (jobId : Option String) (s : World) :
    World × Except Exn Unit :=
  let enqueue (notificationId : Uuid) (s : World) : World × Except Exn Unit :=
    ({ s with
        queue := s.queue.add
          { id := jobId.getD generated
            name := jobName
            data := { data with notificationId := some notificationId }
            delay := delayMs
            timestamp := now } }, .ok ())
  match data.notificationId.filter (· ≠ "") with
  | some notificationId => enqueue notificationId s
  | none =>
      match createNotification (newNotification uuid now data delayMs) s.rows with
      | .error e => (s, .error e)
      | .ok rows => enqueue uuid { s with rows := rows }

/-- A notification without a row gets one, and its job names the row. -/
theorem sendNotification_new {uuid : Uuid} {now : Time} {generated jobName : String}
    {data : SendNotificationJobPayload} {delayMs : Int} {jobId : Option String} {s : World}
    (hnone : data.notificationId = none) (hnew : s.rows.find? uuid = none) :
    sendNotification uuid now generated jobName data delayMs jobId s =
      ({ s with
          rows := s.rows.put (newNotification uuid now data delayMs)
          queue := s.queue.add
            { id := jobId.getD generated
              name := jobName
              data := { data with notificationId := some uuid }
              delay := delayMs
              timestamp := now } }, .ok ()) := by
  have hcreate : createNotification (newNotification uuid now data delayMs) s.rows =
      .ok (s.rows.put (newNotification uuid now data delayMs)) := by
    unfold createNotification
    rw [if_neg (by simp [newNotification, hnew])]
  simp only [sendNotification, hnone, Option.filter_none, hcreate]

/-- What one call is given: the booking that it reads, one reading of the clock,
and the ids that it generates; and the texts of dates, in the local time zone. -/
structure Call where
  found : Option Booking
  now : Time
  uuid : Nat → Uuid
  toDateString : Time → String
  toTimeString : Time → String

def appointmentStart (booking : Booking) : Time :=
  atTimeOfDay booking.bookingDate booking.startTime

def appointmentEnd (booking : Booking) : Time := atTimeOfDay booking.bookingDate booking.endTime

/-- The notifications of a booking. -/
inductive Kind where
  | confirmation | reminder24h | reminder2h | reviewRequest
  deriving DecidableEq

namespace Kind

/-- `NOTIFICATION_JOBS`. -/
def jobName : Kind → String
  | confirmation => "booking.confirmation"
  | reminder24h => "reminder.24h"
  | reminder2h => "reminder.2h"
  | reviewRequest => "review.request"

def jobId (bookingId : Uuid) : Kind → String
  | confirmation => s!"booking-confirm_{bookingId}"
  | reminder24h => s!"reminder-24h_{bookingId}"
  | reminder2h => s!"reminder-2h_{bookingId}"
  | reviewRequest => s!"review-request_{bookingId}"

def type : Kind → NotificationType
  | confirmation => .bookingConfirmed
  | reminder24h => .reminder
  | reminder2h => .reminder
  | reviewRequest => .reviewRequest

def channel : Kind → NotificationChannel
  | reminder2h => .push
  | _ => .email

def title : Kind → String
  | confirmation => "Booking Confirmed! 🎉"
  | reminder24h => "Reminder: Service Tomorrow ⏰"
  | reminder2h => "Reminder: Provider Arriving in 2 Hours 🚀"
  | reviewRequest => "How was your service? ⭐"

def body (c : Call) (booking : Booking) : Kind → String
  | confirmation =>
      let date := c.toDateString (appointmentStart booking)
      s!"Your booking for \"{booking.serviceName}\" with {booking.providerBusinessName} on {date} is confirmed."
  | reminder24h =>
      let time := String.ofList ((c.toTimeString (appointmentStart booking)).toList.take 5)
      s!"Reminder: Your service \"{booking.serviceName}\" is scheduled for tomorrow at {time} UTC."
  | reminder2h =>
      s!"Your provider {booking.providerBusinessName} will arrive in 2 hours for \"{booking.serviceName}\"."
  | reviewRequest =>
      s!"Please rate your experience with {booking.providerBusinessName} for \"{booking.serviceName}\"."

/-- When the notification is to be sent. -/
def scheduledFor (c : Call) (booking : Booking) : Kind → Time
  | confirmation => c.now
  | reminder24h => appointmentStart booking - 24 * 60 * 60 * 1000
  | reminder2h => appointmentStart booking - 2 * 60 * 60 * 1000
  | reviewRequest => appointmentEnd booking + 1 * 60 * 60 * 1000

/-- The confirmation is sent at once, what would be late is left out. -/
def due (c : Call) (booking : Booking) : Kind → Bool
  | confirmation => true
  | kind => decide (kind.scheduledFor c booking - c.now > 0)

def payload (c : Call) (booking : Booking) (kind : Kind) : SendNotificationJobPayload where
  notificationId := none
  userId := booking.customerId
  bookingId := some booking.id
  type := kind.type
  channel := kind.channel
  title := kind.title
  body := kind.body c booking
  scheduledFor := some (kind.scheduledFor c booking)

end Kind

/-- The `sendNotification` of a kind, under the `i`-th id. -/
def sendKind (c : Call) (booking : Booking) (i : Nat) (kind : Kind) (s : World) :
    World × Except Exn Unit :=
  sendNotification (c.uuid i) c.now "" kind.jobName (kind.payload c booking)
    (kind.scheduledFor c booking - c.now) (some (kind.jobId booking.id)) s

/-- Send what is due of the kinds, one after another. -/
def sendKinds (c : Call) (booking : Booking) : Nat → List Kind → World → World × Except Exn Unit
  | _, [], s => (s, .ok ())
  | i, kind :: kinds, s =>
      if kind.due c booking then
        match sendKind c booking i kind s with
        | (s', .ok _) => sendKinds c booking (i + 1) kinds s'
        | (s', .error e) => (s', .error e)
      else sendKinds c booking (i + 1) kinds s

def scheduleBookingLifecycleNotifications (c : Call) (s : World) : World × Except Exn Unit :=
  match c.found with
  | none => (s, .ok ())
  | some booking =>
      sendKinds c booking 0 [.confirmation, .reminder24h, .reminder2h, .reviewRequest] s

/-- The jobs that a cancellation removes; the confirmation is not among them. -/
def cancelledJobIds (bookingId : Uuid) : List String :=
  [Kind.reminder24h, Kind.reminder2h, Kind.reviewRequest].map (Kind.jobId bookingId)

def cancelBookingReminders (bookingId : Uuid) (s : World) : World where
  queue := (cancelledJobIds bookingId).foldl Queue.remove s.queue
  rows := s.rows.filter fun n => !(n.bookingId == some bookingId && n.status == .pending)
  mails := s.mails

end NotificationQueueService

/-! ## `NotificationProcessor` -/

namespace NotificationProcessor

/-- What one attempt is answered from outside. -/
structure Attempt where
  now : Time
  /-- the id of a tracking row, or the error of its INSERT -/
  create : Except Exn Uuid
  booking : Option Booking
  user : Option User
  email : Except String Unit

inductive ProcessResult where
  | alreadyProcessed
  | suppressed (reason : String)
  | delivered (notificationId : Uuid) (sentAt : Time)

/-- The row that is created where there is none. -/
def trackingRow (uuid : Uuid) (job : NotificationJob) : Notification where
  id := uuid
  userId := job.data.userId
  bookingId := job.data.bookingId
  type := job.data.type
  channel := job.data.channel
  status := .pending
  title := job.data.title
  body := job.data.body
  scheduledFor := job.timestamp
  sentAt := none
  failedAt := none
  failureReason := none
  attemptCount := 0

/-- A notification of the booking that is waiting, of the type of the job. -/
def findPending (job : NotificationJob) (rows : Rows) : Option Notification :=
  job.data.bookingId.bind fun bookingId => rows.rows.find? fun n =>
    n.bookingId == some bookingId && n.type == job.data.type && n.status == .pending

/-- The row under the id of the job, else one that is waiting, else a new one. -/
def loadNotification (e : Attempt) (job : NotificationJob) (rows : Rows) :
    Except Exn (Rows × Notification) :=
  match (job.data.notificationId.bind rows.find?).or (findPending job rows) with
  | some notification => .ok (rows, notification)
  | none => do
      let uuid ← e.create
      let rows ← createNotification (trackingRow uuid job) rows
      .ok (rows, trackingRow uuid job)

/-- `job.name.startsWith("reminder.")`. -/
def isReminder (job : NotificationJob) : Bool := "reminder.".toList.isPrefixOf job.name.toList

/-- The reason not to send a reminder. -/
def deadBooking (e : Attempt) (job : NotificationJob) : Option String :=
  if job.data.bookingId.isSome ∧ isReminder job = true then
    match e.booking.map Booking.bookingStatus with
    | some .cancelled => some "booking_cancelled"
    | some .expired => some "booking_expired"
    | _ => none
  else none

def sentRow (e : Attempt) (attemptsMade : Nat) (n : Notification) : Notification :=
  { n with
    status := .sent
    sentAt := some e.now
    attemptCount := attemptsMade + 1
    failureReason := none }

def failedAttempt (attemptsMade : Nat) (message : String) (n : Notification) : Notification :=
  { n with attemptCount := attemptsMade + 1, failureReason := some message }

def process (e : Attempt) (job : NotificationJob) (attemptsMade : Nat) (s : World) :
    World × Except Exn ProcessResult :=
  match loadNotification e job s.rows with
  | .error x => (s, .error x)
  | .ok (rows, notification) =>
      if notification.status = .sent then ({ s with rows := rows }, .ok .alreadyProcessed)
      else
        match deadBooking e job with
        | some reason =>
            ({ s with rows := rows.filter fun n => decide (n.id ≠ notification.id) },
              .ok (.suppressed reason))
        | none =>
            match e.user.filter (·.email ≠ "") with
            | none =>
                ({ s with rows := rows }, .error (.failure
                  s!"User [{job.data.userId}] does not exist or has no email address"))
            | some user =>
                match e.email with
                | .ok _ =>
                    ({ s with
                        rows := rows.put (sentRow e attemptsMade notification)
                        mails := s.mails ++ [⟨user.email, job.data.title, job.data.body⟩] },
                      .ok (.delivered notification.id e.now))
                | .error message =>
                    ({ s with rows := rows.put (failedAttempt attemptsMade message notification) },
                      .error (.failure message))

/-- The row of a job that has failed for good. -/
def failedRow (now : Time) (attemptsMade : Nat) (message : String) (n : Notification) :
    Notification :=
  { n with
    status := .failed
    failedAt := some now
    failureReason := some message
    attemptCount := attemptsMade }

/-- The row under the id of the job is marked, once there are no attempts left. -/
def onFailed (now : Time) (job : NotificationJob) (attemptsMade : Nat) (message : String)
    (s : World) : World :=
  let maxAttempts := if job.attempts = 0 then 3 else job.attempts
  if attemptsMade ≥ maxAttempts then
    match job.data.notificationId.bind s.rows.find? with
    | some n => { s with rows := s.rows.put (failedRow now attemptsMade message n) }
    | none => s
  else s

end NotificationProcessor

end ServiceHub.Jobs
