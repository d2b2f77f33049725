/-
# `Jobs.Suppression` — what is sent for a booking that has ended

A booking is over when it is CANCELLED or EXPIRED.  What keeps its notifications
from being sent is divided:

    cancelBookingAsCustomer   removes the jobs of the reminders and the review
                              request, and the rows that wait
    refundPayment             removes nothing
    expireBooking             removes nothing
    process                   looks at the booking when the name of the job
                              begins with "reminder."

So the confirmation and, after a refund, the review request are sent like those
of any other booking (`silent_after_end`).  The worker reads the booking again,
so a status that is taken back counts: `EndsStand` excludes it.
-/
import ServiceHub.Absorbing
import ServiceHub.Jobs.Delivery

namespace ServiceHub.Jobs

open Data Txn Prog NotificationQueueService NotificationProcessor

/-! ## One start of the worker -/

/-- CANCELLED or EXPIRED. -/
def Ended (status : BookingStatus) : Prop := status = .cancelled ∨ status = .expired

instance : DecidablePred Ended := fun _ => inferInstanceAs (Decidable (_ ∨ _))

/-- There is a row that is not SENT yet, a recipient, and a provider that takes
the email. -/
def Deliverable (e : Attempt) (job : NotificationJob) (rows : Rows) : Prop :=
  (∃ rows' n, loadNotification e job rows = .ok (rows', n) ∧ n.status ≠ .sent) ∧
    (e.user.filter (·.email ≠ "")).isSome ∧ e.email.toOption.isSome

section
variable {e : Attempt} {job : NotificationJob} {attemptsMade : Nat} {s : World}

/-- **A start of the worker sends nothing** just when the booking is looked at
and has ended, or there is nothing to send. -/
theorem process_mails_iff :
    (process e job attemptsMade s).1.mails = s.mails ↔
      (deadBooking e job).isSome ∨ ¬ Deliverable e job s.rows := by
  cases hload : loadNotification e job s.rows with
  | error x =>
      have hnothing : ¬ Deliverable e job s.rows := by
        rintro ⟨⟨rows', n, hrow, _⟩, _⟩
        rw [hload] at hrow
        cases hrow
      refine iff_of_true ?_ (Or.inr hnothing)
      simp only [process, hload]
  | ok loaded =>
      obtain ⟨rows, n⟩ := loaded
      by_cases hsent : n.status = .sent
      · have hnothing : ¬ Deliverable e job s.rows := by
          rintro ⟨⟨rows', n', hrow, hunsent⟩, _⟩
          rw [hload] at hrow
          obtain ⟨rfl, rfl⟩ : rows = rows' ∧ n = n' := by simpa using hrow
          exact hunsent hsent
        refine iff_of_true ?_ (Or.inr hnothing)
        simp only [process, hload, if_pos hsent]
      · cases hdead : deadBooking e job with
        | some reason =>
            refine iff_of_true ?_ (Or.inl rfl)
            simp only [process, hload, if_neg hsent, hdead]
        | none =>
            cases huser : e.user.filter (·.email ≠ "") with
            | none =>
                have hnothing : ¬ Deliverable e job s.rows := by
                  rintro ⟨_, hsome, _⟩
                  rw [huser] at hsome
                  cases hsome
                refine iff_of_true ?_ (Or.inr hnothing)
                simp only [process, hload, if_neg hsent, hdead, huser]
            | some user =>
                cases hemail : e.email with
                | error message =>
                    have hnothing : ¬ Deliverable e job s.rows := by
                      rintro ⟨_, _, htaken⟩
                      rw [hemail] at htaken
                      cases htaken
                    refine iff_of_true ?_ (Or.inr hnothing)
                    simp only [process, hload, if_neg hsent, hdead, huser, hemail]
                | ok _ =>
                    have hall : Deliverable e job s.rows :=
                      ⟨⟨rows, n, hload, hsent⟩, by rw [huser]; rfl, by rw [hemail]; rfl⟩
                    refine iff_of_false (fun h => ?_) fun h => ?_
                    · simp only [process, hload, if_neg hsent, hdead, huser, hemail] at h
                      simp at h
                    · rcases h with hlooked | hnothing
                      · cases hlooked
                      · exact hnothing hall

/-- The worker looks at the booking for the two reminders. -/
theorem isReminder_iff {kind : Kind} (hname : job.name = kind.jobName) :
    isReminder job = true ↔ kind = .reminder24h ∨ kind = .reminder2h := by
  unfold isReminder
  rw [hname]
  cases kind <;> decide +kernel

theorem deadBooking_isSome_iff {id : Uuid} {b : Booking} (hjob : job.data.bookingId = some id)
    (hread : e.booking = some b) (hended : Ended b.bookingStatus) :
    (deadBooking e job).isSome ↔ isReminder job = true := by
  unfold deadBooking
  rw [hjob, hread]
  by_cases hreminder : isReminder job = true
  · rw [if_pos ⟨rfl, hreminder⟩]
    rcases hended with hstatus | hstatus
    · simp [hstatus, hreminder]
    · simp [hstatus, hreminder]
  · rw [if_neg fun h => hreminder h.2]
    simp [hreminder]

end

/-! ## Runs -/

/-- The committed row and a version of it: an end stays. -/
def EndStays : Row → Row → Prop
  | .booking b, .booking b' => Ended b.bookingStatus → Ended b'.bookingStatus
  | .booking _, _ => False
  | _, _ => True

/-- An update by id of a booking that has ended does not take that back. -/
def LeavesEnded (db : Db) (P : Caller) : Prop :=
  ∀ u ∈ nextUpdate P.prog, ∀ b ∈ db.bookings.find? u.1, Ended b.bookingStatus →
    ∀ status ∈ u.2.bookingStatus, Ended status

instance (db : Db) (P : Caller) : Decidable (LeavesEnded db P) :=
  inferInstanceAs (Decidable (∀ u ∈ nextUpdate P.prog, ∀ b ∈ db.bookings.find? u.1,
    Ended b.bookingStatus → ∀ status ∈ u.2.bookingStatus, Ended status))

def EndsStand (c : System) : Txn.Event Op Exn → Prop
  | .exec p => ∀ P ∈ c.procs[p]?, LeavesEnded c.db P
  | _ => True

instance (c : System) : ∀ e, Decidable (EndsStand c e)
  | .exec p => inferInstanceAs (Decidable (∀ P ∈ c.procs[p]?, LeavesEnded c.db P))
  | .spawn _ => .isTrue trivial
  | .fail _ _ => .isTrue trivial

theorem endStays_refl (r : Row) : EndStays r r := by
  cases r <;> simp [EndStays]

theorem endStays_trans (r r' r'' : Row) (h : EndStays r r') (h' : EndStays r' r'') :
    EndStays r r'' := by
  cases r with
  | booking b =>
      cases r' with
      | booking b' =>
          cases r'' with
          | booking b'' => exact fun hended => h' (h hended)
          | _ => exact h'.elim
      | _ => exact h.elim
  | _ => trivial

theorem Ended.terminal {status : BookingStatus} (h : Ended status) : status.terminal := by
  rcases h with rfl | rfl
  · decide
  · decide

section
variable {host : Host} {db : Db} {c c' : System} {e : Txn.Event Op Exn}

theorem writesIn_endStays (hrun : Run (program host) EndsStand ⟨db, []⟩ c)
    (hver : Versions EndStays c) (hok : EndsStand c e) : WritesIn EndStays c e := by
  intro p P s k a he hP hk hexec w hw r hr
  subst he
  have hmem : P ∈ c.procs := List.mem_of_getElem? hP
  have hasks := asks_of_run hrun P hmem
  rw [hk] at hasks
  cases s with
  | createBooking b =>
      -- a row that is inserted has no row under its id yet
      obtain ⟨hab, hnone, _⟩ := Db.insert_ok hexec
      rw [List.mem_singleton.mp hw, hab] at hr
      exact absurd (hr.symm.trans (get_of_view hnone)) (by simp)
  | updateBooking id data =>
      obtain ⟨y, hy, hay, _⟩ := Db.update_ok hexec
      obtain rfl := List.mem_singleton.mp hw
      rw [hay] at hr ⊢
      obtain ⟨b, hb, rfl⟩ := Option.map_eq_some_iff.mp hr
      have hid : y.id = id := Table.key_of_find? hy
      have hfind : c.db.bookings.find? id = some b := hid ▸ hb
      have hfound : (view c.db P).get (.booking y.id) = some (.booking y) :=
        Option.map_eq_some_iff.mpr ⟨y, by rw [hid]; exact hy, rfl⟩
      intro hended
      have hseen : Ended y.bookingStatus := hver.seen endStays_refl hmem hfound hr hended
      show Ended (data.bookingStatus.getD y.bookingStatus)
      cases hstatus : data.bookingStatus with
      | none => exact hseen
      | some status =>
          exact hok P hP (id, data) (by rw [hk]; rfl) b hfind hended status hstatus
  | updateBookings cond data =>
      obtain ⟨rfl, _⟩ := Db.updateAll_ok hexec
      obtain ⟨_, hx, rfl⟩ := List.mem_map.mp hw
      obtain ⟨y, hy, rfl⟩ := List.mem_map.mp hx
      obtain ⟨hrow, htest⟩ := List.mem_filter.mp hy
      obtain ⟨b, hb, rfl⟩ := Option.map_eq_some_iff.mp hr
      have hfound : (view c.db P).get (.booking y.id) = some (.booking y) :=
        Option.map_eq_some_iff.mpr ⟨y, Table.find?_of_mem hrow, rfl⟩
      intro hended
      -- the row is found by a status that is not terminal
      exfalso
      have hseen : Ended y.bookingStatus := hver.seen endStays_refl hmem hfound hr hended
      have hstatus : y.bookingStatus = cond.bookingStatus := by
        simp only [BookingWhere.test, Bool.and_eq_true, beq_iff_eq] at htest
        exact htest.1.2
      exact hasks.1 (hstatus ▸ hseen.terminal)
  | createPayment _ | updatePayment _ _ | createEvent _ | updateEvent _ _ | createAudit _ =>
      obtain rfl := List.mem_singleton.mp hw
      obtain ⟨_, _, rfl⟩ := Option.map_eq_some_iff.mp hr
      trivial
  | updatePayments _ _ =>
      obtain ⟨_, _, rfl⟩ := List.mem_map.mp hw
      obtain ⟨_, _, rfl⟩ := Option.map_eq_some_iff.mp hr
      trivial
  | _ => exact absurd hw List.not_mem_nil

/-- An end stays, in every run whose updates do not take one back. -/
theorem ended_stays {id : Uuid} {b : Booking} (hrun : Run (program host) EndsStand ⟨db, []⟩ c)
    (hrun' : Run (program host) EndsStand c c') (hb : c.db.bookings.find? id = some b)
    (hended : Ended b.bookingStatus) :
    ∃ b', c'.db.bookings.find? id = some b' ∧ Ended b'.bookingStatus := by
  have hget : Txn.Database.get c.db (Key.booking id) = some (Row.booking b) :=
    Option.map_eq_some_iff.mpr ⟨b, hb, rfl⟩
  obtain ⟨r, hr, hstays⟩ := Run.related endStays_refl endStays_trans rfl
    (fun _ _ => writesIn_endStays) hrun hrun' hget
  obtain ⟨b', hb', rfl⟩ := Option.map_eq_some_iff.mp hr
  exact ⟨b', hb', hstays hended⟩

end

/-- **After the end of a booking** a start of the worker sends nothing just when
the job is a reminder, or there is nothing to send. -/
theorem silent_after_end (host : Host) (db : Db) (c c' : System) (id : Uuid) (b : Booking)
    (kind : Kind) (job : NotificationJob) (e : Attempt) (attemptsMade : Nat) (s : World)
    (hrun : Run (program host) EndsStand ⟨db, []⟩ c) (hrun' : Run (program host) EndsStand c c')
    (hb : c.db.bookings.find? id = some b) (hended : Ended b.bookingStatus)
    (hname : job.name = kind.jobName) (hjob : job.data.bookingId = some id)
    (hread : e.booking = c'.db.bookings.find? id) :
    (process e job attemptsMade s).1.mails = s.mails ↔
      (kind = .reminder24h ∨ kind = .reminder2h) ∨ ¬ Deliverable e job s.rows := by
  obtain ⟨b', hb', hended'⟩ := ended_stays hrun hrun' hb hended
  rw [process_mails_iff, deadBooking_isSome_iff hjob (hread.trans hb') hended',
    isReminder_iff hname]

/-! ## After a refund -/

namespace Suppression

open ServiceHub.Sample (bookingId)

/-- The booking is paid, and then refunded. -/
def refunded : List (Txn.Event Op Exn) :=
  .spawn (ServiceHub.Sample.deliver 1 "payment.captured") :: ServiceHub.Sample.steps 0 15 ++
    .spawn (ServiceHub.Sample.refund 2) :: ServiceHub.Sample.steps 1 8

/-- The notifications were scheduled when it was paid. -/
def scheduled : World :=
  (scheduleBookingLifecycleNotifications (NotificationQueueService.Sample.call 1)
    NotificationQueueService.Sample.world).1

/-- An attempt afterwards; the email provider would take the email. -/
def attempt (c : System) : Attempt where
  now := 1772409600000
  create := .ok "20000000-0000-4000-8000-000000000000"
  booking := c.db.bookings.find? bookingId
  user := some (ServiceHub.Sample.user "customer" .user)
  email := .ok ()

end Suppression

open Suppression

/-- The reminder of the day before is not sent. -/
theorem silent_after_end_sample : ∃ c job,
    runChecked (program ServiceHub.Sample.host) EndsStand ⟨ServiceHub.Sample.booked, []⟩ refunded
      = some c ∧
    job ∈ scheduled.queue.rows ∧ job.name = "reminder.24h" ∧
    (process (attempt c) job 0 scheduled).1.mails = scheduled.mails := by
  obtain ⟨c, hc⟩ := Option.isSome_iff_exists.mp
    (show (runChecked (program ServiceHub.Sample.host) EndsStand ⟨ServiceHub.Sample.booked, []⟩
      refunded).isSome by decide +kernel)
  have hcancelled : ∀ c ∈ runChecked (program ServiceHub.Sample.host) EndsStand
      ⟨ServiceHub.Sample.booked, []⟩ refunded, ServiceHub.Sample.statusOf c = some .cancelled := by
    decide +kernel
  have hqueued : ∃ job ∈ scheduled.queue.rows, job.name = Kind.reminder24h.jobName ∧
      job.data.bookingId = some ServiceHub.Sample.bookingId := by
    decide +kernel
  obtain ⟨b, hb, hstatus⟩ := Option.map_eq_some_iff.mp (hcancelled c hc)
  obtain ⟨job, hjob, hname, hbooking⟩ := hqueued
  exact ⟨c, job, hc, hjob, hname, (silent_after_end _ _ c c _ b .reminder24h job (attempt c) 0
    scheduled (Run.of_runChecked _ _ hc) .start hb (Or.inl hstatus) hname hbooking rfl).mpr
      (Or.inl (Or.inl rfl))⟩

/-- After the refund has returned the review request is sent, and after a
cancellation the confirmation. -/
theorem not_silent_after_end : ∃ c,
    runEvents (program ServiceHub.Sample.host) ⟨ServiceHub.Sample.booked, []⟩ refunded = some c ∧
    (∀ P ∈ c.procs, P.prog.head.isNone) ∧ ServiceHub.Sample.statusOf c = some .cancelled ∧
    scheduled.mails = [] ∧
    (∃ job ∈ scheduled.queue.rows, job.name = Kind.reviewRequest.jobName ∧
      job.data.bookingId = some ServiceHub.Sample.bookingId ∧
      (process (attempt c) job 0 scheduled).1.mails.length = 1) ∧
    ∃ job ∈ (cancelBookingReminders ServiceHub.Sample.bookingId scheduled).queue.rows,
      job.name = Kind.confirmation.jobName ∧
      job.data.bookingId = some ServiceHub.Sample.bookingId ∧
      (process (attempt c) job 0
        (cancelBookingReminders ServiceHub.Sample.bookingId scheduled)).1.mails.length = 1 := by
  obtain ⟨c, hc⟩ := Option.isSome_iff_exists.mp
    (show (runEvents (program ServiceHub.Sample.host) ⟨ServiceHub.Sample.booked, []⟩
      refunded).isSome by decide +kernel)
  have hafter : ∀ c ∈ runEvents (program ServiceHub.Sample.host) ⟨ServiceHub.Sample.booked, []⟩
      refunded,
      (∀ P ∈ c.procs, P.prog.head.isNone) ∧ ServiceHub.Sample.statusOf c = some .cancelled ∧
      (∃ job ∈ scheduled.queue.rows, job.name = Kind.reviewRequest.jobName ∧
        job.data.bookingId = some ServiceHub.Sample.bookingId ∧
        (process (attempt c) job 0 scheduled).1.mails.length = 1) ∧
      ∃ job ∈ (cancelBookingReminders ServiceHub.Sample.bookingId scheduled).queue.rows,
        job.name = Kind.confirmation.jobName ∧
        job.data.bookingId = some ServiceHub.Sample.bookingId ∧
        (process (attempt c) job 0
          (cancelBookingReminders ServiceHub.Sample.bookingId scheduled)).1.mails.length = 1 := by
    decide +kernel
  obtain ⟨hreturned, hcancelled, hreview, hconfirmation⟩ := hafter c hc
  exact ⟨c, hc, hreturned, hcancelled, rfl, hreview, hconfirmation⟩

end ServiceHub.Jobs
