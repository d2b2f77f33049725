/-
# `Jobs.Scheduling` — scheduling the notifications of a booking again

`sendNotification` inserts the row first and adds the job after it.  The queue
leaves the job that has the id already, with the row that it names; nothing does
so for the row.

    the first call      one row and one job for each kind that is due (`InStep`)
    each further one    one more row for each kind that is due, and no job for it

A confirmation is due at every call, so rows and jobs are in step just when at
most one call has found the booking (`scheduled_once`).
-/
import ServiceHub.Jobs.Service
import ServiceHub.Interleaving

namespace ServiceHub.Jobs.NotificationQueueService

open Data

/-! ## Kinds -/

/-- The row is of the kind. -/
def Kind.IsRow (kind : Kind) (n : Notification) : Prop :=
  n.type = kind.type ∧ n.channel = kind.channel ∧ n.title = kind.title

instance (kind : Kind) (n : Notification) : Decidable (kind.IsRow n) :=
  inferInstanceAs (Decidable (_ ∧ _ ∧ _))

theorem Kind.title_injective : Function.Injective Kind.title := by
  intro kind kind' h
  cases kind <;> cases kind' <;> first
    | rfl
    | exact absurd h (by decide)

/-- A row is of one kind. -/
theorem Kind.IsRow.unique {kind kind' : Kind} {n : Notification} (h : kind.IsRow n)
    (h' : kind'.IsRow n) : kind = kind' :=
  Kind.title_injective (h.2.2.symm.trans h'.2.2)

/-- The ids of the jobs of a booking are apart: they differ in length. -/
theorem Kind.jobId_injective (bookingId : Uuid) : Function.Injective (Kind.jobId bookingId) := by
  intro kind kind' h
  have hlength := congrArg String.length h
  cases kind <;> cases kind' <;>
    simp only [Kind.jobId, String.length_append, Nat.add_right_cancel_iff] at hlength <;> first
      | rfl
      | exact absurd hlength (by decide)

/-! ## What one call sends -/

section
variable (c : Call) (booking : Booking)

/-- The kinds that are due, each with the id of its row. -/
def sent : Nat → List Kind → List (Kind × Uuid)
  | _, [] => []
  | i, kind :: kinds =>
      if kind.due c booking then (kind, c.uuid i) :: sent (i + 1) kinds else sent (i + 1) kinds

def rowOf (x : Kind × Uuid) : Notification :=
  newNotification x.2 c.now (x.1.payload c booking) (x.1.scheduledFor c booking - c.now)

def jobOf (x : Kind × Uuid) : NotificationJob where
  id := x.1.jobId booking.id
  name := x.1.jobName
  data := { x.1.payload c booking with notificationId := some x.2 }
  delay := x.1.scheduledFor c booking - c.now
  timestamp := c.now

end

section
variable {c : Call} {booking : Booking} {s : World}

theorem sent_sublist (c : Call) (booking : Booking) : ∀ (i : Nat) (kinds : List Kind),
    ((sent c booking i kinds).map (·.1)).Sublist kinds
  | _, [] => .slnil
  | i, kind :: kinds => by
      unfold sent
      split
      · exact (sent_sublist c booking (i + 1) kinds).cons_cons kind
      · exact (sent_sublist c booking (i + 1) kinds).cons kind

/-- The ids that a call generates are new, and apart. -/
structure NewIds (c : Call) (rows : Rows) : Prop where
  unused : ∀ i < 4, rows.find? (c.uuid i) = none
  apart : ∀ i < 4, ∀ j < 4, c.uuid i = c.uuid j → i = j

/-- One kind: its row is inserted and its job is added. -/
theorem sendKind_eq {i : Nat} {kind : Kind} (hnew : s.rows.find? (c.uuid i) = none) :
    sendKind c booking i kind s =
      (⟨s.rows.put (rowOf c booking (kind, c.uuid i)),
        s.queue.add (jobOf c booking (kind, c.uuid i)), s.mails⟩, .ok ()) := by
  unfold sendKind
  rw [sendNotification_new rfl hnew]
  rfl

/-- **What a call leaves**: a row and a job for each kind that is due. -/
theorem sendKinds_eq : ∀ {i : Nat} {kinds : List Kind} {s : World},
    i + kinds.length ≤ 4 → (∀ j, i ≤ j → j < 4 → s.rows.find? (c.uuid j) = none) →
    (∀ i < 4, ∀ j < 4, c.uuid i = c.uuid j → i = j) →
    (sendKinds c booking i kinds s).1.rows.rows =
      s.rows.rows ++ (sent c booking i kinds).map (rowOf c booking) ∧
    (sendKinds c booking i kinds s).1.queue =
      ((sent c booking i kinds).map (jobOf c booking)).foldl Queue.add s.queue
  | _, [], s, _, _, _ => ⟨(List.append_nil _).symm, rfl⟩
  | i, kind :: kinds, s, hfew, hnew, hinj => by
      rw [List.length_cons] at hfew
      unfold sendKinds sent
      split
      · have hrow : s.rows.find? (rowOf c booking (kind, c.uuid i)).id = none :=
          hnew i (Nat.le_refl i) (by omega)
        rw [sendKind_eq hrow]
        let s' : World := ⟨s.rows.put (rowOf c booking (kind, c.uuid i)),
          s.queue.add (jobOf c booking (kind, c.uuid i)), s.mails⟩
        have hnext : ∀ j, i + 1 ≤ j → j < 4 → s'.rows.find? (c.uuid j) = none := by
          intro j hj hfour
          have hother : c.uuid i ≠ c.uuid j := by
            intro hsame
            have hij : i = j := hinj i (by omega) j hfour hsame
            omega
          exact (Table.find?_put s.rows _ _).trans
            ((if_neg hother).trans (hnew j (by omega) hfour))
        have hfew : i + 1 + kinds.length ≤ 4 := by omega
        obtain ⟨hrows, hqueue⟩ := sendKinds_eq hfew hnext hinj
        refine ⟨?_, hqueue⟩
        refine hrows.trans ?_
        rw [Table.rows_put_of_new hrow, List.append_assoc]
        rfl
      · exact sendKinds_eq (by omega) (fun j hj => hnew j (by omega)) hinj

end

/-! ## Any number of calls -/

/-- The kinds, in the order in which they are sent. -/
def kinds : List Kind := [.confirmation, .reminder24h, .reminder2h, .reviewRequest]

def runCalls : List Call → World → World
  | [], s => s
  | c :: calls, s => runCalls calls (scheduleBookingLifecycleNotifications c s).1

/-- Every call generates new ids. -/
def AllNew : List Call → World → Prop
  | [], _ => True
  | c :: calls, s =>
      NewIds c s.rows ∧ AllNew calls (scheduleBookingLifecycleNotifications c s).1

/-- The rows of the booking that are PENDING. -/
def waiting (bookingId : Uuid) (rows : Rows) : List Notification :=
  rows.rows.filter fun n => n.bookingId == some bookingId && n.status == .pending

/-- One row at most waits for each kind, and each is named by a job. -/
structure InStep (bookingId : Uuid) (s : World) : Prop where
  single : ∀ kind : Kind, ∀ n ∈ waiting bookingId s.rows, ∀ n' ∈ waiting bookingId s.rows,
    kind.IsRow n → kind.IsRow n' → n = n'
  queued : ∀ n ∈ waiting bookingId s.rows, ∃ job ∈ s.queue.rows,
    job.data.notificationId = some n.id

/-- Nothing is scheduled for the booking. -/
structure Unscheduled (bookingId : Uuid) (s : World) : Prop where
  rows : waiting bookingId s.rows = []
  jobs : ∀ kind : Kind, s.queue.find? (kind.jobId bookingId) = none

section
variable {c : Call} {booking : Booking} {bookingId : Uuid} {s : World}

theorem schedule_eq (hfound : c.found = some booking) (hnew : NewIds c s.rows) :
    (scheduleBookingLifecycleNotifications c s).1.rows.rows =
      s.rows.rows ++ (sent c booking 0 kinds).map (rowOf c booking) ∧
    (scheduleBookingLifecycleNotifications c s).1.queue =
      ((sent c booking 0 kinds).map (jobOf c booking)).foldl Queue.add s.queue := by
  unfold scheduleBookingLifecycleNotifications
  rw [hfound]
  exact sendKinds_eq (Nat.le_refl 4) (fun j _ => hnew.unused j) hnew.apart

theorem schedule_unfound (hfound : c.found = none) :
    (scheduleBookingLifecycleNotifications c s).1 = s := by
  unfold scheduleBookingLifecycleNotifications
  rw [hfound]

/-- What a call inserts waits. -/
theorem waiting_schedule (hfound : c.found = some booking) (hnew : NewIds c s.rows) :
    waiting booking.id (scheduleBookingLifecycleNotifications c s).1.rows =
      waiting booking.id s.rows ++ (sent c booking 0 kinds).map (rowOf c booking) := by
  have hall : ∀ n ∈ (sent c booking 0 kinds).map (rowOf c booking),
      (n.bookingId == some booking.id && n.status == .pending) = true := by
    intro n hn
    obtain ⟨x, _, rfl⟩ := List.mem_map.mp hn
    simp [rowOf, newNotification, Kind.payload]
  rw [waiting, (schedule_eq hfound hnew).1, List.filter_append, List.filter_eq_self.mpr hall]
  rfl

theorem isRow_rowOf (x : Kind × Uuid) : x.1.IsRow (rowOf c booking x) := ⟨rfl, rfl, rfl⟩

/-- **The first call** leaves rows and jobs in step. -/
theorem Unscheduled.inStep (h : Unscheduled booking.id s) (hfound : c.found = some booking)
    (hnew : NewIds c s.rows) :
    InStep booking.id (scheduleBookingLifecycleNotifications c s).1 := by
  have hkinds : ((sent c booking 0 kinds).map (·.1)).Nodup :=
    (sent_sublist c booking 0 kinds).nodup (by decide)
  have hwaiting : waiting booking.id (scheduleBookingLifecycleNotifications c s).1.rows =
      (sent c booking 0 kinds).map (rowOf c booking) := by
    rw [waiting_schedule hfound hnew, h.rows, List.nil_append]
  constructor
  · intro kind n hn n' hn' hkind hkind'
    rw [hwaiting] at hn hn'
    obtain ⟨x, hx, rfl⟩ := List.mem_map.mp hn
    obtain ⟨y, hy, rfl⟩ := List.mem_map.mp hn'
    have hsame : x.1 = y.1 := ((isRow_rowOf x).unique hkind).trans (hkind'.unique (isRow_rowOf y))
    rw [List.inj_on_of_nodup_map hkinds hx hy hsame]
  · intro n hn
    rw [hwaiting] at hn
    obtain ⟨x, hx, rfl⟩ := List.mem_map.mp hn
    have hids : (((sent c booking 0 kinds).map (jobOf c booking)).map Job.id).Nodup := by
      have hjobs : ((sent c booking 0 kinds).map (jobOf c booking)).map Job.id =
          ((sent c booking 0 kinds).map (·.1)).map (Kind.jobId booking.id) := by
        rw [List.map_map, List.map_map]
        rfl
      rw [hjobs]
      exact hkinds.map (Kind.jobId_injective booking.id)
    have hadded := Queue.find?_foldl_add hids (q := s.queue) (fun job hjob => ?_) (jobOf c booking x)
      (List.mem_map_of_mem hx)
    · refine ⟨jobOf c booking x, ?_, rfl⟩
      rw [(schedule_eq hfound hnew).2]
      exact Table.mem_of_find? hadded
    · obtain ⟨y, _, rfl⟩ := List.mem_map.mp hjob
      exact h.jobs y.1

theorem Unscheduled.inStep_self (h : Unscheduled bookingId s) : InStep bookingId s := by
  constructor
  · intro kind n hn
    rw [h.rows] at hn
    exact absurd hn List.not_mem_nil
  · intro n hn
    rw [h.rows] at hn
    exact absurd hn List.not_mem_nil

/-- The confirmations that wait. -/
def confirmations (bookingId : Uuid) (rows : Rows) : List Notification :=
  (waiting bookingId rows).filter fun n => decide (Kind.confirmation.IsRow n)

/-- Every call that finds the booking inserts one more confirmation. -/
theorem confirmations_schedule (hfound : c.found = some booking) (hnew : NewIds c s.rows) :
    (confirmations booking.id s.rows).length + 1 ≤
      (confirmations booking.id (scheduleBookingLifecycleNotifications c s).1.rows).length := by
  have hfirst : sent c booking 0 kinds =
      (.confirmation, c.uuid 0) :: sent c booking 1 [.reminder24h, .reminder2h, .reviewRequest] := rfl
  have hrow : Kind.confirmation.IsRow (rowOf c booking (.confirmation, c.uuid 0)) :=
    isRow_rowOf (.confirmation, c.uuid 0)
  simp only [confirmations, waiting_schedule hfound hnew, List.filter_append, List.length_append,
    hfirst, List.map_cons, List.filter_cons, hrow, decide_true, if_true, List.length_cons]
  omega

/-- **After any number of calls** there are as many confirmations. -/
theorem confirmations_runCalls : ∀ {calls : List Call} {s : World},
    (∀ c ∈ calls, ∀ b, c.found = some b → b.id = bookingId) → AllNew calls s →
    (confirmations bookingId s.rows).length + calls.countP (fun c => c.found.isSome) ≤
      (confirmations bookingId (runCalls calls s).rows).length
  | [], _, _, _ => Nat.le_refl _
  | c :: calls, s, hcalls, ⟨hnew, hrest⟩ => by
      have ih := confirmations_runCalls (fun c' hc' => hcalls c' (List.mem_cons_of_mem _ hc')) hrest
      rw [List.countP_cons]
      cases hfound : c.found with
      | none =>
          rw [schedule_unfound hfound] at ih
          simpa [runCalls, schedule_unfound hfound] using ih
      | some b =>
          obtain rfl := hcalls c List.mem_cons_self b hfound
          have hone := confirmations_schedule hfound hnew
          show _ ≤ (confirmations b.id
            (runCalls calls (scheduleBookingLifecycleNotifications c s).1).rows).length
          simp only [Option.isSome_some, if_true]
          omega

/-- Rows in step have one confirmation at most. -/
theorem InStep.confirmations_le (h : InStep bookingId s) :
    (confirmations bookingId s.rows).length ≤ 1 := by
  have hnodup : (confirmations bookingId s.rows).Nodup :=
    ((List.Nodup.of_map Notification.id s.rows.nodup).filter _).filter _
  cases hlist : confirmations bookingId s.rows with
  | nil => exact Nat.zero_le _
  | cons n rest =>
      cases rest with
      | nil => exact Nat.le_refl _
      | cons n' rest =>
          have hmem : ∀ x ∈ confirmations bookingId s.rows,
              x ∈ waiting bookingId s.rows ∧ Kind.confirmation.IsRow x := by
            intro x hx
            obtain ⟨hx, hrow⟩ := List.mem_filter.mp hx
            exact ⟨hx, of_decide_eq_true hrow⟩
          obtain ⟨hn, hrow⟩ := hmem n (by rw [hlist]; simp)
          obtain ⟨hn', hrow'⟩ := hmem n' (by rw [hlist]; simp)
          rw [hlist, h.single .confirmation n hn n' hn' hrow hrow'] at hnodup
          simp at hnodup

theorem runCalls_unfound : ∀ {calls : List Call} {s : World},
    (calls.countP fun c => c.found.isSome) = 0 → runCalls calls s = s
  | [], _, _ => rfl
  | c :: calls, s, h => by
      rw [List.countP_cons] at h
      have hfound : c.found = none := by
        cases hfound : c.found with
        | none => rfl
        | some b => simp [hfound] at h
      have hrest : (calls.countP fun c => c.found.isSome) = 0 := by omega
      rw [runCalls, schedule_unfound hfound, runCalls_unfound hrest]

theorem inStep_runCalls : ∀ {calls : List Call} {s : World}, Unscheduled bookingId s →
    (∀ c ∈ calls, ∀ b, c.found = some b → b.id = bookingId) → AllNew calls s →
    (calls.countP fun c => c.found.isSome) ≤ 1 → InStep bookingId (runCalls calls s)
  | [], _, hfresh, _, _, _ => hfresh.inStep_self
  | c :: calls, s, hfresh, hcalls, ⟨hnew, hrest⟩, hone => by
      rw [List.countP_cons] at hone
      cases hfound : c.found with
      | none =>
          have ih := inStep_runCalls hfresh fun c' hc' => hcalls c' (List.mem_cons_of_mem _ hc')
          rw [schedule_unfound hfound] at hrest
          rw [runCalls, schedule_unfound hfound]
          exact ih hrest (by omega)
      | some b =>
          obtain rfl := hcalls c List.mem_cons_self b hfound
          have hnone : (calls.countP fun c => c.found.isSome) = 0 := by
            simp only [hfound, Option.isSome_some, if_true] at hone
            omega
          rw [runCalls, runCalls_unfound hnone]
          exact hfresh.inStep hfound hnew

end

/-- **Rows and jobs are in step just when the booking is scheduled once**, at
whatever times it is. -/
theorem scheduled_once (bookingId : Uuid) (s : World) (calls : List Call)
    (hfresh : Unscheduled bookingId s)
    (hcalls : ∀ c ∈ calls, ∀ b, c.found = some b → b.id = bookingId) (hnew : AllNew calls s) :
    InStep bookingId (runCalls calls s) ↔ (calls.countP fun c => c.found.isSome) ≤ 1 := by
  constructor
  · intro hstep
    have hmany := confirmations_runCalls hcalls hnew
    have hone := hstep.confirmations_le
    omega
  · exact inStep_runCalls hfresh hcalls hnew

/-! ## One call and two -/

namespace Sample

/-- Nothing is scheduled. -/
def world : World := ⟨.empty, .empty, []⟩

/-- The `n`-th call for the booking of 2 March at 10, on the day before. -/
def call (n : Nat) : Call where
  found := ServiceHub.Sample.booked.bookings.find? ServiceHub.Sample.bookingId
  now := 1772323200000
  uuid i := "10000000-0000-4000-8000-" ++ padStart 12 (100 * n + i)
  toDateString _ := "Mon Mar 02 2026"
  toTimeString _ := "10:00:00 GMT+0000 (Coordinated Universal Time)"

end Sample

theorem unscheduled_world : Unscheduled ServiceHub.Sample.bookingId Sample.world :=
  ⟨rfl, fun _ => rfl⟩

theorem id_of_call (n : Nat) : ∀ b, (Sample.call n).found = some b →
    b.id = ServiceHub.Sample.bookingId := fun _ hb => Table.key_of_find? hb

/-- One call makes four rows and four jobs. -/
theorem scheduled_once_sample :
    (runCalls [Sample.call 1] Sample.world).rows.rows.length = 4 ∧
    InStep ServiceHub.Sample.bookingId (runCalls [Sample.call 1] Sample.world) := by
  refine ⟨by decide +kernel, (scheduled_once ServiceHub.Sample.bookingId Sample.world
    [Sample.call 1] unscheduled_world ?_ ?_).mpr ?_⟩
  · intro c hc
    rw [List.mem_singleton.mp hc]
    exact id_of_call 1
  · exact ⟨⟨fun _ _ => rfl, by decide +kernel⟩, trivial⟩
  · exact List.countP_le_length

/-- The second call inserts four more rows, and adds no job. -/
theorem not_scheduled_once :
    (∀ n < 2, ∀ b ∈ (Sample.call n).found, (Sample.call n).now < appointmentStart b) ∧
    (runCalls [Sample.call 0, Sample.call 1] Sample.world).rows.rows.length = 8 ∧
    (runCalls [Sample.call 0, Sample.call 1] Sample.world).queue.rows.length = 4 ∧
    ¬ InStep ServiceHub.Sample.bookingId (runCalls [Sample.call 0, Sample.call 1] Sample.world) := by
  refine ⟨by decide +kernel, by decide +kernel, by decide +kernel, fun hstep => ?_⟩
  have hunnamed : ∃ n ∈ waiting ServiceHub.Sample.bookingId
      (runCalls [Sample.call 0, Sample.call 1] Sample.world).rows,
      ∀ job ∈ (runCalls [Sample.call 0, Sample.call 1] Sample.world).queue.rows,
        job.data.notificationId ≠ some n.id := by
    decide +kernel
  obtain ⟨n, hn, hnone⟩ := hunnamed
  obtain ⟨job, hjob, hnamed⟩ := hstep.queued n hn
  exact hnone job hjob hnamed

end ServiceHub.Jobs.NotificationQueueService
