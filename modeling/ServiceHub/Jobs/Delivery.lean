/-
# `Jobs.Delivery` — the attempts of one job

A job has three attempts.  Each works on a row: the one that the job names, else
one that waits, else a new one.  Three handlers write its status:

    process     SENT, with the email
    onFailed    FAILED, after the last attempt; on the row that the job names
    cancel…     deletes what is PENDING

After a cancellation the job works on another row, which `onFailed` does not
mark.  At most one email is sent in any case (`mails_of_run`).
-/
import ServiceHub.Jobs.Scheduling

namespace ServiceHub.Jobs.NotificationProcessor

open Data

/-! ## The steps -/

/-- How far the delivery of a job is. -/
structure Delivery where
  world : World
  /-- the attempts that have failed -/
  attemptsMade : Nat
  /-- the row that the last attempt worked on -/
  used : Option Uuid
  /-- the last attempt sent its email -/
  sent : Bool
  /-- an attempt has succeeded -/
  finished : Bool

/-- Nothing is attempted. -/
def Delivery.start (s : World) : Delivery := ⟨s, 0, none, false, false⟩

inductive Event where
  /-- an attempt, and when `onFailed` runs if it fails -/
  | attempt (e : Attempt) (failedAt : Time)
  | cancel (bookingId : Uuid)

section
variable (job : NotificationJob)

/-- The row that an attempt works on. -/
def usedRow (e : Attempt) (rows : Rows) : Option Uuid :=
  (loadNotification e job rows).toOption.map (·.2.id)

/-- One attempt, with `onFailed` after it. -/
def attempted (e : Attempt) (failedAt : Time) (d : Delivery) : Delivery :=
  let used := usedRow job e d.world.rows
  match process e job d.attemptsMade d.world with
  | (s, .ok result) => ⟨s, d.attemptsMade, used, result matches .delivered .., true⟩
  | (s, .error x) =>
      ⟨onFailed failedAt job (d.attemptsMade + 1) x.message s, d.attemptsMade + 1, used, false,
        false⟩

def next (d : Delivery) : Event → Delivery
  | .attempt e failedAt => attempted job e failedAt d
  | .cancel bookingId =>
      { d with world := NotificationQueueService.cancelBookingReminders bookingId d.world }

/-- A job that is in the queue is attempted until it succeeds. -/
def possible (d : Delivery) : Event → Bool
  | .attempt _ _ =>
      !d.finished && decide (d.attemptsMade < job.attempts) && (d.world.queue.find? job.id).isSome
  | .cancel _ => true

/-- The steps of a sequence of events, each between its two states; an event
that is not possible is left out. -/
def run : Delivery → List Event → List (Delivery × Event × Delivery)
  | _, [] => []
  | d, ev :: evs =>
      if possible job d ev then (d, ev, next job d ev) :: run (next job d ev) evs else run d evs

end

/-! ## What is wanted of them -/

def statusOf (id : Uuid) (rows : Rows) : Option NotificationStatus := (rows.find? id).map (·.status)

/-- The row that the last attempt worked on tells what came of the job. -/
structure Faithful (before : World) (d : Delivery) : Prop where
  sent : ∀ id ∈ d.used, (statusOf id d.world.rows = some .sent ↔ d.sent = true)
  failed : ∀ id ∈ d.used, (statusOf id d.world.rows = some .failed ↔ d.attemptsMade = 3)
  once : d.world.mails.length ≤ before.mails.length + 1

/-- The job was added by the `sendNotification` that led to `s`. -/
def Created (job : NotificationJob) (s : World) : Prop :=
  ∃ (s₀ : World) (uuid : Uuid) (now : Time) (generated jobName : String)
    (data : SendNotificationJobPayload) (delayMs : Int) (jobId : Option String),
    data.bookingId.isSome ∧
    NotificationQueueService.sendNotification uuid now generated jobName data delayMs jobId s₀ =
      (s, .ok ()) ∧
    s₀.queue.find? job.id = none ∧ s.queue.find? job.id = some job

/-- An attempt that has its row fails: there is nobody to send to, or the email
is refused. -/
def Fails (job : NotificationJob) (e : Attempt) : Prop :=
  deadBooking e job = none ∧
    (e.user.filter (·.email ≠ "") = none ∨ e.email.toOption = none)

/-- The row is not SENT already; an attempt that fails does not find it FAILED,
and the last one works on the row that the job names. -/
def RowFits (job : NotificationJob) (d : Delivery) : Event → Prop
  | .cancel _ => True
  | .attempt e _ => ∀ rows n, loadNotification e job d.world.rows = .ok (rows, n) →
      n.status ≠ .sent ∧
      (Fails job e →
        if d.attemptsMade = 2 then job.data.notificationId = some n.id else n.status ≠ .failed)

/-! ## One attempt -/

section
variable {job : NotificationJob} {e : Attempt} {s : World} {rows : Rows} {n : Notification}
  {attemptsMade : Nat}

/-- The row is there, and waits unless it is the one that the job names. -/
theorem loadNotification_found {before : Rows}
    (h : loadNotification e job before = .ok (rows, n)) :
    rows.find? n.id = some n ∧ (n.status = .pending ∨ job.data.notificationId = some n.id) := by
  unfold loadNotification at h
  split at h
  · rename_i found hfound
    obtain ⟨rfl, rfl⟩ : before = rows ∧ found = n := by simpa using h
    rcases Option.or_eq_some_iff.mp hfound with hnamed | ⟨_, hwaits⟩
    · obtain ⟨id, hid, hrow⟩ := Option.bind_eq_some_iff.mp hnamed
      have hkey := Table.key_of_find? hrow
      exact ⟨by rw [hkey]; exact hrow, Or.inr (by rw [hid, hkey])⟩
    · obtain ⟨bookingId, _, hrow⟩ := Option.bind_eq_some_iff.mp hwaits
      have hmem : found ∈ before.rows := List.mem_of_find?_eq_some hrow
      have hstatus : found.status = .pending := by
        have hp := List.find?_some hrow
        simp at hp
        exact hp.2
      exact ⟨Table.find?_of_mem hmem, Or.inl hstatus⟩
  · cases hcreate : e.create with
    | error x => simp [hcreate, bind, Except.bind] at h
    | ok uuid =>
        simp only [hcreate, bind, Except.bind, createNotification] at h
        split at h
        · cases h
        · rename_i hput
          split at hput
          · cases hput
          · obtain ⟨rfl, rfl⟩ : _ = rows ∧ trackingRow uuid job = n := by simpa using h
            obtain rfl := Except.ok.inj hput
            refine ⟨?_, Or.inl rfl⟩
            rw [Table.find?_put, if_pos rfl]

@[simp] theorem onFailed_mails (now : Time) (message : String) :
    (onFailed now job attemptsMade message s).mails = s.mails := by
  dsimp only [onFailed]
  generalize (if job.attempts = 0 then 3 else job.attempts) = maxAttempts
  split
  · split
    · rfl
    · rfl
  · rfl

/-- A row is marked when it is the one that the job names, after the last attempt. -/
theorem statusOf_onFailed {now : Time} {message : String} {id : Uuid} {m : Notification}
    (hthree : job.attempts = 3) (hrow : s.rows.find? id = some m) :
    statusOf id (onFailed now job attemptsMade message s).rows =
      if 3 ≤ attemptsMade ∧ job.data.notificationId = some id then some .failed
      else some m.status := by
  have hsame : statusOf id s.rows = some m.status := by rw [statusOf, hrow, Option.map_some]
  have hmax : (if job.attempts = 0 then 3 else job.attempts) = 3 := by rw [hthree]; rfl
  unfold onFailed
  simp only [hmax]
  by_cases hlast : 3 ≤ attemptsMade
  · rw [if_pos hlast]
    cases hnamed : job.data.notificationId.bind s.rows.find? with
    | none =>
        rw [if_neg, hsame]
        rintro ⟨_, hid⟩
        rw [hid, Option.bind_some, hrow] at hnamed
        cases hnamed
    | some n =>
        obtain ⟨id', hid', hn⟩ := Option.bind_eq_some_iff.mp hnamed
        have hkey : (failedRow now attemptsMade message n).id = id' := by
          rw [← Table.key_of_find? hn]
          rfl
        show ((s.rows.put (failedRow now attemptsMade message n)).find? id).map (·.status) = _
        rw [Table.find?_put, hkey, hid']
        by_cases hsameId : id' = id
        · rw [if_pos hsameId, if_pos ⟨hlast, by rw [hsameId]⟩]
          rfl
        · rw [if_neg hsameId, if_neg fun h => hsameId (Option.some.inj h.2), hrow, Option.map_some]
  · rw [if_neg hlast, if_neg fun h => hlast h.1, hsame]

/-! ## What an attempt can do -/

variable {d : Delivery} {failedAt : Time}

theorem fails_of_dead {reason : String} (hdead : deadBooking e job = some reason) :
    ¬ Fails job e := by
  rintro ⟨halive, _⟩
  rw [hdead] at halive
  cases halive

/-- **The outcomes of an attempt** that has its row. -/
theorem attempted_cases (failedAt : Time)
    (hload : loadNotification e job d.world.rows = .ok (rows, n)) :
    (n.status = .sent ∧ attempted job e failedAt d =
      ⟨{ d.world with rows := rows }, d.attemptsMade, some n.id, false, true⟩) ∨
    (n.status ≠ .sent ∧ ¬ Fails job e ∧ attempted job e failedAt d =
      ⟨{ d.world with rows := rows.filter fun m => decide (m.id ≠ n.id) }, d.attemptsMade,
        some n.id, false, true⟩) ∨
    (n.status ≠ .sent ∧ Fails job e ∧ ∃ rows' m message,
      rows'.find? n.id = some m ∧ m.status = n.status ∧ attempted job e failedAt d =
        ⟨onFailed failedAt job (d.attemptsMade + 1) message { d.world with rows := rows' },
          d.attemptsMade + 1, some n.id, false, false⟩) ∨
    (n.status ≠ .sent ∧ ¬ Fails job e ∧ ∃ mail, attempted job e failedAt d =
      ⟨{ d.world with
          rows := rows.put (sentRow e d.attemptsMade n)
          mails := d.world.mails ++ [mail] }, d.attemptsMade, some n.id, true, true⟩) := by
  have hfound := (loadNotification_found hload).1
  have hused : usedRow job e d.world.rows = some n.id := by
    rw [usedRow, hload]
    rfl
  by_cases hsent : n.status = .sent
  · refine Or.inl ⟨hsent, ?_⟩
    simp only [attempted, process, hload, hused, if_pos hsent]
  · refine Or.inr ?_
    cases hdead : deadBooking e job with
    | some reason =>
        refine Or.inl ⟨hsent, fails_of_dead hdead, ?_⟩
        simp only [attempted, process, hload, hused, if_neg hsent, hdead]
    | none =>
        refine Or.inr ?_
        cases huser : e.user.filter (·.email ≠ "") with
        | none =>
            refine Or.inl ⟨hsent, ⟨hdead, Or.inl huser⟩, rows, n,
              s!"User [{job.data.userId}] does not exist or has no email address", hfound, rfl, ?_⟩
            simp only [attempted, process, hload, hused, if_neg hsent, hdead, huser, Exn.message]
        | some user =>
            cases hemail : e.email with
            | error message =>
                refine Or.inl ⟨hsent, ⟨hdead, Or.inr (by rw [hemail]; rfl)⟩,
                  rows.put (failedAttempt d.attemptsMade message n),
                  failedAttempt d.attemptsMade message n, message, ?_, rfl, ?_⟩
                · exact (Table.find?_put _ _ _).trans (if_pos rfl)
                · simp only [attempted, process, hload, hused, if_neg hsent, hdead, huser, hemail,
                    Exn.message]
            | ok _ =>
                refine Or.inr ⟨hsent, ?_, ⟨user.email, job.data.title, job.data.body⟩, ?_⟩
                · rintro ⟨_, hnobody | hrefused⟩
                  · rw [huser] at hnobody
                    cases hnobody
                  · rw [hemail] at hrefused
                    cases hrefused
                · simp only [attempted, process, hload, hused, if_neg hsent, hdead, huser, hemail]

/-- Without a row nothing is sent. -/
theorem attempted_of_error {x : Exn} (hload : loadNotification e job d.world.rows = .error x) :
    attempted job e failedAt d =
      ⟨onFailed failedAt job (d.attemptsMade + 1) x.message d.world, d.attemptsMade + 1, none,
        false, false⟩ := by
  have hused : usedRow job e d.world.rows = none := by
    rw [usedRow, hload]
    rfl
  simp only [attempted, process, hload, hused]

/-! ## Emails -/

/-- The emails of the job: one when it was sent, and then it is over. -/
structure Counted (before : World) (d : Delivery) : Prop where
  mails : d.world.mails.length = before.mails.length + if d.sent then 1 else 0
  closed : d.sent = true → d.finished = true

variable {before : World}

theorem Counted.once (h : Counted before d) :
    d.world.mails.length ≤ before.mails.length + 1 := by
  rw [h.mails]
  split
  · exact Nat.le_refl _
  · omega

/-- A job that is not over has sent nothing. -/
theorem Counted.attempted (h : Counted before d) (hopen : d.finished = false) :
    Counted before (attempted job e failedAt d) := by
  have hnone : d.sent = false := by
    cases hsent : d.sent with
    | false => rfl
    | true =>
        have hover := h.closed hsent
        rw [hopen] at hover
        cases hover
  have hmails : d.world.mails.length = before.mails.length := by simpa [hnone] using h.mails
  cases hload : loadNotification e job d.world.rows with
  | error x =>
      rw [attempted_of_error hload]
      exact ⟨by simpa using hmails, by simp⟩
  | ok loaded =>
      rcases attempted_cases failedAt hload with
        ⟨_, heq⟩ | ⟨_, _, heq⟩ | ⟨_, _, rows', m, message, _, _, heq⟩ | ⟨_, _, mail, heq⟩
      · rw [heq]
        exact ⟨by simpa using hmails, by simp⟩
      · rw [heq]
        exact ⟨by simpa using hmails, by simp⟩
      · rw [heq]
        exact ⟨by simpa using hmails, by simp⟩
      · rw [heq]
        exact ⟨by simpa using hmails, by simp⟩

theorem Counted.next {ev : Event} (h : Counted before d) (hpossible : possible job d ev = true) :
    Counted before (next job d ev) := by
  cases ev with
  | cancel bookingId => exact ⟨h.mails, h.closed⟩
  | attempt e failedAt =>
      have hopen : d.finished = false := by
        simp only [possible, Bool.and_eq_true, Bool.not_eq_true'] at hpossible
        exact hpossible.1.1
      exact h.attempted hopen

theorem counted_start (s : World) : Counted s (.start s) := ⟨rfl, fun h => by cases h⟩

/-! ## The row after an attempt -/

theorem faithful_iff {id : Uuid} (hused : d.used = some id)
    (honce : d.world.mails.length ≤ before.mails.length + 1) :
    Faithful before d ↔ (statusOf id d.world.rows = some .sent ↔ d.sent = true) ∧
      (statusOf id d.world.rows = some .failed ↔ d.attemptsMade = 3) := by
  constructor
  · intro h
    exact ⟨h.sent id hused, h.failed id hused⟩
  · rintro ⟨hsent, hfailed⟩
    refine ⟨?_, ?_, honce⟩
    · intro id' hid'
      obtain rfl : id = id' := by simpa [hused] using hid'
      exact hsent
    · intro id' hid'
      obtain rfl : id = id' := by simpa [hused] using hid'
      exact hfailed

theorem faithful_of_unused (hused : d.used = none)
    (honce : d.world.mails.length ≤ before.mails.length + 1) : Faithful before d := by
  refine ⟨?_, ?_, honce⟩
  · intro id hid
    simp [hused] at hid
  · intro id hid
    simp [hused] at hid

theorem rowFits_iff (hload : loadNotification e job d.world.rows = .ok (rows, n)) :
    RowFits job d (.attempt e failedAt) ↔ n.status ≠ .sent ∧
      (Fails job e →
        if d.attemptsMade = 2 then job.data.notificationId = some n.id else n.status ≠ .failed) := by
  constructor
  · intro h
    exact h rows n hload
  · intro h rows' n' hload'
    rw [hload] at hload'
    obtain ⟨rfl, rfl⟩ : rows = rows' ∧ n = n' := by simpa using hload'
    exact h

/-- **One attempt** leaves the row as it should be just when the row fits. -/
theorem faithful_attempted (hthree : job.attempts = 3) (hfew : d.attemptsMade < 3)
    (honce : (attempted job e failedAt d).world.mails.length ≤ before.mails.length + 1) :
    Faithful before (attempted job e failedAt d) ↔ RowFits job d (.attempt e failedAt) := by
  cases hload : loadNotification e job d.world.rows with
  | error x =>
      have hused : (attempted job e failedAt d).used = none := by rw [attempted_of_error hload]
      refine iff_of_true (faithful_of_unused hused honce) fun rows n hrow => ?_
      rw [hload] at hrow
      cases hrow
  | ok loaded =>
      obtain ⟨rows, n⟩ := loaded
      rw [rowFits_iff hload]
      have hpending := (loadNotification_found hload).2
      rcases attempted_cases failedAt hload with
        ⟨hsent, heq⟩ | ⟨hunsent, halive, heq⟩ | ⟨hunsent, hfails, rows', m, message, hm, hsame, heq⟩ |
          ⟨hunsent, halive, mail, heq⟩
      · rw [heq] at honce ⊢
        rw [faithful_iff rfl honce]
        refine iff_of_false (fun h => ?_) fun h => h.1 hsent
        have hstatus : statusOf n.id rows = some .sent := by
          rw [statusOf, (loadNotification_found hload).1, Option.map_some, hsent]
        exact absurd (h.1.mp hstatus) (by simp)
      · rw [heq] at honce ⊢
        rw [faithful_iff rfl honce]
        have hgone : statusOf n.id (rows.filter fun m => decide (m.id ≠ n.id)) = none := by
          rw [statusOf, Table.find?_filtered]
          cases hrow : rows.find? n.id with
          | none => rfl
          | some m => simp [Option.filter_some, Table.key_of_find? hrow]
        refine iff_of_true ?_ ⟨hunsent, fun hfails => absurd hfails halive⟩
        simp only [hgone]
        simp
        omega
      · rw [heq] at honce ⊢
        rw [faithful_iff rfl honce]
        have hstatus : statusOf n.id (onFailed failedAt job (d.attemptsMade + 1) message
            { d.world with rows := rows' }).rows =
            if 3 ≤ d.attemptsMade + 1 ∧ job.data.notificationId = some n.id then some .failed
            else some n.status := by
          rw [← hsame]
          exact statusOf_onFailed hthree hm
        simp only [hstatus]
        by_cases hlast : d.attemptsMade = 2
        · by_cases hnamed : job.data.notificationId = some n.id
          · refine iff_of_true ?_ ⟨hunsent, fun _ => by rw [if_pos hlast]; exact hnamed⟩
            simp [hlast, hnamed]
          · have hwaits : n.status = .pending := hpending.resolve_right hnamed
            refine iff_of_false (fun h => ?_) fun h => ?_
            · simp [hlast, hnamed, hwaits] at h
            · have hall := h.2 hfails
              rw [if_pos hlast] at hall
              exact hnamed hall
        · have hmore : ¬ 3 ≤ d.attemptsMade + 1 := by omega
          have hthird : d.attemptsMade + 1 ≠ 3 := by omega
          simp [hlast, hmore, hthird, hunsent, hfails]
      · rw [heq] at honce ⊢
        rw [faithful_iff rfl honce]
        have hmarked : statusOf n.id (rows.put (sentRow e d.attemptsMade n)) = some .sent := by
          have hfound : (rows.put (sentRow e d.attemptsMade n)).find? n.id =
              some (sentRow e d.attemptsMade n) := (Table.find?_put _ _ _).trans (if_pos rfl)
          rw [statusOf, hfound]
          rfl
        refine iff_of_true ?_ ⟨hunsent, fun hfails => absurd hfails halive⟩
        simp only [hmarked]
        simp
        omega

/-- A cancellation leaves what is SENT or FAILED. -/
theorem statusOf_cancel {id bookingId : Uuid} {status : NotificationStatus}
    (hstatus : status ≠ .pending) :
    statusOf id (NotificationQueueService.cancelBookingReminders bookingId s).rows = some status ↔
      statusOf id s.rows = some status := by
  show ((s.rows.filter _).find? id).map (·.status) = some status ↔ _
  rw [Table.find?_filtered, statusOf]
  cases s.rows.find? id with
  | none => rfl
  | some n =>
      simp only [Option.filter_some]
      split
      · rfl
      · rename_i hgone
        have hpending : n.status = .pending := by
          simp at hgone
          exact hgone.2
        refine iff_of_false (by simp) fun h => ?_
        exact hstatus ((Option.some.inj h).symm.trans hpending)

theorem Faithful.cancel {bookingId : Uuid} (h : Faithful before d) :
    Faithful before (next job d (.cancel bookingId)) := by
  refine ⟨?_, ?_, h.once⟩
  · intro id hid
    exact (statusOf_cancel (by simp)).trans (h.sent id hid)
  · intro id hid
    exact (statusOf_cancel (by simp)).trans (h.failed id hid)

/-- **One step.** -/
theorem Faithful.next_iff {ev : Event} (h : Faithful before d) (hcount : Counted before d)
    (hthree : job.attempts = 3) (hpossible : possible job d ev = true) :
    Faithful before (next job d ev) ↔ RowFits job d ev := by
  have honce := (hcount.next hpossible).once
  cases ev with
  | cancel bookingId => exact iff_of_true h.cancel trivial
  | attempt e failedAt =>
      have hfew : d.attemptsMade < 3 := by
        simp only [possible, Bool.and_eq_true, decide_eq_true_eq] at hpossible
        omega
      exact faithful_attempted hthree hfew honce

end

/-! ## All attempts -/

section
variable {job : NotificationJob} {before s : World}

theorem run_cons (job : NotificationJob) (d : Delivery) (ev : Event) (evs : List Event) :
    run job d (ev :: evs) =
      if possible job d ev then (d, ev, next job d ev) :: run job (next job d ev) evs
      else run job d evs := rfl

/-- **A run.** -/
theorem faithful_run (hthree : job.attempts = 3) : ∀ {evs : List Event} {d : Delivery},
    Faithful before d → Counted before d →
    ((∀ x ∈ run job d evs, Faithful before x.2.2) ↔ ∀ x ∈ run job d evs, RowFits job x.1 x.2.1)
  | [], _, _, _ => by simp [run]
  | ev :: evs, d, h, hcount => by
      rw [run_cons]
      by_cases hpossible : possible job d ev = true
      · have hstep := h.next_iff hcount hthree hpossible
        have hnext := hcount.next hpossible
        simp only [if_pos hpossible, List.forall_mem_cons]
        constructor
        · rintro ⟨hfirst, hrest⟩
          exact ⟨hstep.mp hfirst, (faithful_run hthree hfirst hnext).mp hrest⟩
        · rintro ⟨hfits, hrest⟩
          exact ⟨hstep.mpr hfits, (faithful_run hthree (hstep.mpr hfits) hnext).mpr hrest⟩
      · simp only [if_neg hpossible]
        exact faithful_run hthree h hcount

/-- **At most one email is sent**, whatever happens to the rows. -/
theorem mails_of_run : ∀ {evs : List Event} {d : Delivery}, Counted before d →
    ∀ x ∈ run job d evs, x.2.2.world.mails.length ≤ before.mails.length + 1
  | [], _, _ => by simp [run]
  | ev :: evs, d, hcount => by
      rw [run_cons]
      by_cases hpossible : possible job d ev = true
      · have hnext := hcount.next hpossible
        simp only [if_pos hpossible, List.forall_mem_cons]
        exact ⟨hnext.once, mails_of_run hnext⟩
      · simp only [if_neg hpossible]
        exact mails_of_run hcount

/-- The job is given three attempts. -/
theorem Created.attempts (h : Created job s) : job.attempts = 3 := by
  obtain ⟨s₀, uuid, now, generated, jobName, data, delayMs, jobId, _, hsend, hnew, hadded⟩ := h
  have hadd : ∀ (q : Queue SendNotificationJobPayload) (added : NotificationJob),
      q.find? job.id = none → added.attempts = 3 → (q.add added).find? job.id = some job →
      job.attempts = 3 := by
    intro q added hnone hattempts hfound
    rw [Queue.find?_add, hnone, Option.none_or] at hfound
    split at hfound
    · rw [← Option.some.inj hfound]
      exact hattempts
    · cases hfound
  unfold NotificationQueueService.sendNotification at hsend
  dsimp only at hsend
  split at hsend
  · obtain rfl := congrArg Prod.fst hsend
    exact hadd s₀.queue _ hnew rfl hadded
  · split at hsend
    · cases congrArg Prod.snd hsend
    · obtain rfl := congrArg Prod.fst hsend
      exact hadd s₀.queue _ hnew rfl hadded

end

/-- **The rows tell what came of a job just when each attempt works on a row
that fits.** -/
theorem delivered_faithfully (job : NotificationJob) (s : World) (events : List Event)
    (hcreated : Created job s) :
    (∀ x ∈ run job (.start s) events, Faithful s x.2.2) ↔
      ∀ x ∈ run job (.start s) events, RowFits job x.1 x.2.1 :=
  faithful_run hcreated.attempts (faithful_of_unused rfl (Nat.le_succ _)) (counted_start s)

/-- A row that the job names and that waits fits. -/
theorem rowFits_of_pending {job : NotificationJob} {d : Delivery} {id : Uuid}
    (hnamed : job.data.notificationId = some id)
    (hpending : statusOf id d.world.rows = some .pending) : ∀ ev : Event, RowFits job d ev
  | .cancel _ => trivial
  | .attempt e failedAt => by
      obtain ⟨n, hn, hstatus⟩ := Option.map_eq_some_iff.mp hpending
      have hload : loadNotification e job d.world.rows = .ok (d.world.rows, n) := by
        unfold loadNotification
        rw [hnamed, Option.bind_some, hn]
        rfl
      refine (rowFits_iff hload).mpr ⟨by simp [hstatus], fun _ => ?_⟩
      split
      · rw [hnamed, Table.key_of_find? hn]
      · simp [hstatus]

/-! ## Three failures, without and with a cancellation -/

namespace Sample

def booking : Booking :=
  (ServiceHub.Sample.booked.bookings.find? ServiceHub.Sample.bookingId).get (by decide +kernel)

def call : NotificationQueueService.Call := NotificationQueueService.Sample.call 1

/-- The confirmation of the booking. -/
def job : NotificationJob := NotificationQueueService.jobOf call booking (.confirmation, call.uuid 0)

def world : World :=
  (NotificationQueueService.sendKind call booking 0 .confirmation
    NotificationQueueService.Sample.world).1

/-- The `n`-th attempt; the email provider does not answer. -/
def refused (n : Nat) : Event :=
  .attempt
    { now := call.now
      create := .ok (call.uuid (10 + n))
      booking := some booking
      user := some (ServiceHub.Sample.user "customer" .user)
      email := .error "Email service connection timeout" }
    call.now

end Sample

theorem created_job : Created Sample.job Sample.world := by
  have hsend : NotificationQueueService.sendKind Sample.call Sample.booking 0 .confirmation
      NotificationQueueService.Sample.world = (Sample.world, .ok ()) := by
    rw [Sample.world, NotificationQueueService.sendKind_eq rfl]
  refine ⟨NotificationQueueService.Sample.world, _, _, _, _, _, _, _, ?_, hsend, rfl, ?_⟩
  · rfl
  · rw [Sample.world, NotificationQueueService.sendKind_eq rfl]
    refine (Queue.find?_add _ _ _).trans ?_
    show (none : Option NotificationJob).or
      (if Sample.job.id = Sample.job.id then some Sample.job else none) = _
    rw [if_pos rfl, Option.none_or]

/-- Three failures: the row is FAILED. -/
theorem delivered_faithfully_sample :
    (run Sample.job (.start Sample.world) ((List.range 3).map Sample.refused)).length = 3 ∧
    ∀ x ∈ run Sample.job (.start Sample.world) ((List.range 3).map Sample.refused),
      Faithful Sample.world x.2.2 := by
  have hpending : ∀ x ∈ run Sample.job (.start Sample.world) ((List.range 3).map Sample.refused),
      statusOf (Sample.call.uuid 0) x.1.world.rows = some .pending := by
    decide +kernel
  refine ⟨by decide +kernel, (delivered_faithfully _ _ _ created_job).mpr ?_⟩
  intro x hx
  exact rowFits_of_pending rfl (hpending x hx) x.2.1

/-- Three failures after a cancellation: the row of the attempts stays PENDING. -/
theorem not_delivered_faithfully :
    Created Sample.job Sample.world ∧
    ∃ x ∈ run Sample.job (.start Sample.world)
        (.cancel ServiceHub.Sample.bookingId :: (List.range 3).map Sample.refused),
      x.2.2.attemptsMade = 3 ∧
      (x.2.2.used.bind fun id => statusOf id x.2.2.world.rows) = some .pending ∧
      ¬ Faithful Sample.world x.2.2 := by
  have hlast : ∃ x ∈ run Sample.job (.start Sample.world)
      (.cancel ServiceHub.Sample.bookingId :: (List.range 3).map Sample.refused),
      x.2.2.attemptsMade = 3 ∧
      (x.2.2.used.bind fun id => statusOf id x.2.2.world.rows) = some .pending := by
    decide +kernel
  obtain ⟨x, hx, hthree, hpending⟩ := hlast
  refine ⟨created_job, x, hx, hthree, hpending, fun h => ?_⟩
  obtain ⟨id, hused, hstatus⟩ := Option.bind_eq_some_iff.mp hpending
  have hfailed := (h.failed id hused).mpr hthree
  rw [hstatus] at hfailed
  cases hfailed

end ServiceHub.Jobs.NotificationProcessor
