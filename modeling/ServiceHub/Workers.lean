/-
# `Workers` — expiry and the overdue check act at most once

`expireBooking` and `flagOverdueBooking` are started by jobs, which are retried
and may run at the same time.  Each reads the booking, updates it `WHERE` it is
still as it was read, and goes on only if a row was updated.

No operation sets a booking back to PENDING_PAYMENT or takes `needsReview` away
(`program_writes`), and an UPDATE that had to wait looks at its condition again.
So the update takes at most one of the calls (`Run.marked`), and only that call
writes an audit row and reports that it acted (`workers_act_once`).
-/
import ServiceHub.Writes

namespace ServiceHub

open Data Txn Prog

/-! ## An update that makes its own condition false -/

/-- The call has updated the booking `id`, which was not `left` and is so now. -/
def Takes (id : Uuid) (left : Booking → Prop) : (s : Stmt) → Ans s → Prop
  | .updateBookings w data, bookings => w.id = id ∧ bookings ≠ [] ∧
      ∀ b, w.test b = true → ¬ left b ∧ left (data.on b)
  | _, _ => False

/-- The booking `id`, when it is `left`. -/
def Taken (id : Uuid) (left : Booking → Prop) : Row → Prop
  | .booking b => b.id = id ∧ left b
  | _ => False

theorem blocking_takes (id : Uuid) (left : Booking → Prop) :
    Blocking Db (Takes id left) (Taken id left) := by
  have hrows : ∀ (s : Stmt) (db : Db) (a : Ans s), db.exec s = .ok a → Takes id left s a →
      s.written a ≠ [] ∧ ∀ w ∈ s.written a, ∃ b', w = .booking b' ∧ b'.id = id ∧ left b' ∧
        ∃ b ∈ db.bookings.rows, b.id = id ∧ ¬ left b := by
    intro s db a hexec htakes
    cases s with
    | updateBookings w data =>
        obtain ⟨hid, hne, htest⟩ := htakes
        obtain ⟨rfl, _⟩ := Db.updateAll_ok hexec
        refine ⟨fun hnil => hne (List.map_eq_nil_iff.mp hnil), fun r hr => ?_⟩
        obtain ⟨_, hx, rfl⟩ := List.mem_map.mp hr
        obtain ⟨b, hb, rfl⟩ := List.mem_map.mp hx
        obtain ⟨hrow, hb⟩ := List.mem_filter.mp hb
        have hbid : b.id = id := by
          have hsame := hb
          simp only [BookingWhere.test, Bool.and_eq_true, beq_iff_eq] at hsame
          exact hsame.1.1.trans hid
        exact ⟨data.on b, rfl, by simpa using hbid, (htest b hb).2, b, hrow, hbid, (htest b hb).1⟩
    | _ => exact htakes.elim
  refine ⟨fun s db a hexec htakes => ?_, fun s db a hexec htakes k r hr htaken => ?_,
    fun s db others a hwait hexec htakes o ho htaken => ?_⟩
  · obtain ⟨hne, hall⟩ := hrows s db a hexec htakes
    refine ⟨hne, fun w hw => ?_⟩
    obtain ⟨b, rfl, hb, hleft, _⟩ := hall w hw
    exact ⟨hb, hleft⟩
  · obtain ⟨hne, hall⟩ := hrows s db a hexec htakes
    obtain ⟨w, hw⟩ := List.exists_mem_of_ne_nil _ hne
    obtain ⟨_, _, _, _, b, hrow, hb, hleft⟩ := hall w hw
    cases r with
    | booking b' =>
        obtain ⟨hb', hleft'⟩ := htaken
        have hfind : db.bookings.find? b.id = some b' := by
          rw [hb, ← hb']
          exact (find?_of_get hr).2
        obtain rfl := Option.some.inj ((Table.find?_of_mem hrow).symm.trans hfind)
        exact hleft hleft'
    | _ => exact htaken
  · obtain ⟨hne, hall⟩ := hrows s db a hexec htakes
    obtain ⟨w, hw⟩ := List.exists_mem_of_ne_nil _ hne
    obtain ⟨b, rfl, hb, _⟩ := hall w hw
    cases o with
    | booking b' =>
        refine (Stmt.written_apart hwait hexec _ hw _ ho).1 ?_
        exact congrArg Key.booking (htaken.1.trans hb.symm)
    | _ => exact htaken

section
variable {host : Host} {db : Db} {Ok : System → Event Op Exn → Prop} {c : System}

/-- If every update that a call may make leaves bookings `left` that are, then
the update is made at most once, and makes the booking so. -/
theorem marked_taken {id : Uuid} {left : Booking → Prop}
    (hstatus : ∀ (data : BookingUpdate) (b : Booking), data.needsReview = none →
      data.bookingStatus ≠ some .pendingPayment → left b → left (data.on b))
    (hexpire : ∀ b, left b → left (expireData.on b))
    (hoverdue : ∀ ctx b, left b → left ((overdueData ctx).on b))
    (hrun : Run (program host) Ok ⟨db, []⟩ c) : Marked (Takes id left) (Taken id left) c := by
  refine Run.marked (blocking_takes id left) rfl ?_ hrun
  intro c hrun P hP s k a hk hexec w hw r hr htaken
  have hwrites := writes_of_run hrun P hP
  rw [hk] at hwrites
  cases r with
  | booking b =>
      obtain ⟨hid, hleft⟩ := htaken
      cases w with
      | booking b' =>
          rcases Stmt.written_booking hexec hw with ⟨_, hnone⟩ | ⟨b₀, data, hget, rfl, hs⟩
          · exact absurd (hr.symm.trans hnone) (by simp)
          · obtain rfl : b = b₀ := Row.booking.inj (Option.some.inj (hr.symm.trans hget))
            refine ⟨by simpa using hid, ?_⟩
            rcases hs with rfl | ⟨w, rfl, _⟩
            · obtain ⟨hreview, status, hset, hne, _⟩ := hwrites.1
              exact hstatus data b hreview (by simpa [hset] using hne) hleft
            · rcases hwrites.1.1 with ⟨_, _, _, rfl⟩ | ⟨_, _, _, rfl⟩
              · exact hexpire b hleft
              · exact hoverdue _ b hleft
      | _ =>
          obtain ⟨_, _, heq⟩ := Option.map_eq_some_iff.mp hr
          cases heq
  | _ => exact htaken.elim

end

/-! ## Audit rows -/

def auditRows (rows : List Row) : List AuditLog :=
  rows.filterMap fun r =>
    match r with
    | .audit a => some a
    | _ => none

theorem mem_auditRows {rows : List Row} {a : AuditLog} : a ∈ auditRows rows ↔ .audit a ∈ rows := by
  simp only [auditRows, List.mem_filterMap]
  constructor
  · rintro ⟨r, hr, heq⟩
    cases r <;> simp_all
  · exact fun h => ⟨_, h, rfl⟩

@[simp] theorem auditRows_append (rows rows' : List Row) :
    auditRows (rows ++ rows') = auditRows rows ++ auditRows rows' := List.filterMap_append

@[simp] theorem auditRows_bookings (bs : List Booking) : auditRows (bs.map .booking) = [] := by
  simp [auditRows]

@[simp] theorem auditRows_payments (ps : List Payment) : auditRows (ps.map .payment) = [] := by
  simp [auditRows]

@[simp] theorem auditRows_audit (a : AuditLog) : auditRows [.audit a] = [a] := rfl

/-- The insert of an audit row. -/
def Audits (a : AuditLog) : (s : Stmt) → Ans s → Prop
  | .createAudit _, x => x = a
  | _, _ => False

theorem audits_of_written {s : Stmt} {x : Ans s} {a : AuditLog} (h : Row.audit a ∈ s.written x) :
    Audits a s x := by
  cases s with
  | createAudit l => exact (Row.audit.inj (List.mem_singleton.mp h)).symm
  | updateBookings _ _ | updatePayments _ _ =>
      obtain ⟨_, _, heq⟩ := List.mem_map.mp h
      cases heq
  | createBooking _ | updateBooking _ _ | createPayment _ | updatePayment _ _ | createEvent _
  | updateEvent _ _ => cases List.mem_singleton.mp h
  | _ => exact absurd h List.not_mem_nil

theorem blocking_audits (a : AuditLog) : Blocking Db (Audits a) (· = .audit a) := by
  refine ⟨fun s db x hexec haudits => ?_, fun s db x hexec haudits k r hr htaken => ?_,
    fun s db others x hwait hexec haudits o ho htaken => ?_⟩
  · cases s with
    | createAudit l =>
        obtain rfl : x = a := haudits
        exact ⟨List.cons_ne_nil _ _, fun w hw => List.mem_singleton.mp hw⟩
    | _ => exact haudits.elim
  · cases s with
    | createAudit l =>
        obtain rfl : x = a := haudits
        obtain ⟨hx, hnone, _⟩ := Db.insert_ok hexec
        subst htaken
        exact absurd (hr.symm.trans (Db.key_of_get hr ▸ hx ▸ hnone)) (by simp)
    | _ => exact haudits.elim
  · cases s with
    | createAudit l =>
        obtain rfl : x = a := haudits
        subst htaken
        exact (Stmt.written_apart hwait hexec _ (List.mem_singleton.mpr rfl) _ ho).1 rfl
    | _ => exact haudits.elim

/-! ## What a worker does and reports -/

/-- If a worker acts, it has updated the booking and written one audit row; if
not, it has committed nothing. -/
def Outcome {α : Type} (id : Uuid) (left : Booking → Prop) (acts : α → Bool) (h : CallHist) :
    Except Exn α → Prop
  | .ok a =>
      if acts a then Did (Takes id left) (kept h) ∧ (auditRows (rowsOf Db (kept h))).length = 1
      else rowsOf Db (kept h) = []
  | .error _ => rowsOf Db (kept h) = []

def ExpireResult.acts : ExpireResult → Bool
  | .expired _ => true
  | .skipped _ _ => false

def FlagResult.acts : FlagResult → Bool
  | .flagged _ => true
  | .skipped _ _ => false

section
variable {ctx : Ctx} {id : Uuid}

/-- Until it ends, the worker has committed nothing. -/
abbrev Working {α : Type} (id : Uuid) (left : Booking → Prop) (acts : α → Bool) (p : Call α) :
    Prop :=
  Obeys (fun h _ => rowsOf Db (kept h) = []) (Outcome id left acts) [] p

theorem Working.map {α β : Type} {left : Booking → Prop} {acts : α → Bool} {acts' : β → Bool}
    {f : α → β} {p : Call α} (hp : Working id left acts p) (hacts : ∀ a, acts' (f a) = acts a) :
    Working id left acts' (p.map f) := by
  refine obeys_map.mpr (hp.mono (fun _ _ hq => hq) ?_)
  rintro h (e | a) houtcome
  · exact houtcome
  · simpa only [Outcome, hacts] using houtcome

theorem expireBooking_working :
    Working id (·.bookingStatus ≠ .pendingPayment) ExpireResult.acts (expireBooking ctx id) := by
  unfold Working expireBooking expireBookingTx
  simp only [obeys_transaction, autocommit_bind, obeys_bind, BookingRepository.obeys_findById]
  refine ⟨rfl, fun _ => rfl, rfl, ?_, fun _ => ⟨rfl, fun r => rfl⟩⟩
  rintro (_ | booking)
  · exact ⟨rfl, rfl, fun _ => rfl⟩
  · simp only [autocommit_ite, obeys_ite, autocommit_bind, obeys_bind, autocommit_pure,
      obeys_pure, BookingRepository.obeys_updateMany, PaymentRepository.obeys_updateMany,
      AuditLogRepository.obeys_create]
    simp [Outcome, ExpireResult.acts, kept, sinceBegin, rowsOf, Txn.Database.written, Stmt.written]
    intro _ taken htaken _ _
    refine ⟨⟨.updateBookings { id := id, bookingStatus := .pendingPayment }
      { bookingStatus := some .expired }, taken⟩, by simp, rfl, htaken, fun b hb => ?_⟩
    simp only [BookingWhere.test, Bool.and_eq_true, beq_iff_eq] at hb
    simp [hb.1.2, BookingUpdate.on]

theorem flagOverdueBooking_working :
    Working id (·.needsReview = true) FlagResult.acts (flagOverdueBooking ctx id) := by
  unfold Working flagOverdueBooking flagOverdueBookingTx
  simp only [obeys_transaction, autocommit_bind, obeys_bind, BookingRepository.obeys_findById]
  refine ⟨rfl, fun _ => rfl, rfl, ?_, fun _ => ⟨rfl, fun r => rfl⟩⟩
  rintro (_ | booking)
  · exact ⟨rfl, rfl, fun _ => rfl⟩
  · simp only [autocommit_ite, obeys_ite, autocommit_bind, obeys_bind, autocommit_pure,
      obeys_pure, BookingRepository.obeys_updateMany, AuditLogRepository.obeys_create]
    simp [Outcome, FlagResult.acts, kept, sinceBegin, rowsOf, Txn.Database.written, Stmt.written]
    intro _ _ taken htaken _
    refine ⟨⟨.updateBookings { id := id, bookingStatus := .confirmed, needsReview := some false }
      { needsReview := some true, overdueAt := some (ctx.clock 0) }, taken⟩, by simp, rfl, htaken,
      fun b hb => ?_⟩
    simp only [BookingWhere.test, Bool.and_eq_true, beq_iff_eq, Option.all_some] at hb
    simp [hb.2, BookingUpdate.on]

end

/-! ## The calls of a run -/

/-- `expired: true` or `flagged: true`. -/
def Response.acts : Response → Bool
  | .expired r => r.acts
  | .flagged r => r.acts
  | _ => false

/-- `skipped: true`. -/
def Response.skips : Response → Bool
  | .expired r => !r.acts
  | .flagged r => !r.acts
  | _ => false

def acted (P : Caller) : Bool := (returned P.prog).any Response.acts

def skipped (P : Caller) : Bool := (returned P.prog).any Response.skips

def Request.expires (id : Uuid) : Request → Bool
  | .expireBooking id' => id' == id
  | _ => false

def Request.flagsOverdue (id : Uuid) : Request → Bool
  | .flagOverdueBooking id' => id' == id
  | _ => false

theorem not_acted_of_skipped {P : Caller} (h : skipped P) : ¬ acted P := by
  intro hacted
  obtain ⟨a, ha, hskips⟩ := (Option.any_eq_true _ _).mp h
  obtain ⟨a', ha', hacts⟩ := (Option.any_eq_true _ _).mp hacted
  obtain rfl := Option.some.inj (ha.symm.trans ha')
  cases a <;> simp_all [Response.skips, Response.acts]

section
variable {host : Host} {db : Db} {Ok : System → Event Op Exn → Prop} {c : System}
  {id : Uuid}

/-- An audit row that a call has committed is in the table. -/
theorem mem_auditLogs_of_committed (hrun : Run (program host) Ok ⟨db, []⟩ c) {P : Caller}
    (hP : P ∈ c.procs) {a : AuditLog} (ha : a ∈ auditRows (committed P)) :
    a ∈ c.db.auditLogs.rows := by
  have hmarked : Marked (Audits a) (· = .audit a) c := by
    refine Run.marked (blocking_audits a) rfl ?_ hrun
    rintro c hrun P hP s k x hk hexec w hw r hr rfl
    rcases Stmt.written_revises hexec hw with ⟨_, hnone⟩ | ⟨r', hr', hrevises⟩
    · exact absurd (hr.symm.trans hnone) (by simp)
    · obtain rfl := Option.some.inj (hr.symm.trans hr')
      cases w with
      | audit b => exact congrArg Row.audit hrevises
      | _ => exact hrevises.elim
  have hdid : Did (Audits a) (kept P.hist) := by
    obtain ⟨⟨s, x⟩, hx, hw⟩ := mem_rowsOf.mp (mem_auditRows.mp ha)
    exact ⟨⟨s, x⟩, hx, audits_of_written hw⟩
  obtain ⟨k, r, hr, rfl⟩ := hmarked.committed P hP hdid
  obtain rfl := Db.key_of_get hr
  obtain ⟨b, hb, heq⟩ := Option.map_eq_some_iff.mp hr
  cases heq
  exact Table.mem_of_find? hb

/-- A worker has acted if it says so, and has committed nothing if not. -/
theorem outcome_of_run {work : Request → Bool} {left : Booking → Prop}
    (hwork : ∀ ctx request, work request → Obeys (fun h _ => rowsOf Db (kept h) = [])
      (Outcome id left Response.acts) [] (program host ⟨ctx, request⟩))
    (hrun : Run (program host) Ok ⟨db, []⟩ c) {P : Caller} (hP : P ∈ c.procs)
    (hrequest : work P.op.request) :
    if acted P then Did (Takes id left) (kept P.hist) ∧ (auditRows (committed P)).length = 1
    else committed P = [] := by
  have hobeys := hrun.obeys (Q := fun op h _ => work op.request → rowsOf Db (kept h) = [])
    (R := fun op h r => work op.request → Outcome id left Response.acts h r)
    (fun _ o _ => by
      by_cases hw : work o.request
      · exact (hwork o.ctx o.request hw).mono (fun _ _ hq _ => hq) fun _ _ hr _ => hr
      · exact Obeys.of_forall (fun _ _ h => absurd h hw) (fun _ _ h => absurd h hw) _ _) rfl P hP
  cases hprog : P.prog with
  | ret a =>
      rw [hprog] at hobeys
      have hacted : acted P = a.acts := by simp [acted, returned, hprog]
      rw [hacted]
      exact hobeys hrequest
  | throw x =>
      rw [hprog] at hobeys
      have hacted : acted P = false := by simp [acted, returned, hprog]
      rw [hacted]
      exact hobeys hrequest
  | ask i k =>
      rw [hprog] at hobeys
      have hacted : acted P = false := by simp [acted, returned, hprog]
      rw [hacted]
      exact hobeys.1 hrequest

theorem length_flatMap_eq_countP {α β : Type} {f : α → Bool} {g : α → List β} : ∀ {l : List α},
    (∀ a ∈ l, (g a).length = if f a then 1 else 0) → (l.flatMap g).length = l.countP f
  | [], _ => rfl
  | x :: l, h => by
      rw [List.flatMap_cons, List.length_append, h x List.mem_cons_self, List.countP_cons,
        length_flatMap_eq_countP fun a ha => h a (List.mem_cons_of_mem _ ha), Nat.add_comm]

/-- The calls of one kind of worker. -/
theorem act_once {work : Request → Bool} {left : Booking → Prop}
    (hwork : ∀ ctx request, work request → Obeys (fun h _ => rowsOf Db (kept h) = [])
      (Outcome id left Response.acts) [] (program host ⟨ctx, request⟩))
    (hmarked : Marked (Takes id left) (Taken id left) c)
    (hrun : Run (program host) Ok ⟨db, []⟩ c) :
    c.procs.countP (fun P => work P.op.request && acted P) ≤ 1 ∧
    ((c.procs.filter (work ·.op.request)).flatMap fun P => auditRows (committed P)).length =
      c.procs.countP (fun P => work P.op.request && acted P) := by
  have houtcome := fun P hP => outcome_of_run (P := P) hwork hrun hP
  constructor
  · refine countP_le_one fun p q P Q hpq hP hQ hp hq => ?_
    simp only [Bool.and_eq_true] at hp hq
    have hdid := houtcome P (List.mem_of_getElem? hP) hp.1
    have hdid' := houtcome Q (List.mem_of_getElem? hQ) hq.1
    rw [if_pos hp.2] at hdid
    rw [if_pos hq.2] at hdid'
    exact hmarked.once p q P Q hpq hP hQ (did_standing.mpr (Or.inr hdid.1))
      (did_standing.mpr (Or.inr hdid'.1))
  · have hcount : c.procs.countP (fun P => work P.op.request && acted P) =
        (c.procs.filter (work ·.op.request)).countP acted := by
      rw [List.countP_filter]
      exact List.countP_congr fun P _ => by rw [Bool.and_comm]
    rw [hcount]
    refine length_flatMap_eq_countP fun P hP => ?_
    obtain ⟨hmem, hrequest⟩ := List.mem_filter.mp hP
    have hdid := houtcome P hmem hrequest
    by_cases hacted : acted P
    · rw [if_pos hacted] at hdid ⊢
      exact hdid.2
    · rw [if_neg hacted] at hdid ⊢
      rw [hdid]
      rfl

end

/-- **The workers act at most once**, in every run and whatever else is going
on. -/
theorem workers_act_once (host : Host) (db : Db) (c : System) (id : Uuid) (work : Request → Bool)
    (hwork : work = Request.expires id ∨ work = Request.flagsOverdue id)
    (hrun : Run (program host) (fun _ _ => True) ⟨db, []⟩ c) :
    c.procs.countP (fun P => work P.op.request && acted P) ≤ 1 ∧
    ((c.procs.filter (work ·.op.request)).flatMap fun P => auditRows (committed P)).length =
      c.procs.countP (fun P => work P.op.request && acted P) ∧
    (∀ P ∈ c.procs, ∀ a ∈ auditRows (committed P), a ∈ c.db.auditLogs.rows) ∧
    ∀ P ∈ c.procs, work P.op.request → skipped P → committed P = [] := by
  obtain ⟨left, hmarked, hworking⟩ : ∃ left, Marked (Takes id left) (Taken id left) c ∧
      ∀ ctx request, work request → Obeys (fun h _ => rowsOf Db (kept h) = [])
        (Outcome id left Response.acts) [] (program host ⟨ctx, request⟩) := by
    rcases hwork with rfl | rfl
    · refine ⟨(·.bookingStatus ≠ .pendingPayment), marked_taken ?_ ?_ ?_ hrun, ?_⟩
      · intro data b _ hstatus hleft
        cases hset : data.bookingStatus with
        | none => simpa [BookingUpdate.on, hset] using hleft
        | some s => exact fun h => hstatus (by simpa [BookingUpdate.on, hset] using h)
      · simp [expireData, BookingUpdate.on]
      · simp [overdueData, BookingUpdate.on]
      · intro ctx request hrequest
        cases request with
        | expireBooking id' =>
            obtain rfl : id' = id := by simpa [Request.expires] using hrequest
            exact (expireBooking_working.map fun a => rfl)
        | _ => exact absurd hrequest (by simp [Request.expires])
    · refine ⟨(·.needsReview = true), marked_taken ?_ ?_ ?_ hrun, ?_⟩
      · intro data b hreview _ hleft
        simpa [BookingUpdate.on, hreview] using hleft
      · simp [expireData, BookingUpdate.on]
      · simp [overdueData, BookingUpdate.on]
      · intro ctx request hrequest
        cases request with
        | flagOverdueBooking id' =>
            obtain rfl : id' = id := by simpa [Request.flagsOverdue] using hrequest
            exact (flagOverdueBooking_working.map fun a => rfl)
        | _ => exact absurd hrequest (by simp [Request.flagsOverdue])
  obtain ⟨hone, hcount⟩ := act_once hworking hmarked hrun
  refine ⟨hone, hcount, fun P hP a ha => mem_auditLogs_of_committed hrun hP ha, ?_⟩
  intro P hP hrequest hskipped
  have houtcome := outcome_of_run hworking hrun hP hrequest
  rwa [if_neg (not_acted_of_skipped hskipped)] at houtcome

/-! ## A run -/

namespace Sample

/-- Two jobs for one expiry, at the same time: the second waits for the first
to commit. -/
def expiries : List (Event Op Exn) :=
  .spawn (expire 1) :: steps 0 3 ++ .spawn (expire 2) :: steps 1 2 ++ steps 0 3 ++ steps 1 2

end Sample

/-- One of two expiries acts, and the other one reports that it did not. -/
theorem workers_act_once_sample : ∃ c : System,
    runChecked (program Sample.host) (fun _ _ => True) ⟨Sample.booked, []⟩ Sample.expiries = some c ∧
    c.procs.map acted = [true, false] ∧ c.procs.map skipped = [false, true] ∧
    c.procs.countP (fun P => P.op.request.expires Sample.bookingId && acted P) ≤ 1 ∧
    ((c.procs.filter (Request.expires Sample.bookingId ·.op.request)).flatMap
        fun P => auditRows (committed P)).length =
      c.procs.countP (fun P => P.op.request.expires Sample.bookingId && acted P) ∧
    (∀ P ∈ c.procs, ∀ a ∈ auditRows (committed P), a ∈ c.db.auditLogs.rows) ∧
    ∀ P ∈ c.procs, P.op.request.expires Sample.bookingId → skipped P → committed P = [] := by
  obtain ⟨c, hc⟩ := Option.isSome_iff_exists.mp
    (show (runChecked (program Sample.host) (fun _ _ => True) ⟨Sample.booked, []⟩
      Sample.expiries).isSome by decide +kernel)
  have hended : ∀ c ∈ runChecked (program Sample.host) (fun _ _ => True) ⟨Sample.booked, []⟩
      Sample.expiries, c.procs.map acted = [true, false] ∧ c.procs.map skipped = [false, true] := by
    decide +kernel
  exact ⟨c, hc, (hended c hc).1, (hended c hc).2, workers_act_once Sample.host Sample.booked c
    Sample.bookingId (Request.expires Sample.bookingId) (Or.inl rfl) (Run.of_runChecked _ _ hc)⟩

end ServiceHub
