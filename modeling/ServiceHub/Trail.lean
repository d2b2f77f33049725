/-
# `Trail` — the audit rows and the statuses

**What fails.**  Three writes of a status come with no audit row: the payments
that fail when a booking expires, the payment that a refund event sets to
REFUNDED, and the booking that a refund cancels (`not_trail_complete`).

**What holds.**  Every other change of a status is recorded by exactly one audit
row, with the old status where it has one (`Complete`).  Hence, in a sequence of
operations none of which makes such a write (`Silent`), replaying the rows of a
booking or payment whose status has changed yields its present status
(`trail_complete`).
-/
import ServiceHub.Payment.Spec
import ServiceHub.Data.Journal

namespace ServiceHub

open Data Txn

/-! ## Entities and what audit rows say of them -/

inductive Entity where
  | booking (id : Uuid)
  | payment (id : Uuid)
  deriving DecidableEq

def Db.status (db : Db) : Entity → Option String
  | .booking id => (db.bookings.find? id).map fun b => toString b.bookingStatus
  | .payment id => (db.payments.find? id).map fun p => toString p.status

namespace AuditLog

def entity (a : AuditLog) : Option Entity :=
  if a.entityType = "Booking" then some (.booking a.entityId)
  else if a.entityType = "Payment" then some (.payment a.entityId)
  else none

/-- `newValue.status`. -/
def newStatus (a : AuditLog) : Option String := asText (a.newValue.bind (Json.prop "status"))

/-- `oldValue.status`. -/
def oldStatus (a : AuditLog) : Option Json := a.oldValue.bind (Json.prop "status")

/-- What the row says of which entity. -/
def entry (a : AuditLog) : Option (Entity × String) :=
  a.entity.bind fun x => a.newStatus.map fun s => (x, s)

/-- The row records that `x` went from `old` to `new`. -/
def Records (a : AuditLog) (x : Entity) (old new : String) : Prop :=
  a.entity = some x ∧ a.newStatus = some new ∧ ∀ v ∈ a.oldStatus, asText (some v) = some old

instance (a : AuditLog) (x : Entity) (old new : String) : Decidable (a.Records x old new) :=
  inferInstanceAs (Decidable (_ ∧ _ ∧ _))

theorem entry_eq {a : AuditLog} {x : Entity} {s : String} :
    a.entry = some (x, s) ↔ a.entity = some x ∧ a.newStatus = some s := by
  simp only [entry, Option.bind_eq_some_iff, Option.map_eq_some_iff, Prod.mk.injEq]
  constructor
  · rintro ⟨_, hx, _, hs, rfl, rfl⟩
    exact ⟨hx, hs⟩
  · rintro ⟨hx, hs⟩
    exact ⟨x, hx, s, hs, rfl, rfl⟩

end AuditLog

/-- The journal that the audit rows are. -/
def journal (rows : List AuditLog) : List (Entity × String) := rows.filterMap AuditLog.entry

/-! ## The rows of a step -/

/-- What a list of rows says of an entity: nothing has changed and nothing else
is said, or one row records the change. -/
inductive Told (db : Db) (rows : List Row) (x : Entity) : Prop where
  | same (hsame : ∀ s, db.status x = some s → (puts db rows).status x = some s)
      (htells : ∀ a ∈ audits rows, ∀ s, a.entity = some x → a.newStatus = some s →
        (puts db rows).status x = some s)
  | changed (old new : String) (a : AuditLog) (hold : db.status x = some old)
      (hnew : (puts db rows).status x = some new)
      (hone : (audits rows).filter (fun a => decide (a.entity = some x)) = [a])
      (hrecords : a.Records x old new)

section
variable {db : Db} {rows : List Row} {x : Entity}

theorem Told.count (h : Told db rows x) {old new : String} (hold : db.status x = some old)
    (hnew : (puts db rows).status x = some new) (hne : old ≠ new) :
    ((audits rows).filter fun a => decide (a.Records x old new)).length = 1 := by
  cases h with
  | same hsame _ =>
      have hafter := (hsame old hold).symm.trans hnew
      exact absurd (Option.some.inj hafter) hne
  | changed old' new' a hold' hnew' hone hrecords =>
      obtain rfl : old = old' := Option.some.inj (hold.symm.trans hold')
      obtain rfl : new = new' := Option.some.inj (hnew.symm.trans hnew')
      have hsplit : (audits rows).filter (fun a => decide (a.Records x old new)) =
          ((audits rows).filter fun a => decide (a.entity = some x)).filter
            fun a => decide (a.Records x old new) := by
        rw [List.filter_filter]
        refine List.filter_congr fun b _ => ?_
        rw [← Bool.decide_and]
        exact decide_eq_decide.mpr ⟨fun h => ⟨h, h.1⟩, fun h => h.1⟩
      rw [hsplit, hone]
      simp [hrecords]

theorem tells_of_told (h : ∀ x, Told db rows x) :
    Journal.Tells db.status (journal (audits rows)) (puts db rows).status where
  truthful x s hs := by
    obtain ⟨a, ha, hentry⟩ := List.mem_filterMap.mp hs
    obtain ⟨hentity, hstatus⟩ := AuditLog.entry_eq.mp hentry
    cases h x with
    | same _ htells => exact htells a ha s hentity hstatus
    | changed old new b _ hnew hone hrecords =>
        have hmem : a ∈ (audits rows).filter fun a => decide (a.entity = some x) :=
          List.mem_filter.mpr ⟨ha, decide_eq_true hentity⟩
        rw [hone] at hmem
        obtain rfl := List.mem_singleton.mp hmem
        rw [hnew, ← hrecords.2.1, hstatus]
  complete x s t hs ht hne := by
    cases h x with
    | same hsame _ =>
        have hafter := (hsame s hs).symm.trans ht
        exact absurd (Option.some.inj hafter) hne
    | changed old new a _ _ hone hrecords =>
        have hmem : a ∈ (audits rows).filter fun a => decide (a.entity = some x) := by
          rw [hone]
          exact List.mem_singleton_self a
        refine ⟨new, List.mem_filterMap.mpr ⟨a, (List.mem_filter.mp hmem).1, ?_⟩⟩
        exact AuditLog.entry_eq.mpr ⟨hrecords.1, hrecords.2.1⟩
  stays x s hs := by
    cases h x with
    | same hsame _ => exact ⟨s, hsame s hs⟩
    | changed _ new _ _ hnew _ _ => exact ⟨new, hnew⟩

end

/-! ## The rows of each operation -/

section
variable {host : Host} {ctx : Ctx} {db : Db} {x : Entity}

@[simp] theorem status_put_booking (db : Db) (b : Booking) (x : Entity) :
    (db.put (.booking b)).status x =
      if x = .booking b.id then some (toString b.bookingStatus) else db.status x := by
  cases x with
  | booking id =>
      show ((db.bookings.put b).find? id).map _ = _
      rw [Table.find?_put]
      by_cases hid : b.id = id
      · simp [hid]
      · rw [if_neg hid, if_neg (by simpa using Ne.symm hid)]
        rfl
  | payment id => rfl

@[simp] theorem status_put_payment (db : Db) (p : Payment) (x : Entity) :
    (db.put (.payment p)).status x =
      if x = .payment p.id then some (toString p.status) else db.status x := by
  cases x with
  | booking id => rfl
  | payment id =>
      show ((db.payments.put p).find? id).map _ = _
      rw [Table.find?_put]
      by_cases hid : p.id = id
      · simp [hid]
      · rw [if_neg hid, if_neg (by simpa using Ne.symm hid)]
        rfl

@[simp] theorem status_put_event (db : Db) (e : PaymentWebhookEvent) (x : Entity) :
    (db.put (.event e)).status x = db.status x := by
  cases x <;> rfl

@[simp] theorem status_put_audit (db : Db) (a : AuditLog) (x : Entity) :
    (db.put (.audit a)).status x = db.status x := by
  cases x <;> rfl

theorem status_booking {b : Booking} {id : Uuid} (hb : db.bookings.find? id = some b) :
    db.status (.booking id) = some (toString b.bookingStatus) := by
  simp [Db.status, hb]

theorem status_payment {p : Payment} {id : Uuid} (hp : db.payments.find? id = some p) :
    db.status (.payment id) = some (toString p.status) := by
  simp [Db.status, hp]

theorem Told.nothing : Told db [] x := .same (fun _ h => h) fun _ h => absurd h List.not_mem_nil

/-- The row says of an entity what holds of it in `db`. -/
def Harmless (db : Db) (a : AuditLog) : Prop :=
  ∀ y s, a.entity = some y → a.newStatus = some s → db.status y = some s

/-- One change, recorded by the last row. -/
theorem told_one {rows : List Row} {y : Entity} {old new : String} {quiet : List AuditLog}
    {a : AuditLog} (hnew : (puts db rows).status y = some new)
    (hsame : ∀ x, x ≠ y → (puts db rows).status x = db.status x)
    (haudits : audits rows = quiet ++ [a])
    (hquiet : ∀ b ∈ quiet, b.entity ≠ some y ∧ Harmless db b) (hold : db.status y = some old)
    (hrecords : a.Records y old new) (x : Entity) : Told db rows x := by
  by_cases hx : x = y
  · subst hx
    refine .changed old new a hold hnew ?_ hrecords
    have hnone : quiet.filter (fun b => decide (b.entity = some x)) = [] :=
      List.filter_eq_nil_iff.mpr fun b hb => by simpa using (hquiet b hb).1
    rw [haudits, List.filter_append, hnone]
    simp [hrecords.1]
  · refine .same (fun s hs => (hsame x hx).trans hs) fun b hb s hentity hstatus => ?_
    rw [haudits] at hb
    rcases List.mem_append.mp hb with hb | hb
    · exact (hsame x hx).trans ((hquiet b hb).2 x s hentity hstatus)
    · obtain rfl := List.mem_singleton.mp hb
      exact absurd (Option.some.inj (hentity.symm.trans hrecords.1)) hx

/-- Two changes, each recorded by one of two rows. -/
theorem told_two {rows : List Row} {y z : Entity} {old new old' new' : String} {a b : AuditLog}
    (hyz : y ≠ z) (hnew : (puts db rows).status y = some new)
    (hnew' : (puts db rows).status z = some new')
    (hsame : ∀ x, x ≠ y → x ≠ z → (puts db rows).status x = db.status x)
    (haudits : audits rows = [a, b]) (hold : db.status y = some old)
    (hold' : db.status z = some old') (ha : a.Records y old new) (hb : b.Records z old' new')
    (x : Entity) : Told db rows x := by
  by_cases hy : x = y
  · subst hy
    refine .changed old new a hold hnew ?_ ha
    rw [haudits]
    simp [ha.1, hb.1, Ne.symm hyz]
  by_cases hz : x = z
  · subst hz
    refine .changed old' new' b hold' hnew' ?_ hb
    rw [haudits]
    simp [ha.1, hb.1, hyz]
  · refine .same (fun s hs => (hsame x hy hz).trans hs) fun c hc s hentity _ => ?_
    rw [haudits] at hc
    rcases List.mem_cons.mp hc with rfl | hc
    · exact absurd (Option.some.inj (hentity.symm.trans ha.1)) hy
    · obtain rfl := List.mem_singleton.mp hc
      exact absurd (Option.some.inj (hentity.symm.trans hb.1)) hz

theorem no_quiet {y : Entity} : ∀ b ∈ ([] : List AuditLog), b.entity ≠ some y ∧ Harmless db b :=
  fun _ h => absurd h List.not_mem_nil

/-- A booking and the row that records its change. -/
theorem told_booking {b : Booking} {data : BookingUpdate} {a : AuditLog}
    (hb : db.bookings.find? b.id = some b) (hrecords : a.Records (.booking b.id)
      (toString b.bookingStatus) (toString (data.on b).bookingStatus)) (x : Entity) :
    Told db [.booking (data.on b), .audit a] x := by
  refine told_one ?_ (fun x hx => ?_) rfl no_quiet (status_booking hb) hrecords x
  · simp [Database.put]
  · simp [Database.put, hx]

/-- The rows of an event that is not a refund. -/
theorem EventChange.told {payment : PaymentWithBooking} {event : WebhookEvent} {eventType : String}
    {rows : List Row} {e e' : PaymentWebhookEvent}
    (h : EventChange host ctx db payment event eventType rows)
    (hp : db.payments.find? payment.id = some payment.toPayment)
    (hb : db.bookings.find? payment.bookingId = some payment.booking)
    (hrefund : ¬ (isRefund eventType ∧ payment.status ≠ .refunded)) (x : Entity) :
    Told db (.event e :: rows ++ [.event e']) x := by
  have hid : payment.booking.id = payment.bookingId := Table.key_of_find? hb
  have hnone : Told db (.event e :: [] ++ [.event e']) x := by
    refine .same (fun s hs => ?_) fun a ha => absurd ha List.not_mem_nil
    simpa [Database.put] using hs
  cases h with
  | paidAlready _ _ => exact hnone
  | notPayable _ _ => exact hnone
  | tampered _ _ => exact hnone
  | other _ => exact hnone
  | reconciled hr hs _ => exact absurd ⟨hr, hs⟩ hrefund
  | confirmed _ _ _ _ =>
      have hrecords : (webhookConfirmedAudit ctx payment (some payment.booking.bookingStatus)).Records
          (.booking payment.bookingId) (toString payment.booking.bookingStatus)
          (toString ((confirmData ctx).on payment.booking).bookingStatus) :=
        ⟨rfl, rfl, fun v hv => by cases hv; rfl⟩
      have hrecords' : (capturedAudit ctx payment eventType).Records (.payment payment.id)
          (toString payment.status)
          (toString ((captureData host ctx payment.toPayment event).on payment.toPayment).status) :=
        ⟨rfl, rfl, fun v hv => by cases hv; rfl⟩
      refine told_two (by simp) ?_ ?_ (fun x hx hx' => ?_) rfl (status_booking hb)
        (status_payment hp) hrecords hrecords' x
      · simp [Database.put, hid]
      · simp [Database.put]
      · simp [Database.put, hid, hx, hx']
  | flagged _ _ _ _ _ =>
      have hrecords : (capturedAudit ctx payment eventType).Records (.payment payment.id)
          (toString payment.status)
          (toString ((captureData host ctx payment.toPayment event).on payment.toPayment).status) :=
        ⟨rfl, rfl, fun v hv => by cases hv; rfl⟩
      have hquiet : ∀ b ∈ [refundFlagAudit ctx payment (some payment.booking.bookingStatus)],
          b.entity ≠ some (.payment payment.id) ∧ Harmless db b := by
        intro b hflag
        obtain rfl := List.mem_singleton.mp hflag
        refine ⟨by simp [AuditLog.entity, refundFlagAudit], fun y s hy hs => ?_⟩
        cases hy
        cases hs
        exact status_booking hb
      refine told_one ?_ (fun x hx => ?_) rfl hquiet (status_payment hp) hrecords x
      · simp [Database.put]
      · simp [Database.put, hx]
  | failed hname _ _ =>
      have hrecords : (failedAudit ctx payment event).Records (.payment payment.id)
          (toString payment.status)
          (toString ((failData host event).on payment.toPayment).status) :=
        ⟨rfl, rfl, fun v hv => by cases hv⟩
      refine told_one ?_ (fun x hx => ?_) rfl no_quiet (status_payment hp) hrecords x
      · simp [Database.put]
      · simp [Database.put, hx]

/-- The operation may set a status that no audit row records. -/
def Silent (host : Host) (db : Db) (op : Op) : Prop :=
  match op.request with
  | .expireBooking bookingId => db.unpaid bookingId ≠ [] ∧
      ∃ b ∈ db.bookings.find? bookingId, b.bookingStatus = .pendingPayment
  | .handleWebhookEvent _ => ∃ event eventType payment,
      Delivers host db op event eventType payment ∧ isRefund eventType ∧ payment.status ≠ .refunded
  | .refundPayment _ paymentId dto => ∃ p b, RefundPasses host op.ctx db paymentId dto p b ∧
      b.bookingStatus ≠ .cancelled
  | _ => False

/-- **What the rows of an operation say**, if it is not silent. -/
theorem Change.told {request : Request} {rows : List Row}
    (h : Change host ctx db request rows) (hsilent : ¬ Silent host db ⟨ctx, request⟩)
    (x : Entity) : Told db rows x := by
  cases h with
  | nothing => exact .nothing
  | created _ _ _ hbook hpay =>
      -- there was no booking and no payment, and the row has no `status`
      refine .same (fun s hs => ?_) fun a ha s _ hs => ?_
      · have hb : x ≠ .booking (ctx.uuid 0) := by
          rintro rfl
          simp [Db.status, hbook] at hs
        have hp : x ≠ .payment (ctx.uuid 1) := by
          rintro rfl
          simp [Db.status, hpay] at hs
        simpa [Database.put, newBooking, newPayment, hb, hp] using hs
      · obtain rfl := List.mem_singleton.mp ha
        cases hs
  | @cancelled bookingId _ _ b hb _ =>
      obtain rfl := Table.key_of_find? hb
      refine told_booking hb ⟨rfl, rfl, ?_⟩ x
      intro v hv
      cases hv
      rfl
  | @expired bookingId b hb hpending =>
      obtain rfl := Table.key_of_find? hb
      have hpaid : db.unpaid b.id = [] := by
        refine Decidable.byContradiction fun hunpaid => hsilent ?_
        exact ⟨hunpaid, b, hb, hpending⟩
      rw [hpaid]
      refine told_booking hb ⟨rfl, rfl, ?_⟩ x
      intro v hv
      cases hv
      rfl
  | @completed bookingId _ _ b hb _ =>
      obtain rfl := Table.key_of_find? hb
      refine told_booking hb ⟨rfl, rfl, ?_⟩ x
      intro v hv
      cases hv
      rfl
  | @overdue bookingId b hb _ =>
      obtain rfl := Table.key_of_find? hb
      have hsame : ∀ y, (puts db [.booking ((overdueData ctx).on b),
          .audit (overdueAudit ctx b.id b)]).status y = db.status y := by
        intro y
        by_cases hy : y = .booking b.id
        · rw [hy, status_booking hb]
          simp [Database.put, BookingUpdate.on, overdueData]
        · simp [Database.put, hy]
      refine .same (fun s hs => (hsame x).trans hs) fun a ha s hx hs => ?_
      obtain rfl := List.mem_singleton.mp ha
      cases hx
      cases hs
      exact (hsame _).trans (status_booking hb)
  | @ordered _ bookingId b _ _ _ _ hnew =>
      refine .same (fun s hs => ?_) fun a ha => absurd ha List.not_mem_nil
      have hp : x ≠ .payment (ctx.uuid 0) := by
        rintro rfl
        simp [Db.status, hnew] at hs
      simpa [Database.put, newPayment, hp] using hs
  | @verified customerId dto p b hp hb _ _ =>
      have hid : b.id = p.bookingId := Table.key_of_find? hb
      have hrecords : (verifiedPaymentAudit ctx customerId dto ⟨p, b⟩).Records (.payment p.id)
          (toString p.status) (toString ((verifyData ctx dto).on p).status) :=
        ⟨rfl, rfl, fun v hv => by cases hv; rfl⟩
      have hrecords' : (verifiedBookingAudit ctx customerId ⟨p, b⟩).Records (.booking p.bookingId)
          (toString b.bookingStatus) (toString ((confirmData ctx).on b).bookingStatus) :=
        ⟨rfl, rfl, fun v hv => by cases hv; rfl⟩
      refine told_two (by simp) ?_ ?_ (fun x hx hx' => ?_) rfl
        (status_payment (Db.find?_of_paymentByOrder hp).1) (status_booking hb) hrecords hrecords' x
      · simp [Database.put]
      · simp [Database.put, hid]
      · simp [Database.put, hid, hx, hx']
  | @delivered delivery event rows result hread hchange =>
      cases hchange with
      | refused e => exact .nothing
      | duplicate _ _ => exact .nothing
      | skipped _ _ _ =>
          refine .same (fun s hs => ?_) fun a ha => absurd ha List.not_mem_nil
          simpa [Database.put] using hs
      | clashed _ _ _ _ => exact .nothing
      | @processed eventId eventType payment rows' _ hid hname hconcerns hfresh hchange _ =>
          have hdelivers : Delivers host db ⟨ctx, .handleWebhookEvent delivery⟩ event eventType
              payment := ⟨⟨delivery, rfl, hread⟩, ⟨eventId, hid, hfresh⟩, hname, hconcerns⟩
          refine hchange.told ?_ hconcerns.booking ?_ x
          · obtain ⟨orderId, _, hfound⟩ := hconcerns.orderId
            exact (Db.find?_of_paymentByOrder hfound).1
          · exact fun hrefund => hsilent ⟨event, eventType, payment, hdelivers, hrefund⟩
  | @refunded adminUserId paymentId dto p b refundId hpasses =>
      have hp : p.id = paymentId := Table.key_of_find? hpasses.payment
      have hcancelled : b.bookingStatus = .cancelled := by
        refine Decidable.byContradiction fun hopen => hsilent ?_
        exact ⟨p, b, hpasses, hopen⟩
      rw [if_pos hcancelled]
      have hrecords : (refundedAudit ctx adminUserId dto ⟨p, b⟩ refundId).Records (.payment p.id)
          (toString p.status) (toString ((refundData ctx).on p).status) :=
        ⟨rfl, rfl, fun v hv => by cases hv; rfl⟩
      refine told_one ?_ (fun x hx => ?_) rfl no_quiet
        (status_payment (hp.symm ▸ hpasses.payment)) hrecords x
      · simp [Database.put]
      · simp [Database.put, hx]

end

/-! ## Steps and sequences -/

/-- The audit rows that a step adds. -/
def SerialStep.recorded (s : SerialStep) : List AuditLog :=
  s.after.auditLogs.rows.drop s.before.auditLogs.rows.length

/-- The step moves `x` to another status. -/
def SerialStep.Moves (s : SerialStep) (x : Entity) (old new : String) : Prop :=
  s.before.status x = some old ∧ s.after.status x = some new ∧ old ≠ new

instance (s : SerialStep) (x : Entity) (old new : String) : Decidable (s.Moves x old new) :=
  inferInstanceAs (Decidable (_ ∧ _ ∧ _))

/-- Each change of a status is recorded by exactly one of the rows added. -/
def SerialStep.Complete (s : SerialStep) : Prop :=
  ∀ x old new, s.Moves x old new →
    (s.recorded.filter fun a => decide (a.Records x old new)).length = 1

/-- What the last audit row about `x` says. -/
def Db.replay (db : Db) (x : Entity) : Option String :=
  Journal.replay (journal db.auditLogs.rows) x

section
variable {host : Host} {db : Db} {op : Op} {x : Entity}

theorem complete_of_not_silent (hop : ¬ Silent host db op) :
    SerialStep.Complete ⟨db, op, (runAlone host op db).1, (runAlone host op db).2⟩ := by
  obtain ⟨rows, hrows, haudited, hchange⟩ := runAlone_logged host op db
  rintro x old new ⟨hold, hnew, hne⟩
  have hrecorded : SerialStep.recorded ⟨db, op, (runAlone host op db).1, (runAlone host op db).2⟩ =
      audits rows := by
    simp only [SerialStep.recorded, hrows, auditLogs_puts_of_audited haudited, List.drop_left]
  rw [hrecorded]
  simp only [hrows] at hnew
  exact (hchange.told hop x).count hold hnew hne

/-- The journal grows by what the step has to say. -/
theorem tells_of_not_silent (hop : ¬ Silent host db op) :
    ∃ k, journal (runAlone host op db).1.auditLogs.rows = journal db.auditLogs.rows ++ k ∧
      Journal.Tells db.status k (runAlone host op db).1.status := by
  obtain ⟨rows, hrows, haudited, hchange⟩ := runAlone_logged host op db
  refine ⟨journal (audits rows), ?_, ?_⟩
  · rw [hrows, auditLogs_puts_of_audited haudited, journal, List.filterMap_append]
    rfl
  · rw [hrows]
    exact tells_of_told (hchange.told hop)

/-- What is replayed rightly stays so. -/
theorem right_runAll {ops : List Op} (hok : ∀ s ∈ serialSteps host db ops, ¬ Silent host s.before s.op)
    (hright : Journal.Right (journal db.auditLogs.rows) db.status x) :
    Journal.Right (journal (runAll host db ops).auditLogs.rows) (runAll host db ops).status x := by
  induction ops generalizing db with
  | nil => exact hright
  | cons op ops ih =>
      refine ih (fun s hs => hok s (List.mem_cons_of_mem _ hs)) ?_
      obtain ⟨k, hk, htells⟩ := tells_of_not_silent (hok _ List.mem_cons_self)
      rw [hk]
      exact htells.right hright

theorem right_of_moves {ops : List Op} {s : SerialStep} {old new : String}
    (hok : ∀ s ∈ serialSteps host db ops, ¬ Silent host s.before s.op)
    (hs : s ∈ serialSteps host db ops) (hmoves : s.Moves x old new) :
    Journal.Right (journal (runAll host db ops).auditLogs.rows) (runAll host db ops).status x := by
  induction ops generalizing db with
  | nil => exact absurd hs List.not_mem_nil
  | cons op ops ih =>
      have hrest : ∀ s ∈ serialSteps host (runAlone host op db).1 ops, ¬ Silent host s.before s.op :=
        fun s hs => hok s (List.mem_cons_of_mem _ hs)
      rcases List.mem_cons.mp hs with rfl | hs
      · rw [show runAll host db (op :: ops) = runAll host (runAlone host op db).1 ops from rfl]
        refine right_runAll hrest ?_
        obtain ⟨k, hk, htells⟩ := tells_of_not_silent (hok _ List.mem_cons_self)
        obtain ⟨hold, hnew, hne⟩ := hmoves
        rw [hk]
        exact htells.right_of_changed hold hnew hne
      · exact ih hrest hs

end

/-- **The trail is complete** in every sequence of operations that are not
silent. -/
theorem trail_complete (host : Host) (db : Db) (ops : List Op)
    (hok : ∀ s ∈ serialSteps host db ops, ¬ Silent host s.before s.op) :
    (∀ s ∈ serialSteps host db ops, s.Complete) ∧
    ∀ x, (∃ s ∈ serialSteps host db ops, ∃ old new, s.Moves x old new) →
      (runAll host db ops).replay x = (runAll host db ops).status x := by
  refine ⟨fun s hs => ?_, fun x hx => ?_⟩
  · obtain ⟨_, hafter, hresult⟩ := mem_serialSteps hs
    have hcomplete := complete_of_not_silent (hok s hs)
    rw [← hafter, ← hresult] at hcomplete
    exact hcomplete
  · obtain ⟨s, hs, old, new, hmoves⟩ := hx
    obtain ⟨t, hstatus, hreplay⟩ := right_of_moves hok hs hmoves
    exact hreplay.trans hstatus.symm

/-- A booking that is paid and completed. -/
theorem trail_complete_sample :
    (serialSteps Sample.host Sample.db [Sample.book, Sample.verify 1, Sample.complete 2]).map
      (fun s => s.result.isOk) = [true, true, true] ∧
    (∀ s ∈ serialSteps Sample.host Sample.db [Sample.book, Sample.verify 1, Sample.complete 2],
      s.Complete) ∧
    ∀ x, (∃ s ∈ serialSteps Sample.host Sample.db [Sample.book, Sample.verify 1, Sample.complete 2],
        ∃ old new, s.Moves x old new) →
      (runAll Sample.host Sample.db [Sample.book, Sample.verify 1, Sample.complete 2]).replay x =
        (runAll Sample.host Sample.db [Sample.book, Sample.verify 1, Sample.complete 2]).status x := by
  refine ⟨by decide +kernel, trail_complete _ _ _ ?_⟩
  intro s hs
  have hop := (mem_serialSteps hs).1
  simp only [List.mem_cons, List.not_mem_nil, or_false] at hop
  rcases hop with hop | hop | hop
  · rw [hop]
    exact id
  · rw [hop]
    exact id
  · rw [hop]
    exact id

/-- A booking that expires, a refund event, a refund. -/
theorem not_trail_complete :
    (∃ s ∈ serialSteps Sample.host Sample.db [Sample.book, Sample.expire 1], ¬ s.Complete) ∧
    (∃ s ∈ serialSteps Sample.host Sample.db [Sample.book, Sample.deliver 1 "payment.captured",
      Sample.deliver 2 "payment.refunded"], ¬ s.Complete) ∧
    (∃ s ∈ serialSteps Sample.host Sample.db [Sample.book, Sample.verify 1, Sample.refund 2],
      ¬ s.Complete) ∧
    ∃ x, (∃ s ∈ serialSteps Sample.host Sample.db [Sample.book, Sample.verify 1, Sample.refund 2],
        ∃ old new, s.Moves x old new) ∧
      (runAll Sample.host Sample.db [Sample.book, Sample.verify 1, Sample.refund 2]).replay x ≠
        (runAll Sample.host Sample.db [Sample.book, Sample.verify 1, Sample.refund 2]).status x := by
  have hnot : ∀ (ops : List Op) (x : Entity) (old new : String),
      (∃ s ∈ serialSteps Sample.host Sample.db ops, s.Moves x old new ∧
        (s.recorded.filter fun a => decide (a.Records x old new)).length = 0) →
      ∃ s ∈ serialSteps Sample.host Sample.db ops, ¬ s.Complete := by
    intro ops x old new hstep
    obtain ⟨s, hs, hmoves, hnone⟩ := hstep
    refine ⟨s, hs, fun hcomplete => ?_⟩
    rw [hcomplete x old new hmoves] at hnone
    cases hnone
  refine ⟨?_, ?_, ?_, .booking Sample.bookingId, ?_, ?_⟩
  · exact hnot _ (.payment Sample.paymentId) "CREATED" "FAILED" (by decide +kernel)
  · exact hnot _ (.payment Sample.paymentId) "SUCCESS" "REFUNDED" (by decide +kernel)
  · exact hnot _ (.booking Sample.bookingId) "CONFIRMED" "CANCELLED" (by decide +kernel)
  · have hmoves : ∃ s ∈ serialSteps Sample.host Sample.db
        [Sample.book, Sample.verify 1, Sample.refund 2],
        s.Moves (.booking Sample.bookingId) "CONFIRMED" "CANCELLED" := by decide +kernel
    obtain ⟨s, hs, hmoves⟩ := hmoves
    exact ⟨s, hs, _, _, hmoves⟩
  · decide +kernel

end ServiceHub
