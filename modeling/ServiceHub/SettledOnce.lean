/-
# `SettledOnce` — of several calls for one payment, one settles it

The runs of the calls of `Settling`, statement by statement.  A run is in one of
two phases.

    `Unsettled`     the bookings, the payments and the audit log are as at first,
                    and every call has read them so
    `Done`          one transaction was committed, and no other has written

`Unsettled.next` goes from the first to the second by a commit, since another
transaction that has begun to write would hold one of the rows of this one.
`Done.next` stays there as long as no call issues a write of its own, which is
what `Timely` asks for.

A call that has read the payment and its booking after that commit issues none in
any case (`program_abstains`), so that `Timely` excludes the calls that have read
one of them before (`unsettled_of_settles`).
-/
import ServiceHub.Settling
import ServiceHub.Workers
import ServiceHub.Txn.Debts

namespace ServiceHub

open Data Txn Prog

/-! ## Rows of webhook events change no other table -/

section
variable {payment : Payment} {l : List ((s : Stmt) × Ans s)} {rows : List Row} {db db' : Db}

/-- The tables that settling a payment writes are the same. -/
structure Alike (db db' : Db) : Prop where
  bookings : db'.bookings = db.bookings
  payments : db'.payments = db.payments
  auditLogs : db'.auditLogs = db.auditLogs

theorem alike_puts : ∀ {rows : List Row} {db : Db}, (∀ r ∈ rows, ∃ e, r = .event e) →
    Alike db (puts db rows)
  | [], _, _ => ⟨rfl, rfl, rfl⟩
  | r :: rows, db, hall => by
      obtain ⟨e, rfl⟩ := hall r List.mem_cons_self
      have hrest : Alike (db.put (.event e)) (puts (db.put (.event e)) rows) :=
        alike_puts fun r hr => hall r (List.mem_cons_of_mem _ hr)
      exact ⟨hrest.bookings, hrest.payments, hrest.auditLogs⟩

theorem auditLogs_puts_congr (h : db'.auditLogs = db.auditLogs) :
    (puts db' rows).auditLogs = (puts db rows).auditLogs := by
  induction rows generalizing db db' with
  | nil => exact h
  | cons r rows ih =>
      refine ih ?_
      cases r with
      | audit a => exact congrArg (·.put a) h
      | _ => exact h

theorem written_of_not_settles {s : Stmt} {a : Ans s} (hs : s.settles = false) :
    ∀ r ∈ s.written a, ∃ e, r = .event e := by
  intro r hr
  cases s with
  | createEvent e => exact ⟨_, List.mem_singleton.mp hr⟩
  | updateEvent id t => exact ⟨_, List.mem_singleton.mp hr⟩
  | createBooking _ | updateBooking _ _ | updateBookings _ _ | createPayment _ | updatePayment _ _
  | updatePayments _ _ | createAudit _ => cases hs
  | _ => exact absurd hr List.not_mem_nil

theorem alike_of_parts (h : parts payment l = []) : Alike db (puts db (rowsOf Db l)) := by
  refine alike_puts fun r hr => ?_
  obtain ⟨x, hx, hw⟩ := mem_rowsOf.mp hr
  exact written_of_not_settles (parts_eq_nil.mp h x hx) r hw

end

/-- A statement adds its audit row at the end of the log. -/
theorem auditLogs_of_exec {s : Stmt} {a : Ans s} {db : Db} (hexec : db.exec s = .ok a) :
    (puts db (s.written a)).auditLogs.rows = db.auditLogs.rows ++ auditRows (s.written a) := by
  cases s with
  | createAudit x =>
      have hsame := (Db.insert_ok hexec).1
      show (db.auditLogs.put a).rows = db.auditLogs.rows ++ [a]
      rw [hsame]
      exact Table.rows_put_of_new (Db.find?_audit_of_insert hexec)
  | _ =>
      rw [Db.auditLogs_puts]
      · simp [Stmt.written, auditRows]
      · intro x hx
        simp [Stmt.written] at hx

/-! ## What a script writes -/

def Succeeded (db : Db) (id : Uuid) : Prop := ∃ p ∈ db.payments.find? id, p.status = .success

instance (db : Db) (id : Uuid) : Decidable (Succeeded db id) :=
  inferInstanceAs (Decidable (∃ p ∈ db.payments.find? id, p.status = .success))

section
variable {payment : Payment} {s : Stmt} {a : Ans s} {db : Db} {l : List ((s : Stmt) × Ans s)}

theorem mem_parts {o : Option Part} :
    o ∈ parts payment l ↔ ∃ x ∈ l, x.1.settles = true ∧ x.1.part payment = o := by
  simp [parts, and_assoc]

/-- The booking that a script writes is CONFIRMED. -/
theorem booking_of_part (hexec : db.exec s = .ok a) (h : s.part payment = some .booking) :
    ∃ b, s.written a = [.booking b] ∧ b.id = payment.bookingId ∧ b.bookingStatus = .confirmed := by
  cases s with
  | updateBooking id data =>
      simp only [Stmt.part] at h
      split at h
      · rename_i hset
        obtain ⟨b, hb, rfl, _⟩ := Db.update_ok hexec
        have hid : b.id = id := Table.key_of_find? hb
        exact ⟨data.on b, rfl, hid.trans hset.1, by simp [BookingUpdate.on, hset.2]⟩
      · cases h
  | updatePayment id data =>
      simp only [Stmt.part] at h
      split at h <;> cases h
  | createAudit l =>
      simp only [Stmt.part] at h
      repeat' split at h
      all_goals cases h
  | _ => cases h

/-- The payment that a script writes is SUCCESS. -/
theorem payment_of_part (hexec : db.exec s = .ok a) (h : s.part payment = some .payment) :
    ∃ p, s.written a = [.payment p] ∧ p.id = payment.id ∧ p.status = .success := by
  cases s with
  | updatePayment id data =>
      simp only [Stmt.part] at h
      split at h
      · rename_i hset
        obtain ⟨p, hp, rfl, _⟩ := Db.update_ok hexec
        have hid : p.id = id := Table.key_of_find? hp
        exact ⟨data.on p, rfl, hid.trans hset.1, hset.2⟩
      · cases h
  | updateBooking id data =>
      simp only [Stmt.part] at h
      split at h <;> cases h
  | createAudit l =>
      simp only [Stmt.part] at h
      repeat' split at h
      all_goals cases h
  | _ => cases h

theorem mem_of_booking_part (hexec : ∀ x ∈ l, ∃ db : Db, db.exec x.1 = .ok x.2)
    (h : some .booking ∈ parts payment l) :
    ∃ b, Row.booking b ∈ rowsOf Db l ∧ b.id = payment.bookingId := by
  obtain ⟨x, hx, _, hpart⟩ := mem_parts.mp h
  obtain ⟨db, hdb⟩ := hexec x hx
  obtain ⟨b, hw, hid, _⟩ := booking_of_part hdb hpart
  have hmem : Row.booking b ∈ x.1.written x.2 := by rw [hw]; exact List.mem_cons_self
  exact ⟨b, mem_rowsOf.mpr ⟨x, hx, hmem⟩, hid⟩

theorem mem_of_payment_part (hexec : ∀ x ∈ l, ∃ db : Db, db.exec x.1 = .ok x.2)
    (h : some .payment ∈ parts payment l) :
    ∃ p, Row.payment p ∈ rowsOf Db l ∧ p.id = payment.id := by
  obtain ⟨x, hx, _, hpart⟩ := mem_parts.mp h
  obtain ⟨db, hdb⟩ := hexec x hx
  obtain ⟨p, hw, hid, _⟩ := payment_of_part hdb hpart
  have hmem : Row.payment p ∈ x.1.written x.2 := by rw [hw]; exact List.mem_cons_self
  exact ⟨p, mem_rowsOf.mpr ⟨x, hx, hmem⟩, hid⟩

/-- The audit rows that a script has written so far. -/
structure Tally (payment : Payment) (rows : List AuditLog) (ps : List (Option Part)) : Prop where
  flagged : rows.countP AuditLog.flagged = 0
  confirmation : rows.countP (·.confirmation payment.bookingId) = ps.count (some .confirmation)
  receipt : rows.countP (·.receipt payment.id) = ps.count (some .receipt)

theorem not_receipt_of_confirmation {x : AuditLog} (h : x.confirmation payment.bookingId = true) :
    x.receipt payment.id = false := by
  simp only [AuditLog.confirmation, Bool.and_eq_true, beq_iff_eq] at h
  simp [AuditLog.receipt, h.1.1]

theorem tally_of_exec (hexec : db.exec s = .ok a)
    (hpart : s.settles = true → (s.part payment).isSome) :
    Tally payment (auditRows (s.written a)) (if s.settles then [s.part payment] else []) := by
  cases s with
  | createAudit x =>
      have hsame := (Db.insert_ok hexec).1
      have hsome := hpart rfl
      show Tally payment [a] [(Stmt.createAudit x).part payment]
      rw [hsame]
      by_cases hflag : x.flagged
      · simp [Stmt.part, hflag] at hsome
      by_cases hconfirm : x.confirmation payment.bookingId
      · constructor <;>
          simp [Stmt.part, hflag, hconfirm, not_receipt_of_confirmation hconfirm]
      by_cases hreceipt : x.receipt payment.id
      · constructor <;> simp [Stmt.part, hflag, hconfirm, hreceipt]
      · simp [Stmt.part, hflag, hconfirm, hreceipt] at hsome
  | updateBooking id data =>
      have hpart : (Stmt.updateBooking id data).part payment = some .booking ∨
          (Stmt.updateBooking id data).part payment = none := by
        simp only [Stmt.part]
        split <;> simp
      rcases hpart with h | h <;> constructor <;> simp [Stmt.written, Stmt.settles, auditRows, h]
  | updatePayment id data =>
      have hpart : (Stmt.updatePayment id data).part payment = some .payment ∨
          (Stmt.updatePayment id data).part payment = none := by
        simp only [Stmt.part]
        split <;> simp
      rcases hpart with h | h <;> constructor <;> simp [Stmt.written, Stmt.settles, auditRows, h]
  | createBooking _ | updateBookings _ _ | createPayment _ | updatePayments _ _ =>
      exact absurd (hpart rfl) (by simp [Stmt.part])
  | _ => constructor <;> rfl

/-- The audit rows of a script. -/
theorem tally_of_parts (hexec : ∀ x ∈ l, ∃ db : Db, db.exec x.1 = .ok x.2)
    (hparts : ∀ o ∈ parts payment l, o.isSome) :
    Tally payment (auditRows (rowsOf Db l)) (parts payment l) := by
  induction l with
  | nil => exact ⟨rfl, rfl, rfl⟩
  | cons x l ih =>
      obtain ⟨s, a⟩ := x
      have hrest := ih (fun x hx => hexec x (List.mem_cons_of_mem _ hx)) fun o ho =>
        hparts o (by rw [parts_cons]; exact List.mem_append_left _ ho)
      obtain ⟨db, hs⟩ := hexec ⟨s, a⟩ List.mem_cons_self
      have hlast : Tally payment (auditRows (s.written a))
          (if s.settles then [s.part payment] else []) := by
        refine tally_of_exec hs fun hsettles => hparts _ ?_
        rw [parts_cons, if_pos hsettles]
        exact List.mem_append_right _ List.mem_cons_self
      rw [rowsOf_cons, auditRows_append, parts_cons]
      constructor
      · rw [List.countP_append, hrest.flagged]
        exact (Nat.zero_add _).trans hlast.flagged
      · rw [List.countP_append, List.count_append, hrest.confirmation]
        exact congrArg _ hlast.confirmation
      · rw [List.countP_append, List.count_append, hrest.receipt]
        exact congrArg _ hlast.receipt

/-- A call that writes by a script writes a booking as its part. -/
theorem part_of_booking {b : Booking} (hw : Row.booking b ∈ s.written a)
    (hpart : (s.part payment).isSome) : s.part payment = some .booking := by
  cases s with
  | updateBooking id data =>
      simp only [Stmt.part] at hpart ⊢
      split at hpart
      · rename_i hset
        exact if_pos hset
      · cases hpart
  | createBooking _ | updateBookings _ _ => cases hpart
  | _ => simp [Stmt.written] at hw

theorem part_of_payment {p : Payment} (hw : Row.payment p ∈ s.written a)
    (hpart : (s.part payment).isSome) : s.part payment = some .payment := by
  cases s with
  | updatePayment id data =>
      simp only [Stmt.part] at hpart ⊢
      split at hpart
      · rename_i hset
        exact if_pos hset
      · cases hpart
  | createPayment _ | updatePayments _ _ => cases hpart
  | _ => simp [Stmt.written] at hw

theorem settles_of_booking {b : Booking} (hw : Row.booking b ∈ s.written a) :
    s.settles = true := by
  cases s <;> first | rfl | simp [Stmt.written] at hw

theorem settles_of_payment {p : Payment} (hw : Row.payment p ∈ s.written a) :
    s.settles = true := by
  cases s <;> first | rfl | simp [Stmt.written] at hw

/-- A script that is committed confirms the booking. -/
theorem confirmed_of_script (hexec : ∀ x ∈ l, ∃ db : Db, db.exec x.1 = .ok x.2)
    (hparts : ∀ o ∈ parts payment l, o.isSome) (h : some .booking ∈ parts payment l) :
    Confirmed (puts db (rowsOf Db l)) payment.bookingId := by
  rcases Db.find?_booking_puts db (rowsOf Db l) payment.bookingId with
    ⟨b, hb, _, hfind⟩ | ⟨hnone, _⟩
  · obtain ⟨x, hx, hw⟩ := mem_rowsOf.mp hb
    obtain ⟨_, hx'⟩ := hexec x hx
    have hpart := part_of_booking hw (hparts _ (part_of_mem hx (settles_of_booking hw)))
    obtain ⟨b', hw', _, hconfirmed⟩ := booking_of_part hx' hpart
    have hsame : Row.booking b ∈ [Row.booking b'] := hw' ▸ hw
    cases List.mem_singleton.mp hsame
    exact ⟨b, hfind, hconfirmed⟩
  · obtain ⟨b, hb, hid⟩ := mem_of_booking_part hexec h
    exact absurd hid (hnone b hb)

/-- And the payment is SUCCESS. -/
theorem succeeded_of_script (hexec : ∀ x ∈ l, ∃ db : Db, db.exec x.1 = .ok x.2)
    (hparts : ∀ o ∈ parts payment l, o.isSome) (h : some .payment ∈ parts payment l) :
    Succeeded (puts db (rowsOf Db l)) payment.id := by
  rcases Db.find?_payment_puts db (rowsOf Db l) payment.id with ⟨p, hp, _, hfind⟩ | ⟨hnone, _⟩
  · obtain ⟨x, hx, hw⟩ := mem_rowsOf.mp hp
    obtain ⟨_, hx'⟩ := hexec x hx
    have hpart := part_of_payment hw (hparts _ (part_of_mem hx (settles_of_payment hw)))
    obtain ⟨p', hw', _, hpaid⟩ := payment_of_part hx' hpart
    have hsame : Row.payment p ∈ [Row.payment p'] := hw' ▸ hw
    cases List.mem_singleton.mp hsame
    exact ⟨p, hfind, hpaid⟩
  · obtain ⟨p, hp, hid⟩ := mem_of_payment_part hexec h
    exact absurd hid (hnone p hp)

end

/-! ## What an open transaction has written -/

section
variable {payment : Payment} {booking : Booking} {h : CallHist} {l : List ((s : Stmt) × Ans s)}

/-- It has written nothing, or the beginning of a script. -/
theorem prefix_of_obeyed (hobeyed : Obeyed (Scripted payment booking) h)
    (hfresh : Fresh payment booking h) (hl : sinceBegin h = some l) :
    ∃ script ∈ scripts, parts payment l <+: script := by
  have hnone : ∃ script ∈ scripts, ([] : List (Option Part)) <+: script :=
    ⟨_, List.mem_cons_self, List.nil_prefix⟩
  induction h generalizing l with
  | nil => cases hl
  | cons x h ih =>
      obtain ⟨i, r⟩ := x
      have hbefore := hfresh.of_suffix (List.suffix_cons _ h)
      cases i with
      | begin =>
          cases r with
          | error e => exact ih hobeyed.2 hbefore hl
          | ok _ =>
              cases hopen : sinceBegin h with
              | none =>
                  simp only [sinceBegin, hopen, Option.getD_none, Option.some.injEq] at hl
                  subst hl
                  exact hnone
              | some l' =>
                  simp only [sinceBegin, hopen, Option.getD_some, Option.some.injEq] at hl
                  subst hl
                  exact ih hobeyed.2 hbefore hopen
      | commit => cases hl
      | rollback => cases hl
      | call c => exact ih hobeyed.2 hbefore hl
      | stmt s =>
          cases r with
          | error e => exact ih hobeyed.2 hbefore hl
          | ok a =>
              obtain ⟨l', hopen, rfl⟩ := Option.map_eq_some_iff.mp hl
              rw [parts_cons]
              split
              · rename_i hs
                obtain ⟨l'', hl'', hnext⟩ := (hobeyed.1 hbefore).1 hs
                obtain rfl := Option.some.inj (hl''.symm.trans hopen)
                exact hnext
              · rw [List.append_nil]
                exact ih hobeyed.2 hbefore hopen

/-- So it holds the booking or the payment, if it has written anything. -/
theorem first_part (hstart : ∃ script ∈ scripts, parts payment l <+: script)
    (hne : parts payment l ≠ []) :
    some .booking ∈ parts payment l ∨ some .payment ∈ parts payment l := by
  obtain ⟨script, hscript, hstart⟩ := hstart
  cases hparts : parts payment l with
  | nil => exact absurd hparts hne
  | cons q ps =>
      rw [hparts] at hstart
      have hfirst : script.head? = some q := by
        obtain ⟨rest, rfl⟩ := hstart
        rfl
      simp only [scripts, List.mem_cons, List.not_mem_nil, or_false] at hscript
      rcases hscript with rfl | rfl
      · exact Or.inl (by cases hfirst; exact List.mem_cons_self)
      · exact Or.inr (by cases hfirst; exact List.mem_cons_self)

end

/-! ## The two phases -/

/-- The calls are about one order, and no write of one of them is executed once
the payment is SUCCESS. -/
def Timely (host : Host) (payment : Payment) (c : System) : Event Op Exn → Prop
  | .spawn op => op.captures host payment.gatewayOrderId
  | .exec p => ∀ P ∈ c.procs[p]?, ∀ s ∈ P.stmt?, s.settles = true → ¬ Succeeded c.db payment.id
  | .fail _ _ => True

instance (host : Host) (payment : Payment) (c : System) :
    ∀ e, Decidable (Timely host payment c e)
  | .spawn op => inferInstanceAs (Decidable (op.captures host payment.gatewayOrderId))
  | .exec p => inferInstanceAs (Decidable (∀ P ∈ c.procs[p]?, ∀ s ∈ P.stmt?, s.settles = true → _))
  | .fail _ _ => .isTrue trivial

/-- Nothing has been committed that settles the payment. -/
structure Unsettled (db : Db) (payment : Payment) (booking : Booking) (c : System) : Prop where
  alike : Alike db c.db
  fresh : ∀ P ∈ c.procs, Fresh payment booking P.hist
  unwritten : ∀ P ∈ c.procs, parts payment (kept P.hist) = []
  audits : ∀ P ∈ c.procs,
    (view c.db P).auditLogs.rows = db.auditLogs.rows ++ auditRows P.pending

/-- The payment is settled, and nothing that settles it is under way. -/
structure Done (db : Db) (payment : Payment) (c : System) : Prop where
  confirmed : Confirmed c.db payment.bookingId
  paid : Succeeded c.db payment.id
  audits : ∃ new, c.db.auditLogs.rows = db.auditLogs.rows ++ new ∧
    Tally payment new [some .booking, some .confirmation, some .payment, some .receipt]
  closed : ∀ P ∈ c.procs, parts payment ((sinceBegin P.hist).getD []) = []

section
variable {host : Host} {db : Db} {payment : Payment} {booking : Booking} {c c' : System}
  {e : Event Op Exn}

theorem pending_eq {Ok : System → Event Op Exn → Prop} (hrun : Run (program host) Ok ⟨db, []⟩ c)
    {P : Caller} (hP : P ∈ c.procs) : P.pending = rowsOf Db ((sinceBegin P.hist).getD []) := by
  rw [Proc.pending, hrun.tx_eq rfl P hP]
  cases sinceBegin P.hist <;> rfl

/-- What a call reads before it writes is as at first. -/
theorem Unsettled.fresh_next (hpayment : db.paymentByOrder payment.gatewayOrderId = some payment)
    (hbooking : db.bookings.find? payment.bookingId = some booking)
    (hrun : Run (program host) (Timely host payment) ⟨db, []⟩ c)
    (hun : Unsettled db payment booking c) {p : Nat} {P : Caller} (hP : P ∈ c.procs)
    {i : Instr Stmt Ext} {r : Except Exn (i.Ans Ans)} {tx : Option (List Row)} {db' : Db}
    (hscripted : Scripted payment booking P.hist i)
    (heff : Effect c.db (others c.procs p) P.tx p i e r tx db') :
    Fresh payment booking (⟨i, r⟩ :: P.hist) := by
  have hfresh := hun.fresh P hP
  have hview : ∀ s, i = .stmt s → s.rereads = true → Alike db (puts c.db (P.tx.getD [])) := by
    rintro s rfl hreads
    have hnone : parts payment ((sinceBegin P.hist).getD []) = [] := by
      cases hopen : sinceBegin P.hist with
      | none => rfl
      | some l => exact (hscripted hfresh).2 hreads l hopen
    have hpending : P.tx.getD [] = rowsOf Db ((sinceBegin P.hist).getD []) := pending_eq hrun hP
    have halike : Alike c.db (puts c.db (P.tx.getD [])) := hpending ▸ alike_of_parts hnone
    exact ⟨halike.bookings.trans hun.alike.bookings, halike.payments.trans hun.alike.payments,
      halike.auditLogs.trans hun.alike.auditLogs⟩
  constructor
  · intro o ho
    rcases List.mem_cons.mp ho with heq | hold
    · cases heq
      have hexec := heff.exec_of_ok.2
      have hanswer : o = (puts c.db (P.tx.getD [])).paymentByOrder payment.gatewayOrderId :=
        (Except.ok.inj hexec).symm
      rw [hanswer, Db.paymentByOrder, (hview _ rfl rfl).payments]
      exact hpayment
    · exact hfresh.payment_eq o hold
  · intro o ho
    rcases List.mem_cons.mp ho with heq | hold
    · cases heq
      have hexec := heff.exec_of_ok.2
      have hanswer : o = (puts c.db (P.tx.getD [])).bookings.find? payment.bookingId :=
        (Except.ok.inj hexec).symm
      rw [hanswer, (hview _ rfl rfl).bookings]
      exact hbooking
    · exact hfresh.booking_eq o hold

/-- What a call sees of the audit log are the rows at first and its own. -/
theorem Unsettled.audits_next {Ok : System → Event Op Exn → Prop}
    (hrun : Run (program host) Ok ⟨db, []⟩ c) (hun : Unsettled db payment booking c) {p : Nat}
    {P : Caller} (hP : P ∈ c.procs) {i : Instr Stmt Ext}
    {k : Except Exn (i.Ans Ans) → Call Response} {r : Except Exn (i.Ans Ans)}
    {tx : Option (List Row)} {db' : Db} (heff : Effect c.db (others c.procs p) P.tx p i e r tx db')
    (hrun' : Run (program host) Ok ⟨db, []⟩ c') (hP' : P.advance i k r tx ∈ c'.procs)
    (hdb : Alike db c'.db) :
    (view c'.db (P.advance i k r tx)).auditLogs.rows =
      db.auditLogs.rows ++ auditRows (P.advance i k r tx).pending := by
  have hbefore : ∀ rows, (puts c'.db rows).auditLogs = (puts c.db rows).auditLogs :=
    fun rows => auditLogs_puts_congr (hdb.auditLogs.trans hun.alike.auditLogs.symm)
  have hpending := pending_eq hrun hP
  have hsees := hun.audits P hP
  rw [view, hpending] at hsees
  rw [view, pending_eq hrun' hP', hbefore]
  rcases sinceBegin_cons_cases P.hist i r with hnone | hsame | ⟨s, a, heq, _, hmore⟩
  · have hnil : (sinceBegin (P.advance i k r tx).hist).getD [] = [] := hnone
    rw [hnil]
    show c.db.auditLogs.rows = db.auditLogs.rows ++ []
    rw [hun.alike.auditLogs, List.append_nil]
  · have hold : (sinceBegin (P.advance i k r tx).hist).getD [] = (sinceBegin P.hist).getD [] :=
      hsame
    rw [hold]
    exact hsees
  · have hlonger : (sinceBegin (P.advance i k r tx).hist).getD [] =
        ⟨s, a⟩ :: (sinceBegin P.hist).getD [] := hmore
    cases heq
    have hexec : (puts c.db (P.tx.getD [])).exec s = .ok a := heff.exec_of_ok.2
    have htx : P.tx.getD [] = rowsOf Db ((sinceBegin P.hist).getD []) := hpending
    rw [htx] at hexec
    rw [hlonger, rowsOf_cons, puts_append, auditRows_append, ← List.append_assoc, ← hsees]
    exact auditLogs_of_exec hexec

/-- A step that commits no part of a script. -/
theorem Unsettled.stay (hpayment : db.paymentByOrder payment.gatewayOrderId = some payment)
    (hbooking : db.bookings.find? payment.bookingId = some booking)
    (hrun : Run (program host) (Timely host payment) ⟨db, []⟩ c)
    (hun : Unsettled db payment booking c) {p : Nat} {P : Caller} (hP : c.procs[p]? = some P)
    {i : Instr Stmt Ext} {k : Except Exn (i.Ans Ans) → Call Response} {r : Except Exn (i.Ans Ans)}
    {tx : Option (List Row)} {db' : Db} (hscripted : Scripted payment booking P.hist i)
    (heff : Effect c.db (others c.procs p) P.tx p i e r tx db')
    (hrun' : Run (program host) (Timely host payment) ⟨db, []⟩
      ⟨db', c.procs.set p (P.advance i k r tx)⟩) {new : List ((s : Stmt) × Ans s)}
    (hkept : kept (⟨i, r⟩ :: P.hist) = new ++ kept P.hist)
    (hdb : db' = puts c.db (rowsOf Db new)) (hnew : parts payment new = []) :
    Unsettled db payment booking ⟨db', c.procs.set p (P.advance i k r tx)⟩ := by
  have hmem := List.mem_of_getElem? hP
  have hlt : p < c.procs.length := (List.getElem?_eq_some_iff.mp hP).1
  have hstep : Alike c.db db' := hdb ▸ alike_of_parts hnew
  have halike : Alike db db' := ⟨hstep.bookings.trans hun.alike.bookings,
    hstep.payments.trans hun.alike.payments, hstep.auditLogs.trans hun.alike.auditLogs⟩
  refine ⟨halike, fun Q hQ => ?_, fun Q hQ => ?_, fun Q hQ => ?_⟩
  · rcases List.mem_or_eq_of_mem_set hQ with hold | rfl
    · exact hun.fresh Q hold
    · exact hun.fresh_next hpayment hbooking hrun hmem hscripted heff
  · rcases List.mem_or_eq_of_mem_set hQ with hold | rfl
    · exact hun.unwritten Q hold
    · show parts payment (kept (⟨i, r⟩ :: P.hist)) = []
      rw [hkept, parts_append, hun.unwritten P hmem, hnew]
      rfl
  · rcases List.mem_or_eq_of_mem_set hQ with hold | rfl
    · rw [view, auditLogs_puts_congr hstep.auditLogs]
      exact hun.audits Q hold
    · exact hun.audits_next hrun hmem heff hrun' hQ halike

theorem executed_of_open {Ok : System → Event Op Exn → Prop}
    (hrun : Run (program host) Ok ⟨db, []⟩ c) {P : Caller} (hP : P ∈ c.procs) :
    ∀ x ∈ (sinceBegin P.hist).getD [], ∃ db : Db, db.exec x.1 = .ok x.2 :=
  fun _ hx => hrun.executed rfl hP (mem_of_sinceBegin hx)

/-- Another transaction has written nothing when a script is committed. -/
theorem closed_of_script (hrun : Run (program host) (Timely host payment) ⟨db, []⟩ c)
    (hobeyed : ∀ P ∈ c.procs, Obeyed (Scripted payment booking) P.hist)
    (hun : Unsettled db payment booking c) {p q : Nat} {P Q : Caller} (hpq : p ≠ q)
    (hP : c.procs[p]? = some P) (hQ : c.procs[q]? = some Q)
    (hscript : parts payment ((sinceBegin P.hist).getD []) ∈ scripts) :
    parts payment ((sinceBegin Q.hist).getD []) = [] := by
  have hPmem := List.mem_of_getElem? hP
  have hQmem := List.mem_of_getElem? hQ
  by_contra hne
  have hstart : ∃ script ∈ scripts, parts payment ((sinceBegin Q.hist).getD []) <+: script := by
    cases hopen : sinceBegin Q.hist with
    | none => exact absurd (by rw [hopen]; rfl) hne
    | some l => exact prefix_of_obeyed (hobeyed Q hQmem) (hun.fresh Q hQmem) hopen
  have hapart : ∀ r ∈ P.pending, ∀ r' ∈ Q.pending, r.key ≠ r'.key :=
    hrun.apart rfl p q P Q hpq hP hQ
  rw [pending_eq hrun hPmem, pending_eq hrun hQmem] at hapart
  have hall : ∀ script ∈ scripts, some Part.booking ∈ script ∧ some Part.payment ∈ script := by
    decide
  obtain ⟨hb, hp⟩ := hall _ hscript
  rcases first_part hstart hne with hfirst | hfirst
  · obtain ⟨b, hmem, hid⟩ := mem_of_booking_part (executed_of_open hrun hPmem) hb
    obtain ⟨b', hmem', hid'⟩ := mem_of_booking_part (executed_of_open hrun hQmem) hfirst
    exact hapart _ hmem _ hmem' (congrArg Key.booking (hid.trans hid'.symm))
  · obtain ⟨p, hmem, hid⟩ := mem_of_payment_part (executed_of_open hrun hPmem) hp
    obtain ⟨p', hmem', hid'⟩ := mem_of_payment_part (executed_of_open hrun hQmem) hfirst
    exact hapart _ hmem _ hmem' (congrArg Key.payment (hid.trans hid'.symm))

/-- The commit of a script settles the payment. -/
theorem Unsettled.settle (hrun : Run (program host) (Timely host payment) ⟨db, []⟩ c)
    (hobeyed : ∀ P ∈ c.procs, Obeyed (Scripted payment booking) P.hist)
    (hun : Unsettled db payment booking c) {p : Nat} {P P' : Caller} (hP : c.procs[p]? = some P)
    (hclosed : sinceBegin P'.hist = none) {db' : Db}
    (hdb : db' = puts c.db (rowsOf Db ((sinceBegin P.hist).getD [])))
    (hscript : parts payment ((sinceBegin P.hist).getD []) ∈ scripts) :
    Done db payment ⟨db', c.procs.set p P'⟩ := by
  have hmem := List.mem_of_getElem? hP
  have hlt : p < c.procs.length := (List.getElem?_eq_some_iff.mp hP).1
  have hexec := executed_of_open hrun hmem
  have hall : ∀ script ∈ scripts, some Part.booking ∈ script ∧ some Part.payment ∈ script ∧
      (∀ o ∈ script, o.isSome = true) ∧ script.count (some .confirmation) = 1 ∧
      script.count (some .receipt) = 1 := by decide
  obtain ⟨hb, hp, hsome, hconfirmation, hreceipt⟩ := hall _ hscript
  refine ⟨hdb ▸ confirmed_of_script hexec hsome hb, hdb ▸ succeeded_of_script hexec hsome hp, ?_,
    fun Q hQ => ?_⟩
  · have hsees := hun.audits P hmem
    have hpending := pending_eq hrun hmem
    rw [view, hpending] at hsees
    have htally := tally_of_parts hexec hsome
    subst hdb
    exact ⟨_, hsees, htally.flagged, htally.confirmation.trans hconfirmation,
      htally.receipt.trans hreceipt⟩
  · obtain ⟨q, hq⟩ := List.mem_iff_getElem?.mp hQ
    by_cases hpq : p = q
    · subst hpq
      rw [List.getElem?_set_self hlt] at hq
      obtain rfl := Option.some.inj hq
      rw [hclosed]
      rfl
    · rw [List.getElem?_set_ne hpq] at hq
      exact closed_of_script hrun hobeyed hun hpq hP hq hscript

/-- Then nothing is written any more that settles it. -/
theorem Done.next (hrun : Run (program host) (Timely host payment) ⟨db, []⟩ c)
    (hok : Timely host payment c e) (hn : next (program host) c e = some c')
    (hdone : Done db payment c) : Done db payment c' := by
  rcases next_cases (program host) hn with ⟨op, rfl, rfl⟩ |
    ⟨p, P, i, k, r, tx, db', hP, hk, heff, rfl⟩
  · refine ⟨hdone.confirmed, hdone.paid, hdone.audits, fun Q hQ => ?_⟩
    rcases List.mem_append.mp hQ with hQ | hQ
    · exact hdone.closed Q hQ
    · rw [List.mem_singleton.mp hQ]
      rfl
  have hmem := List.mem_of_getElem? hP
  -- a statement that is answered is none that settles the payment
  have hpasses : ∀ s a, (⟨i, r⟩ : (i : Instr Stmt Ext) × Except Exn (i.Ans Ans)) =
      ⟨.stmt s, .ok a⟩ → s.settles = false := by
    intro s a heq
    cases heq
    obtain ⟨rfl, _⟩ := heff.exec_of_ok
    cases hs : s.settles with
    | false => rfl
    | true => exact absurd hdone.paid (hok P hP s (Proc.stmt?_eq hk) hs)
  have hclosed := hdone.closed P hmem
  have heff' := heff
  rw [hrun.tx_eq rfl P hmem] at heff'
  obtain ⟨new, hkept, hdb⟩ := heff'.kept
  have hnew : parts payment new = [] := by
    rcases kept_cons_cases hkept with rfl | ⟨_, rfl⟩ | ⟨s, a, heq, _, rfl⟩
    · rfl
    · exact hclosed
    · rw [parts_cons, hpasses s a heq]
      rfl
  have halike : Alike c.db db' := hdb ▸ alike_of_parts hnew
  refine ⟨?_, ?_, ?_, fun Q hQ => ?_⟩
  · obtain ⟨b, hb, hconfirmed⟩ := hdone.confirmed
    exact ⟨b, halike.bookings ▸ hb, hconfirmed⟩
  · obtain ⟨p', hp', hpaid⟩ := hdone.paid
    exact ⟨p', halike.payments ▸ hp', hpaid⟩
  · obtain ⟨rows, hrows, htally⟩ := hdone.audits
    exact ⟨rows, (congrArg (·.rows) halike.auditLogs).trans hrows, htally⟩
  · rcases List.mem_or_eq_of_mem_set hQ with hold | rfl
    · exact hdone.closed Q hold
    · show parts payment ((sinceBegin (⟨i, r⟩ :: P.hist)).getD []) = []
      rcases sinceBegin_cons_cases P.hist i r with hnone | hsame | ⟨s, a, heq, _, hmore⟩
      · rw [hnone]
        rfl
      · rw [hsame]
        exact hclosed
      · rw [hmore, parts_cons, hpasses s a heq, hclosed]
        rfl

/-- From the first phase a step leads to the second only by the commit of a
script. -/
theorem Unsettled.next (hpayment : db.paymentByOrder payment.gatewayOrderId = some payment)
    (hbooking : db.bookings.find? payment.bookingId = some booking)
    (hrun : Run (program host) (Timely host payment) ⟨db, []⟩ c)
    (hasks : ∀ P ∈ c.procs, ∀ i k, P.prog = .ask i k → Scripted payment booking P.hist i)
    (hobeyed : ∀ P ∈ c.procs, Obeyed (Scripted payment booking) P.hist)
    (hok : Timely host payment c e) (hn : next (program host) c e = some c')
    (hun : Unsettled db payment booking c) :
    Unsettled db payment booking c' ∨ Done db payment c' := by
  have hrun' := Run.step hrun hok hn
  rcases next_cases (program host) hn with ⟨op, rfl, rfl⟩ |
    ⟨p, P, i, k, r, tx, db', hP, hk, heff, rfl⟩
  · left
    have hnew : ∀ Q ∈ c.procs ++ [Proc.start (program host) op],
        Q ∈ c.procs ∨ Q = Proc.start (program host) op := by
      intro Q hQ
      exact (List.mem_append.mp hQ).imp id List.mem_singleton.mp
    refine ⟨hun.alike, fun Q hQ => ?_, fun Q hQ => ?_, fun Q hQ => ?_⟩
    · rcases hnew Q hQ with hold | rfl
      · exact hun.fresh Q hold
      · exact Fresh.nil
    · rcases hnew Q hQ with hold | rfl
      · exact hun.unwritten Q hold
      · rfl
    · rcases hnew Q hQ with hold | rfl
      · exact hun.audits Q hold
      · show c.db.auditLogs.rows = db.auditLogs.rows ++ []
        rw [hun.alike.auditLogs, List.append_nil]
  have hmem := List.mem_of_getElem? hP
  have hscripted := hasks P hmem i k hk
  have heff' := heff
  rw [hrun.tx_eq rfl P hmem] at heff'
  obtain ⟨new, hkept, hdb⟩ := heff'.kept
  by_cases hnew : parts payment new = []
  · exact Or.inl (hun.stay hpayment hbooking hrun hP hscripted heff hrun' hkept hdb hnew)
  right
  rcases kept_cons_cases hkept with rfl | ⟨rfl, rfl⟩ | ⟨s, a, heq, hout, rfl⟩
  · exact absurd rfl hnew
  · refine hun.settle hrun hobeyed hP rfl hdb ?_
    cases hopen : sinceBegin P.hist with
    | none => exact absurd (by rw [hopen]; rfl) hnew
    | some l =>
        rw [hopen] at hnew
        exact (hscripted (hun.fresh P hmem) l hopen).resolve_left hnew
  · cases heq
    refine absurd ?_ hnew
    rw [parts_cons]
    cases hs : s.settles with
    | false => rfl
    | true =>
        obtain ⟨l, hl, _⟩ := (hscripted (hun.fresh P hmem)).1 hs
        rw [hout] at hl
        cases hl

/-- **Every run** is in one of the two phases. -/
theorem phase_of_run (hpayment : db.paymentByOrder payment.gatewayOrderId = some payment)
    (hbooking : db.bookings.find? payment.bookingId = some booking)
    (hpending : booking.bookingStatus = .pendingPayment) (hunpaid : payment.status ≠ .success)
    (hrun : Run (program host) (Timely host payment) ⟨db, []⟩ c) :
    Unsettled db payment booking c ∨ Done db payment c := by
  have hprog : ∀ c op, Timely host payment c (.spawn op) →
      Obeys (Scripted payment booking) (Truthful host payment booking op) [] (program host op) :=
    fun _ _ hop => program_scripted hop hunpaid hpending
  induction hrun with
  | start =>
      have hnone : ∀ P : Caller, P ∉ (⟨db, []⟩ : System).procs := fun _ => List.not_mem_nil
      exact Or.inl ⟨⟨rfl, rfl, rfl⟩, fun P hP => absurd hP (hnone P),
        fun P hP => absurd hP (hnone P), fun P hP => absurd hP (hnone P)⟩
  | @step c c' e hrun hok hn ih =>
      rcases ih with hun | hdone
      · have hobeys := hrun.obeys (Q := fun _ => Scripted payment booking)
          (R := Truthful host payment booking) hprog rfl
        have hobeyed := hrun.obeyed (Q := fun _ => Scripted payment booking)
          (R := Truthful host payment booking) hprog rfl
        refine hun.next hpayment hbooking hrun (fun P hP i k hk => ?_) hobeyed hok hn
        have hnext := hobeys P hP
        rw [hk] at hnext
        exact hnext.1
      · exact Or.inr (hdone.next hrun hok hn)

/-! ## The runs -/

/-- The call has returned, and reports the payment as settled. -/
def Reported (host : Host) (payment : Payment) (P : Caller) : Prop :=
  ∃ r ∈ returned P.prog, Reports host payment P.op r

/-- No money is flagged for a refund, and no audit row is written twice; once a
call reports the payment as settled, the booking is CONFIRMED and both audit rows
are there. -/
structure SettledOnce (host : Host) (db : Db) (payment : Payment) (c : System) : Prop where
  flagged : c.db.auditLogs.rows.countP AuditLog.flagged =
    db.auditLogs.rows.countP AuditLog.flagged
  confirmation : c.db.auditLogs.rows.countP (·.confirmation payment.bookingId) ≤
    db.auditLogs.rows.countP (·.confirmation payment.bookingId) + 1
  receipt : c.db.auditLogs.rows.countP (·.receipt payment.id) ≤
    db.auditLogs.rows.countP (·.receipt payment.id) + 1
  settled : (∃ P ∈ c.procs, Reported host payment P) → Confirmed c.db payment.bookingId ∧
    c.db.auditLogs.rows.countP (·.confirmation payment.bookingId) =
      db.auditLogs.rows.countP (·.confirmation payment.bookingId) + 1 ∧
    c.db.auditLogs.rows.countP (·.receipt payment.id) =
      db.auditLogs.rows.countP (·.receipt payment.id) + 1

end

/-- **One call settles the payment**, in every run in which no write comes after
the payment is SUCCESS. -/
theorem settled_once (host : Host) (db : Db) (payment : Payment) (booking : Booking) (c : System)
    (hpayment : db.paymentByOrder payment.gatewayOrderId = some payment)
    (hbooking : db.bookings.find? payment.bookingId = some booking)
    (hpending : booking.bookingStatus = .pendingPayment) (hunpaid : payment.status ≠ .success)
    (hrun : Run (program host) (Timely host payment) ⟨db, []⟩ c) :
    SettledOnce host db payment c := by
  rcases phase_of_run hpayment hbooking hpending hunpaid hrun with hun | hdone
  · have hsame := hun.alike.auditLogs
    refine ⟨by rw [hsame], by rw [hsame]; omega, by rw [hsame]; omega, ?_⟩
    rintro ⟨P, hP, r, hr, hreports⟩
    have hobeys := hrun.obeys (Q := fun _ => Scripted payment booking)
      (R := Truthful host payment booking)
      (fun _ _ hop => program_scripted hop hunpaid hpending) rfl P hP
    have hret : P.prog = .ret r := by
      cases hprog : P.prog <;> simp_all [returned]
    rw [hret] at hobeys
    exact absurd (hun.unwritten P hP) (hobeys (hun.fresh P hP) hreports)
  · obtain ⟨new, hnew, htally⟩ := hdone.audits
    have hconfirmation := htally.confirmation
    have hreceipt := htally.receipt
    rw [show List.count (some Part.confirmation) _ = 1 from rfl] at hconfirmation
    rw [show List.count (some Part.receipt) _ = 1 from rfl] at hreceipt
    refine ⟨?_, ?_, ?_, fun _ => ⟨hdone.confirmed, ?_, ?_⟩⟩
    · rw [hnew, List.countP_append, htally.flagged, Nat.add_zero]
    all_goals rw [hnew, List.countP_append]; omega

/-! ## Who comes late -/

/-- The call has read the payment as SUCCESS, and a booking as CONFIRMED. -/
structure ReadsSettled (orderId : String) (h : CallHist) : Prop where
  paid : ∀ o, (⟨.stmt (.findPaymentByOrder orderId), .ok o⟩ :
    (i : Instr Stmt Ext) × Except Exn (i.Ans Ans)) ∈ h → ∃ p ∈ o, p.status = .success
  confirmed : ∀ id o, (⟨.stmt (.findBooking id), .ok o⟩ :
    (i : Instr Stmt Ext) × Except Exn (i.Ans Ans)) ∈ h → ∃ b ∈ o, b.bookingStatus = .confirmed

/-- Then it writes rows of webhook events only. -/
def Abstains (orderId : String) (h : CallHist) : Instr Stmt Ext → Prop
  | .stmt s => ReadsSettled orderId h → s.settles = false
  | _ => True

section
variable {host : Host} {ctx : Ctx} {orderId : String} {h : CallHist} {α : Type}

/-- Of a call that has read anything else, nothing is asked. -/
theorem abstains_of_unsettled {R : CallHist → Except Exn α → Prop}
    (hr : ∀ h r, ¬ ReadsSettled orderId h → R h r) : ∀ {p : Call α} {h : CallHist},
      ¬ ReadsSettled orderId h → Obeys (Abstains orderId) R h p
  | .ret _, h, hnot => hr h _ hnot
  | .throw _, h, hnot => hr h _ hnot
  | .ask i k, h, hnot => by
      refine ⟨?_, fun r => abstains_of_unsettled hr fun hreads => hnot
        ⟨fun o ho => hreads.paid o (List.mem_cons_of_mem _ ho),
          fun id o ho => hreads.confirmed id o (List.mem_cons_of_mem _ ho)⟩⟩
      cases i with
      | stmt s => exact fun hreads => absurd hreads hnot
      | _ => trivial

/-- The payment and its booking are read as settled, or nothing is asked. -/
theorem findByGatewayOrderId_abstains {f : Option PaymentWithBooking → Call α}
    (hf : ∀ h payment, payment.status = .success → payment.booking.bookingStatus = .confirmed →
      Obeys (Abstains orderId) (fun _ _ => True) h (f (some payment))) :
    Obeys (Abstains orderId) (fun _ _ => True) h
      (autocommit Ext (PaymentRepository.findByGatewayOrderId orderId) >>= f) := by
  refine obeys_bind.mpr (PaymentRepository.obeys_findByGatewayOrderId.mpr
    ⟨fun _ => rfl, fun o => ?_, fun _ => trivial⟩)
  by_cases hpaid : ∃ p ∈ o, p.status = .success
  · obtain ⟨p, ⟨⟩, hp⟩ := hpaid
    refine PaymentRepository.obeys_includeBooking.mpr ⟨nofun, ?_⟩
    rintro _ ⟨⟩
    refine ⟨fun _ => rfl, fun b => ?_, trivial, fun _ => trivial⟩
    by_cases hb : b.bookingStatus = .confirmed
    · exact hf _ ⟨p, b⟩ hp hb
    · refine abstains_of_unsettled (fun _ _ _ => trivial) fun hreads => hb ?_
      obtain ⟨_, ⟨⟩, hconfirmed⟩ := hreads.confirmed p.bookingId _ List.mem_cons_self
      exact hconfirmed
  · refine abstains_of_unsettled ?_ fun hreads => hpaid (hreads.paid o List.mem_cons_self)
    rintro h (e | found) hnot
    · trivial
    · exact abstains_of_unsettled (fun _ _ _ => trivial) hnot

theorem afterConfirmation_abstains {bookingId : Uuid} :
    Obeys (Abstains orderId) (fun _ _ => True) h (afterConfirmation ctx bookingId) := by
  unfold afterConfirmation
  simp only [obeys_bind, enqueue, obeys_external]
  simp [Abstains]

theorem verifyClientPayment_abstains {customerId : Uuid} {dto : VerifyPaymentDto}
    (horder : dto.razorpayOrderId = orderId) :
    Obeys (Abstains orderId) (fun _ _ => True) h (verifyClientPayment host ctx customerId dto) := by
  unfold verifyClientPayment
  simp only [horder]
  refine findByGatewayOrderId_abstains fun h payment hpaid hconfirmed => ?_
  simp only [obeys_bind, obeys_orThrow, obeys_throwIf, obeys_ite, obeys_pure]
  refine ⟨nofun, ?_⟩
  rintro _ ⟨⟩
  exact ⟨fun _ => trivial, fun _ => ⟨fun _ => trivial, fun _ => ⟨fun _ => trivial, fun hnot =>
    absurd ⟨hpaid, hconfirmed⟩ hnot⟩⟩⟩

theorem recordAndSkip_abstains {event : WebhookEvent} {eventId : String} :
    Obeys (Abstains orderId) (fun _ _ => True) h (autocommit Ext (recordAndSkip host ctx event eventId)) := by
  unfold recordAndSkip requireString
  simp only [autocommit_bind, obeys_bind, autocommit_orThrow, obeys_orThrow,
    PaymentRepository.obeys_recordWebhookEvent, autocommit_pure, obeys_pure]
  exact ⟨fun _ => trivial, fun _ _ => ⟨fun _ => trivial,
    fun _ => ⟨fun _ => rfl, fun _ => trivial, fun _ => trivial⟩⟩⟩

theorem webhookTx_abstains {payment : PaymentWithBooking} {event : WebhookEvent} {eventId : String}
    (hcapture : ∀ eventType, asText event.eventName = some eventType → isCapture eventType)
    (hpaid : payment.status = .success) : Obeys (Abstains orderId) (fun _ _ => True) h
      (autocommit Ext (webhookTx host ctx payment event eventId)) := by
  unfold webhookTx requireString
  rw [autocommit_bind, obeys_bind, autocommit_orThrow, obeys_orThrow]
  refine ⟨fun _ => trivial, fun eventType hname => ?_⟩
  dsimp only
  rw [autocommit_bind, obeys_bind]
  refine PaymentRepository.obeys_recordWebhookEvent.mpr ⟨fun _ => trivial, fun _ =>
    ⟨fun _ => rfl, fun row => ?_, fun _ => trivial⟩⟩
  have hcaptured : handleEvent host ctx payment event eventType =
      handleCaptured host ctx payment event eventType := if_pos (hcapture _ hname)
  dsimp only
  rw [hcaptured, handleCaptured, if_pos hpaid]
  show Obeys _ _ _ (autocommit Ext (do
    let _ ← PaymentRepository.markWebhookEventProcessed (ctx.clock 5) row.id
    pure none : Query (Option Uuid)))
  rw [autocommit_bind, obeys_bind]
  exact PaymentRepository.obeys_markWebhookEventProcessed.mpr
    ⟨fun _ => rfl, fun _ => trivial, fun _ => trivial⟩

theorem handleWebhookEvent_abstains {delivery : Delivery} {event : WebhookEvent}
    (hread : readDelivery host delivery = .ok event)
    (hcapture : ∀ eventType, asText event.eventName = some eventType → isCapture eventType)
    (horder : asText event.gatewayOrderId = some orderId) :
    Obeys (Abstains orderId) (fun _ _ => True) h (handleWebhookEvent host ctx delivery) := by
  unfold handleWebhookEvent processWebhookEvent requireString
  rw [hread]
  dsimp only
  rw [autocommit_orThrow, obeys_bind, obeys_orThrow]
  refine ⟨fun _ => trivial, fun eventId _ => ?_⟩
  dsimp only
  rw [obeys_bind]
  refine PaymentRepository.obeys_findWebhookEvent.mpr ⟨fun _ => rfl, fun existing => ?_,
    fun _ => trivial⟩
  dsimp only
  rw [obeys_ite, obeys_ite]
  refine ⟨fun _ => trivial, fun _ => ⟨fun _ => recordAndSkip_abstains, fun _ => ?_⟩⟩
  rw [autocommit_orThrow, obeys_bind, obeys_orThrow]
  refine ⟨fun _ => trivial, fun orderId' hid => ?_⟩
  obtain rfl := Option.some.inj (hid.symm.trans horder)
  refine findByGatewayOrderId_abstains fun h payment hpaid _ => ?_
  dsimp only
  rw [obeys_catching, obeys_bind]
  have hcatch : ∀ (h : CallHist) (e : Exn), Obeys (Abstains orderId') (fun _ _ => True) h
      (if e.isDuplicate then (pure .alreadyProcessed : Call WebhookResult) else .throw e) := by
    intro h e
    split <;> trivial
  refine obeys_transaction.mpr ⟨trivial, fun e => hcatch _ e, ?_⟩
  refine (webhookTx_abstains hcapture hpaid).mono (fun _ _ hq => hq) ?_
  rintro h (e | confirmed) _
  · exact ⟨trivial, fun _ => hcatch _ e⟩
  refine ⟨trivial, ?_, fun e => hcatch _ e⟩
  cases confirmed with
  | none => trivial
  | some bookingId =>
      dsimp only
      rw [obeys_bind]
      refine afterConfirmation_abstains.mono (fun _ _ hq => hq) ?_
      rintro h (e | _) _
      · exact hcatch h e
      · trivial

/-- **A call that reads the payment as settled** writes nothing but the row of its
event. -/
theorem program_abstains {op : Op} (hop : op.captures host orderId) :
    Obeys (Abstains orderId) (fun _ _ => True) [] (program host op) := by
  obtain ⟨ctx, request⟩ := op
  cases request with
  | verifyClientPayment customerId dto => exact (verifyClientPayment_abstains hop).map
  | handleWebhookEvent delivery =>
      obtain ⟨event, hevent, horder, eventType, hname, hcapture⟩ := hop
      obtain ⟨_, ⟨⟩, hread⟩ := (Op.event_eq host).mp hevent
      refine (handleWebhookEvent_abstains hread (fun other hother => ?_) horder).map
      obtain rfl := Option.some.inj (hname.symm.trans hother)
      exact hcapture
  | _ => exact hop.elim

/-- So whoever is to settle the payment, in time or late, has read it or its booking
before that was done. -/
theorem unsettled_of_settles {db : Db} {c : System} {Ok : System → Event Op Exn → Prop}
    (hcaptures : ∀ c op, Ok c (.spawn op) → op.captures host orderId)
    (hrun : Run (program host) Ok ⟨db, []⟩ c) {P : Caller} (hP : P ∈ c.procs) {s : Stmt}
    {k : Except Exn (Ans s) → Call Response} (hk : P.prog = .ask (.stmt s) k)
    (hsettles : s.settles = true) : ¬ ReadsSettled orderId P.hist := by
  have hobeys := hrun.obeys (Q := fun _ => Abstains orderId) (R := fun _ _ _ => True)
    (fun c op hok => program_abstains (hcaptures c op hok)) rfl P hP
  rw [hk] at hobeys
  intro hreads
  rw [hobeys.1 hreads] at hsettles
  cases hsettles

end

/-! ## Two runs -/

/-- The calls are about one order. -/
def Capturing (host : Host) (orderId : String) (_ : System) : Event Op Exn → Prop
  | .spawn op => op.captures host orderId
  | .exec _ => True
  | .fail _ _ => True

instance (host : Host) (orderId : String) (c : System) :
    ∀ e, Decidable (Capturing host orderId c e)
  | .spawn op => inferInstanceAs (Decidable (op.captures host orderId))
  | .exec _ => .isTrue trivial
  | .fail _ _ => .isTrue trivial

namespace Sample

/-- Two deliveries and a verification, one after the other. -/
def oneByOne : List (Event Op Exn) :=
  .spawn (deliver 1 "payment.captured") :: steps 0 15 ++
    .spawn (deliver 2 "order.paid") :: steps 1 7 ++ .spawn (verify 3) :: steps 2 2

/-- Both deliveries read the payment before either begins its transaction. -/
def bothUnpaid : List (Event Op Exn) :=
  .spawn (deliver 1 "payment.captured") :: .spawn (deliver 2 "order.paid") ::
    steps 0 3 ++ steps 1 3 ++ steps 0 12 ++ steps 1 8

end Sample

/-- All three calls report the payment as settled. -/
theorem settled_once_sample : ∃ payment booking c,
    Sample.booked.paymentByOrder "order_1" = some payment ∧
    Sample.booked.bookings.find? payment.bookingId = some booking ∧
    booking.bookingStatus = .pendingPayment ∧ payment.status ≠ .success ∧
    runChecked (program Sample.host) (Timely Sample.host payment) ⟨Sample.booked, []⟩
      Sample.oneByOne = some c ∧
    c.procs.all (fun P => P.prog.head.isNone) = true ∧
    SettledOnce Sample.host Sample.booked payment c := by
  obtain ⟨payment, hpayment⟩ := Option.isSome_iff_exists.mp
    (show (Sample.booked.paymentByOrder "order_1").isSome by decide +kernel)
  have hstate : ∀ p ∈ Sample.booked.paymentByOrder "order_1", p.status ≠ .success ∧
      p.gatewayOrderId = "order_1" ∧ (Sample.booked.bookings.find? p.bookingId).any (fun b =>
        b.bookingStatus == .pendingPayment) = true := by decide +kernel
  obtain ⟨hunpaid, horder, hwaits⟩ := hstate payment hpayment
  obtain ⟨booking, hbooking, hpending⟩ := (Option.any_eq_true _ _).mp hwaits
  have hrun : ∀ p ∈ Sample.booked.paymentByOrder "order_1",
      (runChecked (program Sample.host) (Timely Sample.host p) ⟨Sample.booked, []⟩
        Sample.oneByOne).any (fun c => c.procs.all (fun P => P.prog.head.isNone)) = true := by
    decide +kernel
  obtain ⟨c, hc, hended⟩ := (Option.any_eq_true _ _).mp (hrun payment hpayment)
  have hfound : Sample.booked.paymentByOrder payment.gatewayOrderId = some payment := by
    rw [horder]
    exact hpayment
  have hstill : booking.bookingStatus = .pendingPayment := beq_iff_eq.mp hpending
  have hsettled := settled_once Sample.host Sample.booked payment booking c hfound hbooking hstill
    hunpaid (Run.of_runChecked _ _ hc)
  exact ⟨payment, booking, c, hpayment, hbooking, hstill, hunpaid, hc, hended, hsettled⟩

/-- The second delivery finds the booking CONFIRMED: it flags the money, and
writes PAYMENT_SUCCESS again. -/
theorem not_settled_once : ∃ payment booking c,
    Sample.booked.paymentByOrder "order_1" = some payment ∧
    Sample.booked.bookings.find? payment.bookingId = some booking ∧
    booking.bookingStatus = .pendingPayment ∧ payment.status ≠ .success ∧
    runChecked (program Sample.host) (Capturing Sample.host "order_1") ⟨Sample.booked, []⟩
      Sample.bothUnpaid = some c ∧
    c.procs.all (fun P => P.prog.head.isNone) = true ∧
    c.db.auditLogs.rows.countP AuditLog.flagged = 1 ∧
    c.db.auditLogs.rows.countP (·.receipt payment.id) = 2 ∧
    ¬ SettledOnce Sample.host Sample.booked payment c := by
  obtain ⟨payment, hpayment⟩ := Option.isSome_iff_exists.mp
    (show (Sample.booked.paymentByOrder "order_1").isSome by decide +kernel)
  have hstate : ∀ p ∈ Sample.booked.paymentByOrder "order_1", p.status ≠ .success ∧
      (Sample.booked.bookings.find? p.bookingId).any (fun b =>
        b.bookingStatus == .pendingPayment) = true := by decide +kernel
  obtain ⟨hunpaid, hwaits⟩ := hstate payment hpayment
  obtain ⟨booking, hbooking, hpending⟩ := (Option.any_eq_true _ _).mp hwaits
  have hrun : ∀ p ∈ Sample.booked.paymentByOrder "order_1",
      (runChecked (program Sample.host) (Capturing Sample.host "order_1") ⟨Sample.booked, []⟩
        Sample.bothUnpaid).any (fun c => c.procs.all (fun P => P.prog.head.isNone) &&
          (c.db.auditLogs.rows.countP AuditLog.flagged == 1 &&
            c.db.auditLogs.rows.countP (·.receipt p.id) == 2)) = true := by
    decide +kernel
  obtain ⟨c, hc, hend⟩ := (Option.any_eq_true _ _).mp (hrun payment hpayment)
  simp only [Bool.and_eq_true, beq_iff_eq] at hend
  obtain ⟨hended, hflagged, hreceipts⟩ := hend
  have hnone : Sample.booked.auditLogs.rows.countP AuditLog.flagged = 0 := by decide +kernel
  refine ⟨payment, booking, c, hpayment, hbooking, beq_iff_eq.mp hpending, hunpaid, hc, hended,
    hflagged, hreceipts, fun hsettled => ?_⟩
  have hsame := hsettled.flagged
  rw [hflagged, hnone] at hsame
  cases hsame

end ServiceHub
