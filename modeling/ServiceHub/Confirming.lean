/-
# `Confirming` — only a signed payment confirms a booking

A booking becomes CONFIRMED by `verifyClientPayment` of its own customer, after
a signature of the gateway over an order of the booking, or by a signed webhook
delivery that names a capture of such an order.  Nothing else sets the status:
the other operations write other ones (`program_writes`), and the overdue check
leaves the status as it finds it, which stays locked until it commits
(`Run.locked`).
-/
import ServiceHub.Writes

namespace ServiceHub

open Data Txn

/-! ## Signatures -/

theorem utf8_injective {s t : String} (h : utf8 s = utf8 t) : s = t :=
  String.toByteArray_inj.mp (ByteArray.ext (Array.toList_inj.mp h))

theorem eq_of_digestMatches {expected signature : String}
    (h : digestMatches expected signature = true) : signature = expected := by
  unfold digestMatches at h
  split at h
  · cases h
  · exact (utf8_injective (by simpa using h)).symm

/-- The call comes with a signature over an order of the booking: of its own
customer, or of the gateway over a body that names a capture. -/
def Authenticated (host : Host) (op : Op) (db : Db) (id : Uuid) : Prop :=
  match op.request with
  | .verifyClientPayment customerId dto =>
      dto.razorpaySignature = host.hmacSha256 host.keySecret
          (utf8 s!"{dto.razorpayOrderId}|{dto.razorpayPaymentId}") ∧
        (∃ p ∈ db.payments.rows, p.gatewayOrderId = dto.razorpayOrderId ∧ p.bookingId = id) ∧
        ∃ b, db.bookings.find? id = some b ∧ b.customerId = customerId
  | .handleWebhookEvent delivery =>
      delivery.signature = some (host.hmacSha256 host.webhookSecret delivery.rawBody) ∧
        ∃ body eventType orderId, host.jsonParse delivery.rawBody = some body ∧
          asText (body.prop "event") = some eventType ∧ isCapture eventType ∧
          asText (readWebhookEvent host delivery.headerEventId body).gatewayOrderId = some orderId ∧
          ∃ p ∈ db.payments.rows, p.gatewayOrderId = orderId ∧ p.bookingId = id
  | _ => False

theorem readDelivery_ok {host : Host} {delivery : Delivery} {event : WebhookEvent}
    (h : readDelivery host delivery = .ok event) :
    delivery.signature = some (host.hmacSha256 host.webhookSecret delivery.rawBody) ∧
      ∃ body, host.jsonParse delivery.rawBody = some body ∧
        event = readWebhookEvent host delivery.headerEventId body := by
  unfold readDelivery at h
  split at h
  · cases h
  · rename_i signature hsignature
    split at h
    · cases h
    · rename_i hverified
      split at h
      · cases h
      · cases h
      · rename_i body _ hbody
        cases h
        obtain ⟨hgiven, _⟩ := Option.filter_eq_some_iff.mp hsignature
        have hmatches : digestMatches (host.hmacSha256 host.webhookSecret delivery.rawBody)
            signature = true := by simpa [verifyWebhookSignature] using hverified
        refine ⟨?_, body, hbody, rfl⟩
        rw [hgiven, eq_of_digestMatches hmatches]

/-! ## What a call has read -/

section
variable {host : Host} {db : Db} {Ok : System → Event Op Exn → Prop} {c : System} {P : Caller}
  {h : CallHist} {id : Uuid}

/-- The order that was found is of a payment of that booking, and still is. -/
theorem payment_of_found (hrun : Run (program host) Ok ⟨db, []⟩ c) (hP : P ∈ c.procs)
    {orderId : String} {p : Payment}
    (hfound : Found P.hist (.findPaymentByOrder orderId) (some p)) :
    ∃ p' ∈ c.db.payments.rows, p'.gatewayOrderId = orderId ∧ p'.bookingId = p.bookingId := by
  obtain ⟨_, hmem, hout⟩ := hfound
  obtain ⟨c₁, hrun₁, hrun₂, hexec⟩ := hrun.seen rfl hP hmem hout
  have hread : c₁.db.paymentByOrder orderId = some p := Except.ok.inj hexec
  have horder : p.gatewayOrderId = orderId := by
    simpa using List.find?_some hread
  have hget : Txn.Database.get c₁.db (Key.payment p.id) = some (Row.payment p) :=
    Option.map_eq_some_iff.mpr ⟨p, Table.find?_of_mem (List.mem_of_find?_eq_some hread), rfl⟩
  obtain ⟨r, hr, hrevises⟩ := revises_of_run hrun₁ hrun₂ hget
  cases r with
  | payment p' =>
      have hcolumns : p' = p.revised p' := hrevises
      obtain ⟨q, hq, heq⟩ := Option.map_eq_some_iff.mp hr
      cases heq
      refine ⟨p', Table.mem_of_find? hq, ?_, ?_⟩
      · rw [hcolumns]
        exact horder
      · rw [hcolumns]
        rfl
  | _ => exact hrevises.elim

/-- The booking that was found has the same customer still. -/
theorem booking_of_found (hrun : Run (program host) Ok ⟨db, []⟩ c) (hP : P ∈ c.procs)
    {b : Booking} (hfound : Found P.hist (.findBooking id) (some b)) :
    ∃ b', c.db.bookings.find? id = some b' ∧ b'.customerId = b.customerId := by
  obtain ⟨_, hmem, hout⟩ := hfound
  obtain ⟨c₁, hrun₁, hrun₂, hexec⟩ := hrun.seen rfl hP hmem hout
  have hread : c₁.db.bookings.find? id = some b := Except.ok.inj hexec
  have hget : Txn.Database.get c₁.db (Key.booking id) = some (Row.booking b) :=
    Option.map_eq_some_iff.mpr ⟨b, hread, rfl⟩
  obtain ⟨r, hr, hrevises⟩ := revises_of_run hrun₁ hrun₂ hget
  cases r with
  | booking b' =>
      have hcolumns : b' = b.revised b' := hrevises
      obtain ⟨b₁, hb₁, heq⟩ := Option.map_eq_some_iff.mp hr
      cases heq
      refine ⟨b', hb₁, ?_⟩
      rw [hcolumns]
      rfl
  | _ => exact hrevises.elim

/-- What the code checks is what it has to know. -/
theorem authenticated_of_evidence (hrun : Run (program host) Ok ⟨db, []⟩ c) (hP : P ∈ c.procs)
    (hsuffix : h <:+ P.hist) (hevidence : Evidence host P.op h id) :
    Authenticated host P.op c.db id := by
  unfold Evidence at hevidence
  unfold Authenticated
  cases hrequest : P.op.request with
  | verifyClientPayment customerId dto =>
      rw [hrequest] at hevidence
      obtain ⟨hsigned, p, b, hp, rfl, hb, rfl⟩ := hevidence
      exact ⟨eq_of_digestMatches hsigned, payment_of_found hrun hP (hp.mono hsuffix),
        booking_of_found hrun hP (hb.mono hsuffix)⟩
  | handleWebhookEvent delivery =>
      rw [hrequest] at hevidence
      obtain ⟨event, eventType, orderId, p, hread, hname, hcapture, horder, hp, rfl⟩ := hevidence
      obtain ⟨hsigned, body, hbody, rfl⟩ := readDelivery_ok hread
      exact ⟨hsigned, body, eventType, orderId, hbody, hname, hcapture, horder,
        payment_of_found hrun hP (hp.mono hsuffix)⟩
  | _ =>
      rw [hrequest] at hevidence
      exact hevidence.elim

end

/-! ## What sets the status -/

/-- The statement sets the status of the booking to CONFIRMED. -/
def Confirms (id : Uuid) : Stmt → Prop
  | .createBooking b => b.id = id ∧ b.bookingStatus = .confirmed
  | .updateBooking id' data => id' = id ∧ data.bookingStatus = some .confirmed
  | .updateBookings w data => w.id = id ∧ data.bookingStatus = some .confirmed
  | _ => False

def Confirmed (db : Db) (id : Uuid) : Prop :=
  ∃ b ∈ db.bookings.find? id, b.bookingStatus = .confirmed

instance (db : Db) (id : Uuid) : Decidable (Confirmed db id) :=
  inferInstanceAs (Decidable (∃ b ∈ db.bookings.find? id, b.bookingStatus = .confirmed))

section
variable {host : Host} {db : Db} {Ok : System → Event Op Exn → Prop} {c c' : System}
  {e : Event Op Exn} {P : Caller} {h : CallHist} {id : Uuid}

/-- A call that issues such a statement has the evidence. -/
theorem evidence_of_confirms {op : Op} {s : Stmt} (hasks : Asks host op h (.stmt s))
    (hwrites : Writes host op h (.stmt s)) (hs : Confirms id s) : Evidence host op h id := by
  cases s with
  | createBooking b =>
      obtain ⟨_, _, _, _, _, _, _, _, _, _, hb⟩ := hasks
      have hstatus := hs.2
      rw [hb] at hstatus
      cases hstatus
  | updateBooking id' data =>
      obtain ⟨rfl, hset⟩ := hs
      obtain ⟨_, status, hset', _, hevidence⟩ := hwrites
      exact hevidence (Option.some.inj (hset'.symm.trans hset))
  | updateBookings w data =>
      obtain ⟨⟨_, _, _, rfl⟩ | ⟨_, _, _, rfl⟩, _⟩ := hwrites
      · cases hs.2
      · cases hs.2
  | _ => exact hs.elim

/-- What a call has issued, it was to issue. -/
theorem issued_of_run (hrun : Run (program host) Ok ⟨db, []⟩ c) (hP : P ∈ c.procs)
    {x : (s : Stmt) × Ans s} (hx : (⟨.stmt x.1, .ok x.2⟩ : (i : Instr Stmt Ext) ×
      Except Exn (i.Ans Ans)) ∈ P.hist) :
    ∃ h, h <:+ P.hist ∧ Asks host P.op h (.stmt x.1) ∧ Writes host P.op h (.stmt x.1) := by
  have hobeyed := hrun.obeyed (Q := fun op h i => Asks host op h i ∧ Writes host op h i)
    (R := fun _ _ _ => True ∧ True) (fun _ _ _ => program_asks.and program_writes) rfl P hP
  obtain ⟨h, hsuffix, hasks, hwrites⟩ := hobeyed.of_mem hx
  exact ⟨h, (List.suffix_cons _ _).trans hsuffix, hasks, hwrites⟩

/-- A call that has confirmed the booking comes with the evidence. -/
theorem authenticated_of_mem (hrun : Run (program host) Ok ⟨db, []⟩ c) (hP : P ∈ c.procs)
    {x : (s : Stmt) × Ans s} (hx : (⟨.stmt x.1, .ok x.2⟩ : (i : Instr Stmt Ext) ×
      Except Exn (i.Ans Ans)) ∈ P.hist) (hconfirms : Confirms id x.1) :
    Authenticated host P.op c.db id := by
  obtain ⟨h, hsuffix, hasks, hwrites⟩ := issued_of_run hrun hP hx
  exact authenticated_of_evidence hrun hP hsuffix (evidence_of_confirms hasks hwrites hconfirms)

/-- A confirmed booking was written by a statement that confirms it, or by the
overdue check over a row that was confirmed. -/
theorem confirms_of_written {op : Op} {s : Stmt} {a : Ans s} {db : Db}
    (hexec : db.exec s = .ok a) (hasks : Asks host op h (.stmt s))
    (hwrites : Writes host op h (.stmt s)) {b' : Booking} (hw : Row.booking b' ∈ s.written a)
    (hstatus : b'.bookingStatus = .confirmed) : Confirms b'.id s ∨
    ∃ w data b, s = .updateBookings w data ∧ b' = data.on b ∧ b.bookingStatus = .confirmed ∧
      db.get (.booking b'.id) = some (.booking b) := by
  rcases Stmt.written_booking hexec hw with ⟨rfl, _⟩ | ⟨b, data, hget, rfl, rfl | ⟨w, rfl, htest⟩⟩
  · exact Or.inl ⟨rfl, hstatus⟩
  · obtain ⟨_, status, hset, _⟩ := hwrites
    refine Or.inl ⟨rfl, ?_⟩
    simpa [BookingUpdate.on, hset] using hstatus
  · refine Or.inr ⟨w, data, b, rfl, rfl, ?_, hget⟩
    simp only [BookingWhere.test, Bool.and_eq_true, beq_iff_eq] at htest
    obtain ⟨⟨_, _, _, rfl⟩ | ⟨_, hw, _, _⟩, _⟩ := hwrites
    · cases hstatus
    · rw [htest.1.2, hw]

/-- While the overdue check has a row locked, the committed row is as it was
found. -/
theorem locked_of_run (hrun : Run (program host) Ok ⟨db, []⟩ c) (hP : P ∈ c.procs)
    {x : (s : Stmt) × Ans s} (hx : x ∈ (sinceBegin P.hist).getD []) {b' : Booking}
    (hw : Row.booking b' ∈ x.1.written x.2) {w : BookingWhere} {data : BookingUpdate}
    (hs : x.1 = .updateBookings w data) :
    ∃ b, c.db.get (.booking b'.id) = some (.booking b) ∧ b' = data.on b ∧ w.test b = true := by
  have hlocked := hrun.locked (L := fun s _ r found => ∀ w data b', s = .updateBookings w data →
    r = .booking b' → ∃ b, found = some (.booking b) ∧ b' = data.on b ∧ w.test b = true) rfl ?_
      P hP x hx (.booking b') hw
  · exact hlocked w data b' hs rfl
  · rintro c p P s k a hrun _ hP hk hexec r hr w data b' rfl rfl
    have hmem := List.mem_of_getElem? hP
    have hwrites := writes_of_run hrun P hmem
    rw [hk] at hwrites
    obtain ⟨_, found, hopen⟩ := hwrites.1
    -- it has written nothing before, so it sees the committed rows
    have hview : view c.db P = c.db := by
      simp [view, Proc.pending, hrun.tx_eq rfl P hmem, hopen, rowsOf, puts,
        Txn.Database.written, Stmt.written]
    rw [hview] at hexec
    rcases Stmt.written_booking hexec hr with ⟨hs, _⟩ | ⟨b, data', hget, rfl, hs | ⟨w', hs, htest⟩⟩
    · cases hs
    · cases hs
    · cases hs
      exact ⟨b, hget, rfl, htest⟩

end

/-- **Only authenticated payment evidence confirms a booking.**  A step that
makes a booking CONFIRMED is one of a call that comes with it, and so does every
call of which a statement counts that sets the status. -/
theorem confirmed_by_evidence (host : Host) (db : Db) (c c' : System) (e : Event Op Exn) (id : Uuid)
    (hrun : Run (program host) (fun _ _ => True) ⟨db, []⟩ c)
    (hn : next (program host) c e = some c') :
    (Confirmed c'.db id → Confirmed c.db id ∨ ∃ (p : Nat) (P : Caller), e = .exec p ∧
      c.procs[p]? = some P ∧ Authenticated host P.op c.db id) ∧
    ∀ P ∈ c'.procs, ∀ x ∈ kept P.hist, Confirms id x.1 → Authenticated host P.op c'.db id := by
  refine ⟨?_, fun P hP x hx hconfirms =>
    authenticated_of_mem (.step hrun trivial hn) hP (mem_of_kept hx) hconfirms⟩
  rintro ⟨b', hb', hstatus⟩
  obtain rfl : b'.id = id := Table.key_of_find? hb'
  have hget : c'.db.get (.booking b'.id) = some (.booking b') :=
    Option.map_eq_some_iff.mpr ⟨b', hb', rfl⟩
  have hconfirmed : ∀ b, c.db.get (.booking b'.id) = some (.booking b) →
      b.bookingStatus = .confirmed → Confirmed c.db b'.id := by
    intro b hb hconfirmed
    obtain ⟨b₁, hb₁, heq⟩ := Option.map_eq_some_iff.mp hb
    cases heq
    exact ⟨b, hb₁, hconfirmed⟩
  rcases hrun.db_next rfl hn with hdb |
    ⟨p, P, hP, rfl, ⟨k, l, hk, hl, hdb⟩ | ⟨s, k, a, hk, hout, hexec, hdb⟩⟩
  · exact Or.inl (hconfirmed b' (hdb ▸ hget) hstatus)
  · -- a transaction
    have hmem := List.mem_of_getElem? hP
    rw [hdb] at hget
    rcases view_row hget with ⟨hnew, _⟩ | hold
    · obtain ⟨⟨s, a⟩, hx, hw⟩ := mem_rowsOf.mp hnew
      have hopen : (⟨s, a⟩ : (s : Stmt) × Ans s) ∈ (sinceBegin P.hist).getD [] := by rwa [hl]
      have hin := mem_of_sinceBegin hopen
      obtain ⟨db', hexec⟩ := hrun.executed rfl hmem hin
      obtain ⟨h, _, hasks, hwrites⟩ := issued_of_run hrun hmem hin
      rcases confirms_of_written hexec hasks hwrites hw hstatus with
        hconfirms | ⟨w, data, b, rfl, rfl, hb, _⟩
      · exact Or.inr ⟨p, P, rfl, hP, authenticated_of_mem hrun hmem hin hconfirms⟩
      · obtain ⟨b₁, hfound, heq, htest⟩ := locked_of_run hrun hmem hopen hw rfl
        refine Or.inl (hconfirmed b₁ hfound ?_)
        simp only [BookingWhere.test, Bool.and_eq_true, beq_iff_eq] at htest
        obtain ⟨⟨_, _, _, rfl⟩ | ⟨_, hstill, _, _⟩, _⟩ := hwrites
        · cases hstatus
        · rw [htest.1.2, hstill]
    · exact Or.inl (hconfirmed b' hold hstatus)
  · -- a statement of its own
    have hmem := List.mem_of_getElem? hP
    have hasks := asks_of_run hrun P hmem
    have hwrites := writes_of_run hrun P hmem
    rw [hk] at hasks hwrites
    rw [hdb] at hget
    rcases view_row hget with ⟨hnew, _⟩ | hold
    · rcases confirms_of_written hexec hasks.1 hwrites.1 hnew hstatus with
        hconfirms | ⟨w, data, b, rfl, rfl, hb, hfound⟩
      · exact Or.inr ⟨p, P, rfl, hP, authenticated_of_evidence hrun hmem List.suffix_rfl
          (evidence_of_confirms hasks.1 hwrites.1 hconfirms)⟩
      · exact Or.inl (hconfirmed b hfound hb)
    · exact Or.inl (hconfirmed b' hold hstatus)

/-! ## A run -/

namespace Sample

/-- The customer verifies the payment; its transaction is about to be
committed. -/
def verification : List (Event Op Exn) := .spawn (verify 1) :: steps 0 7

end Sample

/-- The commit of a verification confirms the booking, with a signature. -/
theorem confirmed_by_evidence_sample : ∃ c c' : System,
    runChecked (program Sample.host) (fun _ _ => True) ⟨Sample.booked, []⟩ Sample.verification
      = some c ∧ next (program Sample.host) c (.exec 0) = some c' ∧
    ¬ Confirmed c.db Sample.bookingId ∧ Confirmed c'.db Sample.bookingId ∧
    ((Confirmed c'.db Sample.bookingId → Confirmed c.db Sample.bookingId ∨
        ∃ (p : Nat) (P : Caller), (Event.exec 0 : Event Op Exn) = .exec p ∧ c.procs[p]? = some P ∧
          Authenticated Sample.host P.op c.db Sample.bookingId) ∧
      ∀ P ∈ c'.procs, ∀ x ∈ kept P.hist, Confirms Sample.bookingId x.1 →
        Authenticated Sample.host P.op c'.db Sample.bookingId) := by
  obtain ⟨c, hc⟩ := Option.isSome_iff_exists.mp
    (show (runChecked (program Sample.host) (fun _ _ => True) ⟨Sample.booked, []⟩
      Sample.verification).isSome by decide +kernel)
  have hbefore : ∀ c ∈ runChecked (program Sample.host) (fun _ _ => True) ⟨Sample.booked, []⟩
      Sample.verification, ¬ Confirmed c.db Sample.bookingId ∧
        (next (program Sample.host) c (.exec 0)).isSome := by decide +kernel
  have hafter : ∀ c ∈ runChecked (program Sample.host) (fun _ _ => True) ⟨Sample.booked, []⟩
      Sample.verification, ∀ c' ∈ next (program Sample.host) c (.exec 0),
        Confirmed c'.db Sample.bookingId := by decide +kernel
  obtain ⟨c', hn⟩ := Option.isSome_iff_exists.mp (hbefore c hc).2
  exact ⟨c, c', hc, hn, (hbefore c hc).1, hafter c hc c' hn, confirmed_by_evidence Sample.host
    Sample.booked c c' (.exec 0) Sample.bookingId (Run.of_runChecked _ _ hc) hn⟩

end ServiceHub
