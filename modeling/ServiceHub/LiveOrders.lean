/-
# `LiveOrders` — at most one live order per booking

A payment is live while it is CREATED, PENDING or SUCCESS: its order can be
paid, or has been.

Nothing in the schema keeps two live payments of a booking apart.
`createPaymentOrder` reads the latest payment of the booking, asks the gateway
for an order and inserts a payment, and nothing is read again in between: two
calls that find the payment FAILED open two orders.  `verifyClientPayment` and
the webhook set SUCCESS what they have read before their transaction, so a
payment that has failed meanwhile comes back to life beside its successor.

`OpensAlone` asks that no other payment of the booking is live when one becomes
so.  It says nothing of `createBooking`, whose booking no other call can see
yet, nor of a SUCCESS over a live status, nor of a `createPaymentOrder` that has
found the last payment CREATED, which hands that one out and inserts none
(`createPaymentOrder_writes`).  Then every committed state has at most one live
payment per booking (`one_live_order`).
-/
import ServiceHub.Writes
import ServiceHub.Txn.Views

namespace ServiceHub

open Data Txn Prog

/-! ## Live payments -/

def PaymentStatus.live : PaymentStatus → Bool
  | .created | .pending | .success => true
  | .failed | .refunded => false

/-- The live payments of a booking. -/
def liveOrders (db : Db) (bookingId : Uuid) : List Payment :=
  db.payments.rows.filter fun p => p.bookingId == bookingId && p.status.live

/-- Two live payments of one booking. -/
def Rival : Row → Row → Prop
  | .payment p, .payment q => p.status.live ∧ q.status.live ∧ p.bookingId = q.bookingId ∧ p.id ≠ q.id
  | _, _ => False

theorem rival_comm (r r' : Row) (h : Rival r r') : Rival r' r := by
  cases r <;> cases r' <;> try exact h.elim
  obtain ⟨hp, hq, hbooking, hid⟩ := h
  exact ⟨hq, hp, hbooking.symm, Ne.symm hid⟩

def Row.liveFor (bookingId : Uuid) : Row → Bool
  | .payment p => p.bookingId == bookingId && p.status.live
  | _ => false

/-- A payment of the booking is live, in the database or in an open
transaction. -/
def Occupied (c : System) (bookingId : Uuid) : Prop :=
  (liveOrders c.db bookingId).length ≠ 0 ∨ ∃ P ∈ c.procs, ∃ r ∈ P.pending, r.liveFor bookingId

instance (c : System) (bookingId : Uuid) : Decidable (Occupied c bookingId) :=
  inferInstanceAs (Decidable (_ ∨ _))

/-- The booking of which the call is about to make a payment live: it inserts
one outside a transaction, past a check that has not found the last one CREATED, or
it updates one that is not live any more. -/
def opens (c : System) (P : Caller) : Option Uuid :=
  match P.prog with
  | .ask (.stmt (.createPayment p)) _ =>
      if P.tx.isNone && !foundOpen P.hist p.bookingId then some p.bookingId else none
  | .ask (.stmt (.updatePayment id data)) _ =>
      if data.status.live then
        (((view c.db P).payments.find? id).filter fun p => !p.status.live).map Payment.bookingId
      else none
  | _ => none

/-- No payment is made live beside a live one of its booking. -/
def OpensAlone (c : System) : Event Op Exn → Prop
  | .exec p => ∀ P ∈ c.procs[p]?, ∀ bookingId ∈ opens c P, ¬ Occupied c bookingId
  | _ => True

instance (c : System) : ∀ e, Decidable (OpensAlone c e)
  | .exec p => inferInstanceAs
      (Decidable (∀ P ∈ c.procs[p]?, ∀ bookingId ∈ opens c P, ¬ Occupied c bookingId))
  | .spawn _ => .isTrue trivial
  | .fail _ _ => .isTrue trivial

theorem occupied_of_present {c : System} {p : Payment} (hp : Present c (.payment p))
    (hlive : p.status.live) : Occupied c p.bookingId := by
  rcases hp with ⟨k, hp⟩ | ⟨P, hP, hp⟩
  · left
    obtain rfl := Db.key_of_get hp
    obtain ⟨q, hq, heq⟩ := Option.map_eq_some_iff.mp hp
    cases heq
    have hmem : p ∈ liveOrders c.db p.bookingId :=
      List.mem_filter.mpr ⟨Table.mem_of_find? hq, by simp [hlive]⟩
    exact Nat.ne_of_gt (List.length_pos_of_mem hmem)
  · exact Or.inr ⟨P, hP, _, hp, by simp [Row.liveFor, hlive]⟩

theorem eq_of_length_le_one {α : Type} {x y : α} : ∀ {l : List α}, l.length ≤ 1 → x ∈ l → y ∈ l →
    x = y
  | [], _, hx, _ => absurd hx List.not_mem_nil
  | [_], _, hx, hy => (List.mem_singleton.mp hx).trans (List.mem_singleton.mp hy).symm

theorem length_le_one {α : Type} : ∀ {l : List α}, l.Nodup → (∀ x ∈ l, ∀ y ∈ l, x = y) →
    l.length ≤ 1
  | [], _, _ => Nat.zero_le _
  | [_], _, _ => Nat.le_refl _
  | x :: y :: _, hnodup, h => by
      have hsame : x = y := h x List.mem_cons_self y (List.mem_cons_of_mem _ List.mem_cons_self)
      rw [hsame] at hnodup
      exact absurd List.mem_cons_self (List.nodup_cons.mp hnodup).1

/-! ## The booking of a payment exists -/

/-- The foreign key of a payment. -/
def HasBooking (db : Db) : Row → Prop
  | .payment p => (db.get (.booking p.bookingId)).isSome
  | _ => True

/-- Every payment is of a booking that exists. -/
def Db.Referential (db : Db) : Prop :=
  ∀ p ∈ db.payments.rows, (db.bookings.find? p.bookingId).isSome

instance (db : Db) : Decidable db.Referential :=
  inferInstanceAs (Decidable (∀ p ∈ db.payments.rows, _))

section
variable {host : Host} {db : Db} {Ok : System → Event Op Exn → Prop} {c : System}

theorem Db.Referential.hasBooking (h : db.Referential) {k : Key} {r : Row}
    (hr : db.get k = some r) : HasBooking db r := by
  cases r with
  | payment p =>
      obtain rfl := Db.key_of_get hr
      obtain ⟨q, hq, heq⟩ := Option.map_eq_some_iff.mp hr
      cases heq
      simpa [HasBooking, Db.get] using h p (Table.mem_of_find? hq)
  | _ => trivial

theorem hasBooking_of_exec (s : Stmt) (db : Db) (a : Ans s) (hexec : db.exec s = .ok a)
    (hall : ∀ k r, db.get k = some r → HasBooking db r) : ∀ w ∈ s.written a, HasBooking db w := by
  intro w hw
  cases w with
  | payment p' =>
      rcases Stmt.written_payment hexec hw with ⟨_, _, hbooking⟩ | ⟨p, data, hp, rfl, _⟩
      · exact hbooking
      · exact (hall _ (.payment p) hp : HasBooking db (.payment p))
  | _ => trivial

theorem grounded_of_run (hdb : db.Referential) (hrun : Run (program host) Ok ⟨db, []⟩ c) :
    Grounded HasBooking c := by
  refine hrun.grounded ?_ ?_ hasBooking_of_exec (fun k r hr => hdb.hasBooking hr) rfl
  · intro db rows r h
    cases r with
    | payment p =>
        have h : (Txn.Database.get db (Key.booking p.bookingId)).isSome := h
        exact isSome_get_puts rows h
    | _ => trivial
  · intro db ws us r h
    cases r with
    | payment p =>
        have h : (Txn.Database.get (puts db us) (Key.booking p.bookingId)).isSome := h
        exact isSome_get_puts_puts ws us h
    | _ => trivial

/-- Nobody else has a booking that is still in the transaction of its insert. -/
theorem uncommitted_of_run (hrun : Run (program host) Ok ⟨db, []⟩ c) : ∀ P ∈ c.procs,
    ∀ b a, (⟨.createBooking b, a⟩ : (s : Stmt) × Ans s) ∈ (sinceBegin P.hist).getD [] →
      c.db.get (.booking a.id) = none := by
  have hlocked := hrun.locked (L := fun s _ _ o => ∀ b, s = .createBooking b → o = none) rfl <| by
    intro c p P s k a _ _ hP _ hexec w hw b hs
    cases hs
    obtain ⟨ha, hnone, _⟩ := Db.insert_ok hexec
    rw [List.mem_singleton.mp hw, ha]
    exact get_of_view hnone
  intro P hP b a hx
  exact hlocked P hP _ hx (.booking a) List.mem_cons_self b rfl

/-! ## No two live payments of one booking -/

/-- The booking of `createBooking` has no payment but the one of its
transaction. -/
theorem alone_of_created (hdb : db.Referential) (hrun : Run (program host) Ok ⟨db, []⟩ c)
    {p : Nat} {P : Caller} (hP : c.procs[p]? = some P) {b a : Booking}
    (hsince : sinceBegin P.hist = some [⟨.createBooking b, a⟩]) {q : Payment}
    (hq : Present c (.payment q)) : q.bookingId ≠ a.id := by
  intro hbooking
  have hground := grounded_of_run hdb hrun
  have hmem : P ∈ c.procs := List.mem_of_getElem? hP
  have hnone : c.db.get (.booking a.id) = none :=
    uncommitted_of_run hrun P hmem b a (by rw [hsince]; exact List.mem_cons_self)
  have hown : P.pending = [.booking a] := by
    rw [Proc.pending, Run.tx_eq rfl hrun P hmem, hsince]
    rfl
  rcases hq with ⟨k, hq⟩ | ⟨Q, hQ, hq⟩
  · have hsome : (c.db.get (.booking q.bookingId)).isSome := hground.committed k _ hq
    rw [hbooking, hnone] at hsome
    cases hsome
  · obtain ⟨n, hn⟩ := List.mem_iff_getElem?.mp hQ
    by_cases hpn : p = n
    · subst hpn
      obtain rfl := Option.some.inj (hP.symm.trans hn)
      rw [hown] at hq
      cases List.mem_singleton.mp hq
    · -- another call that sees the booking would have to hold it
      have hsome : ((view c.db Q).get (.booking q.bookingId)).isSome := hground.pending Q hQ _ hq
      obtain ⟨r, hr⟩ := Option.isSome_iff_exists.mp hsome
      rw [hbooking] at hr
      rcases view_row hr with ⟨hheld, hkey⟩ | hcommitted
      · refine Run.apart rfl hrun p n P Q hpn hP hn (.booking a) ?_ r hheld hkey.symm
        rw [hown]
        exact List.mem_cons_self
      · rw [hnone] at hcommitted
        cases hcommitted

/-- One statement makes at most one payment live. -/
theorem not_rival_together {s : Stmt} {db : Db} {a : Ans s} (hexec : db.exec s = .ok a)
    (hfailed : ∀ cond data, s = .updatePayments cond data → data.status = .failed) {w w' : Row}
    (hw : w ∈ s.written a) (hw' : w' ∈ s.written a) : ¬ Rival w w' := by
  intro hrival
  cases w <;> cases w' <;> try exact hrival.elim
  obtain ⟨hlive, _, _, hid⟩ := hrival
  rcases Stmt.written_payment hexec hw with ⟨rfl, _⟩ | ⟨x, data, _, rfl, rfl | ⟨cond, rfl, _⟩⟩
  · cases List.mem_singleton.mp hw
    cases List.mem_singleton.mp hw'
    exact hid rfl
  · have hsame := (List.mem_singleton.mp hw').trans (List.mem_singleton.mp hw).symm
    cases hsame
    exact hid rfl
  · rw [PaymentUpdate.status_on, hfailed cond data rfl] at hlive
    cases hlive

/-- A payment that a call writes is no rival of one that is present. -/
theorem not_rival_of_written (hdb : db.Referential)
    (hrun : Run (program host) OpensAlone ⟨db, []⟩ c) {n : Nat} {P : Caller}
    (hok : OpensAlone c (.exec n)) (hP : c.procs[n]? = some P) {s : Stmt}
    {k : Except Exn (Ans s) → Call Response} (hk : P.prog = .ask (.stmt s) k) {a : Ans s}
    (hexec : (view c.db P).exec s = .ok a)
    (hclear : ∀ r r', Present c r → Present c r' → ¬ Rival r r') {w q : Payment}
    (hw : .payment w ∈ s.written a) (hq : Present c (.payment q)) :
    ¬ Rival (.payment w) (.payment q) := by
  rintro ⟨hlive, hqlive, hbooking, hid⟩
  have hmem : P ∈ c.procs := List.mem_of_getElem? hP
  have hwrites := (hk ▸ writes_of_run hrun P hmem : Writing host P.op P.hist (.ask (.stmt s) k)).1
  have hopens : ∀ id ∈ opens c P, ¬ Occupied c id := hok P hP
  have hoccupied : Occupied c w.bookingId := hbooking.symm ▸ occupied_of_present hq hqlive
  rcases Stmt.written_payment hexec hw with ⟨rfl, _⟩ | ⟨x, data, hx, rfl, rfl | ⟨cond, rfl, _⟩⟩
  · rcases hwrites with ⟨_, hout, hchecked⟩ | ⟨b, a', h', hhist, hopen, hnew⟩
    · -- `createPaymentOrder`
      have htx : P.tx = none := by rw [Run.tx_eq rfl hrun P hmem, hout]; rfl
      exact hopens w.bookingId (by simp [opens, hk, htx, hchecked]) hoccupied
    · -- `createBooking`
      have hsince : sinceBegin P.hist = some [⟨.createBooking b, a'⟩] := by
        simp [hhist, sinceBegin, hopen]
      exact alone_of_created hdb hrun hP hsince hq (hbooking.symm.trans hnew)
  · by_cases hopen : x.status.live
    · -- it was live before, under the same id
      exact hclear _ _ (present_of_view hmem hx) hq ⟨hopen, hqlive, hbooking, hid⟩
    · obtain ⟨y, hy, heq⟩ := Option.map_eq_some_iff.mp hx
      cases heq
      have hstatus : data.status.live = true := hlive
      have hget : (view c.db P).payments.find? x.id = some x := hy
      exact hopens x.bookingId (by simp [opens, hk, hstatus, hget, hopen]) hoccupied
  · -- the payments of an expired booking are set FAILED
    rw [PaymentUpdate.status_on, show data.status = .failed from hwrites] at hlive
    cases hlive

/-- **No two live payments of a booking** are present together. -/
theorem rivals_of_run (hdb : db.Referential) (hone : ∀ id, (liveOrders db id).length ≤ 1)
    (hrun : Run (program host) OpensAlone ⟨db, []⟩ c) :
    ∀ r r', Present c r → Present c r' → ¬ Rival r r' := by
  refine hrun.pairwise rival_comm ?_ rfl ?_
  · intro k k' r r' hr hr' hrival
    cases r <;> cases r' <;> try exact hrival.elim
    rename_i p q
    obtain ⟨hp, hq, hbooking, hid⟩ := hrival
    have hmem : ∀ {k : Key} {x : Payment}, db.get k = some (.payment x) → x.status.live →
        x.bookingId = p.bookingId → x ∈ liveOrders db p.bookingId := by
      intro k x hx hlive hsame
      obtain rfl := Db.key_of_get hx
      obtain ⟨y, hy, heq⟩ := Option.map_eq_some_iff.mp hx
      cases heq
      exact List.mem_filter.mpr ⟨Table.mem_of_find? hy, by simp [hsame, hlive]⟩
    have hsame : p = q := eq_of_length_le_one (hone p.bookingId) (hmem hr hp rfl)
      (hmem hr' hq hbooking.symm)
    exact hid (congrArg Payment.id hsame)
  · intro c p P s k a hrun hok hP hk hexec hclear w hw
    have hwrites := (hk ▸ writes_of_run hrun P (List.mem_of_getElem? hP) :
      Writing host P.op P.hist (.ask (.stmt s) k)).1
    refine ⟨fun r hr hrival => ?_, fun w' hw' hrival => ?_⟩
    · cases w <;> cases r <;> try exact hrival.elim
      exact not_rival_of_written hdb hrun hok hP hk hexec hclear hw hr hrival
    · exact not_rival_together hexec (fun _ _ hs => by subst hs; exact hwrites) hw hw' hrival

end

/-- **At most one payment of a booking is live** in every run that makes none
live beside a live one. -/
theorem one_live_order (host : Host) (db : Db) (c : System) (bookingId : Uuid)
    (hdb : db.Referential) (hone : ∀ id, (liveOrders db id).length ≤ 1)
    (hrun : Run (program host) OpensAlone ⟨db, []⟩ c) :
    (liveOrders c.db bookingId).length ≤ 1 := by
  have hclear := rivals_of_run hdb hone hrun
  have hnodup : c.db.payments.rows.Nodup := List.Nodup.of_map _ c.db.payments.nodup
  refine length_le_one (hnodup.filter _) fun p hp q hq => ?_
  obtain ⟨hprow, hptest⟩ := List.mem_filter.mp hp
  obtain ⟨hqrow, hqtest⟩ := List.mem_filter.mp hq
  simp only [Bool.and_eq_true, beq_iff_eq] at hptest hqtest
  have hpresent : ∀ x ∈ c.db.payments.rows, Present c (.payment x) := fun x hx =>
    Or.inl ⟨.payment x.id, Option.map_eq_some_iff.mpr ⟨x, Table.find?_of_mem hx, rfl⟩⟩
  by_contra hne
  refine hclear _ _ (hpresent p hprow) (hpresent q hqrow)
    ⟨hptest.2, hqtest.2, hptest.1.trans hqtest.1.symm, fun hid => hne ?_⟩
  exact Table.eq_of_key hprow hqrow hid

/-! ## Two runs -/

namespace Sample

/-- The `n`-th call asks for an order, `n` seconds later. -/
def reorder (n : Nat) : Op :=
  ⟨{ ctx n with
      clock := fun _ => 1772323200000 + n * 1000
      createOrder := .ok ⟨"order_" ++ toString n, 500, "INR", ""⟩ },
    .createPaymentOrder "customer" bookingId⟩

/-- The first payment fails. -/
def failure : List (Event Op Exn) := .spawn (deliver 1 "payment.failed") :: steps 0 9

/-- The customer asks for an order, and then again. -/
def retries : List (Event Op Exn) :=
  failure ++ .spawn (reorder 2) :: steps 1 4 ++ .spawn (reorder 3) :: steps 2 2

/-- The customer asks for an order twice at once. -/
def retriesTogether : List (Event Op Exn) :=
  failure ++ .spawn (reorder 2) :: steps 1 2 ++ .spawn (reorder 3) :: steps 2 4 ++ steps 1 2

end Sample

/-- An order that is asked for twice is opened once. -/
theorem one_live_order_sample : ∃ c,
    runChecked (program Sample.host) OpensAlone ⟨Sample.booked, []⟩ Sample.retries = some c ∧
    (liveOrders c.db Sample.bookingId).map (·.gatewayOrderId) = ["order_2"] ∧
    (liveOrders c.db Sample.bookingId).length ≤ 1 := by
  obtain ⟨c, hc⟩ := Option.isSome_iff_exists.mp
    (show (runChecked (program Sample.host) OpensAlone ⟨Sample.booked, []⟩
      Sample.retries).isSome by decide +kernel)
  have horders : ∀ c ∈ runChecked (program Sample.host) OpensAlone ⟨Sample.booked, []⟩
      Sample.retries, (liveOrders c.db Sample.bookingId).map (·.gatewayOrderId) = ["order_2"] := by
    decide +kernel
  have hone : ∀ id, (liveOrders Sample.booked id).length ≤ 1 := fun id =>
    (List.length_filter_le _ _).trans
      (show Sample.booked.payments.rows.length ≤ 1 by decide +kernel)
  exact ⟨c, hc, horders c hc, one_live_order _ _ c _ (by decide +kernel) hone
    (Run.of_runChecked _ _ hc)⟩

/-- Two calls find the payment FAILED, and each of them opens an order. -/
theorem not_one_live_order : ∃ c,
    runEvents (program Sample.host) ⟨Sample.booked, []⟩ Sample.retriesTogether = some c ∧
    (∀ P ∈ c.procs, P.prog.head.isNone) ∧
    (liveOrders c.db Sample.bookingId).map (·.gatewayOrderId) = ["order_3", "order_2"] := by
  obtain ⟨c, hc⟩ := Option.isSome_iff_exists.mp
    (show (runEvents (program Sample.host) ⟨Sample.booked, []⟩ Sample.retriesTogether).isSome by
      decide +kernel)
  have horders : ∀ c ∈ runEvents (program Sample.host) ⟨Sample.booked, []⟩ Sample.retriesTogether,
      (∀ P ∈ c.procs, P.prog.head.isNone) ∧
        (liveOrders c.db Sample.bookingId).map (·.gatewayOrderId) = ["order_3", "order_2"] := by
    decide +kernel
  obtain ⟨hended, htwo⟩ := horders c hc
  exact ⟨c, hc, hended, htwo⟩

end ServiceHub
