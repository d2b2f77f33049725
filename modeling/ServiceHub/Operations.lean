/-
# `Operations` — every operation as a program, alone and in sequence

An `Op` is a call to one of the services together with what it is answered from
outside.  `program` is what it runs; `Txn.next (program host)` interleaves such
calls statement by statement, and `serialSteps` runs them one after another.

`Sample` is one provider with one offering, and the calls that the runs of the
later modules are made of.
-/
import ServiceHub.Payment.Service
import ServiceHub.Txn.ReadCommitted

namespace ServiceHub

open Data Txn

inductive Request where
  | createBooking (customerId : Uuid) (dto : CreateBookingDto)
  | cancelBookingAsCustomer (bookingId customerId : Uuid) (dto : CancelBookingDto)
  | expireBooking (bookingId : Uuid)
  | completeBooking (bookingId userId : Uuid) (role : Option Role)
  | flagOverdueBooking (bookingId : Uuid)
  | createPaymentOrder (customerId bookingId : Uuid)
  | verifyClientPayment (customerId : Uuid) (dto : VerifyPaymentDto)
  | handleWebhookEvent (delivery : Delivery)
  | refundPayment (adminUserId paymentId : Uuid) (dto : RefundPaymentDto)

structure Op where
  ctx : Ctx
  request : Request

inductive Response where
  | created (b : CreatedBooking)
  | cancelled (b : Booking)
  | expired (r : ExpireResult)
  | completed (b : Booking)
  | flagged (r : FlagResult)
  | ordered (p : Payment)
  | verified (r : VerifyResult)
  | webhook (r : WebhookResult)
  | refunded (r : RefundResult)

section
variable (host : Host)

def program (op : Op) : Call Response :=
  match op.request with
  | .createBooking customerId dto => (createBooking host op.ctx customerId dto).map .created
  | .cancelBookingAsCustomer bookingId customerId dto =>
      (cancelBookingAsCustomer op.ctx bookingId customerId dto).map .cancelled
  | .expireBooking bookingId => (expireBooking op.ctx bookingId).map .expired
  | .completeBooking bookingId userId role =>
      (completeBooking op.ctx bookingId userId role).map .completed
  | .flagOverdueBooking bookingId => (flagOverdueBooking op.ctx bookingId).map .flagged
  | .createPaymentOrder customerId bookingId =>
      (createPaymentOrder op.ctx customerId bookingId).map .ordered
  | .verifyClientPayment customerId dto =>
      (verifyClientPayment host op.ctx customerId dto).map .verified
  | .handleWebhookEvent delivery => (handleWebhookEvent host op.ctx delivery).map .webhook
  | .refundPayment adminUserId paymentId dto =>
      (refundPayment host op.ctx adminUserId paymentId dto).map .refunded

/-- The database and the calls in progress. -/
abbrev System : Type := Config Op Db Row Stmt Ext Ans Exn Response

/-- The operation run alone: the database after it, and its result. -/
def runAlone (op : Op) (db : Db) : Db × Except Exn Response :=
  let r := (program host op).serial ⟨none, db, []⟩
  (r.1.db, r.2)

/-- One operation of a sequence. -/
structure SerialStep where
  before : Db
  op : Op
  after : Db
  result : Except Exn Response

/-- The operations one after another, each run to completion. -/
def serialSteps (db : Db) : List Op → List SerialStep
  | [] => []
  | op :: ops =>
      ⟨db, op, (runAlone host op db).1, (runAlone host op db).2⟩ ::
        serialSteps (runAlone host op db).1 ops

/-- The database after a sequence of operations. -/
def runAll (db : Db) (ops : List Op) : Db := ops.foldl (fun db op => (runAlone host op db).1) db

section
variable {host} {db : Db} {s : SerialStep}

theorem mem_serialSteps {ops : List Op} (h : s ∈ serialSteps host db ops) :
    s.op ∈ ops ∧ s.after = (runAlone host s.op s.before).1 ∧
      s.result = (runAlone host s.op s.before).2 := by
  induction ops generalizing db with
  | nil => exact absurd h List.not_mem_nil
  | cons op ops ih =>
      rcases List.mem_cons.mp h with rfl | h
      · exact ⟨List.mem_cons_self, rfl, rfl⟩
      · obtain ⟨hop, hafter⟩ := ih h
        exact ⟨List.mem_cons_of_mem _ hop, hafter⟩

/-- What holds at first and is kept by every step that meets `Ok` holds before
and after every step of a sequence whose steps meet it. -/
theorem serialSteps_invariant {I : Db → Prop} {Ok : Db → Op → Prop}
    (hstep : ∀ db op, I db → Ok db op → I (runAlone host op db).1) {ops : List Op} (hdb : I db)
    (hok : ∀ s ∈ serialSteps host db ops, Ok s.before s.op) (hs : s ∈ serialSteps host db ops) :
    I s.before ∧ I s.after := by
  induction ops generalizing db with
  | nil => exact absurd hs List.not_mem_nil
  | cons op ops ih =>
      have hnext : I (runAlone host op db).1 := hstep db op hdb (hok _ List.mem_cons_self)
      rcases List.mem_cons.mp hs with rfl | hs
      · exact ⟨hdb, hnext⟩
      · exact ih hnext (fun s hs => hok s (List.mem_cons_of_mem _ hs)) hs

theorem runAll_invariant {I : Db → Prop} {Ok : Db → Op → Prop}
    (hstep : ∀ db op, I db → Ok db op → I (runAlone host op db).1) {ops : List Op} (hdb : I db)
    (hok : ∀ s ∈ serialSteps host db ops, Ok s.before s.op) : I (runAll host db ops) := by
  induction ops generalizing db with
  | nil => exact hdb
  | cons op ops ih =>
      exact ih (hstep db op hdb (hok _ List.mem_cons_self))
        fun s hs => hok s (List.mem_cons_of_mem _ hs)

theorem runAll_append (ops ops' : List Op) :
    runAll host db (ops ++ ops') = runAll host (runAll host db ops) ops' := List.foldl_append

theorem serialSteps_append (ops ops' : List Op) : serialSteps host db (ops ++ ops') =
    serialSteps host db ops ++ serialSteps host (runAll host db ops) ops' := by
  induction ops generalizing db with
  | nil => rfl
  | cons op ops ih => exact congrArg (_ :: ·) ih

/-- Audit rows stay. -/
theorem mem_auditLogs_runAlone {op : Op} {x : AuditLog} (hx : x ∈ db.auditLogs.rows) :
    x ∈ (runAlone host op db).1.auditLogs.rows := by
  have hexec : ∀ (s : Stmt) (db : Db) (a : Ans s), Txn.Database.exec s db = .ok a →
      x ∈ db.auditLogs.rows → x ∈ (puts db (Txn.Database.written Db s a)).auditLogs.rows :=
    fun s db a => Db.mem_auditLogs_of_exec
  refine Prog.serial_invariant hexec (program host op) ⟨none, db, []⟩ hx fun _ h => ?_
  cases h

end

end

/-! ## A provider, a customer, and their calls -/

namespace Sample

/-- The body of a webhook about payment `pay_1` of `order_1`, 500 INR. -/
def body (event : String) : String :=
  "\x7b\"event\":\"" ++ event ++
    "\",\"payload\":\x7b\"payment\":\x7b\"entity\":\x7b\"id\":\"pay_1\",\"order_id\":\"order_1\"," ++
    "\"amount\":50000,\"currency\":\"INR\"\x7d\x7d\x7d\x7d"

def json (event : String) : Json :=
  .obj [("event", .str event), ("payload", .obj [("payment", .obj [("entity", .obj
    [("id", .str "pay_1"), ("order_id", .str "order_1"), ("amount", .num 50000),
      ("currency", .str "INR")])])])]

/-- The signatures of the bodies that are delivered. -/
def signatures : List (String × String) :=
  [("payment.captured", "d5ee2a599b160c83579acd686d8d8bfa800f4d5ac9455ef4bedb87a726f8c244"),
    ("payment.failed", "5b347d073045fb9deb358368ce4403c24057645907182f8e284abcb5f35da4e0"),
    ("order.paid", "28a844713bf911ec2237856a5b8d203854aca6e69191ba6dc83aae8eda479e03"),
    ("payment.refunded", "0a158f6b314b4936e80551fd48cabfb2ba18b30f15616b797abfbe2bbbe2ad2c")]

/-- The signature of the client for `order_1|pay_1`. -/
def paymentSignature : String :=
  "e1a1445bf654eb0bea9fcea35d5482226da3e525d0bbb969199f710bc8260ef1"

def delivered (data : List UInt8) : Option (String × String) :=
  signatures.find? fun e => utf8 (body e.1) == data

def host : Host where
  hmacSha256 secret data :=
    if secret = "rzp_test_mock_secret" ∧ data = utf8 "order_1|pay_1" then paymentSignature
    else ((delivered data).map (·.2)).getD ""
  jsonParse data := (delivered data).map fun e => json e.1
  legacyDate _ := none
  addDays t n := t + n * Time.msPerDay
  stringOf _ := ""
  numberOf _ := none
  toUpperCase s := s.toUpper
  setOperand
    | .obj [("set", .str s)] => some (some s)
    | .obj [("set", .null)] => some none
    | _ => none
  storesJson _ := true
  keySecret := "rzp_test_mock_secret"
  webhookSecret := "rzp_test_webhook_secret"

/-- An active user. -/
def user (id : Uuid) (role : Role) : User where
  id := id
  email := id ++ "@example.com"
  passwordHash := ""
  firstName := ""
  lastName := ""
  phone := id
  role := role
  refreshTokenHash := none
  status := .active
  lastLoginAt := none
  createdAt := 0

/-- An offering of 60 minutes and 15 of buffer, Mondays from 9 to 18. -/
def db : Db where
  users := ((Table.empty.put (user "customer" .user)).put (user "owner" .user)).put
    (user "admin" .admin)
  providers := Table.empty.put ⟨"provider", "owner", "Acme", .verified, 0, 0⟩
  services := Table.empty.put ⟨"service", "Cleaning", .atCustomerLocation⟩
  providerServices := Table.empty.put
    ⟨"offering", "provider", "service", 500, "INR", 60, 15, true, by decide⟩
  availability := Table.empty.put
    ⟨"window", "provider", 1, "09:00", "18:00", true, by decide, by decide⟩
  bookings := .empty
  payments := .empty
  paymentWebhookEvents := .empty
  auditLogs := .empty

/-- The `n`-th call, made on 1 March 2026. -/
def ctx (n : Nat) : Ctx where
  clock _ := 1772323200000
  uuid i := "00000000-0000-4000-8000-" ++ padStart 12 (100 * n + i)
  createOrder := .ok ⟨"order_1", 500, "INR", ""⟩
  createRefund := .ok ⟨"rfnd_1", 500, "processed"⟩
  queue _ := .ok ()

def bookingId : Uuid := (ctx 0).uuid 0
def paymentId : Uuid := (ctx 0).uuid 1

/-- The call with which the runs begin: Monday at 10. -/
def book : Op :=
  ⟨ctx 0, .createBooking "customer" ⟨"offering", "2026-03-02T10:00:00.000Z", none⟩⟩

def expire (n : Nat) : Op := ⟨ctx n, .expireBooking bookingId⟩

def complete (n : Nat) : Op := ⟨ctx n, .completeBooking bookingId "owner" none⟩

def verify (n : Nat) : Op :=
  ⟨ctx n, .verifyClientPayment "customer" ⟨"order_1", "pay_1", paymentSignature⟩⟩

def refund (n : Nat) : Op := ⟨ctx n, .refundPayment "admin" paymentId ⟨none, none⟩⟩

/-- A delivery of the event; its id is read from the header. -/
def deliver (n : Nat) (event : String) : Op :=
  ⟨ctx n, .handleWebhookEvent
    ⟨utf8 (body event), signatures.lookup event, some ("evt_" ++ toString n)⟩⟩

end Sample

end ServiceHub
