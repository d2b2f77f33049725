/-
# `Runtime` — what the services are given

Everything a call uses that is neither its arguments nor the database.

| | |
| :-- | :-- |
| `Host` | functions of the JavaScript runtime, of `crypto` and of Prisma, and the secrets of the gateway; the same for all calls |
| `Ctx` | what one call is answered from outside: the clock, generated ids, and the replies of the payment gateway and of the queues |
| `Ext` | the calls to the gateway and to the queues, as they are logged |

No property of these is assumed here.  The reply to a call to the outside is a
field of its `Ctx` because it is not the program that decides it.
-/
import ServiceHub.Database
import ServiceHub.Txn.Prog

namespace ServiceHub

open Data Txn

structure Host where
  /-- `createHmac("sha256", secret).update(data).digest("hex")` -/
  hmacSha256 : String → List UInt8 → String
  /-- `JSON.parse(buffer.toString("utf8"))`, `none` where it throws -/
  jsonParse : List UInt8 → Option Json
  /-- `new Date(text)` on a text that is not in the format of ECMAScript -/
  legacyDate : String → Option Time
  /-- `date.setDate(date.getDate() + days)`, in the local time zone -/
  addDays : Time → Int → Time
  /-- `String(value)` of an object, an array or a number -/
  stringOf : Json → String
  /-- `Number(value)` of anything but a number, `none` for `NaN` -/
  numberOf : Json → Option ℚ
  toUpperCase : String → String
  /-- What an update sets a nullable text column to if it is given a value that
  is not a text: the operand of `{ set: … }`, `none` where Prisma refuses the
  value -/
  setOperand : Json → Option (Option String)
  /-- Whether a column of type jsonb takes the value; it takes none with a NUL
  in one of its texts, say -/
  storesJson : Json → Bool
  keySecret : String
  webhookSecret : String

/-- `new Date(text)`, `none` for an invalid date. -/
def Host.date (host : Host) (text : String) : Option Time :=
  (parseIso text).or (host.legacyDate text)

/-- `Number(value)`. -/
def Host.number (host : Host) : Json → Option ℚ
  | .num q => some q
  | j => host.numberOf j

/-- A value in a template string. -/
def Host.template (host : Host) : Option Json → String
  | none => "undefined"
  | some .null => "null"
  | some (.bool b) => if b then "true" else "false"
  | some (.str s) => s
  | some j => host.stringOf j

/-- `Buffer.from(text, "utf8")`. -/
def utf8 (s : String) : List UInt8 := s.toUTF8.data.toList

/-! ## The payment gateway -/

structure CreateGatewayOrderParams where
  bookingId : String
  amount : ℚ
  currency : String
  receipt : String

structure GatewayOrderResult where
  gatewayOrderId : String
  amount : ℚ
  currency : String
  receipt : String

structure CreateRefundParams where
  paymentId : String
  amount : ℚ
  reason : String

structure GatewayRefundResult where
  refundId : String
  amount : ℚ
  status : String

section
variable (host : Host)

/-- Length and contents are compared as `timingSafeEqual` asks for. -/
def digestMatches (expectedSignature signature : String) : Bool :=
  if expectedSignature.utf8ByteSize ≠ signature.utf8ByteSize then false
  else utf8 expectedSignature == utf8 signature

def verifyPaymentSignature (orderId paymentId signature : String) : Bool :=
  let text := s!"{orderId}|{paymentId}"
  digestMatches (host.hmacSha256 host.keySecret (utf8 text)) signature

def verifyWebhookSignature (rawBody : List UInt8) (signature : String) : Bool :=
  digestMatches (host.hmacSha256 host.webhookSecret rawBody) signature

end

/-- Amounts in paise, cents or yen; `Math.round` takes halves up. -/
def toSmallestCurrencyUnit (amount : ℚ) (currency : String) : Int :=
  if currency = "JPY" then (amount + 1 / 2).floor else (amount * 100 + 1 / 2).floor

/-! ## One call -/

/-- Calls to the gateway and to the queues. -/
inductive Ext where
  | createOrder (params : CreateGatewayOrderParams)
  | createRefund (params : CreateRefundParams)
  | schedulePaymentExpiration (bookingId : Uuid) (delayMs : Int)
  | cancelPaymentExpiration (bookingId : Uuid)
  | scheduleBookingOverdueCheck (bookingId : Uuid)
  | cancelOverdueCheck (bookingId : Uuid)
  | scheduleBookingLifecycleNotifications (bookingId : Uuid)
  | cancelBookingReminders (bookingId : Uuid)

/-- `clock i` is the `i`-th reading of the clock during the call, `uuid i` the
`i`-th id it generates; a reply of the outside is a value or an error
message. -/
structure Ctx where
  clock : Nat → Time
  uuid : Nat → Uuid
  createOrder : Except String GatewayOrderResult
  createRefund : Except String GatewayRefundResult
  queue : Nat → Except String Unit

/-- A sequence of statements. -/
abbrev Query (α : Type) : Type := Prog Stmt Ans Exn α

/-- One statement. -/
abbrev query (s : Stmt) : Query (Ans s) := Prog.perform s

/-- A call to a service. -/
abbrev Call (α : Type) : Type := Prog (Instr Stmt Ext) (Instr.Ans Ans) Exn α

/-- Call the outside and go on with its reply. -/
def external {α : Type} (c : Ext) (reply : Except String α) (error : String → Exn) : Call α := do
  Prog.perform (Instr.call c)
  match reply with
  | .ok a => pure a
  | .error message => .throw (error message)

/-- The `i`-th call to a queue service. -/
def enqueue (ctx : Ctx) (i : Nat) (c : Ext) : Call Unit := external c (ctx.queue i) .queue

/-- `text || fallback`. -/
def orDefault (text : Option String) (fallback : String) : String :=
  (text.filter (· ≠ "")).getD fallback

def status {S : Type} [ToString S] (s : S) : Option Json := some (.str (toString s))

def text (s : String) : Option Json := some (.str s)

end ServiceHub
