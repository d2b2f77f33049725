/-
# `Integrity` — the amount and the currency of a capture

A signed body that makes a payment SUCCESS should say what was paid
(`StatesPrice`).  The handler compares the amount and the currency of
`payload.payment.entity` with the payment only where the body has them:
`paymentEntity?.amount && …`.  A body without them, with the amount 0, or with
an order entity alone passes.

`CanSettle` says which bodies can make some payment SUCCESS at all.  The payment
id need not be a text for that: Prisma takes `{ set: "pay_9" }` for an operation
and carries it out.  Such a body is trusted rightly, whatever the database,
exactly if its payment entity has an amount and a currency that count as true
(`priceChecked_iff`).
-/
import ServiceHub.Payment.Handling
import ServiceHub.Interleaving
import ServiceHub.Payment.Currency

namespace ServiceHub

open Data Txn Prog

/-! ## What a body says -/

/-- `payload.order.entity`. -/
def WebhookEvent.orderEntity (event : WebhookEvent) : Option Json :=
  Json.optProp (Json.optProp (event.payload.prop "payload") "order") "entity"

/-- The entity gives the amount and, ignoring case, the currency of the
payment. -/
def StatesPrice (host : Host) (payment : Payment) (entity : Option Json) : Prop :=
  (Json.optProp entity "amount").bind host.number
      = some ((toSmallestCurrencyUnit payment.amount payment.currency : Int) : ℚ) ∧
    ∃ s, s ≠ "" ∧ Json.optProp entity "currency" = some (.str s) ∧
      host.toUpperCase s = host.toUpperCase payment.currency

/-- The payment has become SUCCESS, or the booking of the payment that the event
is about has become CONFIRMED. -/
def Pays (event : WebhookEvent) (p : Payment) (db db' : Db) : Prop :=
  (db.payments.find? p.id = some p ∧ p.status ≠ .success ∧
      ∃ p', db'.payments.find? p.id = some p' ∧ p'.status = .success) ∨
    ∃ b b', Concerns db event ⟨p, b⟩ ∧ b.bookingStatus ≠ .confirmed ∧
      db'.bookings.find? p.bookingId = some b' ∧ b'.bookingStatus = .confirmed

/-- What the columns of the price hold: `Decimal(10, 2)` and `Char(3)`. -/
structure Payment.Fits (p : Payment) : Prop where
  amount : ∃ k : Int, p.amount = k / 100 ∧ |k| < 10 ^ 10
  currency : p.currency.length = 3

/-- Whatever the database, the delivery makes no payment SUCCESS but one of
which the body states the price. -/
def PriceChecked (host : Host) (delivery : Delivery) (event : WebhookEvent) : Prop :=
  ∀ ctx db p, p.Fits → Pays event p db (runAlone host ⟨ctx, .handleWebhookEvent delivery⟩ db).1 →
    StatesPrice host p event.paymentEntity ∨ StatesPrice host p event.orderEntity

/-- There is a payment that the body can make SUCCESS: the event is a capture, the
columns take the body and its ids, and some price passes the checks. -/
structure CanSettle (host : Host) (event : WebhookEvent) : Prop where
  capture : ∃ eventType, asText event.eventName = some eventType ∧ isCapture eventType
  stored : host.storesJson event.payload = true
  eventId : ∃ s, asText event.eventId = some s ∧ tooLong 255 s = false
  orderId : ∃ s, asText event.gatewayOrderId = some s ∧ s ≠ "" ∧ tooLong 255 s = false
  paymentId : Json.truthy event.gatewayPaymentId = true →
    ∃ input, asInput host event.gatewayPaymentId = some input ∧
      input.value.any (tooLong 255) = false
  price : ∃ p : Payment, p.Fits ∧ Passes host p event

/-- The payment entity has an amount and a currency. -/
def GivesPrice (event : WebhookEvent) : Prop :=
  Json.truthy (Json.optProp event.paymentEntity "amount") = true ∧
    Json.truthy (Json.optProp event.paymentEntity "currency") = true

instance (event : WebhookEvent) : Decidable (GivesPrice event) :=
  inferInstanceAs (Decidable (_ ∧ _))

section
variable {host : Host} {ctx : Ctx} {db : Db} {payment : PaymentWithBooking} {event : WebhookEvent}
  {eventId eventType : String}

/-! ## A body that gives the price -/

theorem currency_of_passes {p : Payment} (h : Passes host p event)
    (htruthy : Json.truthy (Json.optProp event.paymentEntity "currency") = true) :
    ∃ s, s ≠ "" ∧ Json.optProp event.paymentEntity "currency" = some (.str s) ∧
      host.toUpperCase s = host.toUpperCase p.currency := by
  have hcurrency := h.2
  rw [currencyDiffers, if_pos htruthy] at hcurrency
  cases hvalue : Json.optProp event.paymentEntity "currency" with
  | none => simp [hvalue] at hcurrency
  | some j =>
      rw [hvalue] at hcurrency htruthy
      cases j with
      | str s =>
          refine ⟨s, by simpa [Json.truthy] using htruthy, rfl, ?_⟩
          simpa using hcurrency
      | _ => simp at hcurrency

theorem amount_of_passes {p : Payment} (h : Passes host p event)
    (htruthy : Json.truthy (Json.optProp event.paymentEntity "amount") = true) :
    (Json.optProp event.paymentEntity "amount").bind host.number
      = some ((toSmallestCurrencyUnit p.amount p.currency : Int) : ℚ) := by
  simpa [amountDiffers, htruthy] using h.1

/-- An update does not leave out what it takes a truthy value for. -/
theorem truthy_asInput {o : Option Json} {input : PaymentRepository.TextInput}
    (htruthy : Json.truthy o = true) (h : asInput host o = some input) : input.truthy = true := by
  cases o with
  | none => cases h
  | some j =>
      cases j with
      | str s =>
          obtain rfl := Option.some.inj h
          simpa [Json.truthy, PaymentRepository.TextInput.truthy] using htruthy
      | _ =>
          obtain ⟨value, _, rfl⟩ := Option.map_eq_some_iff.mp h
          rfl

example : asInput Sample.host (some (.obj [("set", .str "pay_9")])) =
    some (.set (some "pay_9")) := rfl

/-- A body that has settled a payment could. -/
theorem canSettle_of_goes (hfits : payment.Fits) (hid : asText event.eventId = some eventId)
    (hname : asText event.eventName = some eventType) (hcapture : isCapture eventType)
    (hconcerns : Concerns db event payment) (hrecord : Recordable host ctx db event eventId eventType)
    (hgoes : Goes host db payment event eventType)
    (hacts : Acts host payment.toPayment event eventType) : CanSettle host event := by
  have hpasses := ((acts_iff_of_isCapture hcapture).mp hacts).2.2
  have hrefusal := hgoes.paymentFits hacts ctx _ (Or.inl ⟨hcapture, rfl⟩)
  have hshort : Row.tooLong (.payment ((captureData host ctx payment.toPayment event).on
      payment.toPayment)) = false := by
    by_contra hlong
    have hlong : Row.tooLong (.payment ((captureData host ctx payment.toPayment event).on
        payment.toPayment)) = true := by simpa using hlong
    simp [Db.refusal, hlong] at hrefusal
  simp only [Row.tooLong, Bool.or_eq_false_iff] at hshort
  obtain ⟨orderId, horder, hfound⟩ := hconcerns.orderId
  refine ⟨⟨eventType, hname, hcapture⟩, hrecord.stored, ⟨eventId, hid, hrecord.idFits⟩,
    ⟨orderId, horder, ?_, ?_⟩, fun htruthy => ?_, ⟨payment.toPayment, hfits, hpasses⟩⟩
  · rintro rfl
    have hgiven := hconcerns.given
    cases hvalue : event.gatewayOrderId with
    | none => simp [hvalue, asText] at horder
    | some j => cases j <;> simp_all [asText, Json.truthy]
  · have hsame : payment.gatewayOrderId = orderId := by
      simpa using List.find?_some hfound
    rw [← hsame]
    exact hshort.1
  · obtain ⟨input, hinput⟩ := Option.isSome_iff_exists.mp (hgoes.paymentId hacts
      (fun hrefund => not_isCapture_of_isRefund hrefund hcapture) htruthy)
    refine ⟨input, hinput, ?_⟩
    have hor : Json.or event.gatewayPaymentId (payment.gatewayPaymentId.map .str)
        = event.gatewayPaymentId := if_pos htruthy
    have hset : (captureData host ctx payment.toPayment event).gatewayPaymentId
        = some input.value := by
      simp [captureData, PaymentRepository.statusData, hor, inputIfTruthy, htruthy, hinput,
        truthy_asInput htruthy hinput]
    simpa [PaymentUpdate.on, hset] using hshort.2

theorem not_pays_of_same {p : Payment} {db' : Db} (hpayments : db'.payments = db.payments)
    (hbookings : db'.bookings = db.bookings) : ¬ Pays event p db db' := by
  rintro (⟨hp, hopen, p', hp', hpaid⟩ | ⟨b, b', hconcerns, hopen, hb', hconfirmed⟩)
  · rw [hpayments, hp] at hp'
    obtain rfl := Option.some.inj hp'
    exact hopen hpaid
  · rw [hbookings] at hb'
    obtain rfl := Option.some.inj (hconcerns.booking.symm.trans hb')
    exact hopen hconfirmed

/-- The payment that a transaction pays is the one of the event, and the event
is a capture that acts on it. -/
theorem acts_of_pays {p : Payment} {db' : Db}
    (hp : db.payments.find? payment.id = some payment.toPayment)
    (hconcerns : Concerns db event payment)
    (hmoved : (¬ Acts host payment.toPayment event eventType ∧ SameButEvents db db') ∨
      Acts host payment.toPayment event eventType ∧
        (isCapture eventType ∨ db'.bookings = db.bookings) ∧
        ∃ data, SetsPayment host ctx payment event eventType data ∧
          db'.payments = db.payments.put (data.on payment.toPayment))
    (hpays : Pays event p db db') :
    p = payment.toPayment ∧ isCapture eventType ∧
      Acts host payment.toPayment event eventType := by
  rcases hmoved with ⟨_, hsame⟩ | ⟨hacts, hbookings, data, hdata, hpayments⟩
  · rw [hsame] at hpays
    exact absurd hpays (not_pays_of_same rfl rfl)
  rcases hpays with ⟨hfound, hopen, p', hp', hpaid⟩ | ⟨b, b', hconcerns', hopen, hb', hconfirmed⟩
  · rw [hpayments, Table.find?_put, PaymentUpdate.id_on] at hp'
    by_cases hid : payment.id = p.id
    · have hsame : p = payment.toPayment := Option.some.inj (hfound.symm.trans (hid ▸ hp))
      rw [if_pos hid] at hp'
      obtain rfl := Option.some.inj hp'
      refine ⟨hsame, ?_, hacts⟩
      rcases status_of_setsPayment hdata with ⟨hcapture, _⟩ | ⟨_, hs⟩ | ⟨_, hs⟩
      · exact hcapture
      · exact absurd (hs.symm.trans hpaid) (by decide)
      · exact absurd (hs.symm.trans hpaid) (by decide)
    · rw [if_neg hid] at hp'
      obtain rfl := Option.some.inj (hfound.symm.trans hp')
      exact absurd hpaid hopen
  · obtain ⟨orderId, horder, hfound⟩ := hconcerns.orderId
    obtain ⟨orderId', horder', hfound'⟩ := hconcerns'.orderId
    obtain rfl := Option.some.inj (horder.symm.trans horder')
    have hsame : p = payment.toPayment := Option.some.inj (hfound'.symm.trans hfound)
    refine ⟨hsame, hbookings.resolve_right fun hsame => ?_, hacts⟩
    rw [hsame] at hb'
    obtain rfl := Option.some.inj (hconcerns'.booking.symm.trans hb')
    exact hopen hconfirmed

theorem priceChecked_of_gives {delivery : Delivery} (hread : readDelivery host delivery = .ok event)
    (h : CanSettle host event → GivesPrice event) : PriceChecked host delivery event := by
  intro ctx db p hfits
  refine runAlone_delivery (Q := fun db' => Pays event p db db' →
    StatesPrice host p event.paymentEntity ∨ StatesPrice host p event.orderEntity) hread
    (processWebhookEvent_leaves ?_ ?_ ?_)
  · exact fun hpays => absurd hpays (not_pays_of_same rfl rfl)
  · exact fun e hpays => absurd hpays (not_pays_of_same rfl rfl)
  intro payment eventId hid hconcerns
  obtain ⟨orderId, _, hfound⟩ := hconcerns.orderId
  have hp := (Db.find?_of_paymentByOrder hfound).1
  intro db' confirmed heval hpays
  obtain ⟨eventType, hname, hmoved⟩ := webhookTx_acts hconcerns.booking hp db' confirmed heval
  obtain ⟨eventType', hname', hrecord, hgoes⟩ :=
    webhookTx_goes hconcerns.booking hp db' confirmed heval
  obtain rfl := Option.some.inj (hname.symm.trans hname')
  obtain ⟨rfl, hcapture, hacts⟩ := acts_of_pays hp hconcerns hmoved hpays
  have hgives := h (canSettle_of_goes hfits hid hname hcapture hconcerns hrecord hgoes hacts)
  have hpasses := ((acts_iff_of_isCapture hcapture).mp hacts).2.2
  exact Or.inl ⟨amount_of_passes hpasses hgives.1, currency_of_passes hpasses hgives.2⟩

end

/-! ## A body that does not -/

/-- The amount, in units of the currency, that is `n` of its smallest unit. -/
def priceOf (n : Int) (currency : String) : ℚ := if currency = "JPY" then n else n / 100

theorem toSmallestCurrencyUnit_priceOf (n : Int) (currency : String) :
    toSmallestCurrencyUnit (priceOf n currency) currency = n := by
  by_cases hcode : currency = "JPY"
  · rw [priceOf, if_pos hcode, hcode]
    exact toSmallest_jpy n
  · rw [priceOf, if_neg hcode]
    exact toSmallest_of_hundredths hcode (by field_simp)

/-- A price that the columns hold is below 10^10 minor units. -/
theorem minorUnits_lt {p : Payment} (h : p.Fits) :
    |toSmallestCurrencyUnit p.amount p.currency| < 10 ^ 10 := by
  obtain ⟨k, hk, hlt⟩ := h.amount
  by_cases hcode : p.currency = "JPY"
  · have hfloor : toSmallestCurrencyUnit p.amount p.currency = ⌊((k + 50 : Int) : ℚ) / (100 : Nat)⌋ := by
      rw [toSmallestCurrencyUnit, if_pos hcode, hk]
      show ⌊(k : ℚ) / 100 + 1 / 2⌋ = _
      congr 1
      push_cast
      ring
    rw [hfloor, Rat.floor_intCast_div_natCast]
    rw [abs_lt] at hlt ⊢
    omega
  · rwa [toSmallest_of_hundredths (n := k) hcode (by rw [hk]; field_simp)]

namespace Owing

/-- A payment of an order, and its booking. -/
def booking : Booking where
  id := "booking"
  customerId := "customer"
  providerId := "provider"
  providerServiceId := "offering"
  bookingDate := 0
  startTime := 0
  endTime := 3600
  bookingStatus := .expired
  bookedPrice := 0
  bookedDuration := 60
  bookedServiceMode := .online
  serviceName := ""
  providerBusinessName := ""
  customerNotes := none
  cancellationReason := none
  cancelledAt := none
  completedAt := none
  overdueAt := none
  needsReview := false
  createdAt := 0

def payment (orderId currency : String) (n : Int) : Payment where
  id := "payment"
  bookingId := "booking"
  gateway := .razorpay
  gatewayOrderId := orderId
  gatewayPaymentId := none
  gatewaySignature := none
  amount := priceOf n currency
  currency := currency
  status := .created
  paidAt := none
  refundedAt := none
  createdAt := 0

/-- The database with that payment. -/
def db (orderId currency : String) (n : Int) : Db :=
  { Sample.db with
    bookings := Table.empty.put booking
    payments := Table.empty.put (payment orderId currency n) }

end Owing

section
variable {host : Host} {event : WebhookEvent} {orderId currency : String} {n : Int}

theorem fits_owing (hn : |n| < 10 ^ 10) (hyen : currency = "JPY" → |n| < 10 ^ 8)
    (hcurrency : currency.length = 3) : (Owing.payment orderId currency n).Fits := by
  refine ⟨?_, hcurrency⟩
  by_cases hcode : currency = "JPY"
  · refine ⟨100 * n, ?_, ?_⟩
    · simp [Owing.payment, priceOf, hcode]
    · have hn := hyen hcode
      rw [abs_lt] at hn ⊢
      omega
  · exact ⟨n, if_neg hcode, hn⟩

theorem refusal_owing {data : PaymentUpdate} (horder : tooLong 255 orderId = false)
    (hpaid : data.gatewayPaymentId.all fun value => !value.any (tooLong 255)) :
    (Owing.db orderId currency n).refusal
      (.payment (data.on (Owing.payment orderId currency n))) = none := by
  have hclashes : (Owing.db orderId currency n).clashes
      (.payment (data.on (Owing.payment orderId currency n))) = false := by
    refine List.any_eq_false.mpr fun o ho => ?_
    obtain ⟨p, hp, rfl⟩ := List.mem_map.mp ho
    obtain rfl : p = Owing.payment orderId currency n := by
      simpa [Owing.db, Table.mem_put, Table.empty] using hp
    simp [Row.key]
  have hown : (Owing.payment orderId currency n).gatewayOrderId = orderId := rfl
  have hset : (data.gatewayPaymentId.getD (Owing.payment orderId currency n).gatewayPaymentId).any
      (tooLong 255) = false := by
    cases hid : data.gatewayPaymentId with
    | none => rfl
    | some value => simpa [hid] using hpaid
  rw [Db.refusal, hclashes]
  simp [Row.tooLong, Row.inverted, PaymentUpdate.on, hown, horder, hset]

theorem concerns_owing (horder : asText event.gatewayOrderId = some orderId) (hne : orderId ≠ "") :
    Concerns (Owing.db orderId currency n) event
      ⟨Owing.payment orderId currency n, Owing.booking⟩ where
  given := by
    cases hvalue : event.gatewayOrderId with
    | none => simp [hvalue, asText] at horder
    | some j =>
        rw [hvalue] at horder
        cases j with
        | str s =>
            obtain rfl : s = orderId := Option.some.inj horder
            simp [Json.truthy, hne]
        | _ => simp [asText] at horder
  orderId := ⟨orderId, horder, by
    simp [Db.paymentByOrder, Owing.db, Table.put, Table.empty, Owing.payment]⟩
  booking := by
    have hb : (Owing.db orderId currency n).bookings.find? Owing.booking.id = some Owing.booking :=
      Table.find?_of_mem (Table.mem_put.mpr (Or.inl rfl))
    exact hb

theorem inputIfTruthy_or_none (o : Option Json) :
    inputIfTruthy host (Json.or o none) = if Json.truthy o then asInput host o else none := by
  cases htruthy : Json.truthy o with
  | true => simp [inputIfTruthy, Json.or, htruthy]
  | false =>
      rw [Json.or, htruthy]
      rfl

theorem capturedId_fits {ctx : Ctx} (hfits : Json.truthy event.gatewayPaymentId = true →
      ∃ input, asInput host event.gatewayPaymentId = some input ∧
        input.value.any (tooLong 255) = false) :
    (captureData host ctx (Owing.payment orderId currency n) event).gatewayPaymentId.all
      fun value => !value.any (tooLong 255) := by
  have hset : (captureData host ctx (Owing.payment orderId currency n) event).gatewayPaymentId
      = ((inputIfTruthy host (Json.or event.gatewayPaymentId none)).filter (·.truthy)).map
          (·.value) := rfl
  rw [hset, inputIfTruthy_or_none]
  split
  · rename_i htruthy
    obtain ⟨input, hinput, hfits⟩ := hfits htruthy
    have hkept : Option.filter (·.truthy) (some input) = some input :=
      if_pos (truthy_asInput htruthy hinput)
    rw [hinput, hkept]
    simp [hfits]
  · rfl

/-- A body that can settle a payment, and passes the checks of this one, makes
it SUCCESS. -/
theorem pays_owing {delivery : Delivery} (hread : readDelivery host delivery = .ok event)
    (hcan : CanSettle host event) (horder : asText event.gatewayOrderId = some orderId)
    (hpasses : Passes host (Owing.payment orderId currency n) event) :
    Pays event (Owing.payment orderId currency n) (Owing.db orderId currency n)
      (runAlone host ⟨Sample.ctx 1, .handleWebhookEvent delivery⟩ (Owing.db orderId currency n)).1 := by
  obtain ⟨eventType, hname, hcapture⟩ := hcan.capture
  obtain ⟨eventId, hid, hidFits⟩ := hcan.eventId
  obtain ⟨orderId', horder', hne, horderFits⟩ := hcan.orderId
  obtain rfl := Option.some.inj (horder.symm.trans horder')
  have hacts : Acts host (Owing.payment orderId currency n) event eventType :=
    (acts_iff_of_isCapture hcapture).mpr ⟨by simp [Owing.payment], rfl, hpasses⟩
  have hconcerns : Concerns (Owing.db orderId currency n) event ⟨Owing.payment orderId currency n, Owing.booking⟩ :=
    concerns_owing horder hne
  have hp : (Owing.db orderId currency n).payments.find? (Owing.payment orderId currency n).id
      = some (Owing.payment orderId currency n) :=
    Table.find?_of_mem (Table.mem_put.mpr (Or.inl rfl))
  have hrecord : Recordable host (Sample.ctx 1) (Owing.db orderId currency n) event eventId
      eventType :=
    ⟨hcan.stored, hidFits, by rcases hcapture with rfl | rfl <;> decide, rfl, rfl⟩
  have hfresh : FreshAudit (Sample.ctx 1) (Owing.db orderId currency n) :=
    ⟨rfl, rfl, by decide⟩
  have hgoes : Goes host (Owing.db orderId currency n)
      ⟨Owing.payment orderId currency n, Owing.booking⟩ event eventType := by
    refine ⟨fun _ _ _ _ => ⟨false, hpasses.2⟩, fun _ _ hpending => (by cases hpending),
      fun _ ctx data hdata => refusal_owing horderFits ?_, fun _ _ htruthy => ?_, fun _ _ => rfl⟩
    · rcases hdata with ⟨_, rfl⟩ | ⟨rfl, _⟩ | ⟨hrefund, _⟩
      · exact capturedId_fits hcan.paymentId
      · exact absurd hcapture not_isCapture_failed
      · exact absurd hcapture (not_isCapture_of_isRefund hrefund)
    · obtain ⟨input, hinput, _⟩ := hcan.paymentId htruthy
      simp [hinput]
  refine runAlone_delivery hread (concerned_leaves hid rfl hconcerns ?_ ?_)
  · refine (webhookTx_acts hconcerns.booking hp).mono ?_
    rintro db' _ ⟨eventType', hname', hmoved⟩
    obtain rfl := Option.some.inj (hname.symm.trans hname')
    rcases hmoved with ⟨hidle, _⟩ | ⟨_, _, data, hdata, hpayments⟩
    · exact absurd hacts hidle
    refine Or.inl ⟨hp, by simp [Owing.payment], data.on (Owing.payment orderId currency n), ?_, ?_⟩
    · rw [hpayments, Table.find?_put]
      exact if_pos rfl
    · rcases status_of_setsPayment hdata with ⟨_, hs⟩ | ⟨rfl, _⟩ | ⟨hrefund, _⟩
      · exact hs
      · exact absurd hcapture not_isCapture_failed
      · exact absurd hcapture (not_isCapture_of_isRefund hrefund)
  · refine (webhookTx_throws_not hname hrecord hgoes hfresh hconcerns.booking hp).mono ?_
    exact fun _ _ h => h.elim

theorem exists_unstated (x y : Option ℚ) :
    ∃ n : Int, |n| < 10 ^ 8 ∧ x ≠ some (n : ℚ) ∧ y ≠ some (n : ℚ) := by
  by_contra h
  push Not at h
  -- three whole numbers, two of them stated by the same entity
  have h₁ := h 1 (by decide)
  have h₂ := h 2 (by decide)
  have h₃ := h 3 (by decide)
  by_cases hx₁ : x = some ((1 : Int) : ℚ)
  · have hy₂ := h₂ (by simp [hx₁])
    have hy₃ := h₃ (by simp [hx₁])
    simp [hy₂] at hy₃
  · have hy₁ := h₁ hx₁
    by_cases hx₂ : x = some ((2 : Int) : ℚ)
    · have hy₃ := h₃ (by simp [hx₂])
      simp [hy₁] at hy₃
    · have hy₂ := h₂ hx₂
      simp [hy₁] at hy₂

theorem exists_other_currency (hupper : host.toUpperCase "INR" ≠ host.toUpperCase "USD")
    (o : Option Json) : ∃ c : String, c.length = 3 ∧ c ≠ "JPY" ∧
      ∀ s, o = some (.str s) → host.toUpperCase s ≠ host.toUpperCase c := by
  by_contra h
  push Not at h
  obtain ⟨s, hs, hinr⟩ := h "INR" (by decide) (by decide)
  obtain ⟨s', hs', husd⟩ := h "USD" (by decide) (by decide)
  obtain rfl : s = s' := by simpa [hs] using hs'
  exact hupper (hinr.symm.trans husd)

theorem not_priceChecked {delivery : Delivery} (hread : readDelivery host delivery = .ok event)
    (hcan : CanSettle host event)
    (h : ∀ orderId, ∃ n c, (Owing.payment orderId c n).Fits ∧
      Passes host (Owing.payment orderId c n) event ∧
      ¬ StatesPrice host (Owing.payment orderId c n) event.paymentEntity ∧
      ¬ StatesPrice host (Owing.payment orderId c n) event.orderEntity) :
    ¬ PriceChecked host delivery event := by
  intro hchecked
  obtain ⟨orderId, horder, _, _⟩ := hcan.orderId
  obtain ⟨n, c, hfits, hpasses, hpayment, horderEntity⟩ := h orderId
  rcases hchecked _ _ _ hfits (pays_owing hread hcan horder hpasses) with h | h
  · exact hpayment h
  · exact horderEntity h

/-- Without an amount, a price that nobody states passes. -/
theorem exists_owing_of_amount (hcan : CanSettle host event)
    (hamount : Json.truthy (Json.optProp event.paymentEntity "amount") = false)
    (orderId : String) : ∃ n c, (Owing.payment orderId c n).Fits ∧
      Passes host (Owing.payment orderId c n) event ∧
      ¬ StatesPrice host (Owing.payment orderId c n) event.paymentEntity ∧
      ¬ StatesPrice host (Owing.payment orderId c n) event.orderEntity := by
  obtain ⟨p, hp, hpasses⟩ := hcan.price
  obtain ⟨n, hn, hpayment, horder⟩ := exists_unstated
    ((Json.optProp event.paymentEntity "amount").bind host.number)
    ((Json.optProp event.orderEntity "amount").bind host.number)
  refine ⟨n, p.currency, fits_owing (by omega) (fun _ => hn) hp.currency, ⟨?_, ?_⟩,
    fun hstates => hpayment ?_, fun hstates => horder ?_⟩
  · simp [amountDiffers, hamount]
  · exact hpasses.2
  · simpa only [Owing.payment, toSmallestCurrencyUnit_priceOf] using hstates.1
  · simpa only [Owing.payment, toSmallestCurrencyUnit_priceOf] using hstates.1

/-- Without a currency, the amount passes in one that the body does not name. -/
theorem exists_owing_of_currency (hupper : host.toUpperCase "INR" ≠ host.toUpperCase "USD")
    (hcan : CanSettle host event)
    (hamount : Json.truthy (Json.optProp event.paymentEntity "amount") = true)
    (hnone : ¬ Json.truthy (Json.optProp event.paymentEntity "currency") = true)
    (orderId : String) : ∃ n c, (Owing.payment orderId c n).Fits ∧
      Passes host (Owing.payment orderId c n) event ∧
      ¬ StatesPrice host (Owing.payment orderId c n) event.paymentEntity ∧
      ¬ StatesPrice host (Owing.payment orderId c n) event.orderEntity := by
  obtain ⟨p, hp, hpasses⟩ := hcan.price
  have hstated := amount_of_passes hpasses hamount
  obtain ⟨c, hlength, hyen, hc⟩ :=
    exists_other_currency hupper (Json.optProp event.orderEntity "currency")
  refine ⟨toSmallestCurrencyUnit p.amount p.currency, c,
    fits_owing (minorUnits_lt hp) (fun h => absurd h hyen) hlength, ⟨?_, if_neg hnone⟩, ?_, ?_⟩
  · simp [amountDiffers, hstated, Owing.payment, toSmallestCurrencyUnit_priceOf]
  · rintro ⟨_, s, hne, hs, _⟩
    exact hnone (by simp [hs, Json.truthy, hne])
  · rintro ⟨_, s, _, hs, hsame⟩
    exact hc s hs hsame

theorem gives_of_priceChecked {delivery : Delivery}
    (hread : readDelivery host delivery = .ok event)
    (hupper : host.toUpperCase "INR" ≠ host.toUpperCase "USD")
    (hchecked : PriceChecked host delivery event) (hcan : CanSettle host event) :
    GivesPrice event := by
  by_contra hgives
  refine not_priceChecked hread hcan (fun orderId => ?_) hchecked
  cases hamount : Json.truthy (Json.optProp event.paymentEntity "amount") with
  | false => exact exists_owing_of_amount hcan hamount orderId
  | true =>
      exact exists_owing_of_currency hupper hcan hamount (fun h => hgives ⟨hamount, h⟩) orderId

end

/-- **The price is checked** exactly for the bodies of which the payment entity
gives it, and for those that can settle no payment. -/
theorem priceChecked_iff (host : Host) (delivery : Delivery) (event : WebhookEvent)
    (hread : readDelivery host delivery = .ok event)
    (hupper : host.toUpperCase "INR" ≠ host.toUpperCase "USD") :
    PriceChecked host delivery event ↔ (CanSettle host event → GivesPrice event) :=
  ⟨fun hchecked => gives_of_priceChecked hread hupper hchecked, priceChecked_of_gives hread⟩

/-! ## Two deliveries -/

namespace Sample

/-- An `order.paid` for `order_1` that has an order entity only, with 100 paise
of the 500 INR. -/
def underpaid : String :=
  "\x7b\"event\":\"order.paid\",\"payload\":\x7b\"order\":\x7b\"entity\":" ++
    "\x7b\"id\":\"order_1\",\"amount\":100,\"currency\":\"INR\"\x7d\x7d\x7d\x7d"

def underpaidJson : Json :=
  .obj [("event", .str "order.paid"), ("payload", .obj [("order", .obj [("entity", .obj
    [("id", .str "order_1"), ("amount", .num 100), ("currency", .str "INR")])])])]

def underpaidSignature : String :=
  "29add965ed545a2e43e793abd333798b1db26d9c087eb15183452ca05351282c"

def underpaidHost : Host :=
  { host with
    hmacSha256 := fun _ data => if data = utf8 underpaid then underpaidSignature else ""
    jsonParse := fun data => if data = utf8 underpaid then some underpaidJson else none }

def underpay : Delivery := ⟨utf8 underpaid, some underpaidSignature, some "evt_1"⟩

def underpaidEvent : WebhookEvent := readWebhookEvent underpaidHost (some "evt_1") underpaidJson

def capture : Delivery :=
  ⟨utf8 (body "payment.captured"), signatures.lookup "payment.captured", some "evt_1"⟩

def captureEvent : WebhookEvent := readWebhookEvent host (some "evt_1") (json "payment.captured")

end Sample

/-- The capture of 50000 paise gives its price. -/
theorem priceChecked_sample :
    readDelivery Sample.host Sample.capture = .ok Sample.captureEvent ∧
    (PriceChecked Sample.host Sample.capture Sample.captureEvent ↔
      (CanSettle Sample.host Sample.captureEvent → GivesPrice Sample.captureEvent)) ∧
    GivesPrice Sample.captureEvent := by
  have hread : readDelivery Sample.host Sample.capture = .ok Sample.captureEvent := by
    have hsigned : Sample.capture.signature.filter (· ≠ "") = some
        "d5ee2a599b160c83579acd686d8d8bfa800f4d5ac9455ef4bedb87a726f8c244" := by decide +kernel
    have hvalid : verifyWebhookSignature Sample.host Sample.capture.rawBody
        "d5ee2a599b160c83579acd686d8d8bfa800f4d5ac9455ef4bedb87a726f8c244" = true := by
      decide +kernel
    have hdelivered : Sample.delivered Sample.capture.rawBody = some ("payment.captured",
        "d5ee2a599b160c83579acd686d8d8bfa800f4d5ac9455ef4bedb87a726f8c244") := by decide +kernel
    have hparsed : Sample.host.jsonParse Sample.capture.rawBody
        = some (Sample.json "payment.captured") := by simp [Sample.host, hdelivered]
    simp only [readDelivery, hsigned, hvalid, hparsed]
    rfl
  exact ⟨hread, priceChecked_iff _ _ _ hread (by decide +kernel), by decide +kernel⟩

/-- One rupee pays for five hundred. -/
theorem not_priceChecked_sample : ∃ p,
    readDelivery Sample.underpaidHost Sample.underpay = .ok Sample.underpaidEvent ∧
    Pays Sample.underpaidEvent p Sample.booked
      (runAlone Sample.underpaidHost ⟨Sample.ctx 1, .handleWebhookEvent Sample.underpay⟩
        Sample.booked).1 ∧
    p.amount = 500 ∧
    ¬ StatesPrice Sample.underpaidHost p Sample.underpaidEvent.paymentEntity ∧
    ¬ StatesPrice Sample.underpaidHost p Sample.underpaidEvent.orderEntity := by
  have hread : readDelivery Sample.underpaidHost Sample.underpay = .ok Sample.underpaidEvent := by
    have hsigned : Sample.underpay.signature.filter (· ≠ "") = some Sample.underpaidSignature := by
      decide +kernel
    have hvalid : verifyWebhookSignature Sample.underpaidHost Sample.underpay.rawBody
        Sample.underpaidSignature = true := by decide +kernel
    have hparsed : Sample.underpaidHost.jsonParse Sample.underpay.rawBody
        = some Sample.underpaidJson := by simp [Sample.underpaidHost, Sample.underpay]
    simp only [readDelivery, hsigned, hvalid, hparsed]
    rfl
  obtain ⟨p, hp⟩ := Option.isSome_iff_exists.mp
    (show (Sample.booked.payments.find? Sample.paymentId).isSome by decide +kernel)
  have hopen : ∀ p ∈ Sample.booked.payments.find? Sample.paymentId,
      p.status ≠ .success ∧ p.amount = 500 ∧
        toSmallestCurrencyUnit p.amount p.currency = 50000 := by decide +kernel
  have hpaid : ((runAlone Sample.underpaidHost ⟨Sample.ctx 1, .handleWebhookEvent Sample.underpay⟩
      Sample.booked).1.payments.find? Sample.paymentId).map (·.status) = some .success := by
    decide +kernel
  obtain ⟨hunpaid, hamount, hunit⟩ := hopen p hp
  obtain ⟨p', hp', hsuccess⟩ := Option.map_eq_some_iff.mp hpaid
  have hid : p.id = Sample.paymentId := Table.key_of_find? hp
  refine ⟨p, hread, Or.inl ⟨hid ▸ hp, hunpaid, p', hid ▸ hp', hsuccess⟩, hamount,
    fun hstates => ?_, fun hstates => ?_⟩
  · have hnone : Json.optProp Sample.underpaidEvent.paymentEntity "amount" = none := rfl
    simp [StatesPrice, hnone] at hstates
  · have hstated : (Json.optProp Sample.underpaidEvent.orderEntity "amount").bind
        Sample.underpaidHost.number = some 100 := rfl
    have hprice := hstates.1
    rw [hstated, hunit] at hprice
    norm_num at hprice

end ServiceHub
