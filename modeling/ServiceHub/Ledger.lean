/-
# `Ledger` — what bookings and payments owe each other

The abstract model of the two services: a booking is its status, a payment is
its status and the booking it pays.  An action is what one operation does to
them, with a guard (`Allowed`) and an effect (`act`).

| | |
| :-- | :-- |
| `book`, `order` | a booking with its first payment, a further payment |
| `confirm` | money arrives for a booking that waits for it |
| `late` | money arrives for a booking that no longer does |
| `cancel`, `complete`, `expire` | the life of a booking |
| `refund` | the refund of a payment that was received |
| `fail`, `reconcile` | an event says that a payment failed, or was refunded |

The last two are guarded by nothing but that the payment exists, and `refund`
by nothing about its booking.  Whatever the two state machines and the agreement
of bookings and payments suffer comes from these three.

    every other action moves along the tables       (`act_booking`, `act_payment`)
    no action leaves a paid booking waiting         (`Unpaid.act`)
    a booking that takes place stays paid, unless
    `fail` or `reconcile` takes its only payment    (`Paid.act`)
    received money stays received, unless `fail`
    takes it                                        (`Received.act`)
-/
import ServiceHub.StateMachines
import Mathlib.Tactic.Basic

namespace ServiceHub

/-- Bookings `B` by status, payments `P` by booking and status. -/
structure Ledger (B P : Type) where
  booking : B → Option BookingStatus
  payment : P → Option (B × PaymentStatus)

namespace Ledger

inductive Action (B P : Type) where
  | quiet
  | book (b : B) (p : P)
  | order (b : B) (p : P)
  | confirm (b : B) (p : P)
  | late (b : B) (p : P)
  | cancel (b : B)
  | complete (b : B)
  | expire (b : B)
  | refund (b : B) (p : P)
  | fail (b : B) (p : P)
  | reconcile (b : B) (p : P)

variable {B P : Type}

/-- The guard of an action. -/
def Allowed (L : Ledger B P) : Action B P → Prop
  | .quiet => True
  | .book b p => L.booking b = none ∧ L.payment p = none
  | .order b p => L.booking b = some .pendingPayment ∧ L.payment p = none
  | .confirm b p => L.booking b = some .pendingPayment ∧
      ∃ s, L.payment p = some (b, s) ∧ canTransitionPayment s .success = true
  | .late b p => (∃ t, L.booking b = some t ∧ t ≠ .pendingPayment) ∧
      ∃ s, L.payment p = some (b, s) ∧ canTransitionPayment s .success = true
  | .cancel b => ∃ s, L.booking b = some s ∧ canTransitionBooking s .cancelled = true
  | .complete b => ∃ s, L.booking b = some s ∧ canTransitionBooking s .completed = true
  | .expire b => L.booking b = some .pendingPayment
  | .refund b p => (∃ s, L.booking b = some s) ∧ L.payment p = some (b, .success)
  | .fail b p => ∃ s, L.payment p = some (b, s)
  | .reconcile b p => ∃ s, L.payment p = some (b, s)

/-- The booking that an action sets. -/
def Action.booking : Action B P → Option (B × BookingStatus)
  | .book b _ => some (b, .pendingPayment)
  | .confirm b _ => some (b, .confirmed)
  | .cancel b => some (b, .cancelled)
  | .complete b => some (b, .completed)
  | .expire b => some (b, .expired)
  | .refund b _ => some (b, .cancelled)
  | _ => none

/-- The payment that an action sets. -/
def Action.payment : Action B P → Option (P × B × PaymentStatus)
  | .book b p => some (p, b, .created)
  | .order b p => some (p, b, .created)
  | .confirm b p => some (p, b, .success)
  | .late b p => some (p, b, .success)
  | .refund b p => some (p, b, .refunded)
  | .fail b p => some (p, b, .failed)
  | .reconcile b p => some (p, b, .refunded)
  | _ => none

variable [DecidableEq B] [DecidableEq P]

/-- When its booking expires, an unpaid payment fails. -/
def afterExpiry (b : B) (x : B × PaymentStatus) : B × PaymentStatus :=
  if x.1 = b ∧ (x.2 = .created ∨ x.2 = .pending) then (x.1, .failed) else x

/-- The effect of an action. -/
def act (L : Ledger B P) (a : Action B P) : Ledger B P where
  booking b :=
    match a.booking with
    | some (b', s) => if b' = b then some s else L.booking b
    | none => L.booking b
  payment p :=
    match a, a.payment with
    | .expire b, _ => (L.payment p).map (afterExpiry b)
    | _, some (p', x) => if p' = p then some x else L.payment p
    | _, none => L.payment p

variable {L : Ledger B P} {a : Action B P}

theorem booking_act (L : Ledger B P) (a : Action B P) (b : B) :
    (∃ s, a.booking = some (b, s) ∧ (L.act a).booking b = some s) ∨
      (∀ s, a.booking ≠ some (b, s)) ∧ (L.act a).booking b = L.booking b := by
  cases h : a.booking with
  | none => exact Or.inr ⟨fun s => by simp, by simp only [act, h]⟩
  | some x =>
      obtain ⟨b', s⟩ := x
      by_cases hb : b' = b
      · exact Or.inl ⟨s, by rw [hb], by simp only [act, h, if_pos hb]⟩
      · refine Or.inr ⟨fun t ht => hb ?_, by simp only [act, h, if_neg hb]⟩
        exact (Prod.mk.inj (Option.some.inj ht)).1

theorem payment_act (L : Ledger B P) (a : Action B P) (p : P) :
    (∃ x, a.payment = some (p, x) ∧ (L.act a).payment p = some x) ∨
      (∃ b, a = .expire b ∧ (L.act a).payment p = (L.payment p).map (afterExpiry b)) ∨
      (∀ x, a.payment ≠ some (p, x)) ∧ (∀ b, a ≠ .expire b) ∧
        (L.act a).payment p = L.payment p := by
  by_cases he : ∃ b, a = .expire b
  · obtain ⟨b, rfl⟩ := he
    exact Or.inr (Or.inl ⟨b, rfl, rfl⟩)
  have hact : (L.act a).payment p = match a.payment with
      | some (p', x) => if p' = p then some x else L.payment p
      | none => L.payment p := by
    cases a with
    | expire b => exact absurd ⟨b, rfl⟩ he
    | _ => rfl
  rw [hact]
  have hne : ∀ b, a ≠ .expire b := fun b hb => he ⟨b, hb⟩
  cases h : a.payment with
  | none => exact Or.inr (Or.inr ⟨fun x => by simp, hne, rfl⟩)
  | some y =>
      obtain ⟨p', x⟩ := y
      by_cases hp : p' = p
      · exact Or.inl ⟨x, by rw [hp], by simp only [if_pos hp]⟩
      · refine Or.inr (Or.inr ⟨fun x' hx' => hp ?_, hne, by simp only [if_neg hp]⟩)
        exact (Prod.mk.inj (Option.some.inj hx')).1

/-! ## The state machines -/

omit [DecidableEq B] [DecidableEq P] in
/-- Where a booking that is set comes from. -/
theorem Allowed.booking (hallowed : L.Allowed a) {b : B} {t : BookingStatus}
    (ha : a.booking = some (b, t)) :
    (L.booking b = none ∧ ∃ p, a = .book b p ∧ t = .pendingPayment) ∨
    (∃ s, L.booking b = some s ∧ canTransitionBooking s t = true) ∨
    ∃ p, a = .refund b p ∧ t = .cancelled := by
  cases a with
  | book b' p =>
      cases ha
      exact Or.inl ⟨hallowed.1, p, rfl, rfl⟩
  | confirm b' p =>
      cases ha
      exact Or.inr (Or.inl ⟨_, hallowed.1, rfl⟩)
  | cancel b' =>
      cases ha
      exact Or.inr (Or.inl hallowed)
  | complete b' =>
      cases ha
      exact Or.inr (Or.inl hallowed)
  | expire b' =>
      cases ha
      exact Or.inr (Or.inl ⟨_, hallowed, rfl⟩)
  | refund b' p =>
      cases ha
      exact Or.inr (Or.inr ⟨p, rfl, rfl⟩)
  | _ => cases ha

omit [DecidableEq B] [DecidableEq P] in
/-- Where a payment that is set comes from. -/
theorem Allowed.payment (hallowed : L.Allowed a) {p : P} {b : B} {t : PaymentStatus}
    (ha : a.payment = some (p, b, t)) :
    (L.payment p = none ∧ t = .created) ∨
    ∃ s, L.payment p = some (b, s) ∧
      (canTransitionPayment s t = true ∨ a = .fail b p ∧ t = .failed ∨
        a = .reconcile b p ∧ t = .refunded) := by
  cases a with
  | book b' p' =>
      cases ha
      exact Or.inl ⟨hallowed.2, rfl⟩
  | order b' p' =>
      cases ha
      exact Or.inl ⟨hallowed.2, rfl⟩
  | confirm b' p' =>
      cases ha
      obtain ⟨_, s, hs, hcan⟩ := hallowed
      exact Or.inr ⟨s, hs, Or.inl hcan⟩
  | late b' p' =>
      cases ha
      obtain ⟨_, s, hs, hcan⟩ := hallowed
      exact Or.inr ⟨s, hs, Or.inl hcan⟩
  | refund b' p' =>
      cases ha
      exact Or.inr ⟨_, hallowed.2, Or.inl rfl⟩
  | fail b' p' =>
      cases ha
      obtain ⟨s, hs⟩ := hallowed
      exact Or.inr ⟨s, hs, Or.inr (Or.inl ⟨rfl, rfl⟩)⟩
  | reconcile b' p' =>
      cases ha
      obtain ⟨s, hs⟩ := hallowed
      exact Or.inr ⟨s, hs, Or.inr (Or.inr ⟨rfl, rfl⟩)⟩
  | _ => cases ha

/-- A booking moves along its table, or is cancelled by a refund. -/
theorem act_booking (hallowed : L.Allowed a) {b : B} {s t : BookingStatus}
    (hs : L.booking b = some s) (ht : (L.act a).booking b = some t) (hne : s ≠ t) :
    canTransitionBooking s t = true ∨ ∃ p, a = .refund b p ∧ t = .cancelled := by
  rcases booking_act L a b with ⟨t', hset, ht'⟩ | ⟨_, hkept⟩
  · obtain rfl : t = t' := Option.some.inj (ht.symm.trans ht')
    rcases hallowed.booking hset with ⟨hnone, _⟩ | ⟨s', hs', hcan⟩ | hrefund
    · rw [hs] at hnone
      cases hnone
    · obtain rfl : s = s' := Option.some.inj (hs.symm.trans hs')
      exact Or.inl hcan
    · exact Or.inr hrefund
  · rw [hkept, hs] at ht
    exact absurd (Option.some.inj ht) hne

/-- A payment keeps its booking, and moves along its table or as an event says. -/
theorem act_payment (hallowed : L.Allowed a) {p : P} {b b' : B} {s t : PaymentStatus}
    (hs : L.payment p = some (b, s)) (ht : (L.act a).payment p = some (b', t)) :
    b' = b ∧ (canTransitionPayment s t = true ∨ a = .fail b p ∧ t = .failed ∨
      a = .reconcile b p ∧ t = .refunded) := by
  rcases payment_act L a p with ⟨x, hset, hx⟩ | ⟨c, rfl, hmap⟩ | ⟨_, _, hkept⟩
  · obtain rfl : (b', t) = x := Option.some.inj (ht.symm.trans hx)
    rcases hallowed.payment hset with ⟨hnone, _⟩ | ⟨s', hs', hmove⟩
    · rw [hs] at hnone
      cases hnone
    · obtain ⟨rfl, rfl⟩ : b = b' ∧ s = s' := by simpa using hs.symm.trans hs'
      exact ⟨rfl, hmove⟩
  · rw [hmap, hs] at ht
    simp only [Option.map_some, afterExpiry, Option.some.injEq] at ht
    split at ht
    · rename_i hunpaid
      obtain ⟨rfl, rfl⟩ := Prod.mk.inj ht
      refine ⟨rfl, Or.inl ?_⟩
      rcases hunpaid.2 with h | h
      · rw [show s = _ from h]; rfl
      · rw [show s = _ from h]; rfl
    · obtain ⟨rfl, rfl⟩ := Prod.mk.inj ht
      exact ⟨rfl, Or.inl (by simp [canTransitionPayment])⟩
  · rw [hkept, hs] at ht
    obtain ⟨rfl, rfl⟩ := Prod.mk.inj (Option.some.inj ht)
    exact ⟨rfl, Or.inl (by simp [canTransitionPayment])⟩

/-! ## Bookings and payments agree -/

/-- Every payment pays a booking. -/
def Owned (L : Ledger B P) : Prop :=
  ∀ p b s, L.payment p = some (b, s) → ∃ t, L.booking b = some t

/-- A booking that waits for its money has not been paid. -/
def Unpaid (L : Ledger B P) : Prop :=
  ∀ p b, L.payment p = some (b, .success) → L.booking b ≠ some .pendingPayment

/-- The service takes place, or took place. -/
def Takes (s : BookingStatus) : Prop := s = .confirmed ∨ s = .completed

/-- A booking that takes place has been paid. -/
def Paid (L : Ledger B P) : Prop :=
  ∀ b s, L.booking b = some s → Takes s → ∃ p, L.payment p = some (b, .success)

/-- An event that takes a payment away from a booking that takes place leaves
it another one. -/
def Spares (L : Ledger B P) (a : Action B P) : Prop :=
  ∀ b p, a = .fail b p ∨ a = .reconcile b p → L.payment p = some (b, .success) →
    ∀ s, L.booking b = some s → Takes s → ∃ q, q ≠ p ∧ L.payment q = some (b, .success)

omit [DecidableEq B] [DecidableEq P] in
theorem Action.booking_pending {b : B} (ha : a.booking = some (b, .pendingPayment)) :
    ∃ p, a = .book b p := by
  cases a with
  | book b' p =>
      cases ha
      exact ⟨p, rfl⟩
  | _ => cases ha

omit [DecidableEq B] [DecidableEq P] in
theorem Action.booking_takes {b : B} {s : BookingStatus} (ha : a.booking = some (b, s))
    (hs : Takes s) : (∃ p, a = .confirm b p) ∨ a = .complete b := by
  cases a with
  | confirm b' p =>
      cases ha
      exact Or.inl ⟨p, rfl⟩
  | complete b' =>
      cases ha
      exact Or.inr rfl
  | _ =>
      cases ha
      try (rcases hs with hs | hs <;> cases hs)

omit [DecidableEq B] [DecidableEq P] in
theorem Action.payment_success {p : P} {b : B} (ha : a.payment = some (p, b, .success)) :
    a = .confirm b p ∨ a = .late b p := by
  cases a with
  | confirm b' p' =>
      cases ha
      exact Or.inl rfl
  | late b' p' =>
      cases ha
      exact Or.inr rfl
  | _ => cases ha

omit [DecidableEq P] in
/-- Expiry neither makes a payment SUCCESS nor ends one that is. -/
theorem map_afterExpiry {o : Option (B × PaymentStatus)} {c b : B} {s : PaymentStatus}
    (hs : s = .success ∨ s = .refunded) : o.map (afterExpiry c) = some (b, s) ↔ o = some (b, s) := by
  cases o with
  | none => simp
  | some x =>
      obtain ⟨b', t⟩ := x
      simp only [Option.map_some, Option.some.injEq, afterExpiry]
      split
      · rename_i h
        rcases hs with rfl | rfl <;> rcases h.2 with h | h <;> simp_all
      · exact Iff.rfl

theorem isSome_booking_act {b : B} {s : BookingStatus} (h : L.booking b = some s) :
    ∃ t, (L.act a).booking b = some t := by
  rcases booking_act L a b with ⟨t, _, ht⟩ | ⟨_, hkept⟩
  · exact ⟨t, ht⟩
  · exact ⟨s, hkept.trans h⟩

theorem Owned.act (h : L.Owned) (hallowed : L.Allowed a) : (L.act a).Owned := by
  have hold : ∀ {p b s}, L.payment p = some (b, s) → ∃ t, (L.act a).booking b = some t := by
    intro p b s hp
    obtain ⟨t, ht⟩ := h p b s hp
    exact isSome_booking_act ht
  intro p b s hp
  rcases payment_act L a p with ⟨x, hset, hx⟩ | ⟨c, rfl, hmap⟩ | ⟨_, _, hkept⟩
  · obtain rfl : (b, s) = x := Option.some.inj (hp.symm.trans hx)
    cases a with
    | book b' p' =>
        cases hset
        exact ⟨.pendingPayment, if_pos rfl⟩
    | order b' p' =>
        cases hset
        exact isSome_booking_act hallowed.1
    | confirm b' p' =>
        cases hset
        exact isSome_booking_act hallowed.1
    | late b' p' =>
        cases hset
        obtain ⟨⟨t, ht, _⟩, _⟩ := hallowed
        exact isSome_booking_act ht
    | refund b' p' =>
        cases hset
        exact hold hallowed.2
    | fail b' p' =>
        cases hset
        obtain ⟨s, hs⟩ := hallowed
        exact hold hs
    | reconcile b' p' =>
        cases hset
        obtain ⟨s, hs⟩ := hallowed
        exact hold hs
    | _ => cases hset
  · rw [hmap, Option.map_eq_some_iff] at hp
    obtain ⟨⟨b', t⟩, hp, hx⟩ := hp
    have hb : b' = b := by
      unfold afterExpiry at hx
      split at hx <;> exact (Prod.mk.inj hx).1
    exact hb ▸ hold hp
  · rw [hkept] at hp
    exact hold hp

theorem Unpaid.act (h : L.Unpaid) (howned : L.Owned) (hallowed : L.Allowed a) :
    (L.act a).Unpaid := by
  intro p b hp hb
  have hold : L.booking b = some .pendingPayment → L.payment p ≠ some (b, .success) :=
    fun hb hp => h p b hp hb
  rcases booking_act L a b with ⟨s, hset, hs⟩ | ⟨hfree, hkept⟩
  · -- a booking that is set waiting is new, and owns no payment but its first
    obtain rfl : s = .pendingPayment := Option.some.inj (hs.symm.trans hb)
    obtain ⟨p', rfl⟩ := Action.booking_pending hset
    rcases payment_act L (.book b p') p with ⟨x, hset', hx⟩ | ⟨c, hc, _⟩ | ⟨_, _, hkept⟩
    · cases hset'
      cases hx.symm.trans hp
    · cases hc
    · obtain ⟨t, ht⟩ := howned p b _ (hkept.symm.trans hp)
      cases hallowed.1.symm.trans ht
  · rw [hkept] at hb
    rcases payment_act L a p with ⟨x, hset, hx⟩ | ⟨c, rfl, hmap⟩ | ⟨_, _, hkept⟩
    · obtain rfl : (b, PaymentStatus.success) = x := Option.some.inj (hp.symm.trans hx)
      rcases Action.payment_success hset with rfl | rfl
      · exact hfree _ rfl
      · obtain ⟨⟨t, ht, hne⟩, _⟩ := hallowed
        exact hne (Option.some.inj (ht.symm.trans hb))
    · rw [hmap, map_afterExpiry (Or.inl rfl)] at hp
      exact hold hb hp
    · exact hold hb (hkept.symm.trans hp)

theorem Paid.act (h : L.Paid) (hallowed : L.Allowed a) (hspares : L.Spares a) :
    (L.act a).Paid := by
  -- a payment that is not taken away pays after the action as well
  have hkeep : ∀ {b : B} {p : P}, (∀ s, a.booking = some (b, s) → Takes s) →
      a ≠ .fail b p → a ≠ .reconcile b p → L.payment p = some (b, .success) →
        (L.act a).payment p = some (b, .success) := by
    intro b p hset hfail hrec hp
    rcases payment_act L a p with ⟨⟨b', t⟩, hpset, hx⟩ | ⟨c, _, hmap⟩ | ⟨_, _, hkept⟩
    · rcases hallowed.payment hpset with ⟨hnone, _⟩ | ⟨s, hs, hmove⟩
      · rw [hp] at hnone
        cases hnone
      · obtain ⟨rfl, rfl⟩ : b = b' ∧ PaymentStatus.success = s := by simpa using hp.symm.trans hs
        rcases hmove with hcan | ⟨rfl, _⟩ | ⟨rfl, _⟩
        · cases a with
          | refund b' p' =>
              cases hpset
              rcases hset _ rfl with h | h <;> cases h
          | confirm b' p' =>
              cases hpset
              exact hx
          | late b' p' =>
              cases hpset
              exact hx
          | fail b' p' =>
              cases hpset
              exact absurd rfl hfail
          | reconcile b' p' =>
              cases hpset
              exact absurd rfl hrec
          | _ =>
              cases hpset
              try cases hcan
        · exact absurd rfl hfail
        · exact absurd rfl hrec
    · rw [hmap, map_afterExpiry (Or.inl rfl)]
      exact hp
    · exact hkept.trans hp
  intro b s hb hs
  rcases booking_act L a b with ⟨s', hset, hs'⟩ | ⟨hfree, hkept⟩
  · obtain rfl : s' = s := Option.some.inj (hs'.symm.trans hb)
    rcases Action.booking_takes hset hs with ⟨p, rfl⟩ | rfl
    · exact ⟨p, if_pos rfl⟩
    · obtain ⟨t, ht, hcan⟩ := hallowed
      obtain ⟨p, hp⟩ := h b t ht (by cases t <;> first | exact Or.inl rfl | cases hcan)
      exact ⟨p, hp⟩
  · rw [hkept] at hb
    obtain ⟨p, hp⟩ := h b s hb hs
    have hset : ∀ t, a.booking = some (b, t) → Takes t := fun t ht => absurd ht (hfree t)
    by_cases htaken : a = .fail b p ∨ a = .reconcile b p
    · obtain ⟨q, hqp, hq⟩ := hspares b p htaken hp s hb hs
      refine ⟨q, hkeep hset ?_ ?_ hq⟩
      · rintro rfl
        rcases htaken with h | h <;> cases h
        exact hqp rfl
      · rintro rfl
        rcases htaken with h | h <;> cases h
        exact hqp rfl
    · exact ⟨p, hkeep hset (fun h => htaken (Or.inl h)) (fun h => htaken (Or.inr h)) hp⟩

/-! ## Received money -/

/-- The money of a payment was received, and perhaps paid back. -/
def Received (L : Ledger B P) (p : P) (b : B) : Prop :=
  ∃ s, L.payment p = some (b, s) ∧ (s = .success ∨ s = .refunded)

theorem Received.act {p : P} {b : B} (h : L.Received p b) (hallowed : L.Allowed a)
    (hfail : a ≠ .fail b p) : (L.act a).Received p b := by
  obtain ⟨s, hp, hs⟩ := h
  rcases payment_act L a p with ⟨⟨b', t⟩, hset, hx⟩ | ⟨c, _, hmap⟩ | ⟨_, _, hkept⟩
  · rcases hallowed.payment hset with ⟨hnone, _⟩ | ⟨s', hs', hmove⟩
    · rw [hp] at hnone
      cases hnone
    · obtain ⟨rfl, rfl⟩ : b = b' ∧ s = s' := by simpa using hp.symm.trans hs'
      refine ⟨t, hx, ?_⟩
      rcases hmove with hcan | ⟨rfl, _⟩ | ⟨_, rfl⟩
      · rcases hs with rfl | rfl <;> cases t <;> first | exact Or.inl rfl | exact Or.inr rfl | cases hcan
      · exact absurd rfl hfail
      · exact Or.inr rfl
  · exact ⟨s, by rw [hmap, map_afterExpiry hs]; exact hp, hs⟩
  · exact ⟨s, hkept.trans hp, hs⟩

/-- Where received money comes from. -/
theorem received_of_act {p : P} {b : B} (hallowed : L.Allowed a) (h : (L.act a).Received p b) :
    L.Received p b ∨ (L.act a).booking b = some .confirmed ∨ a = .late b p ∨
      a = .reconcile b p := by
  obtain ⟨s, hp, hs⟩ := h
  rcases payment_act L a p with ⟨x, hset, hx⟩ | ⟨c, _, hmap⟩ | ⟨_, _, hkept⟩
  · obtain rfl : (b, s) = x := Option.some.inj (hp.symm.trans hx)
    cases a with
    | confirm b' p' =>
        cases hset
        exact Or.inr (Or.inl (if_pos rfl))
    | late b' p' =>
        cases hset
        exact Or.inr (Or.inr (Or.inl rfl))
    | refund b' p' =>
        cases hset
        exact Or.inl ⟨_, hallowed.2, Or.inl rfl⟩
    | reconcile b' p' =>
        cases hset
        exact Or.inr (Or.inr (Or.inr rfl))
    | _ =>
        cases hset
        try (rcases hs with h | h <;> cases h)
  · rw [hmap, map_afterExpiry hs] at hp
    exact Or.inl ⟨s, hp, hs⟩
  · exact Or.inl ⟨s, hkept.symm.trans hp, hs⟩

end Ledger

end ServiceHub
