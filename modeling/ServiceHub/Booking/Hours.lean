/-
# `Booking.Hours` — instants, columns and shifts

`createBooking` splits an instant into a UTC date and two times of day, and
admits it only if service and buffer fit a shift that is written `HH:mm`.  A
shift ends at 23:59 at the latest, so that the service ends on the day on which
it starts, and the columns say when it really takes place
(`lower_newBooking`, `upper_newBooking`).
-/
import ServiceHub.Booking.Service

namespace ServiceHub

open Data

/-! ## `HH:mm` -/

theorem char_le_iff {c d : Char} : c ≤ d ↔ c.toNat ≤ d.toNat := by
  rw [Char.le_def, UInt32.le_iff_toNat_le]
  rfl

theorem decimal_two {c d : Char} (hc : c.isDigit = true) (hd : d.isDigit = true) :
    decimal [c, d] = some (10 * (c.toNat - 48) + (d.toNat - 48)) := by
  simp [decimal, hc, hd]

theorem isDigit_of_le {c d : Char} (h₀ : '0' ≤ c) (hd : c ≤ d) (h₉ : d.toNat ≤ 57) :
    c.isDigit = true := by
  rw [Char.isDigit_iff_toNat]
  exact ⟨char_le_iff.mp h₀, (char_le_iff.mp hd).trans h₉⟩

theorem ne_colon_of_isDigit {c : Char} (h : c.isDigit = true) : ':' ≠ c := by
  rintro rfl
  exact absurd h (by decide)

theorem clockMinutes_eq {s : String} {h m : Nat} (hs ms : List Char)
    (hs_ms : s.toList = hs ++ ':' :: ms) (hhs : ∀ c ∈ hs, c.isDigit = true)
    (hms : ∀ c ∈ ms, c.isDigit = true) (hh : decimal hs = some h) (hm : decimal ms = some m) :
    clockMinutes s = some ((h : Int) * 60 + m) := by
  have hsplit : s.toList.splitOn ':' = [hs, ms] := by
    rw [hs_ms, List.splitOn_append_cons_self_of_not_mem fun hmem =>
      ne_colon_of_isDigit (hhs _ hmem) rfl, List.splitOn_eq_singleton fun hmem =>
      ne_colon_of_isDigit (hms _ hmem) rfl]
  simp [clockMinutes, hsplit, hh, hm]

/-- A time of day that is written `HH:mm` is read as hours and minutes. -/
theorem clockMinutes_of_isHHmm {s : String} (h : isHHmm s = true) :
    ∃ hours minutes : Nat, clockMinutes s = some ((hours : Int) * 60 + minutes) ∧ hours ≤ 23 ∧
      minutes ≤ 59 := by
  have hminutes : ∀ {m₁ m₂ : Char}, '0' ≤ m₁ → m₁ ≤ '5' → m₂.isDigit = true →
      (∀ c ∈ [m₁, m₂], c.isDigit = true) ∧
        ∃ m, decimal [m₁, m₂] = some m ∧ m ≤ 59 := by
    intro m₁ m₂ h₀ h₅ hm₂
    have hm₁ : m₁.isDigit = true := isDigit_of_le h₀ h₅ (by decide)
    refine ⟨by simp [hm₁, hm₂], _, decimal_two hm₁ hm₂, ?_⟩
    have hle : m₁.toNat ≤ 53 := char_le_iff.mp h₅
    have hle₂ : m₂.toNat ≤ 57 := (Char.isDigit_iff_toNat.mp hm₂).2
    omega
  unfold isHHmm at h
  split at h
  · rename_i h₁ m₁ m₂ heq
    simp only [Bool.and_eq_true, decide_eq_true_eq] at h
    obtain ⟨⟨hh₁, h₀, h₅⟩, hm₂⟩ := h
    obtain ⟨hdigits, m, hm, hle⟩ := hminutes h₀ h₅ hm₂
    have hle₁ : h₁.toNat ≤ 57 := (Char.isDigit_iff_toNat.mp hh₁).2
    refine ⟨h₁.toNat - 48, m, clockMinutes_eq [h₁] [m₁, m₂] heq (by simp [hh₁]) hdigits ?_ hm,
      by omega, hle⟩
    simp [decimal, hh₁]
  · rename_i h₁ h₂ m₁ m₂ heq
    simp only [Bool.and_eq_true, Bool.or_eq_true, decide_eq_true_eq, beq_iff_eq] at h
    obtain ⟨⟨hhours, h₀, h₅⟩, hm₂⟩ := h
    obtain ⟨hdigits, m, hm, hle⟩ := hminutes h₀ h₅ hm₂
    have hdig : h₁.isDigit = true ∧ h₂.isDigit = true ∧
        10 * (h₁.toNat - 48) + (h₂.toNat - 48) ≤ 23 := by
      rcases hhours with ⟨⟨hlow, hhigh⟩, hh₂⟩ | ⟨⟨rfl, hlow⟩, hhigh⟩
      · have hle₁ : h₁.toNat ≤ 49 := char_le_iff.mp hhigh
        have hle₂ : h₂.toNat ≤ 57 := (Char.isDigit_iff_toNat.mp hh₂).2
        exact ⟨isDigit_of_le hlow hhigh (by decide), hh₂, by omega⟩
      · have hle₂ : h₂.toNat ≤ 51 := char_le_iff.mp hhigh
        have htwo : '2'.toNat = 50 := rfl
        exact ⟨rfl, isDigit_of_le hlow hhigh (by decide), by omega⟩
    obtain ⟨hh₁, hh₂, hbound⟩ := hdig
    exact ⟨_, m, clockMinutes_eq [h₁, h₂] [m₁, m₂] heq (by simp [hh₁, hh₂]) hdigits
      (decimal_two hh₁ hh₂) hm, hbound, hle⟩
  · cases h

/-! ## Shifts -/

/-- The second in which an instant falls, as a `Time(0)` column rounds it. -/
def toSecond (t : Time) : Int := (t + 500) / 1000

theorem startMinutes_eq (t : Time) :
    t.getUTCHours * 60 + t.getUTCMinutes = t.msOfDay / 60000 := by
  unfold Time.getUTCHours Time.getUTCMinutes
  omega

/-- The minute of day at which a shift starts. -/
def shiftStart (shift : Availability) : Int := (clockMinutes shift.startTime).getD 0

def shiftEnd (shift : Availability) : Int := (clockMinutes shift.endTime).getD 0

/-- A shift of the weekday of the instant on which the provider works. -/
def WorksOn (t : Time) (shift : Availability) : Prop :=
  shift.weekday = t.getUTCDay ∧ shift.isAvailable = true

instance (t : Time) (shift : Availability) : Decidable (WorksOn t shift) :=
  inferInstanceAs (Decidable (_ ∧ _))

theorem shiftEnd_lt (shift : Availability) : shiftEnd shift < 24 * 60 := by
  obtain ⟨hours, minutes, hclock, hle, hle'⟩ := clockMinutes_of_isHHmm shift.endTime_valid
  rw [shiftEnd, hclock, Option.getD_some]
  omega

theorem fitsInShift_iff {startMinutes occupiedEndMinutes : Int} {shift : Availability} :
    fitsInShift startMinutes occupiedEndMinutes shift = true ↔
      shiftStart shift ≤ startMinutes ∧ occupiedEndMinutes ≤ shiftEnd shift := by
  obtain ⟨_, _, hstart, _, _⟩ := clockMinutes_of_isHHmm shift.startTime_valid
  obtain ⟨_, _, hend, _, _⟩ := clockMinutes_of_isHHmm shift.endTime_valid
  simp [fitsInShift, shiftStart, shiftEnd, hstart, hend]

/-- What the check of the working hours admits. -/
theorem checkWorkingHours_eq_none {schedules : List Availability} {t : Time}
    {duration buffer : Nat} : checkWorkingHours schedules t duration buffer = none ↔
      ∃ shift ∈ schedules, WorksOn t shift ∧ shiftStart shift ≤ t.msOfDay / 60000 ∧
        t.msOfDay / 60000 + duration + buffer ≤ shiftEnd shift := by
  have hany : (schedules.filter fun s => s.weekday == t.getUTCDay && s.isAvailable).any
      (fitsInShift (t.getUTCHours * 60 + t.getUTCMinutes)
        (t.getUTCHours * 60 + t.getUTCMinutes + duration + buffer)) = true ↔
      ∃ shift ∈ schedules, WorksOn t shift ∧ shiftStart shift ≤ t.msOfDay / 60000 ∧
        t.msOfDay / 60000 + duration + buffer ≤ shiftEnd shift := by
    simp only [List.any_eq_true, List.mem_filter, Bool.and_eq_true, beq_iff_eq, fitsInShift_iff,
      startMinutes_eq, WorksOn, and_assoc]
  rw [← hany]
  simp only [checkWorkingHours]
  split
  · rename_i hnone
    rw [List.length_eq_zero_iff.mp hnone]
    exact iff_of_false (by simp) (by simp)
  · split
    · rename_i hno
      refine iff_of_false (by simp) fun h => ?_
      rw [h] at hno
      cases hno
    · rename_i hfits
      refine iff_of_true rfl ?_
      simpa only [Bool.not_eq_true', Bool.not_eq_false] using hfits

/-- Service and buffer that are within the working hours end on the day on which
they start. -/
theorem end_of_checkWorkingHours {schedules : List Availability} {t : Time} {duration buffer : Nat}
    (h : checkWorkingHours schedules t duration buffer = none) :
    t.msOfDay + ((duration + buffer) * 60000 : Nat) < Time.msPerDay := by
  obtain ⟨shift, _, _, _, hends⟩ := checkWorkingHours_eq_none.mp h
  have hlast := shiftEnd_lt shift
  unfold Time.msPerDay
  omega

/-! ## Columns -/

section
variable {host : Host} {ctx : Ctx} {customerId : Uuid} {dto : CreateBookingDto}
  {providerService : ProviderService} {provider : ProviderProfile} {service : Service} {t : Time}

/-- The date and the start time of a booking are those of the instant. -/
theorem lower_newBooking :
    (newBooking ctx customerId dto providerService provider service t).lower = toSecond t := by
  simp only [newBooking, Booking.lower, dateColumn, timeColumn, Time.setUTCHours, Time.utcDay,
    Time.msOfDay, Time.msPerDay, toSecond]
  omega

/-- `durationMinutes * 60 * 1000`. -/
theorem durationMs_eq (minutes : Nat) :
    ((minutes * 60 * 1000 : Nat) : Time) = (minutes : Int) * 60000 := by
  show ((minutes * 60 * 1000 : Nat) : Int) = _
  omega

/-- The date and the end time of a booking are those of the end of the
service. -/
theorem upper_newBooking {schedules : List Availability}
    (h : checkWorkingHours schedules t providerService.durationMinutes
      providerService.bufferMinutes = none) :
    (newBooking ctx customerId dto providerService provider service t).upper
      = toSecond t + 60 * providerService.durationMinutes := by
  have hend := end_of_checkWorkingHours h
  simp only [durationMs_eq, newBooking, Booking.upper, dateColumn, timeColumn, Time.setUTCHours, Time.utcDay,
    Time.msOfDay, Time.msPerDay, toSecond] at hend ⊢
  omega

end

end ServiceHub
