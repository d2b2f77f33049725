/-
# `Booking.Shifts` — what fits a shift

`createBooking` compares minutes of day, and the minute of an instant is that in
which it falls.

**What fails.**  An instant with seconds is taken for the whole minute before
it, so that service and buffer may end after the shift does, by less than a
minute (`not_fits_shift`).

**What holds.**  The real interval is within a shift exactly if the instant is a
whole minute, or a shift leaves a minute to spare (`fits_shift`).
-/
import ServiceHub.Booking.Hours
import ServiceHub.Operations
import ServiceHub.Txn.Hoare

namespace ServiceHub

open Data Txn Prog

/-! ## Shifts as instants -/

/-- The instant at which a shift starts on the UTC day of `t`. -/
def opensAt (shift : Availability) (t : Time) : Time :=
  t.utcDay * Time.msPerDay + shiftStart shift * Time.msPerMinute

def closesAt (shift : Availability) (t : Time) : Time :=
  t.utcDay * Time.msPerDay + shiftEnd shift * Time.msPerMinute

/-- The interval of so many minutes from `t` on lies in the shift. -/
def Contains (shift : Availability) (t : Time) (minutes : Nat) : Prop :=
  opensAt shift t ≤ t ∧ t + minutes * Time.msPerMinute ≤ closesAt shift t

/-- The minutes that start with that of `t` leave one of the shift over. -/
def LeavesMinute (shift : Availability) (t : Time) (minutes : Nat) : Prop :=
  shiftStart shift ≤ t.msOfDay / 60000 ∧ t.msOfDay / 60000 + minutes < shiftEnd shift

instance (shift : Availability) (t : Time) (minutes : Nat) : Decidable (Contains shift t minutes) :=
  inferInstanceAs (Decidable (_ ∧ _))

instance (shift : Availability) (t : Time) (minutes : Nat) :
    Decidable (LeavesMinute shift t minutes) := inferInstanceAs (Decidable (_ ∧ _))

/-- The instant is a whole minute. -/
def OnMinute (t : Time) : Prop := t.msOfDay % 60000 = 0

theorem eq_day_add (t : Time) : (t : Int) = t.utcDay * Time.msPerDay + t.msOfDay :=
  (Int.mul_ediv_add_emod t Time.msPerDay).symm.trans (by rw [Int.mul_comm]; rfl)

/-- On a whole minute the comparison of minutes is exact, and past it one minute
more is taken. -/
theorem contains_iff {shift : Availability} {t : Time} {minutes : Nat} :
    Contains shift t minutes ↔ LeavesMinute shift t minutes ∨ (OnMinute t ∧
      shiftStart shift ≤ t.msOfDay / 60000 ∧ t.msOfDay / 60000 + minutes ≤ shiftEnd shift) := by
  have hcontains : Contains shift t minutes ↔
      shiftStart shift * 60000 ≤ t.msOfDay ∧ t.msOfDay + minutes * 60000 ≤ shiftEnd shift * 60000 := by
    have hday : ∀ day ms lo hi m : Int,
        (day + lo ≤ day + ms ∧ day + ms + m ≤ day + hi) ↔ lo ≤ ms ∧ ms + m ≤ hi := by
      intro day ms lo hi m
      omega
    have h := hday (t.utcDay * Time.msPerDay) t.msOfDay (shiftStart shift * 60000)
      (shiftEnd shift * 60000) (minutes * 60000)
    rw [← eq_day_add t] at h
    exact h
  rw [hcontains]
  unfold LeavesMinute OnMinute
  constructor
  · rintro ⟨hopens, hcloses⟩
    omega
  · rintro (⟨hopens, hcloses⟩ | ⟨hwhole, hopens, hcloses⟩)
    · omega
    · omega

/-! ## The checks of `createBooking` -/

section
variable (host : Host) (ctx : Ctx) (db : Db) (customerId : Uuid) (dto : CreateBookingDto)

/-- Run alone, `createBooking` passes its checks and goes on to the gateway. -/
def PassesChecks : Prop :=
  ((createBooking host ctx customerId dto).serial ⟨none, db, []⟩).1.log ≠ []

instance : Decidable (PassesChecks host ctx db customerId dto) := inferInstanceAs (Decidable (_ ≠ _))

/-- The instant is within the working hours of the provider, as the call reads
them. -/
def WithinHours (offering : ProviderServiceFull) (t : Time) : Prop :=
  db.providerServiceFull dto.providerServiceId = some offering ∧ host.date dto.startsAt = some t ∧
    checkWorkingHours (db.schedule offering.providerId) t offering.durationMinutes
      offering.bufferMinutes = none

theorem createBooking_callsOnlyIf : (createBooking host ctx customerId dto).CallsOnlyIf db
    (∃ offering t, WithinHours host db dto offering t) := by
  unfold createBooking
  refine CallsOnlyIf.autocommit_bind ?_
  rw [ProviderServiceRepository.returns_findById]
  refine CallsOnlyIf.orThrow_bind fun offering hoffering => ?_
  refine CallsOnlyIf.orThrow_bind fun provider _ => ?_
  refine CallsOnlyIf.throwIf_bind fun _ => ?_
  refine CallsOnlyIf.orThrow_bind fun t ht => ?_
  refine CallsOnlyIf.throwIf_bind fun _ => ?_
  refine CallsOnlyIf.throwIf_bind fun _ => ?_
  refine CallsOnlyIf.autocommit_bind ?_
  rw [ProviderAvailabilityRepository.returns_findByProviderId]
  split
  · exact CallsOnlyIf.throw
  · rename_i hhours
    exact CallsOnlyIf.of ⟨offering, t, (Option.filter_eq_some_iff.mp hoffering).1, ht, hhours⟩

end

/-- **When what is admitted fits a shift**: the service and the buffer after it lie
in a shift of the day if the instant is a whole minute, or if a shift leaves a
minute over. -/
theorem fits_shift (host : Host) (ctx : Ctx) (db : Db) (customerId : Uuid) (dto : CreateBookingDto)
    (offering : ProviderServiceFull) (t : Time)
    (hoffering : db.providerServiceFull dto.providerServiceId = some offering)
    (ht : host.date dto.startsAt = some t)
    (hpasses : PassesChecks host ctx db customerId dto) :
    (∃ shift ∈ db.schedule offering.providerId, WorksOn t shift ∧
      Contains shift t (offering.durationMinutes + offering.bufferMinutes)) ↔
      OnMinute t ∨ ∃ shift ∈ db.schedule offering.providerId, WorksOn t shift ∧
        LeavesMinute shift t (offering.durationMinutes + offering.bufferMinutes) := by
  have hhours : checkWorkingHours (db.schedule offering.providerId) t offering.durationMinutes
      offering.bufferMinutes = none := by
    rcases createBooking_callsOnlyIf host ctx db customerId dto [] with hlog |
      ⟨offering', t', hoffering', ht', hhours⟩
    · exact absurd hlog hpasses
    · obtain rfl := Option.some.inj (hoffering.symm.trans hoffering')
      obtain rfl := Option.some.inj (ht.symm.trans ht')
      exact hhours
  obtain ⟨admitting, hmem, hworks, hstart, hend⟩ := checkWorkingHours_eq_none.mp hhours
  constructor
  · rintro ⟨shift, hshift, hon, hcontains⟩
    rcases contains_iff.mp hcontains with hleaves | ⟨hwhole, _⟩
    · exact Or.inr ⟨shift, hshift, hon, hleaves⟩
    · exact Or.inl hwhole
  · rintro (hwhole | ⟨shift, hshift, hon, hleaves⟩)
    · -- the shift that the check has found
      exact ⟨admitting, hmem, hworks, contains_iff.mpr (Or.inr ⟨hwhole, hstart, by omega⟩)⟩
    · exact ⟨shift, hshift, hon, contains_iff.mpr (Or.inl hleaves)⟩

/-! ## A service that ends with the shift -/

namespace Sample

/-- The offering takes 75 minutes with its buffer, and the shift ends at 18:00. -/
def requestAt (clock : String) : CreateBookingDto :=
  ⟨"offering", "2026-03-02T" ++ clock ++ "Z", none⟩

end Sample

theorem fits_shift_sample :
    PassesChecks Sample.host (Sample.ctx 0) Sample.db "customer" (Sample.requestAt "16:45:00.000") ∧
    ∃ offering t, Sample.db.providerServiceFull "offering" = some offering ∧
      Sample.host.date "2026-03-02T16:45:00.000Z" = some t ∧
      ((∃ shift ∈ Sample.db.schedule offering.providerId, WorksOn t shift ∧
        Contains shift t (offering.durationMinutes + offering.bufferMinutes)) ↔
        OnMinute t ∨ ∃ shift ∈ Sample.db.schedule offering.providerId, WorksOn t shift ∧
          LeavesMinute shift t (offering.durationMinutes + offering.bufferMinutes)) := by
  have hpasses : PassesChecks Sample.host (Sample.ctx 0) Sample.db "customer"
      (Sample.requestAt "16:45:00.000") := by decide +kernel
  have hdate : Sample.host.date "2026-03-02T16:45:00.000Z" = some 1772469900000 := by decide +kernel
  exact ⟨hpasses, _, _, rfl, hdate,
    fits_shift Sample.host _ _ "customer" (Sample.requestAt "16:45:00.000") _ _ rfl hdate hpasses⟩

/-- Half a minute later the buffer ends after the shift, by half a minute. -/
theorem not_fits_shift :
    PassesChecks Sample.host (Sample.ctx 0) Sample.db "customer" (Sample.requestAt "16:45:30.000") ∧
    ∃ offering t, Sample.db.providerServiceFull "offering" = some offering ∧
      Sample.host.date "2026-03-02T16:45:30.000Z" = some t ∧
      ¬ ∃ shift ∈ Sample.db.schedule offering.providerId, WorksOn t shift ∧
        Contains shift t (offering.durationMinutes + offering.bufferMinutes) := by
  have hdate : Sample.host.date "2026-03-02T16:45:30.000Z" = some 1772469930000 := by decide +kernel
  exact ⟨by decide +kernel, _, _, rfl, hdate, by decide +kernel⟩

end ServiceHub
