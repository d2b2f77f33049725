/-
# `Bookable` — what the slots offer and what `createBooking` admits

A window of a schedule is written `HH:mm` without an offset, and two functions
read it:

                    the weekday is that of   minutes are counted    to fit in
    generateSlot    the date asked for       at `+05:30`            duration
    createBooking   the instant, in UTC      in UTC                 duration + buffer

**What fails.**  The first slot of a window from 09:00 on is at 03:30 in UTC, and
no booking is admitted there (`not_slot_admitted`).

**What holds.**  A slot is admitted exactly if some window of the UTC weekday holds
its UTC minutes and the buffer after them (`slot_admitted`).
-/
import ServiceHub.Schedules.Slots
import ServiceHub.Booking.Spec

namespace ServiceHub

open Data Txn Prog

/-! ## The errors of the working hours -/

/-- The weekday check and the shift check of `createBooking` answer with these. -/
def hoursErrors : List Exn :=
  [.badRequest "Provider is not available on this day of the week",
    .badRequest "Requested booking slot (including post-service buffer) exceeds provider working shift hours"]

/-- The error that a call ended with. -/
def thrown {α : Type} : Except Exn α → Option Exn
  | .ok _ => none
  | .error e => some e

section
variable (host : Host) (ctx : Ctx) (db : Db) (customerId : Uuid) (dto : CreateBookingDto)

/-- Run alone, `createBooking` passes the checks of the weekday and of the shift. -/
def PassesHours : Prop :=
  ∀ e ∈ thrown ((createBooking host ctx customerId dto).serial ⟨none, db, []⟩).2, e ∉ hoursErrors

instance : Decidable (PassesHours host ctx db customerId dto) :=
  inferInstanceAs (Decidable (∀ e ∈ thrown
    ((createBooking host ctx customerId dto).serial ⟨none, db, []⟩).2, e ∉ hoursErrors))

/-- The rest of what `createBooking` asks: the offering is active, its provider is
verified and active, and the instant is in the next thirty days. -/
structure Admissible (offering : ProviderServiceFull) (t : Time) : Prop where
  found : db.providerServiceFull dto.providerServiceId = some offering
  active : offering.isActive = true
  provider : ∃ provider, offering.provider = some provider ∧
    provider.verificationStatus = .verified ∧ provider.user.map (·.status) = some .active
  date : host.date dto.startsAt = some t
  future : ctx.clock 0 ≤ t
  soon : t ≤ host.addDays (ctx.clock 1) 30

end

theorem checkWorkingHours_mem {schedules : List Availability} {t : Time} {duration buffer : Nat}
    {e : Exn} (h : checkWorkingHours schedules t duration buffer = some e) : e ∈ hoursErrors := by
  simp only [checkWorkingHours] at h
  split at h
  · obtain rfl := Option.some.inj h
    exact List.mem_cons_self
  · split at h
    · obtain rfl := Option.some.inj h
      exact List.mem_cons_of_mem _ List.mem_cons_self
    · cases h

theorem notMem_hoursErrors {e : Exn} (h : ∀ message, e ≠ .badRequest message) :
    e ∉ hoursErrors := by
  intro hmem
  simp only [hoursErrors, List.mem_cons, List.not_mem_nil, or_false] at hmem
  rcases hmem with he | he
  · exact h _ he
  · exact h _ he

/-- An INSERT is not refused with a `BadRequestException`. -/
theorem insert_error {α : Type} {db : Db} {r : Row} {answer : α} {e : Exn}
    (h : db.insert r answer = .error e) : ∀ message, e ≠ .badRequest message := by
  unfold Db.insert at h
  split at h
  · cases h
    simp
  · split at h
    · cases h
      simp
    · split at h
      · rename_i e' href
        cases h
        unfold Db.refusal at href
        split at href
        · cases href
          simp
        · split at href
          · cases href
            simp
          · split at href
            · cases href
              cases r <;> simp [clashError]
            · cases href
      · cases h

/-- Nor is the error of the transaction such a one. -/
theorem createBookingTx_throws {ctx : Ctx} {db : Db} {customerId : Uuid} {row : Booking}
    {gatewayOrderId currency : String} {startsAtDate endsAtDate : Time} :
    (createBookingTx ctx customerId row gatewayOrderId currency startsAtDate endsAtDate).Throws db
      fun _ e => ∀ message, e ≠ .badRequest message := by
  have hinsert : ∀ (s : Stmt) (r : Row) (a : Ans s) (db : Db), db.exec s = db.insert r a →
      (query s).Throws db fun _ e => ∀ message, e ≠ .badRequest message := by
    intro s r a db hexec
    exact throws_query s fun e he => insert_error (hexec.symm.trans he)
  refine throws_bind.mpr ⟨hinsert (.createBooking row) (.booking row) row db rfl, ?_⟩
  intro db' booking _
  refine throws_bind.mpr ⟨hinsert (.createPayment _) (.payment _) _ db' rfl, ?_⟩
  intro db' payment _
  refine throws_bind.mpr ⟨hinsert (.createAudit _) (.audit _) _ db' rfl, ?_⟩
  intro db' audit _
  exact throws_pure.mpr trivial

section
variable {host : Host} {ctx : Ctx} {db : Db} {customerId : Uuid} {dto : CreateBookingDto}
  {offering : ProviderServiceFull} {t : Time}

theorem onBookingError_notMem {α : Type} {db : Db} {e : Exn}
    (h : ∀ message, e ≠ .badRequest message) :
    Ends (onBookingError e : Call α) db fun _ r => ∀ e ∈ thrown r, e ∉ hoursErrors := by
  unfold onBookingError
  split
  · refine Ends.throw ?_
    rintro _ ⟨⟩
    exact notMem_hoursErrors (by simp)
  · refine Ends.throw ?_
    rintro _ ⟨⟩
    exact notMem_hoursErrors h

/-- **The working hours decide**, where the rest is as it should be. -/
theorem passesHours_iff (h : Admissible host ctx db dto offering t) :
    PassesHours host ctx db customerId dto ↔
      checkWorkingHours (db.schedule offering.providerId) t offering.durationMinutes
        offering.bufferMinutes = none := by
  have hends : Ends (createBooking host ctx customerId dto) db fun _ r =>
      ((∀ e ∈ thrown r, e ∉ hoursErrors) ↔ checkWorkingHours (db.schedule offering.providerId) t
        offering.durationMinutes offering.bufferMinutes = none) := by
    obtain ⟨provider, hprovider, hverified, huser⟩ := h.provider
    unfold createBooking
    refine Ends.autocommit_bind ?_ ProviderServiceRepository.throws_findById
    rw [ProviderServiceRepository.returns_findById, h.found, Option.filter_some, if_pos h.active]
    refine Ends.orThrow_bind ?_ nofun
    rintro _ ⟨⟩
    rw [hprovider, Option.filter_some, if_pos (decide_eq_true hverified)]
    refine Ends.orThrow_bind ?_ nofun
    rintro _ ⟨⟩
    refine Ends.throwIf_bind (fun _ => ?_) fun hinactive => absurd huser hinactive
    rw [h.date]
    refine Ends.orThrow_bind ?_ nofun
    rintro _ ⟨⟩
    refine Ends.throwIf_bind (fun _ => ?_) fun hpast => absurd h.future (not_le.mpr hpast)
    refine Ends.throwIf_bind (fun _ => ?_) fun hlate => absurd h.soon (not_le.mpr hlate)
    refine Ends.autocommit_bind ?_ ProviderAvailabilityRepository.throws_findByProviderId
    rw [ProviderAvailabilityRepository.returns_findByProviderId]
    split
    · rename_i e hcheck
      refine Ends.throw (iff_of_false (fun hother => ?_) (by rw [hcheck]; simp))
      exact hother e rfl (checkWorkingHours_mem hcheck)
    · rename_i hcheck
      -- no other error is one of the two
      refine Ends.mono ?_ fun _ r hr => iff_of_true hr hcheck
      refine Ends.external_bind (fun gatewayOrder _ => ?_) fun message _ => ?_
      · refine Ends.catching (Ends.orThrow_bind (fun service _ => ?_) fun _ => ?_)
        · refine Ends.transaction_bind (fun db' result _ => ?_) (createBookingTx_throws.mono ?_)
          · refine Ends.enqueue_bind (Ends.pure ?_) fun message => ?_
            · rintro _ ⟨⟩
            · exact onBookingError_notMem (by simp)
          · intro _ e he
            exact onBookingError_notMem he
        · exact onBookingError_notMem (by simp)
      · rintro _ ⟨⟩
        exact notMem_hoursErrors (by simp)
  obtain ⟨db', log', r, hserial, hr⟩ := hends []
  unfold PassesHours
  rw [hserial]
  exact hr

end

/-! ## What a slot is in UTC -/

/-- The rows that the slots are generated from. -/
def Db.forSlots (db : Db) : Schedules.Db where
  providers := db.providers
  providerServices := db.providerServices
  versions := db.availability.map (fun w => ⟨w, false⟩) fun _ => rfl

/-- The minute of the UTC day at which the minute `m` at `+05:30` is. -/
def utcMinute (m : Int) : Int := (m - 330) % 1440

/-- The weekday in UTC: that of the date, or the one before it. -/
def utcWeekday (weekday m : Int) : Int := if 330 ≤ m then weekday else (weekday + 6) % 7

open Schedules

/-- A window of the UTC weekday of the slot holds its UTC minutes and the buffer
after them. -/
def HeldInUtc (windows : List Availability) (weekday : Int) (service : SlotService) (slot : Slot) :
    Prop :=
  ∃ w ∈ windows, w.isAvailable = true ∧ w.weekday = utcWeekday weekday slot.start ∧
    shiftStart w ≤ utcMinute slot.start ∧
    utcMinute slot.start + service.durationMinutes + service.bufferMinutes ≤ shiftEnd w

instance (windows : List Availability) (weekday : Int) (service : SlotService) (slot : Slot) :
    Decidable (HeldInUtc windows weekday service slot) :=
  inferInstanceAs (Decidable (∃ w ∈ windows, w.isAvailable = true ∧ _ ∧ _ ∧ _))

section
variable {db : Db} {providerId : Uuid}

theorem mem_windows_iff {w : Availability} :
    w ∈ db.forSlots.windows providerId ↔ w ∈ db.schedule providerId := by
  have hschedule : w ∈ db.schedule providerId ↔
      w ∈ db.availability.rows.filter (·.providerId == providerId) :=
    (List.perm_insertionSort _ _).mem_iff
  rw [hschedule, Schedules.Db.windows, List.mem_map]
  constructor
  · rintro ⟨x, hx, rfl⟩
    obtain ⟨hx, hshows⟩ := List.mem_filter.mp hx
    obtain ⟨w, hw, rfl⟩ := List.mem_map.mp hx
    exact List.mem_filter.mpr ⟨hw, by simpa [Version.shows] using hshows⟩
  · intro hw
    obtain ⟨hw, howner⟩ := List.mem_filter.mp hw
    refine ⟨⟨w, false⟩, List.mem_filter.mpr ⟨List.mem_map_of_mem hw, ?_⟩, rfl⟩
    simpa [Version.shows] using howner

variable {now : Time} {queryDto : QuerySlotDto} {slots : Slots} {slot : Slot}

/-- A slot starts at a minute of the day. -/
theorem mem_daySlots {date : String} {providerService : ProviderService}
    {windows : List Availability} (h : isDate date = true)
    (hslot : slot ∈ daySlots date providerService windows) :
    0 ≤ slot.start ∧ slot.start < 24 * 60 ∧
      slot.startsAt = formatISOString date (minutesToTimeString slot.start) := by
  obtain ⟨w, _, hslot⟩ := List.mem_flatMap.mp hslot
  obtain ⟨n, hslots, hlast⟩ := windowSlots_eq date providerService (shiftEnd w) (shiftStart w)
  have hmem : slot ∈ windowSlots date providerService (shiftEnd w) (shiftStart w) := hslot
  rw [hslots] at hmem
  obtain ⟨k, hk, rfl⟩ := List.mem_map.mp hmem
  have hfits := (hlast k).mp (List.mem_range.mp hk)
  have hopens : 0 ≤ shiftStart w := (timeToMinutes_bounds w.startTime_valid).1
  have hle := le_slotStart providerService (shiftStart w) k
  have hcloses := shiftEnd_lt w
  have hstart : (newSlot date providerService (slotStart providerService (shiftStart w) k)).start =
      slotStart providerService (shiftStart w) k := start_newSlot h (by omega) (by omega)
  rw [hstart]
  exact ⟨by omega, by omega, rfl⟩

/-- What is answered about the offering. -/
theorem service_of_generateSlot {db : Schedules.Db}
    (h : generateSlot now db providerId queryDto = .ok slots) :
    ∃ providerService ∈ db.providerServices.rows, providerService.providerId = providerId ∧
      slots.service = ⟨providerService.id, providerService.serviceId,
        providerService.durationMinutes, providerService.bufferMinutes⟩ := by
  simp only [generateSlot] at h
  split at h
  · cases h
  split at h
  · cases h
  split at h
  · cases h
  rename_i providerService hservice
  cases h
  obtain ⟨hfound, _⟩ := Option.filter_eq_some_iff.mp hservice
  have hids := List.find?_some hfound
  simp only [Bool.and_eq_true, beq_iff_eq] at hids
  exact ⟨providerService, List.mem_of_find?_eq_some hfound, hids.1, rfl⟩

/-- The weekday and the minute of the instant of a slot. -/
theorem utc_of_slot (day : Int) {m : Int} (h₀ : 0 ≤ m) (hm : m < 24 * 60) :
    (Time.msOfDay (day * Time.msPerDay + (m - 330) * Time.msPerMinute)) / 60000 = utcMinute m ∧
      Time.getUTCDay (day * Time.msPerDay + (m - 330) * Time.msPerMinute) =
        utcWeekday (Time.getUTCDay (day * Time.msPerDay)) m := by
  unfold Time.getUTCDay Time.utcDay Time.msOfDay utcMinute utcWeekday Time.msPerDay Time.msPerMinute
  constructor
  · omega
  · split
    · omega
    · omega

end

/-- **Slots and bookings**: a slot passes the checks of the weekday and of the shift
just when a window holds it, and the buffer, in UTC. -/
theorem slot_admitted (host : Host) (ctx : Ctx) (db : Db) (customerId providerId : Uuid)
    (now : Time) (queryDto : QuerySlotDto) (slots : Slots) (slot : Slot) (notes : Option String)
    (day t : Time) (offering : ProviderServiceFull)
    (hslots : generateSlot now db.forSlots providerId queryDto = .ok slots)
    (hslot : slot ∈ slots.slots) (hday : queryDate queryDto.date = some day)
    (hadmissible : Admissible host ctx db ⟨slots.service.id, slot.startsAt, notes⟩ offering t) :
    PassesHours host ctx db customerId ⟨slots.service.id, slot.startsAt, notes⟩ ↔
      HeldInUtc (db.forSlots.windows providerId) day.getUTCDay slots.service slot := by
  obtain ⟨providerService, hmem, howner, hservice⟩ := service_of_generateSlot hslots
  obtain ⟨day', providerService', hday', _, hall⟩ := generateSlot_eq_ok hslots
  obtain rfl := Option.some.inj (hday.symm.trans hday')
  rw [hall] at hslot
  obtain ⟨h₀, hm, htext⟩ := mem_daySlots queryDto.date_valid hslot
  -- the instant of the slot
  have hinstant : t = day + (slot.start - 330) * Time.msPerMinute := by
    have hparse := parseIso_formatISOString queryDto.date_valid h₀ hm
    rw [← htext, hday, Option.map_some] at hparse
    have hdate := hadmissible.date
    rw [Host.date, hparse] at hdate
    exact (Option.some.inj hdate).symm
  obtain ⟨k, rfl⟩ : ∃ k, day = k * Time.msPerDay := by
    rw [queryDate_eq queryDto.date_valid] at hday
    obtain ⟨k, _, hk⟩ := Option.map_eq_some_iff.mp hday
    exact ⟨k, hk.symm⟩
  obtain ⟨hminute, hweekday⟩ := utc_of_slot k h₀ hm
  rw [← hinstant] at hminute hweekday
  -- the offering that the booking is for
  have hoffering : offering.toProviderService = providerService := by
    have hfind : db.providerServices.find? providerService.id = some providerService :=
      Table.find?_of_mem hmem
    have hfound := hadmissible.found
    rw [hservice] at hfound
    rw [Db.providerServiceFull, hfind] at hfound
    rw [← Option.some.inj hfound]
  rw [passesHours_iff hadmissible, checkWorkingHours_eq_none, hoffering, howner, hservice]
  constructor
  · rintro ⟨w, hw, ⟨hday, havailable⟩, hopens, hcloses⟩
    rw [hminute] at hopens hcloses
    exact ⟨w, mem_windows_iff.mpr hw, havailable, hday.trans hweekday, hopens, hcloses⟩
  · rintro ⟨w, hw, havailable, hday, hopens, hcloses⟩
    rw [← hminute] at hopens hcloses
    exact ⟨w, mem_windows_iff.mp hw, ⟨hday.trans hweekday.symm, havailable⟩, hopens, hcloses⟩

/-! ## Two slots of a Monday -/

namespace Sample

theorem monday_valid : isDate "2026-03-02" = true := by decide

/-- The slots of Monday, 2 March, of the window from 09:00 to 18:00. -/
def slotQuery : QuerySlotDto := ⟨"service", "2026-03-02", monday_valid⟩

def slotsOf (db : Db) : List Slot :=
  ((generateSlot 1772323200000 db.forSlots "provider" slotQuery).toOption.map Slots.slots).getD []

def requestOf (slot : Slot) : CreateBookingDto := ⟨"offering", slot.startsAt, none⟩

end Sample

theorem admissible_sample {startsAt : String} {t : Time} (hdate : Sample.host.date startsAt = some t)
    (hfuture : 1772323200000 ≤ t) (hsoon : t ≤ 1772323200000 + 30 * Time.msPerDay) :
    ∃ offering, Admissible Sample.host (Sample.ctx 0) Sample.db ⟨"offering", startsAt, none⟩
      offering t :=
  ⟨_, rfl, rfl, ⟨_, rfl, rfl, rfl⟩, hdate, hfuture, hsoon⟩

/-- The slot at 15:15 is at 09:45 in UTC. -/
theorem slot_admitted_sample : ∃ slot ∈ Sample.slotsOf Sample.db,
    slot.startsAt = "2026-03-02T15:15:00+05:30" ∧
    PassesHours Sample.host (Sample.ctx 0) Sample.db "customer" (Sample.requestOf slot) := by
  have hslot : ∃ slot ∈ Sample.slotsOf Sample.db, slot.startsAt = "2026-03-02T15:15:00+05:30" ∧
      HeldInUtc (Sample.db.forSlots.windows "provider") (Time.getUTCDay 1772409600000)
        ⟨"offering", "service", 60, 15⟩ slot := by
    decide +kernel
  obtain ⟨slot, hmem, hstart, hheld⟩ := hslot
  have hdate : Sample.host.date slot.startsAt = some 1772444700000 := by
    rw [hstart]
    decide +kernel
  obtain ⟨offering, hadmissible⟩ := admissible_sample hdate (by decide) (by decide)
  exact ⟨slot, hmem, hstart, (slot_admitted Sample.host (Sample.ctx 0) Sample.db "customer"
    "provider" 1772323200000 Sample.slotQuery _ slot none 1772409600000 _ offering rfl hmem
    (by decide +kernel) hadmissible).mpr hheld⟩

/-- The slot at 09:00 is at 03:30 in UTC, before the window. -/
theorem not_slot_admitted : ∃ slot ∈ Sample.slotsOf Sample.db,
    slot.startsAt = "2026-03-02T09:00:00+05:30" ∧ slot.available = true ∧
    (∃ offering t, Admissible Sample.host (Sample.ctx 0) Sample.db (Sample.requestOf slot)
      offering t) ∧
    Sample.db.bookings.rows = [] ∧
    ¬ PassesHours Sample.host (Sample.ctx 0) Sample.db "customer" (Sample.requestOf slot) := by
  have hslot : ∃ slot ∈ Sample.slotsOf Sample.db, slot.startsAt = "2026-03-02T09:00:00+05:30" ∧
      slot.available = true ∧
      ¬ PassesHours Sample.host (Sample.ctx 0) Sample.db "customer" (Sample.requestOf slot) := by
    decide +kernel
  obtain ⟨slot, hmem, hstart, havailable, hrejected⟩ := hslot
  have hdate : Sample.host.date slot.startsAt = some 1772422200000 := by
    rw [hstart]
    decide +kernel
  obtain ⟨offering, hadmissible⟩ := admissible_sample hdate (by decide) (by decide)
  exact ⟨slot, hmem, hstart, havailable, ⟨offering, _, hadmissible⟩, rfl, hrejected⟩

end ServiceHub
