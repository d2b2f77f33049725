/-
# `Schedules.Slots` — the slots of a day

`ProviderAvailabilityService.generateSlot`: on one date, for every available
window of its weekday, the loop emits a slot of the offering's duration at every
step of duration and buffer, as long as one fits.  A slot is two texts, of an
instant at `+05:30`.

    a time of day is written and read back       (`timeToMinutes_minutesToTimeString`)
    a text of a slot stands for its instant       (`parseIso_formatISOString`)
    a window yields its grid                      (`windowSlots_eq`)
    the slots of windows that do not overlap do
    not overlap, and lie in the windows           (`daySlots_geometry`)

The duration of an offering is positive, so that the loop ends.
-/
import ServiceHub.Schedules.Validation
import ServiceHub.Booking.Hours
import Mathlib.Data.String.Basic

namespace ServiceHub.Schedules

open Data

/-! ## The service -/

/-- `/^\d{4}-\d{2}-\d{2}$/`. -/
def isDate (text : String) : Bool :=
  match text.toList with
  | [y₁, y₂, y₃, y₄, '-', m₁, m₂, '-', d₁, d₂] => [y₁, y₂, y₃, y₄, m₁, m₂, d₁, d₂].all Char.isDigit
  | _ => false

structure QuerySlotDto where
  serviceId : Uuid
  date : String
  date_valid : isDate date = true

structure Slot where
  startsAt : String
  endsAt : String
  available : Bool
  deriving DecidableEq

structure SlotService where
  id : Uuid
  serviceId : Uuid
  durationMinutes : Nat
  bufferMinutes : Nat

structure Slots where
  date : String
  service : SlotService
  slots : List Slot

def minutesToTimeString (totalMinutes : Int) : String :=
  let hours := totalMinutes / 60
  let minutes := totalMinutes % 60
  padStart 2 hours.toNat ++ ":" ++ padStart 2 minutes.toNat

def formatISOString (dateStr timeStr : String) : String := dateStr ++ "T" ++ timeStr ++ ":00+05:30"

/-- `available` is `true`, whatever is booked. -/
def newSlot (date : String) (providerService : ProviderService) (currentStart : Int) : Slot where
  startsAt := formatISOString date (minutesToTimeString currentStart)
  endsAt := formatISOString date
    (minutesToTimeString (currentStart + providerService.durationMinutes))
  available := true

/-- The `while` of a window, from `currentStart` on. -/
def windowSlots (date : String) (providerService : ProviderService) (windowEnd currentStart : Int) :
    List Slot :=
  if currentStart + providerService.durationMinutes ≤ windowEnd then
    newSlot date providerService currentStart :: windowSlots date providerService windowEnd
      (currentStart + (providerService.durationMinutes + providerService.bufferMinutes))
  else []
termination_by (windowEnd - currentStart).toNat
decreasing_by
  have hpos := providerService.durationMinutes_pos
  omega

/-- The `for` over the windows. -/
def daySlots (date : String) (providerService : ProviderService)
    (providerAvailability : List Availability) : List Slot :=
  providerAvailability.flatMap fun window => windowSlots date providerService
    (timeToMinutes window.endTime) (timeToMinutes window.startTime)

/-- `findByProviderIdAndWeekday`: the available windows, ordered by the texts of
their starts. -/
def Db.findByProviderIdAndWeekday (db : Db) (providerId : Uuid) (weekday : Int) :
    List Availability :=
  ((db.windows providerId).filter fun w => w.weekday == weekday && w.isAvailable).insertionSort
    fun a b => a.startTime ≤ b.startTime

/-- The instant at which a date starts, in UTC.  A text of this form is in the
format of ECMAScript. -/
def queryDate (date : String) : Option Time := parseIso (date ++ "T00:00:00Z")

def generateSlot (now : Time) (db : Db) (providerId : Uuid) (queryDto : QuerySlotDto) :
    Except Exn Slots :=
  match queryDate queryDto.date with
  | none => .error (.validation "Argument weekday must not be null.")
  | some queryDate =>
      let today := now.setUTCHours 0 0 0 0
      if queryDate < today then
        .error (.badRequest "Past dates are not allowed for available slot queries")
      else
        let weekday := queryDate.getUTCDay
        let providerService := db.providerServices.rows.find? fun o =>
          o.providerId == providerId && o.serviceId == queryDto.serviceId
        match providerService.filter (·.isActive) with
        | none => .error (.notFound "Provider service offering not found or inactive")
        | some providerService =>
            .ok {
              date := queryDto.date
              service := ⟨providerService.id, providerService.serviceId,
                providerService.durationMinutes, providerService.bufferMinutes⟩
              slots := daySlots queryDto.date providerService
                (db.findByProviderIdAndWeekday providerId weekday) }

/-! ## Times of day -/

/-- Two digits are written for a number below sixty, and read as it. -/
theorem padStart_two {n : Nat} (h : n < 60) : ∃ c d : Char, (padStart 2 n).toList = [c, d] ∧
    c.isDigit = true ∧ d.isDigit = true ∧ decimal [c, d] = some n := by
  have hall : ∀ n ∈ List.range 60,
      (padStart 2 n).toList = [Nat.digitChar (n / 10), Nat.digitChar (n % 10)] ∧
        (Nat.digitChar (n / 10)).isDigit = true ∧ (Nat.digitChar (n % 10)).isDigit = true ∧
          decimal [Nat.digitChar (n / 10), Nat.digitChar (n % 10)] = some n := by decide +kernel
  exact ⟨_, _, hall n (List.mem_range.mpr h)⟩

/-- What a time of day is written as. -/
theorem toList_minutesToTimeString {m : Int} (h₀ : 0 ≤ m) (h : m < 24 * 60) :
    ∃ c d c' d' : Char, (minutesToTimeString m).toList = [c, d, ':', c', d'] ∧
      (∀ x ∈ [c, d], x.isDigit = true) ∧ (∀ x ∈ [c', d'], x.isDigit = true) ∧
        decimal [c, d] = some (m / 60).toNat ∧ decimal [c', d'] = some (m % 60).toNat := by
  obtain ⟨c, d, hh, hc, hd, hhours⟩ := padStart_two (n := (m / 60).toNat) (by omega)
  obtain ⟨c', d', hm, hc', hd', hminutes⟩ := padStart_two (n := (m % 60).toNat) (by omega)
  refine ⟨c, d, c', d', ?_, by simp [hc, hd], by simp [hc', hd'], hhours, hminutes⟩
  simp [minutesToTimeString, String.toList_append, hh, hm]

/-- **A time of day that is written is read back.** -/
theorem timeToMinutes_minutesToTimeString {m : Int} (h₀ : 0 ≤ m) (h : m < 24 * 60) :
    timeToMinutes (minutesToTimeString m) = m := by
  obtain ⟨c, d, c', d', htext, hhs, hms, hhours, hminutes⟩ := toList_minutesToTimeString h₀ h
  have hclock := clockMinutes_eq [c, d] [c', d'] htext hhs hms hhours hminutes
  rw [timeToMinutes, hclock, Option.getD_some]
  omega

theorem timeToMinutes_bounds {text : String} (h : isHHmm text = true) :
    0 ≤ timeToMinutes text ∧ timeToMinutes text < 24 * 60 := by
  obtain ⟨hours, minutes, hclock, hh, hm⟩ := clockMinutes_of_isHHmm h
  rw [timeToMinutes, hclock, Option.getD_some]
  omega

theorem length_of_isDate {date : String} (h : isDate date = true) : date.toList.length = 10 := by
  unfold isDate at h
  split at h
  · rename_i heq
    rw [heq]
    rfl
  · cases h

/-- A text of ten characters, `T`, and a time. -/
theorem parseIso_append {date clock : String} (hlength : date.toList.length = 10) :
    parseIso (date ++ "T" ++ clock) = (parseDate date.toList).bind fun day =>
      (parseClock clock.toList).bind fun (ms, rest) => (parseFraction rest).bind fun (frac, offset) =>
        some (day * Time.msPerDay + ms + frac - offset * Time.msPerMinute) := by
  have htext : (date ++ "T" ++ clock).toList = date.toList ++ 'T' :: clock.toList := by
    simp [String.toList_append]
  rw [parseIso, htext, ← hlength, List.take_left, List.drop_left]
  rfl

/-- The date of a query: a day, if it is one of the calendar. -/
theorem queryDate_eq {date : String} (h : isDate date = true) :
    queryDate date = (parseDate date.toList).map fun day => day * Time.msPerDay := by
  have htext : date ++ "T00:00:00Z" = date ++ "T" ++ "00:00:00Z" := by
    rw [String.append_assoc]
    rfl
  have hclock : parseClock "00:00:00Z".toList = some (0, ['Z']) := by decide +kernel
  rw [queryDate, htext, parseIso_append (length_of_isDate h), hclock]
  cases parseDate date.toList with
  | none => rfl
  | some day => simp [parseFraction, parseOffset]

/-- **The text of a slot stands for the time of day at `+05:30`.** -/
theorem parseIso_formatISOString {date : String} (h : isDate date = true) {m : Int} (h₀ : 0 ≤ m)
    (hm : m < 24 * 60) : parseIso (formatISOString date (minutesToTimeString m)) =
      (queryDate date).map fun t => t + (m - 330) * Time.msPerMinute := by
  obtain ⟨c, d, c', d', htext, hhs, hms, hhours, hminutes⟩ := toList_minutesToTimeString h₀ hm
  have hformat : formatISOString date (minutesToTimeString m) =
      date ++ "T" ++ (minutesToTimeString m ++ ":00+05:30") := by
    simp only [formatISOString, String.append_assoc]
  have hlist : (minutesToTimeString m ++ ":00+05:30").toList =
      c :: d :: ':' :: c' :: d' :: ':' :: '0' :: '0' :: ['+', '0', '5', ':', '3', '0'] := by
    simp [String.toList_append, htext]
  have hclock : parseClock (minutesToTimeString m ++ ":00+05:30").toList =
      some (m * Time.msPerMinute, ['+', '0', '5', ':', '3', '0']) := by
    have hseconds : decimal ['0', '0'] = some 0 := rfl
    have hvalid : (m / 60).toNat < 24 ∧ (m % 60).toNat < 60 ∧ 0 < 60 := by omega
    have hms : (((m / 60).toNat : Int) * 3600000 + ((m % 60).toNat : Int) * 60000 + (0 : Nat) * 1000) =
        m * Time.msPerMinute := by
      unfold Time.msPerMinute
      omega
    rw [hlist, parseClock, hhours, hminutes, hseconds, ← hms]
    exact if_pos hvalid
  rw [hformat, parseIso_append (length_of_isDate h), hclock, queryDate_eq h]
  have hoffset : parseFraction ['+', '0', '5', ':', '3', '0'] = some (0, 330) := by decide +kernel
  cases parseDate date.toList with
  | none => rfl
  | some day =>
      have hminus : (m - 330) * Time.msPerMinute = m * Time.msPerMinute - 330 * Time.msPerMinute :=
        sub_mul m 330 _
      have hsum : day * Time.msPerDay + m * Time.msPerMinute + ((0 : Nat) : Int) -
          330 * Time.msPerMinute = day * Time.msPerDay + (m - 330) * Time.msPerMinute := by
        omega
      simp only [hoffset, Option.bind_some, Option.map_some, hsum]

/-! ## The grid of a window -/

section
variable {date : String} {providerService : ProviderService}

/-- The step of the loop. -/
def stepMinutes (providerService : ProviderService) : Int :=
  providerService.durationMinutes + providerService.bufferMinutes

/-- The start of the `k`-th slot. -/
def slotStart (providerService : ProviderService) (windowStart : Int) (k : Nat) : Int :=
  windowStart + k * stepMinutes providerService

theorem slotStart_succ (windowStart : Int) (k : Nat) :
    slotStart providerService windowStart (k + 1) =
      slotStart providerService (windowStart + stepMinutes providerService) k := by
  unfold slotStart
  rw [Nat.cast_succ, Int.add_mul, Int.one_mul]
  omega

theorem stepMinutes_pos (providerService : ProviderService) : 0 < stepMinutes providerService := by
  have hpos := providerService.durationMinutes_pos
  unfold stepMinutes
  omega

theorem le_slotStart (providerService : ProviderService) (windowStart : Int) (k : Nat) :
    windowStart ≤ slotStart providerService windowStart k := by
  have hstep := Int.mul_nonneg (Int.natCast_nonneg k) (stepMinutes_pos providerService).le
  unfold slotStart
  omega

/-- **The loop emits the grid of the window**, as far as a slot of it fits. -/
theorem windowSlots_eq (date : String) (providerService : ProviderService)
    (windowEnd windowStart : Int) : ∃ n : Nat,
      windowSlots date providerService windowEnd windowStart =
        (List.range n).map (fun k => newSlot date providerService
          (slotStart providerService windowStart k)) ∧
      ∀ k : Nat, k < n ↔ slotStart providerService windowStart k +
        providerService.durationMinutes ≤ windowEnd := by
  induction windowStart using windowSlots.induct providerService windowEnd with
  | case1 windowStart hfits ih =>
      obtain ⟨n, hslots, hlast⟩ := ih
      have hzero : slotStart providerService windowStart 0 = windowStart := by simp [slotStart]
      refine ⟨n + 1, ?_, fun k => ?_⟩
      · rw [windowSlots, if_pos hfits, hslots, List.range_succ_eq_map, List.map_cons, hzero,
          List.map_map]
        refine congrArg (_ :: ·) (List.map_congr_left fun k _ => ?_)
        exact congrArg (newSlot date providerService) (slotStart_succ windowStart k).symm
      · cases k with
        | zero => exact iff_of_true n.succ_pos (by rwa [hzero])
        | succ k =>
            rw [slotStart_succ]
            exact Nat.succ_lt_succ_iff.trans (hlast k)
  | case2 windowStart hfull =>
      refine ⟨0, ?_, fun k => ?_⟩
      · rw [windowSlots, if_neg hfull]
        rfl
      · have hle := le_slotStart providerService windowStart k
        omega

end

/-! ## The geometry of the slots -/

/-- The time of day that a text of a slot says, in minutes. -/
def minutesOf (text : String) : Int :=
  timeToMinutes (String.ofList ((text.toList.drop 11).take 5))

namespace Slot

def start (s : Slot) : Int := minutesOf s.startsAt

def stop (s : Slot) : Int := minutesOf s.endsAt

/-- The minutes of a slot; the one at which it ends is not part of it. -/
def minutes (s : Slot) : Set Int := Set.Ico s.start s.stop

end Slot

/-- A time of day is written and read back unchanged. -/
def ReadsBack (m : Int) : Prop := timeToMinutes (minutesToTimeString m) = m

/-- The slots of a window are its grid. -/
structure OnGrid (providerService : ProviderService) (w : Availability) (slots : List Slot) :
    Prop where
  /-- The `k`-th slot starts `k` steps after the window does. -/
  spans : slots.map (fun s => (s.start, s.stop)) = (List.range slots.length).map fun k =>
    (slotStart providerService (shiftStart w) k,
      slotStart providerService (shiftStart w) k + providerService.durationMinutes)
  /-- There is a slot for every step at which one fits, and for no other. -/
  full : ∀ k : Nat, k < slots.length ↔
    slotStart providerService (shiftStart w) k + providerService.durationMinutes ≤ shiftEnd w
  written : ∀ k < slots.length, ReadsBack (slotStart providerService (shiftStart w) k) ∧
    ReadsBack (slotStart providerService (shiftStart w) k + providerService.durationMinutes)

section
variable {date : String} {providerService : ProviderService}

theorem minutesOf_formatISOString (h : isDate date = true) {m : Int} (h₀ : 0 ≤ m)
    (hm : m < 24 * 60) : minutesOf (formatISOString date (minutesToTimeString m)) = m := by
  obtain ⟨c, d, c', d', htext, _⟩ := toList_minutesToTimeString h₀ hm
  have hclock : ((formatISOString date (minutesToTimeString m)).toList.drop 11).take 5 =
      (minutesToTimeString m).toList := by
    have hlist : (formatISOString date (minutesToTimeString m)).toList =
        (date.toList ++ ['T']) ++ (minutesToTimeString m).toList ++ ":00+05:30".toList := by
      simp [formatISOString, String.toList_append]
    have hlength : (date.toList ++ ['T']).length = 11 := by
      rw [List.length_append, length_of_isDate h]
      rfl
    rw [hlist, List.append_assoc, ← hlength, List.drop_left, htext]
    rfl
  rw [minutesOf, hclock, String.ofList_toList, timeToMinutes_minutesToTimeString h₀ hm]

theorem start_newSlot (h : isDate date = true) {m : Int} (h₀ : 0 ≤ m) (hm : m < 24 * 60) :
    (newSlot date providerService m).start = m :=
  minutesOf_formatISOString h h₀ hm

theorem stop_newSlot (h : isDate date = true) {m : Int} (h₀ : 0 ≤ m)
    (hm : m + providerService.durationMinutes < 24 * 60) :
    (newSlot date providerService m).stop = m + providerService.durationMinutes :=
  minutesOf_formatISOString h (by omega) hm

theorem windowSlots_onGrid (providerService : ProviderService) (h : isDate date = true)
    (w : Availability) :
    OnGrid providerService w (windowSlots date providerService (shiftEnd w) (shiftStart w)) := by
  obtain ⟨n, hslots, hlast⟩ := windowSlots_eq date providerService (shiftEnd w) (shiftStart w)
  have hlength : (windowSlots date providerService (shiftEnd w) (shiftStart w)).length = n := by
    rw [hslots, List.length_map, List.length_range]
  -- every time of day of the grid is between those of the window
  have hday : ∀ k < n, 0 ≤ slotStart providerService (shiftStart w) k ∧
      slotStart providerService (shiftStart w) k + providerService.durationMinutes < 24 * 60 := by
    intro k hk
    have hfits := (hlast k).mp hk
    have hle := le_slotStart providerService (shiftStart w) k
    have hopens : 0 ≤ shiftStart w := (timeToMinutes_bounds w.startTime_valid).1
    have hcloses : shiftEnd w < 24 * 60 := (timeToMinutes_bounds w.endTime_valid).2
    omega
  refine ⟨?_, ?_, ?_⟩
  · rw [hlength, hslots, List.map_map]
    refine List.map_congr_left fun k hk => ?_
    obtain ⟨h₀, hm⟩ := hday k (List.mem_range.mp hk)
    rw [Function.comp_apply, start_newSlot h h₀ (by omega), stop_newSlot h h₀ hm]
  · rw [hlength]
    exact hlast
  · rw [hlength]
    intro k hk
    obtain ⟨h₀, hm⟩ := hday k hk
    exact ⟨timeToMinutes_minutesToTimeString h₀ (by omega),
      timeToMinutes_minutesToTimeString (by omega) hm⟩

theorem slotStart_zero (windowStart : Int) :
    slotStart providerService windowStart 0 = windowStart := by
  simp [slotStart]

section
variable {w : Availability} {slots : List Slot}

theorem OnGrid.get (h : OnGrid providerService w slots) {k : Nat} (hk : k < slots.length) :
    slots[k].start = slotStart providerService (shiftStart w) k ∧
      slots[k].stop = slots[k].start + providerService.durationMinutes := by
  have hspan := congrArg (·[k]?) h.spans
  simp only [List.getElem?_map, List.getElem?_eq_getElem hk, List.getElem?_range hk,
    Option.map_some, Option.some.injEq, Prod.mk.injEq] at hspan
  obtain ⟨hstart, hstop⟩ := hspan
  exact ⟨hstart, hstart ▸ hstop⟩

/-- A slot lies in its window. -/
theorem OnGrid.inside (h : OnGrid providerService w slots) {s : Slot} (hs : s ∈ slots) :
    shiftStart w ≤ s.start ∧ s.start < s.stop ∧ s.stop ≤ shiftEnd w := by
  obtain ⟨k, hk, rfl⟩ := List.getElem_of_mem hs
  obtain ⟨hstart, hstop⟩ := h.get hk
  have hpos := providerService.durationMinutes_pos
  have hle := le_slotStart providerService (shiftStart w) k
  have hfits := (h.full k).mp hk
  omega

/-- Consecutive slots of a window are the buffer apart. -/
theorem OnGrid.isChain (h : OnGrid providerService w slots) :
    slots.IsChain fun (a b : Slot) => b.start = a.stop + providerService.bufferMinutes := by
  refine List.isChain_iff_getElem.mpr fun k hk => ?_
  obtain ⟨hstart, hstop⟩ := h.get (Nat.lt_of_succ_lt hk)
  obtain ⟨hnext, _⟩ := h.get hk
  have hstep : slotStart providerService (shiftStart w) (k + 1) =
      slotStart providerService (shiftStart w) k + stepMinutes providerService := by
    rw [slotStart_succ]
    simp only [slotStart]
    omega
  unfold stepMinutes at hstep
  omega

/-- The slots of a window follow each other. -/
theorem OnGrid.pairwise (h : OnGrid providerService w slots) :
    slots.Pairwise fun a b => a.stop ≤ b.start := by
  refine List.pairwise_iff_getElem.mpr fun i j hi hj hij => ?_
  obtain ⟨hstart, hstop⟩ := h.get hi
  obtain ⟨hnext, _⟩ := h.get hj
  have hstep : (i + 1 : Int) * stepMinutes providerService ≤ j * stepMinutes providerService :=
    Int.mul_le_mul_of_nonneg_right (by omega) (stepMinutes_pos providerService).le
  rw [Int.add_mul, Int.one_mul] at hstep
  simp only [slotStart, stepMinutes] at hstart hnext hstep
  omega

end

/-- What the slots of a list of windows are. -/
structure Geometry (providerService : ProviderService) (windows : List Availability)
    (slots : List Slot) : Prop where
  /-- Window by window, the grid, on which consecutive slots are the buffer apart. -/
  grid : ∃ slotsOf : Availability → List Slot, slots = windows.flatMap slotsOf ∧
    ∀ w ∈ windows, OnGrid providerService w (slotsOf w) ∧
      (slotsOf w).IsChain fun (a b : Slot) => b.start = a.stop + providerService.bufferMinutes
  inside : ∀ s ∈ slots, ∃ w ∈ windows,
    shiftStart w ≤ s.start ∧ s.start < s.stop ∧ s.stop ≤ shiftEnd w
  apart : slots.Pairwise fun a b => Disjoint a.minutes b.minutes

theorem daySlots_geometry (h : isDate date = true) {windows : List Availability}
    (hapart : windows.Pairwise fun a b => shiftEnd a ≤ shiftStart b ∨ shiftEnd b ≤ shiftStart a) :
    Geometry providerService windows (daySlots date providerService windows) := by
  have hgrid : ∀ w ∈ windows,
      OnGrid providerService w (windowSlots date providerService (shiftEnd w) (shiftStart w)) :=
    fun w _ => windowSlots_onGrid providerService h w
  refine ⟨⟨_, rfl, fun w hw => ⟨hgrid w hw, (hgrid w hw).isChain⟩⟩, ?_, ?_⟩
  · intro s hs
    obtain ⟨w, hw, hs⟩ := List.mem_flatMap.mp hs
    exact ⟨w, hw, (hgrid w hw).inside hs⟩
  · refine List.pairwise_flatMap.mpr ⟨fun w hw => ?_, ?_⟩
    · refine (hgrid w hw).pairwise.imp fun {a b} hle => ?_
      exact Set.Ico_disjoint_Ico.mpr ((min_le_left _ _).trans (hle.trans (le_max_right _ _)))
    · refine hapart.imp_of_mem fun {w w'} hw hw' hclosed s hs s' hs' => ?_
      obtain ⟨hopens, _, hcloses⟩ := (hgrid w hw).inside hs
      obtain ⟨hopens', _, hcloses'⟩ := (hgrid w' hw').inside hs'
      refine Set.Ico_disjoint_Ico.mpr ?_
      omega

end

/-! ## The slots of a date -/

section
variable {now : Time} {db : Db} {providerId : Uuid} {queryDto : QuerySlotDto} {slots : Slots}

theorem generateSlot_eq_ok (h : generateSlot now db providerId queryDto = .ok slots) :
    ∃ t providerService, queryDate queryDto.date = some t ∧
      (db.providerServices.rows.find? fun o =>
        o.providerId == providerId && o.serviceId == queryDto.serviceId) = some providerService ∧
      slots.slots = daySlots queryDto.date providerService
        (db.findByProviderIdAndWeekday providerId t.getUTCDay) := by
  simp only [generateSlot] at h
  split at h
  · cases h
  rename_i t ht
  split at h
  · cases h
  split at h
  · cases h
  rename_i providerService hservice
  cases h
  exact ⟨t, providerService, ht, Option.filter_eq_some_iff.mp hservice |>.1, rfl⟩

theorem findByProviderIdAndWeekday_perm (db : Db) (providerId : Uuid) (weekday : Int) :
    (db.findByProviderIdAndWeekday providerId weekday).Perm
      ((db.windows providerId).filter fun w => w.weekday == weekday && w.isAvailable) :=
  List.perm_insertionSort _ _

theorem mem_findByProviderIdAndWeekday {weekday : Int} {w : Availability} :
    w ∈ db.findByProviderIdAndWeekday providerId weekday ↔
      w ∈ db.windows providerId ∧ w.weekday = weekday ∧ w.isAvailable = true := by
  rw [(findByProviderIdAndWeekday_perm _ _ weekday).mem_iff, List.mem_filter, Bool.and_eq_true,
    beq_iff_eq]

/-- The windows of a date do not overlap, since they are of one weekday. -/
theorem apart_of_separate (hseparate : (db.windows providerId).Pairwise WindowsSeparate)
    (weekday : Int) : (db.findByProviderIdAndWeekday providerId weekday).Pairwise fun a b =>
      shiftEnd a ≤ shiftStart b ∨ shiftEnd b ≤ shiftStart a := by
  have hperm := findByProviderIdAndWeekday_perm db providerId weekday
  refine (hperm.pairwise_iff fun {a b} h => h.symm).mpr ?_
  refine (hseparate.filter _).imp_of_mem fun {a b} ha hb h => ?_
  rw [List.mem_filter, Bool.and_eq_true, beq_iff_eq] at ha hb
  rcases h with hday | hapart
  · exact absurd (by exact_mod_cast ha.2.1.trans hb.2.1.symm) hday
  · exact hapart

end

/-- **The geometry of the slots of a date**: of the offering that was asked for,
in the available windows of a validated schedule. -/
theorem slots_geometry (now : Time) (db : Db) (providerId : Uuid) (queryDto : QuerySlotDto)
    (slots : Slots) (schedule : List AvailabityIntervalDto) (minRequiredMinutes : Option ℚ)
    (hvalid : validateSchedules schedule minRequiredMinutes = .ok ())
    (hstored : (db.windows providerId).map Schedules.interval =
      schedule.map AvailabityIntervalDto.interval)
    (hslots : generateSlot now db providerId queryDto = .ok slots) :
    ∃ (t : Time) (providerService : ProviderService) (windows : List Availability),
      queryDate queryDto.date = some t ∧
      (db.providerServices.rows.find? fun o =>
        o.providerId == providerId && o.serviceId == queryDto.serviceId) = some providerService ∧
      windows.Perm ((db.windows providerId).filter fun w =>
        w.weekday == t.getUTCDay && w.isAvailable) ∧
      Geometry providerService windows slots.slots := by
  obtain ⟨t, providerService, ht, hservice, hday⟩ := generateSlot_eq_ok hslots
  refine ⟨t, providerService, _, ht, hservice, findByProviderIdAndWeekday_perm _ _ _, ?_⟩
  rw [hday]
  exact daySlots_geometry queryDto.date_valid
    (apart_of_separate (separate_of_stored hvalid hstored) _)

/-! ## A shift of three slots -/

namespace Sample

def offering : ProviderService where
  id := "offering"
  providerId := "provider"
  serviceId := "service"
  price := 100
  currency := "INR"
  durationMinutes := 30
  bufferMinutes := 15
  isActive := true
  durationMinutes_pos := by decide

/-- What is stored once a schedule is set. -/
def stored (schedule : List AvailabityIntervalDto) : Db where
  providers := .empty
  providerServices := Table.empty.put offering
  versions := (newWindows (fun n => n.repr) "provider" schedule).foldl
    (fun versions w => versions.put ⟨w, false⟩) .empty

def shift : AvailabityIntervalDto := ⟨1, "10:00", "12:00", true, by decide, by decide, by decide⟩

def monday : QuerySlotDto := ⟨"service", "2026-03-02", by decide⟩

end Sample

theorem slots_geometry_sample : ∃ slots : Slots,
    generateSlot 0 (Sample.stored [Sample.shift]) "provider" Sample.monday = .ok slots ∧
    slots.slots.map (·.startsAt) = ["2026-03-02T10:00:00+05:30", "2026-03-02T10:45:00+05:30",
      "2026-03-02T11:30:00+05:30"] ∧
    ∃ (t : Time) (providerService : ProviderService) (windows : List Availability),
      queryDate Sample.monday.date = some t ∧
      ((Sample.stored [Sample.shift]).providerServices.rows.find? fun o =>
        o.providerId == "provider" && o.serviceId == Sample.monday.serviceId) =
          some providerService ∧
      windows.Perm (((Sample.stored [Sample.shift]).windows "provider").filter fun w =>
        w.weekday == t.getUTCDay && w.isAvailable) ∧
      Geometry providerService windows slots.slots := by
  have hvalid : validateSchedules [Sample.shift] none = .ok () := by decide +kernel
  exact ⟨_, rfl, by decide +kernel, slots_geometry 0 _ "provider" Sample.monday _ [Sample.shift]
    none hvalid rfl rfl⟩

end ServiceHub.Schedules
