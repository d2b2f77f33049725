/-
# `Schedules.SlotOrder` — in which order the slots come

**What fails.**  The windows of a date are ordered by the texts of their starts,
and the pattern of the DTO admits an hour of one digit: `"10:00"` comes before
`"9:00"`, so that the slots of the later window come first
(`not_slots_ascend`).

**What holds.**  The slots come in the order of time exactly if, of the windows
that have one, the earlier never has the greater text (`slots_ascend`).

    a list that is sorted by its keys is in the order
    of time                                   iff the keys agree with time  (`pairwise_iff_agree`)
    the instants of the slots ascend          iff their times of day do     (`ascending_iff`)
    the times of day ascend                   iff those of the windows do   (`daySlots_pairwise_iff`)
-/
import ServiceHub.Schedules.Slots

namespace ServiceHub.Schedules

open Data

/-- The slots start one after the other. -/
def Ascending (slots : List Slot) : Prop :=
  ∃ instants : List Time, slots.map (fun s => parseIso s.startsAt) = instants.map some ∧
    instants.Pairwise (· < ·)

/-- The window has a slot. -/
def HasSlot (providerService : ProviderService) (w : Availability) : Prop :=
  shiftStart w + providerService.durationMinutes ≤ shiftEnd w

instance (providerService : ProviderService) (w : Availability) :
    Decidable (HasSlot providerService w) := inferInstanceAs (Decidable (_ ≤ _))

/-- Of two windows that have a slot, the earlier does not have the greater text. -/
def TextsAgree (providerService : ProviderService) (windows : List Availability) : Prop :=
  ∀ a ∈ windows, ∀ b ∈ windows, HasSlot providerService a → HasSlot providerService b →
    shiftStart a < shiftStart b → a.startTime ≤ b.startTime

instance (providerService : ProviderService) (windows : List Availability) :
    Decidable (TextsAgree providerService windows) :=
  inferInstanceAs (Decidable (∀ a ∈ windows, ∀ b ∈ windows, _))

/-! ## Sorting by another key -/

/-- A list that is sorted by a key, and has no two entries of one time, is in the
order of time if the key never says otherwise. -/
theorem pairwise_iff_agree {α κ τ : Type} [LinearOrder κ] [LinearOrder τ] {key : α → κ}
    {time : α → τ} {l : List α} (hsorted : l.Pairwise fun a b => key a ≤ key b)
    (hne : l.Pairwise fun a b => time a ≠ time b) (hkey : ∀ a b, key a = key b → time a = time b) :
    (l.Pairwise fun a b => time a < time b) ↔
      ∀ a ∈ l, ∀ b ∈ l, time a < time b → key a ≤ key b := by
  constructor
  · intro htime a ha b hb hlt
    -- whichever comes first in the list is the earlier, and has the smaller key
    have hboth : l.Pairwise fun a b => time a < time b ∧ key a ≤ key b := htime.and hsorted
    exact List.Pairwise.forall_of_forall_of_flip (R := fun a b => time a < time b → key a ≤ key b)
      (fun x _ h => absurd h (lt_irrefl _)) (hboth.imp fun h _ => h.2)
      (hboth.imp fun h h' => absurd h' (lt_asymm h.1)) ha hb hlt
  · intro hagree
    refine (hsorted.and hne).imp_of_mem fun {a b} ha hb ⟨hle, hne⟩ => ?_
    refine lt_of_le_of_ne (le_of_not_gt fun hlt => ?_) hne
    exact hne (hkey a b (le_antisymm hle (hagree b hb a ha hlt)))

section
variable {date : String} {providerService : ProviderService}

/-! ## Instants and times of day -/

/-- The instant of a slot is that of its time of day. -/
theorem instant_of_mem (h : isDate date = true) {windows : List Availability} {s : Slot}
    (hs : s ∈ daySlots date providerService windows) :
    parseIso s.startsAt =
      (queryDate date).map fun t => t + (s.start - 330) * Time.msPerMinute := by
  obtain ⟨w, _, hs⟩ := List.mem_flatMap.mp hs
  obtain ⟨n, hslots, hlast⟩ := windowSlots_eq date providerService (shiftEnd w) (shiftStart w)
  have hmem : s ∈ (List.range n).map fun k =>
      newSlot date providerService (slotStart providerService (shiftStart w) k) := hslots ▸ hs
  obtain ⟨k, hk, rfl⟩ := List.mem_map.mp hmem
  have hfits := (hlast k).mp (List.mem_range.mp hk)
  have hopens : 0 ≤ shiftStart w := (timeToMinutes_bounds w.startTime_valid).1
  have hcloses : shiftEnd w < 24 * 60 := (timeToMinutes_bounds w.endTime_valid).2
  have hle := le_slotStart providerService (shiftStart w) k
  have hstart : (newSlot date providerService (slotStart providerService (shiftStart w) k)).start =
      slotStart providerService (shiftStart w) k := start_newSlot h (by omega) (by omega)
  rw [hstart]
  exact parseIso_formatISOString h (by omega) (by omega)

theorem ascending_iff (h : isDate date = true) {t : Time} (ht : queryDate date = some t)
    {windows : List Availability} :
    Ascending (daySlots date providerService windows) ↔
      (daySlots date providerService windows).Pairwise fun a b => a.start < b.start := by
  have hinstants : (daySlots date providerService windows).map (fun s => parseIso s.startsAt) =
      ((daySlots date providerService windows).map fun s =>
        t + (s.start - 330) * Time.msPerMinute).map some := by
    rw [List.map_map]
    refine List.map_congr_left fun s hs => ?_
    rw [instant_of_mem h hs, ht]
    rfl
  have hlt : ∀ a b : Slot, t + (a.start - 330) * Time.msPerMinute <
      t + (b.start - 330) * Time.msPerMinute ↔ a.start < b.start := by
    intro a b
    have hpos : 0 < Time.msPerMinute := by decide
    rw [add_lt_add_iff_left, mul_lt_mul_iff_left₀ hpos, sub_lt_sub_iff_right]
  constructor
  · rintro ⟨instants, hsome, hascend⟩
    obtain rfl := List.map_injective_iff.mpr (Option.some_injective _) (hinstants.symm.trans hsome)
    exact (List.pairwise_map.mp hascend).imp fun h => (hlt _ _).mp h
  · intro hascend
    exact ⟨_, hinstants, List.pairwise_map.mpr (hascend.imp fun h => (hlt _ _).mpr h)⟩

/-! ## Slots and windows -/

/-- The first slot of a window starts when the window does. -/
theorem first_of_hasSlot (h : isDate date = true) {w : Availability}
    (hw : HasSlot providerService w) :
    ∃ s ∈ windowSlots date providerService (shiftEnd w) (shiftStart w), s.start = shiftStart w := by
  have hgrid := windowSlots_onGrid providerService h w
  have hzero : 0 < (windowSlots date providerService (shiftEnd w) (shiftStart w)).length := by
    refine (hgrid.full 0).mpr ?_
    rw [slotStart_zero]
    exact hw
  refine ⟨_, List.getElem_mem hzero, ?_⟩
  rw [(hgrid.get hzero).1, slotStart_zero]

/-- The slots of windows that do not overlap are in the order of time if the
windows that have one are. -/
theorem daySlots_pairwise_iff (h : isDate date = true) {windows : List Availability}
    (hapart : windows.Pairwise fun a b => shiftEnd a ≤ shiftStart b ∨ shiftEnd b ≤ shiftStart a) :
    ((daySlots date providerService windows).Pairwise fun a b => a.start < b.start) ↔
      (windows.filter fun w => decide (HasSlot providerService w)).Pairwise fun a b =>
        shiftStart a < shiftStart b := by
  have hgrid : ∀ w : Availability,
      OnGrid providerService w (windowSlots date providerService (shiftEnd w) (shiftStart w)) :=
    fun w => windowSlots_onGrid providerService h w
  rw [List.pairwise_filter]
  refine List.pairwise_flatMap.trans ?_
  constructor
  · rintro ⟨_, hbetween⟩
    refine hbetween.imp fun {a b} hlt ha hb => ?_
    obtain ⟨s, hs, hstart⟩ := first_of_hasSlot h
      (of_decide_eq_true ha)
    obtain ⟨s', hs', hstart'⟩ := first_of_hasSlot h
      (of_decide_eq_true hb)
    exact hstart ▸ hstart' ▸ hlt s hs s' hs'
  · intro hwindows
    refine ⟨fun w _ => (hgrid w).pairwise.imp_of_mem fun {a b} ha _ hle => ?_, ?_⟩
    · have hlong := ((hgrid w).inside ha).2.1
      omega
    · refine (hwindows.and hapart).imp fun {a b} ⟨hlt, hapart⟩ s hs s' hs' => ?_
      obtain ⟨hopens, hlong, hcloses⟩ := (hgrid a).inside hs
      obtain ⟨hopens', hlong', hcloses'⟩ := (hgrid b).inside hs'
      have hfits : ∀ w : Availability,
          (∃ s, s ∈ windowSlots date providerService (shiftEnd w) (shiftStart w)) →
            decide (HasSlot providerService w) = true := by
        rintro w ⟨s, hs⟩
        have hzero := ((hgrid w).full 0).mp (List.length_pos_of_mem hs)
        rw [slotStart_zero] at hzero
        exact decide_eq_true hzero
      have hstarts := hlt (hfits a ⟨s, hs⟩) (hfits b ⟨s', hs'⟩)
      omega

/-- The windows of a date that have a slot are in the order of time if their texts
agree with it. -/
theorem windows_pairwise_iff {db : Db} {providerId : Uuid} {weekday : Int}
    (hlt : ∀ w ∈ db.windows providerId, shiftStart w < shiftEnd w)
    (hapart : (db.findByProviderIdAndWeekday providerId weekday).Pairwise fun a b =>
      shiftEnd a ≤ shiftStart b ∨ shiftEnd b ≤ shiftStart a) :
    (((db.findByProviderIdAndWeekday providerId weekday).filter fun w =>
      decide (HasSlot providerService w)).Pairwise fun a b => shiftStart a < shiftStart b) ↔
      TextsAgree providerService
        ((db.windows providerId).filter fun w => w.weekday == weekday && w.isAvailable) := by
  have hsorted : (db.findByProviderIdAndWeekday providerId weekday).Pairwise fun a b =>
      a.startTime ≤ b.startTime :=
    List.pairwise_insertionSort (fun a b : Availability => a.startTime ≤ b.startTime) _
  have hne : (db.findByProviderIdAndWeekday providerId weekday).Pairwise fun a b =>
      shiftStart a ≠ shiftStart b := by
    refine hapart.imp_of_mem fun {a b} ha hb hapart => ?_
    have hltₐ := hlt a (mem_findByProviderIdAndWeekday.mp ha).1
    have hltᵦ := hlt b (mem_findByProviderIdAndWeekday.mp hb).1
    omega
  rw [pairwise_iff_agree (hsorted.filter _) (hne.filter _) fun a b h => congrArg timeToMinutes h]
  have hmem : ∀ w, w ∈ db.findByProviderIdAndWeekday providerId weekday ↔ w ∈ _ := fun w =>
    (findByProviderIdAndWeekday_perm _ _ weekday).mem_iff
  simp only [List.mem_filter (p := fun w => decide (HasSlot providerService w)), hmem,
    decide_eq_true_eq, TextsAgree]
  constructor
  · intro hagree a ha b hb hslot hslot'
    exact hagree a ⟨ha, hslot⟩ b ⟨hb, hslot'⟩
  · intro hagree a ha b hb
    exact hagree a ha.1 b hb.1 ha.2 hb.2

end

/-- **When the slots of a date come in the order of time**: if, of the available
windows of its weekday that have one, the earlier never has the greater text. -/
theorem slots_ascend (now : Time) (db : Db) (providerId : Uuid) (queryDto : QuerySlotDto)
    (slots : Slots) (schedule : List AvailabityIntervalDto) (minRequiredMinutes : Option ℚ)
    (t : Time) (providerService : ProviderService)
    (hvalid : validateSchedules schedule minRequiredMinutes = .ok ())
    (hstored : (db.windows providerId).map Schedules.interval =
      schedule.map AvailabityIntervalDto.interval)
    (hslots : generateSlot now db providerId queryDto = .ok slots)
    (ht : queryDate queryDto.date = some t)
    (hservice : (db.providerServices.rows.find? fun o =>
      o.providerId == providerId && o.serviceId == queryDto.serviceId) = some providerService) :
    Ascending slots.slots ↔ TextsAgree providerService
      ((db.windows providerId).filter fun w => w.weekday == t.getUTCDay && w.isAvailable) := by
  obtain ⟨t', providerService', ht', hservice', hday⟩ := generateSlot_eq_ok hslots
  obtain rfl := Option.some.inj (ht.symm.trans ht')
  obtain rfl := Option.some.inj (hservice.symm.trans hservice')
  have hapart := apart_of_separate (separate_of_stored hvalid hstored) t.getUTCDay
  rw [hday, ascending_iff queryDto.date_valid ht, daySlots_pairwise_iff queryDto.date_valid hapart]
  exact windows_pairwise_iff (fun w hw => lt_of_stored hvalid hstored hw) hapart

/-! ## An hour of one digit -/

namespace Sample

theorem early_weekday : 1 ≤ 6 := by decide

theorem early_start : isHHmm "9:00" = true := by decide

theorem early_stop : isHHmm "9:30" = true := by decide

def early : AvailabityIntervalDto :=
  ⟨1, "9:00", "9:30", true, early_weekday, early_start, early_stop⟩

end Sample

theorem slots_ascend_sample : ∃ slots : Slots,
    generateSlot 0 (Sample.stored [Sample.shift]) "provider" Sample.monday = .ok slots ∧
    (Ascending slots.slots ↔ TextsAgree (Sample.offering)
      (((Sample.stored [Sample.shift]).windows "provider").filter fun w =>
        w.weekday == (1772409600000 : Time).getUTCDay && w.isAvailable)) := by
  have hvalid : validateSchedules [Sample.shift] none = .ok () := by decide +kernel
  have hdate : queryDate Sample.monday.date = some 1772409600000 := by decide +kernel
  exact ⟨_, rfl, slots_ascend 0 _ "provider" Sample.monday _ [Sample.shift] none _ Sample.offering
    hvalid rfl rfl hdate rfl⟩

/-- The morning comes after the later shift. -/
theorem not_slots_ascend : ∃ slots : Slots,
    validateSchedules [Sample.early, Sample.shift] none = .ok () ∧
    generateSlot 0 (Sample.stored [Sample.early, Sample.shift]) "provider" Sample.monday = .ok slots ∧
    slots.slots.map (·.startsAt) = ["2026-03-02T10:00:00+05:30", "2026-03-02T10:45:00+05:30",
      "2026-03-02T11:30:00+05:30", "2026-03-02T09:00:00+05:30"] ∧
    ¬ Ascending slots.slots := by
  have hvalid : validateSchedules [Sample.early, Sample.shift] none = .ok () := by decide +kernel
  refine ⟨_, hvalid, rfl, by decide +kernel, ?_⟩
  have hdate : queryDate Sample.monday.date = some 1772409600000 := by decide +kernel
  rw [ascending_iff Sample.monday.date_valid hdate]
  decide +kernel

end ServiceHub.Schedules
