/-
# `Schedules.Validation` — what validation accepts

`validateSchedules` sorts the intervals of a weekday and compares each with its
successor alone.  That decides whether any two of them overlap:

    an interval passes its own checks      iff it is long enough       (`checkInterval_eq_ok`)
    the loop accepts a list                iff the intervals of it
                                           follow each other           (`checkIntervals_eq_ok`)
    a list that is sorted by the starts
    follows each other                     iff no two overlap          (`follow_iff_disjoint`)

and so a schedule is accepted exactly if no two intervals of a weekday overlap
(`validateSchedules_eq_ok`).
-/
import ServiceHub.Schedules.Service

namespace ServiceHub.Schedules

open Data

/-- Two windows do not overlap. -/
def Separate (a b : AvailabityIntervalDto) : Prop :=
  a.weekday ≠ b.weekday ∨ a.stop ≤ b.start ∨ b.stop ≤ a.start

instance (a b : AvailabityIntervalDto) : Decidable (Separate a b) :=
  inferInstanceAs (Decidable (_ ∨ _))

namespace AvailabityIntervalDto

/-- The minutes of an interval; the one at which it ends is not part of it. -/
def minutes (i : AvailabityIntervalDto) : Set Int := Set.Ico i.start i.stop

/-- The interval starts before it ends, and has the required length. -/
def Fits (minRequiredMinutes : Option ℚ) (i : AvailabityIntervalDto) : Prop :=
  i.start < i.stop ∧ ∀ m ∈ minRequiredMinutes, m ≤ ((i.stop - i.start : Int) : ℚ)

end AvailabityIntervalDto

section
variable {weekday : Nat} {minRequiredMinutes : Option ℚ}

theorem bind_eq_ok {x : Except Exn Unit} {f : Unit → Except Exn Unit} :
    (do let a ← x; f a) = .ok () ↔ x = .ok () ∧ f () = .ok () := by
  cases x with
  | error e => exact ⟨nofun, fun h => nomatch h.1⟩
  | ok a => exact ⟨fun h => ⟨rfl, h⟩, fun h => h.2⟩

theorem forM_eq_ok {f : Nat → Except Exn Unit} : ∀ {ns : List Nat},
    ns.forM f = .ok () ↔ ∀ n ∈ ns, f n = .ok ()
  | [] => iff_of_true rfl (by simp)
  | n :: ns => by
      rw [List.forall_mem_cons]
      exact bind_eq_ok.trans (and_congr Iff.rfl forM_eq_ok)

theorem checkInterval_eq_ok {current : AvailabityIntervalDto} :
    checkInterval weekday minRequiredMinutes current = .ok () ↔
      current.Fits minRequiredMinutes := by
  unfold checkInterval
  constructor
  · intro h
    split at h
    · cases h
    rename_i hstart
    have hlt : current.start < current.stop := lt_of_not_ge hstart
    refine ⟨hlt, ?_⟩
    rintro m rfl
    simp only at h
    split at h
    · cases h
    rename_i hlong
    -- zero is no requirement, and is met
    by_cases hm : m = 0
    · rw [hm]
      exact_mod_cast (sub_pos.mpr hlt).le
    · exact le_of_not_gt fun hshort => hlong ⟨hm, hshort⟩
  · rintro ⟨hlt, hlong⟩
    rw [if_neg (not_le.mpr hlt)]
    cases minRequiredMinutes with
    | none => rfl
    | some m => exact if_neg fun h => absurd (hlong m rfl) (not_le.mpr h.2)

theorem checkNext_eq_ok {current next : AvailabityIntervalDto} (hlt : current.start < current.stop) :
    checkNext weekday current next = .ok () ↔ current.stop ≤ next.start := by
  unfold checkNext
  constructor
  · intro h
    split at h
    · cases h
    split at h
    · cases h
    · rename_i hle
      exact le_of_not_gt hle
  · intro hle
    have hdiffers : ¬ (current.startTime = next.startTime ∧ current.endTime = next.endTime) := by
      rintro ⟨hstart, _⟩
      have hsame : current.start = next.start := congrArg timeToMinutes hstart
      omega
    rw [if_neg hdiffers, if_neg (not_lt.mpr hle)]

/-- The intervals of a weekday follow each other. -/
theorem checkIntervals_eq_ok : ∀ {is : List AvailabityIntervalDto},
    checkIntervals weekday minRequiredMinutes is = .ok () ↔
      (∀ i ∈ is, i.Fits minRequiredMinutes) ∧ is.Pairwise fun a b => a.stop ≤ b.start
  | [] => iff_of_true rfl ⟨by simp, .nil⟩
  | [current] => by
      refine checkInterval_eq_ok.trans ⟨fun h => ⟨?_, List.pairwise_singleton _ _⟩, fun h => ?_⟩
      · intro i hi
        rw [List.mem_singleton.mp hi]
        exact h
      · exact h.1 current List.mem_cons_self
  | current :: next :: rest => by
      refine bind_eq_ok.trans ?_
      rw [checkInterval_eq_ok, List.forall_mem_cons, List.pairwise_cons, and_assoc]
      refine and_congr_right fun hcurrent => ?_
      refine bind_eq_ok.trans ?_
      rw [checkNext_eq_ok hcurrent.1, checkIntervals_eq_ok]
      constructor
      · rintro ⟨hle, hfit, hrest⟩
        refine ⟨hfit, ?_, hrest⟩
        intro i hi
        rcases List.mem_cons.mp hi with rfl | hi
        · exact hle
        · -- what follows starts after `next` ends, which is after it starts
          have hafter := (List.pairwise_cons.mp hrest).1 i hi
          have hpos := (hfit next List.mem_cons_self).1
          omega
      · rintro ⟨hfit, hle, hrest⟩
        exact ⟨hle next List.mem_cons_self, hfit, hrest⟩

/-- Of intervals that are sorted by their starts, the neighbours say it all. -/
theorem follow_iff_disjoint {is : List AvailabityIntervalDto} (hlt : ∀ i ∈ is, i.start < i.stop)
    (hsorted : is.Pairwise fun a b => a.start ≤ b.start) :
    (is.Pairwise fun a b => a.stop ≤ b.start) ↔ is.Pairwise fun a b => Disjoint a.minutes b.minutes := by
  constructor
  · intro hfollow
    refine hfollow.imp fun {a b} hle => ?_
    exact Set.Ico_disjoint_Ico.mpr ((min_le_left _ _).trans (hle.trans (le_max_right _ _)))
  · intro hdisjoint
    refine List.Pairwise.imp_of_mem ?_ (hsorted.and hdisjoint)
    intro a b _ hb ⟨hstart, hab⟩
    have hle := Set.Ico_disjoint_Ico.mp hab
    have hb := hlt b hb
    omega

theorem sortedOn_perm (weekday : Nat) (schedule : List AvailabityIntervalDto) :
    (sortedOn weekday schedule).Perm (schedule.filter (·.weekday == weekday)) :=
  List.perm_insertionSort _ _

theorem sortedOn_sorted (weekday : Nat) (schedule : List AvailabityIntervalDto) :
    (sortedOn weekday schedule).Pairwise fun a b => a.start ≤ b.start :=
  List.pairwise_insertionSort (fun a b : AvailabityIntervalDto => a.start ≤ b.start) _

/-- The intervals of a weekday are accepted if they fit and no two overlap. -/
theorem checkSorted_eq_ok {schedule : List AvailabityIntervalDto} :
    checkIntervals weekday minRequiredMinutes (sortedOn weekday schedule) = .ok () ↔
      (∀ i ∈ schedule.filter (·.weekday == weekday), i.Fits minRequiredMinutes) ∧
        (schedule.filter (·.weekday == weekday)).Pairwise fun a b => Disjoint a.minutes b.minutes := by
  have hperm := sortedOn_perm weekday schedule
  rw [checkIntervals_eq_ok]
  have hmem : (∀ i ∈ sortedOn weekday schedule, i.Fits minRequiredMinutes) ↔
      ∀ i ∈ schedule.filter (·.weekday == weekday), i.Fits minRequiredMinutes :=
    forall_congr' fun i => imp_congr_left hperm.mem_iff
  rw [hmem]
  refine and_congr_right fun hfit => ?_
  rw [follow_iff_disjoint (fun i hi => (hfit i (hperm.mem_iff.mp hi)).1)
    (sortedOn_sorted weekday schedule)]
  exact hperm.pairwise_iff fun h => h.symm

end

/-- **What validation accepts**: on each weekday every interval starts before it
ends and is as long as required, and no two entries have a minute in common. -/
theorem validateSchedules_eq_ok (schedule : List AvailabityIntervalDto)
    (minRequiredMinutes : Option ℚ) : validateSchedules schedule minRequiredMinutes = .ok () ↔
      ∀ weekday, (∀ i ∈ schedule.filter (·.weekday == weekday), i.Fits minRequiredMinutes) ∧
        (schedule.filter (·.weekday == weekday)).Pairwise fun a b =>
          Disjoint a.minutes b.minutes := by
  rw [validateSchedules, forM_eq_ok]
  constructor
  · intro h weekday
    by_cases hday : weekday ≤ 6
    · refine checkSorted_eq_ok.mp (h weekday ?_)
      simp only [List.mem_cons, List.not_mem_nil, or_false]
      omega
    · -- there is no such day
      have hnone : schedule.filter (·.weekday == weekday) = [] := by
        refine List.filter_eq_nil_iff.mpr fun i _ hi => hday ?_
        rw [← eq_of_beq hi]
        exact i.weekday_le
      rw [hnone]
      exact ⟨by simp, .nil⟩
  · exact fun h weekday _ => checkSorted_eq_ok.mpr (h weekday)

/-- A validated schedule has no two windows that overlap. -/
theorem separate_of_validateSchedules {schedule : List AvailabityIntervalDto}
    {minRequiredMinutes : Option ℚ} (h : validateSchedules schedule minRequiredMinutes = .ok ()) :
    schedule.Pairwise Separate := by
  refine List.pairwise_iff_forall_sublist.mpr fun {a b} hsub => ?_
  by_cases hday : a.weekday = b.weekday
  · obtain ⟨hfit, hdisjoint⟩ := (validateSchedules_eq_ok _ _).mp h a.weekday
    have hfilter : [a, b].Sublist (schedule.filter (·.weekday == a.weekday)) := by
      simpa [hday] using hsub.filter (·.weekday == a.weekday)
    have hmin := Set.Ico_disjoint_Ico.mp (List.pairwise_iff_forall_sublist.mp hdisjoint hfilter)
    have ha := (hfit a (hfilter.mem List.mem_cons_self)).1
    have hb := (hfit b (hfilter.mem (List.mem_cons_of_mem _ List.mem_cons_self))).1
    right
    omega
  · exact Or.inl hday

/-! ## The windows of a validated schedule -/

/-- What the columns of a window say. -/
def interval (w : Availability) : Nat × String × String × Bool :=
  (w.weekday, w.startTime, w.endTime, w.isAvailable)

/-- What an interval of a request says. -/
def AvailabityIntervalDto.interval (i : AvailabityIntervalDto) : Nat × String × String × Bool :=
  (i.weekday, i.startTime, i.endTime, i.isAvailable)

/-- The windows do not overlap. -/
def WindowsSeparate (a b : Availability) : Prop :=
  a.weekday ≠ b.weekday ∨ timeToMinutes a.endTime ≤ timeToMinutes b.startTime ∨
    timeToMinutes b.endTime ≤ timeToMinutes a.startTime

instance (a b : Availability) : Decidable (WindowsSeparate a b) :=
  inferInstanceAs (Decidable (_ ∨ _))

section
variable {db : Db} {providerId : Uuid} {schedule : List AvailabityIntervalDto}
  {minRequiredMinutes : Option ℚ}

/-- Every window of a validated schedule starts before it ends. -/
theorem lt_of_stored (hvalid : validateSchedules schedule minRequiredMinutes = .ok ())
    (hstored : (db.windows providerId).map Schedules.interval =
      schedule.map AvailabityIntervalDto.interval) {w : Availability} (hw : w ∈ db.windows providerId) :
    timeToMinutes w.startTime < timeToMinutes w.endTime := by
  have hmem : Schedules.interval w ∈ schedule.map AvailabityIntervalDto.interval :=
    hstored ▸ List.mem_map_of_mem hw
  obtain ⟨i, hi, hsame⟩ := List.mem_map.mp hmem
  have hfit := ((validateSchedules_eq_ok _ _).mp hvalid i.weekday).1 i
    (List.mem_filter.mpr ⟨hi, beq_self_eq_true _⟩)
  have hstart : i.startTime = w.startTime := congrArg (·.2.1) hsame
  have hstop : i.endTime = w.endTime := congrArg (·.2.2.1) hsame
  rw [← hstart, ← hstop]
  exact hfit.1

/-- No two windows of a validated schedule overlap. -/
theorem separate_of_stored (hvalid : validateSchedules schedule minRequiredMinutes = .ok ())
    (hstored : (db.windows providerId).map Schedules.interval =
      schedule.map AvailabityIntervalDto.interval) :
    (db.windows providerId).Pairwise WindowsSeparate := by
  have hschedule := separate_of_validateSchedules hvalid
  have hpairs : (schedule.map AvailabityIntervalDto.interval).Pairwise fun x y =>
      x.1 ≠ y.1 ∨ timeToMinutes x.2.2.1 ≤ timeToMinutes y.2.1 ∨
        timeToMinutes y.2.2.1 ≤ timeToMinutes x.2.1 := List.pairwise_map.mpr hschedule
  rw [← hstored] at hpairs
  exact (List.pairwise_map.mp hpairs).imp fun h => h

end

end ServiceHub.Schedules
