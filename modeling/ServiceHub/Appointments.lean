/-
# `Appointments` — the instants that a booking is read back as

`createBooking` stores a UTC date and two times of day, and three functions put
instants together from them.

    a date and a time of day are an instant           (`atTimeOfDay_eq`)
    of an instant on a whole second they are that
    instant, and the end of its service               (`RequestedAt.whole`)
    a cancellation goes on before the deadline        (`goesOn_iff`)

so that whatever was asked for on a whole second is what a cancellation and the
queues reckon with, in every committed state of any run (`appointment_times`).
-/
import ServiceHub.Booking.Spec
import ServiceHub.Overlap
import ServiceHub.Jobs.Service

namespace ServiceHub

open Data Txn Prog Jobs

theorem atTimeOfDay_eq {date timeOfDay : Int} (h₀ : 0 ≤ timeOfDay) (h : timeOfDay < 86400) :
    atTimeOfDay date timeOfDay = (date * 86400 + timeOfDay) * 1000 := by
  simp only [atTimeOfDay, Time.setUTCHours, Time.getUTCHours, Time.getUTCMinutes,
    Time.getUTCSeconds, Time.utcDay, Time.msOfDay, Time.msPerDay]
  show (_ : Int) = _
  omega

/-! ## What is stored -/

/-- The instant is a whole second. -/
def OnSecond (t : Time) : Prop := t.getUTCMilliseconds = 0

theorem onSecond_iff {t : Int} : OnSecond t ↔ t % 1000 = 0 := by
  unfold OnSecond Time.getUTCMilliseconds Time.msOfDay Time.msPerDay
  show (_ : Int) = _ ↔ _
  omega

/-- A time of day on a whole second is not rounded up to midnight. -/
theorem timeColumn_bounds {t : Time} (h : OnSecond t) : 0 ≤ timeColumn t ∧ timeColumn t < 86400 := by
  have hmod := onSecond_iff.mp h
  unfold timeColumn Time.msOfDay Time.msPerDay
  omega

theorem onSecond_add {t : Time} (h : OnSecond t) (minutes : Nat) :
    OnSecond (t + (minutes * 60 * 1000 : Nat)) := by
  have hmod := onSecond_iff.mp h
  rw [durationMs_eq]
  refine onSecond_iff.mpr ?_
  show (_ : Int) = _
  omega

section
variable {host : Host} {c : System} {b : Booking} {t : Time}

/-- **What a booking says is what was asked for**: its start, and the end of the
service. -/
theorem RequestedAt.whole (h : RequestedAt host c b t) (ht : OnSecond t) :
    atTimeOfDay b.bookingDate b.startTime = t ∧
      atTimeOfDay b.bookingDate b.endTime = t + (b.bookedDuration * Time.msPerMinute : Int) := by
  obtain ⟨hlower, hupper, _⟩ := h.times
  obtain ⟨P, _, customerId, dto, b', hrequest, hdate, hadmitted, hrevises⟩ := h
  obtain ⟨_, _, providerService, provider, service, _, _, hrequest', hdate', _, rfl⟩ := hadmitted
  cases hrequest.symm.trans hrequest'
  obtain rfl := Option.some.inj (hdate.symm.trans hdate')
  have hcolumns : b = (newBooking P.op.ctx customerId dto providerService provider service t).revised b :=
    hrevises
  have hstart : b.startTime = timeColumn t := by
    rw [hcolumns]
    rfl
  have hend : b.endTime = timeColumn (t + (providerService.durationMinutes * 60 * 1000 : Nat)) := by
    rw [hcolumns]
    rfl
  have hsecond : toSecond t * 1000 = t := by
    have hmod := onSecond_iff.mp ht
    unfold toSecond
    show (_ : Int) = _
    omega
  obtain ⟨hstart₀, hstart₁⟩ := timeColumn_bounds ht
  obtain ⟨hend₀, hend₁⟩ := timeColumn_bounds (onSecond_add ht providerService.durationMinutes)
  rw [atTimeOfDay_eq (hstart ▸ hstart₀) (hstart ▸ hstart₁),
    atTimeOfDay_eq (hend ▸ hend₀) (hend ▸ hend₁)]
  refine ⟨?_, ?_⟩
  · rw [← Booking.lower, hlower]
    exact hsecond
  · rw [← Booking.upper, hupper, Int.add_mul, hsecond]
    unfold Time.msPerMinute
    show (_ : Int) = _
    omega

end

/-! ## Cancelling -/

/-- Answered with the booking, a cancellation goes on to its transaction. -/
def GoesOn (ctx : Ctx) (customerId : Uuid) (dto : CancelBookingDto) (b : Booking) : Prop :=
  ∃ k, cancelBookingAsCustomer ctx b.id customerId dto = .ask (.stmt (.findBooking b.id)) k ∧
    (k (.ok (some b))).head = some .begin

theorem cancelFound_head (ctx : Ctx) (bookingId customerId : Uuid) (dto : CancelBookingDto)
    {b : Booking} (hstatus : canTransitionBooking b.bookingStatus .cancelled = true) :
    (cancelFound ctx bookingId customerId dto (some b)).head = some .begin ↔
      ctx.clock 0 < b.appointmentStart - 2 * 60 * 60 * 1000 := by
  have hcan : throwIf (canTransitionBooking b.bookingStatus .cancelled = false)
      (.badRequest s!"Cannot cancel booking in \"{b.bookingStatus}\" status") =
        (pure () : Call Unit) := if_neg (by simp [hstatus])
  unfold cancelFound
  show (throwIf _ _ >>= fun _ => throwIf _ _ >>= fun _ => transaction Ext _ >>= _ : Call Booking).head =
    _ ↔ _
  rw [hcan]
  by_cases hlate : ctx.clock 0 ≥ b.appointmentStart - 2 * 60 * 60 * 1000
  · rw [throwIf, if_pos hlate]
    exact iff_of_false (fun h => by cases h) (not_lt.mpr hlate)
  · rw [throwIf, if_neg hlate]
    exact iff_of_true rfl (lt_of_not_ge hlate)

theorem goesOn_iff {ctx : Ctx} {dto : CancelBookingDto} {b : Booking}
    (hstatus : canTransitionBooking b.bookingStatus .cancelled = true) :
    GoesOn ctx b.customerId dto b ↔ ctx.clock 0 < b.appointmentStart - 2 * 60 * 60 * 1000 := by
  have hfound : (some b).filter (fun x => decide (x.customerId = b.customerId)) = some b := by
    rw [Option.filter_some, if_pos (decide_eq_true rfl)]
  refine Iff.trans ⟨?_, fun h => ⟨_, rfl, ?_⟩⟩ (cancelFound_head ctx b.id b.customerId
    dto hstatus)
  · rintro ⟨k, hk, hhead⟩
    rw [cancelBookingAsCustomer_eq] at hk
    cases hk
    rw [← hfound]
    exact hhead
  · rw [← hfound] at h
    exact h

/-! ## Reading back -/

theorem not_terminal_of_live {s : BookingStatus} (h : s = .pendingPayment ∨ s = .confirmed) :
    canTransitionBooking s .cancelled = true := by
  rcases h with rfl | rfl <;> decide

/-- **Times of appointments**: every committed booking was asked for, and where that
was on a whole second, a cancellation, the notifications and the overdue check
reckon with the instant that was asked for and the end of its service.  So a
cancellation of a live booking goes on exactly if it is earlier than two hours
before. -/
theorem appointment_times (host : Host) (db : Db) (c : System) (hbookings : db.bookings.rows = [])
    (hrun : Run (program host) (fun _ _ => True) ⟨db, []⟩ c) :
    (∀ b ∈ c.db.bookings.rows, ∃ t, RequestedAt host c b t) ∧
    ∀ b ∈ c.db.bookings.rows, ∀ t, RequestedAt host c b t → OnSecond t →
      b.appointmentStart = t ∧ NotificationQueueService.appointmentStart b = t ∧
      NotificationQueueService.appointmentEnd b =
        t + (b.bookedDuration * Time.msPerMinute : Int) ∧
      BookingQueueService.appointmentEnd b = t + (b.bookedDuration * Time.msPerMinute : Int) ∧
      ∀ ctx dto, b.bookingStatus = .pendingPayment ∨ b.bookingStatus = .confirmed →
        (GoesOn ctx b.customerId dto b ↔ ctx.clock 0 < t - 2 * 60 * 60 * 1000) := by
  refine ⟨fun b hb => requestedAt_of_run hbookings hrun hb, fun b _ t hrequested ht => ?_⟩
  obtain ⟨hstart, hend⟩ := hrequested.whole ht
  have happointment : b.appointmentStart = t := hstart
  refine ⟨happointment, hstart, hend, hend, fun ctx dto hlive => ?_⟩
  rw [goesOn_iff (not_terminal_of_live hlive), happointment]

/-- The bookings at eleven and at ten. -/
theorem appointment_times_sample : ∃ c : System,
    runChecked (program Sample.host) (fun _ _ => True) ⟨Sample.db, []⟩ Sample.bookings = some c ∧
    c.db.bookings.rows.map Booking.appointmentStart = [1772449200000, 1772445600000] ∧
    (∀ b ∈ c.db.bookings.rows, ∃ t, RequestedAt Sample.host c b t) ∧
    ∀ b ∈ c.db.bookings.rows, ∀ t, RequestedAt Sample.host c b t → OnSecond t →
      b.appointmentStart = t ∧ NotificationQueueService.appointmentStart b = t ∧
      NotificationQueueService.appointmentEnd b =
        t + (b.bookedDuration * Time.msPerMinute : Int) ∧
      BookingQueueService.appointmentEnd b = t + (b.bookedDuration * Time.msPerMinute : Int) ∧
      ∀ ctx dto, b.bookingStatus = .pendingPayment ∨ b.bookingStatus = .confirmed →
        (GoesOn ctx b.customerId dto b ↔ ctx.clock 0 < t - 2 * 60 * 60 * 1000) := by
  obtain ⟨c, hc⟩ := Option.isSome_iff_exists.mp
    (show (runChecked (program Sample.host) (fun _ _ => True) ⟨Sample.db, []⟩ Sample.bookings).isSome by
      decide +kernel)
  have htwo : ∀ c ∈ runChecked (program Sample.host) (fun _ _ => True) ⟨Sample.db, []⟩ Sample.bookings,
      c.db.bookings.rows.map Booking.appointmentStart = [1772449200000, 1772445600000] := by
    decide +kernel
  exact ⟨c, hc, htwo c hc, appointment_times Sample.host Sample.db c rfl (Run.of_runChecked _ _ hc)⟩

end ServiceHub
