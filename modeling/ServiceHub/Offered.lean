/-
# `Offered` — bookings are of what was offered

`createBooking` reads the offering, its provider and the shifts, checks them, and
copies what it has read into the booking it inserts much later, after the gateway
has answered.  No operation on bookings and payments writes any of what was read,
and none writes the copies again.  So every booking of a run is, in every later
state, what its customer asked for at the price and the length that were offered,
of a provider who was verified and active, at a time within the hours
(`booked_as_offered`).
-/
import ServiceHub.Prices

namespace ServiceHub

open Data Txn Prog

/-- What `createBooking` checks of what it has read. -/
structure Vetted (host : Host) (ctx : Ctx) (dto : CreateBookingDto) (offering : ProviderServiceFull)
    (schedules : List Availability) (provider : ProviderWithUser) (service : Service)
    (startsAtDate : Time) : Prop where
  isActive : offering.isActive
  hasProvider : offering.provider = some provider
  verified : provider.verificationStatus = .verified
  account : provider.user.map (·.status) = some .active
  hasService : offering.service = some service
  startsAt : host.date dto.startsAt = some startsAtDate
  notPast : ctx.clock 0 ≤ startsAtDate
  notFar : startsAtDate ≤ host.addDays (ctx.clock 1) 30
  hours : checkWorkingHours schedules startsAtDate offering.durationMinutes
    offering.bufferMinutes = none

/-- The row is the booking of what was read. -/
def Copies (host : Host) (ctx : Ctx) (customerId : Uuid) (dto : CreateBookingDto)
    (offering : ProviderServiceFull) (schedules : List Availability) (row : Booking) : Prop :=
  ∃ provider service startsAtDate,
    Vetted host ctx dto offering schedules provider service startsAtDate ∧
    row = newBooking ctx customerId dto offering.toProviderService provider.toProviderProfile service
      startsAtDate

/-- A booking is inserted only of what was read. -/
def Offers (host : Host) (op : Op) (h : CallHist) : Instr Stmt Ext → Prop
  | .stmt (.createBooking row) => ∀ customerId dto, op.request = .createBooking customerId dto →
      ∃ offering schedules, Found h (.findProviderService dto.providerServiceId) (some offering) ∧
        Found h (.findAvailability offering.providerId) schedules ∧
        Copies host op.ctx customerId dto offering schedules row
  | _ => True

section
variable {host : Host} {op : Op} {ctx : Ctx}

theorem createBooking_offers {customerId : Uuid} {dto : CreateBookingDto} :
    Obeys (Offers host ⟨ctx, .createBooking customerId dto⟩) (fun _ _ => True) []
      (createBooking host ctx customerId dto) := by
  unfold createBooking createBookingTx
  simp only [obeys_bind, ProviderServiceRepository.obeys_findById, obeys_orThrow, obeys_throwIf,
    ProviderAvailabilityRepository.obeys_findByProviderId]
  simp only [Offers, implies_true, and_true, true_and]
  intro found offering hoffering provider hprovider haccount startsAtDate hstarts hpast hfar schedules
  split
  · trivial
  · rename_i hhours
    obtain ⟨rfl, hactive⟩ := Option.filter_eq_some_iff.mp hoffering
    obtain ⟨hprovider, hverified⟩ := Option.filter_eq_some_iff.mp hprovider
    simp only [obeys_bind, obeys_external, obeys_catching, obeys_orThrow, obeys_transaction,
      autocommit_bind, BookingRepository.obeys_create, PaymentRepository.obeys_create,
      AuditLogRepository.obeys_create, autocommit_pure, obeys_pure, enqueue]
    have hfails : ∀ (h : CallHist) (e : Exn), Obeys (Offers host ⟨ctx, .createBooking customerId dto⟩)
        (fun _ _ => True) h (onBookingError e : Call CreatedBooking) := by
      intro h e
      unfold onBookingError
      split <;> trivial
    simp only [Offers, implies_true, and_true, true_and, hfails]
    intro order _ service hservice customerId' dto' hrequest
    cases hrequest
    have hread := (found_now (h := []) (s := .findProviderService dto.providerServiceId)
      (a := some offering) rfl).later ⟨.stmt (.findAvailability offering.providerId), .ok schedules⟩
    have hshifts := found_now (h := [⟨.stmt (.findProviderService dto.providerServiceId),
      .ok (some offering)⟩]) (s := .findAvailability offering.providerId) (a := schedules) rfl
    refine ⟨offering, schedules, (hread.later _).later _, (hshifts.later _).later _, provider, service,
      startsAtDate, ?_, rfl⟩
    exact {
      isActive := hactive
      hasProvider := hprovider
      verified := of_decide_eq_true hverified
      account := not_not.mp haccount
      hasService := hservice
      startsAt := hstarts
      notPast := not_lt.mp hpast
      notFar := not_lt.mp hfar
      hours := hhours }

theorem offers_of_ne (hne : ∀ customerId dto, op.request ≠ .createBooking customerId dto)
    (h : CallHist) (i : Instr Stmt Ext) : Offers host op h i := by
  cases i with
  | stmt s =>
      cases s with
      | createBooking row => exact fun customerId dto hrequest => absurd hrequest (hne customerId dto)
      | _ => trivial
  | _ => trivial

theorem program_offers : Obeys (Offers host op) (fun _ _ => True) [] (program host op) := by
  obtain ⟨ctx, request⟩ := op
  cases request with
  | createBooking customerId dto => exact createBooking_offers.map
  | _ =>
      refine Obeys.of_forall (offers_of_ne ?_) (fun _ _ => trivial) _ _
      intro customerId dto hrequest
      cases hrequest

end

/-! ## What was read is so still -/

section
variable {host : Host} {db : Db} {Ok : System → Event Op Exn → Prop} {c : System} {P : Caller}
  {id : Uuid}

/-- No call changes an offering, its provider or its service. -/
theorem Found.offering (hrun : Run (program host) Ok ⟨db, []⟩ c) (hP : P ∈ c.procs)
    {found : Option ProviderServiceFull} (hfound : Found P.hist (.findProviderService id) found) :
    c.db.providerServiceFull id = found := by
  obtain ⟨h, hsuffix, hout⟩ := hfound
  obtain ⟨c₁, hrun₁, hrun₂, hexec⟩ := hrun.seen rfl hP hsuffix hout
  have hsame := hrun₁.untouched (f := fun db => db.providerServiceFull id)
    (fun db r => by cases r <;> rfl) rfl hrun₂
  exact hsame.trans (Except.ok.inj hexec)

/-- No call changes a shift. -/
theorem Found.shifts (hrun : Run (program host) Ok ⟨db, []⟩ c) (hP : P ∈ c.procs)
    {schedules : List Availability} (hfound : Found P.hist (.findAvailability id) schedules) :
    c.db.schedule id = schedules := by
  obtain ⟨h, hsuffix, hout⟩ := hfound
  obtain ⟨c₁, hrun₁, hrun₂, hexec⟩ := hrun.seen rfl hP hsuffix hout
  have hsame := hrun₁.untouched (f := fun db => db.schedule id) (fun db r => by cases r <;> rfl) rfl
    hrun₂
  exact hsame.trans (Except.ok.inj hexec)

end

/-- **A booking is of what was offered**: every booking of the run was inserted by
a call of its customer, which was admitted, and is the copy of the offering that
the call has made, but for its status. -/
theorem booked_as_offered (host : Host) (db : Db) (c : System) (id : Uuid) (b : Booking)
    (hrun : Run (program host) (fun _ _ => True) ⟨db, []⟩ c) (hnew : db.bookings.find? id = none)
    (hb : c.db.bookings.find? id = some b) :
    ∃ P ∈ c.procs, ∃ dto offering row, P.op.request = .createBooking b.customerId dto ∧
      c.db.providerServiceFull dto.providerServiceId = some offering ∧
      Copies host P.op.ctx b.customerId dto offering (c.db.schedule offering.providerId) row ∧
      b = row.revised b := by
  obtain ⟨P, hP, ⟨s, a⟩, hx, hbooks⟩ := booked_of_run hrun hb hnew
  cases s with
  | createBooking row =>
      have hmem := mem_of_kept hx
      obtain ⟨db', hexec⟩ := hrun.executed rfl hP hmem
      have ha : a = row := (Db.insert_ok (show db'.insert (.booking row) row = .ok a from hexec)).1
      obtain ⟨h, hsuffix, hoffers, hasks⟩ := (hrun.obeyed (R := fun _ _ _ => True) (fun _ o _ =>
        (program_offers.and program_asks).mono (fun _ _ hq => hq) fun _ _ _ => trivial) rfl P
          hP).of_mem hmem
      obtain ⟨customerId, dto, _, _, _, _, _, hrequest, _, _, hrow⟩ := hasks
      obtain ⟨offering, schedules, hread, hshifts, hcopies⟩ := hoffers customerId dto hrequest
      have hbefore := (List.suffix_cons _ _).trans hsuffix
      rw [← (hshifts.mono hbefore).shifts hrun hP] at hcopies
      obtain ⟨b', hb', hrevised⟩ := booking_of_committed hrun hP
        (mem_rowsOf.mpr ⟨_, hx, List.mem_singleton_self _⟩)
      obtain rfl := Option.some.inj (hb.symm.trans ((show a.id = id from hbooks) ▸ hb'))
      rw [ha] at hrevised
      have hcustomer : b.customerId = customerId := by
        rw [hrevised, hrow]
        rfl
      rw [hcustomer]
      exact ⟨P, hP, dto, offering, row, hrequest, (hread.mono hbefore).offering hrun hP, hcopies,
        hrevised⟩
  | _ => exact hbooks.elim

/-! ## A run -/

namespace Sample

/-- The booking is made, and expires. -/
def bookedOnce : List (Event Op Exn) := .spawn book :: steps 0 9 ++ .spawn (expire 1) :: steps 1 6

end Sample

/-- The booking is of the offering still when it has expired. -/
theorem booked_as_offered_sample : ∃ (c : System) (b : Booking),
    runChecked (program Sample.host) (fun _ _ => True) ⟨Sample.db, []⟩ Sample.bookedOnce = some c ∧
    c.db.bookings.find? Sample.bookingId = some b ∧ b.bookingStatus = .expired ∧
    ∃ P ∈ c.procs, ∃ dto offering row, P.op.request = .createBooking b.customerId dto ∧
      c.db.providerServiceFull dto.providerServiceId = some offering ∧
      Copies Sample.host P.op.ctx b.customerId dto offering (c.db.schedule offering.providerId) row ∧
      b = row.revised b := by
  have hends : ∀ c ∈ runChecked (program Sample.host) (fun _ _ => True) ⟨Sample.db, []⟩
      Sample.bookedOnce, ((c.db.bookings.find? Sample.bookingId).any
        (·.bookingStatus == .expired)) = true := by decide +kernel
  obtain ⟨c, hc⟩ := Option.isSome_iff_exists.mp
    (show (runChecked (program Sample.host) (fun _ _ => True) ⟨Sample.db, []⟩
      Sample.bookedOnce).isSome by decide +kernel)
  obtain ⟨b, hb, hexpired⟩ := (Option.any_eq_true _ _).mp (hends c hc)
  exact ⟨c, b, hc, hb, eq_of_beq hexpired, booked_as_offered Sample.host Sample.db c _ b (Run.of_runChecked _ _ hc)
    (Option.isNone_iff_eq_none.mp (by decide +kernel)) hb⟩

end ServiceHub
