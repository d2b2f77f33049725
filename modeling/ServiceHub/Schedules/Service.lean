/-
# `Schedules.Service` — the weekly schedule of a provider

`ProviderAvailabilityService.setAvailibity` and
`replaceAvailibityTransaction`, with the part of the database that they work on
as an instance of `Txn.Database`.

**DELETE.**  A row is a version of a window, and a deleted window is a version
that says so.  `deleteMany` is two instructions, since what it deletes is fixed
when the statement starts: `startDelete` reads the windows that are visible
then, and `deleteWindows` deletes those of them that are still there, after
waiting for the transactions that have deleted one of them and have not ended.
-/
import Mathlib
import ServiceHub.Booking.Service

namespace ServiceHub.Schedules

open Data Txn

/-! ## The database -/

/-- A window, or that it was deleted. -/
structure Version where
  window : Availability
  deleted : Bool

def Version.id (x : Version) : Uuid := x.window.id

structure Db where
  providers : Table ProviderProfile Uuid ProviderProfile.id
  providerServices : Table ProviderService Uuid ProviderService.id
  versions : Table Version Uuid Version.id

/-- The window is there, and of the provider. -/
def Version.shows (providerId : Uuid) (x : Version) : Bool :=
  !x.deleted && x.window.providerId == providerId

namespace Db

def get (db : Db) (id : Uuid) : Option Version := db.versions.find? id

def put (db : Db) (x : Version) : Db := { db with versions := db.versions.put x }

/-- The windows of a provider, in the order of their insertion. -/
def windows (db : Db) (providerId : Uuid) : List Availability :=
  (db.versions.rows.filter (Version.shows providerId)).map (·.window)

end Db

inductive Stmt where
  | findProviderServices (providerId : Uuid)
  | startDelete (providerId : Uuid)
  | deleteWindows (providerId : Uuid) (ids : List Uuid)
  | createWindows (rows : List Availability)

abbrev Ans : Stmt → Type
  | .findProviderServices _ => List ProviderService
  | .startDelete _ => List Uuid
  | .deleteWindows _ _ => List Version
  | .createWindows _ => List Version

/-- The versions that a DELETE of these windows finds. -/
def Db.toDelete (db : Db) (providerId : Uuid) (ids : List Uuid) : List Version :=
  db.versions.rows.filter fun x => x.shows providerId && decide (x.id ∈ ids)

def Db.exec : (s : Stmt) → Db → Except Exn (Ans s)
  | .findProviderServices providerId, db =>
      .ok (db.providerServices.rows.filter (·.providerId == providerId))
  | .startDelete providerId, db => .ok ((db.windows providerId).map (·.id))
  | .deleteWindows providerId ids, db =>
      .ok ((db.toDelete providerId ids).map fun x => { x with deleted := true })
  | .createWindows rows, db =>
      if ¬ (rows.map (·.id)).Nodup ∨ rows.any (fun r => (db.get r.id).isSome) then
        .error (.failure "id already taken")
      else if rows.any fun r => (db.providers.find? r.providerId).isNone then
        .error (.knownRequest "P2003" "Foreign key constraint violated")
      else .ok (rows.map fun r => ⟨r, false⟩)

def Stmt.written : (s : Stmt) → Ans s → List Version
  | .deleteWindows _ _, xs => xs
  | .createWindows _, xs => xs
  | _, _ => []

/-- The ids of the rows that a statement would write. -/
def Stmt.targets (db : Db) : Stmt → List Uuid
  | .deleteWindows providerId ids => (db.toDelete providerId ids).map Version.id
  | .createWindows rows => rows.map (·.id)
  | _ => []

instance : Txn.Database Db Version Uuid Stmt Exn Ans where
  key := Version.id
  get := Db.get
  put := Db.put
  exec := Db.exec
  written := Stmt.written
  waits s db others := (s.targets db).any fun id => others.any fun o => decide (o.id = id)

theorem written_targets {s : Stmt} {db : Db} {a : Ans s} (hexec : db.exec s = .ok a) {x : Version}
    (hx : x ∈ s.written a) : x.id ∈ s.targets db := by
  cases s with
  | deleteWindows providerId ids =>
      cases hexec
      obtain ⟨y, hy, rfl⟩ := List.mem_map.mp hx
      exact List.mem_map.mpr ⟨y, hy, rfl⟩
  | createWindows rows =>
      simp only [Db.exec] at hexec
      split at hexec
      · cases hexec
      split at hexec
      · cases hexec
      cases hexec
      obtain ⟨r, hr, rfl⟩ := List.mem_map.mp hx
      exact List.mem_map.mpr ⟨r, hr, rfl⟩
  | _ => exact absurd hx List.not_mem_nil

instance : Txn.Lawful Db where
  get_put db x id := Table.find?_put db.versions x id
  apart := by
    intro s db others a hwait hexec x hx o ho hk
    have hany := List.any_eq_false.mp hwait x.id (written_targets hexec hx)
    exact hany (List.any_eq_true.mpr ⟨o, ho, decide_eq_true hk⟩)
  alone := by
    intro s db
    simp [Database.waits]

abbrev Query (α : Type) : Type := Prog Stmt Ans Exn α

abbrev query (s : Stmt) : Query (Ans s) := Prog.perform s

/-- `redisService.incrementSearchVersion()`, which throws nothing. -/
inductive Ext where
  | incrementSearchVersion

abbrev Call (α : Type) : Type := Prog (Instr Stmt Ext) (Instr.Ans Ans) Exn α

/-! ## Validation -/

structure AvailabityIntervalDto where
  weekday : Nat
  startTime : String
  endTime : String
  isAvailable : Bool := true
  weekday_le : weekday ≤ 6
  startTime_valid : isHHmm startTime = true
  endTime_valid : isHHmm endTime = true
  deriving DecidableEq

structure SetAvailabilityDto where
  schedules : List AvailabityIntervalDto

/-- A text that the DTO admits never yields `NaN`. -/
def timeToMinutes (text : String) : Int := (clockMinutes text).getD 0

namespace AvailabityIntervalDto

def start (i : AvailabityIntervalDto) : Int := timeToMinutes i.startTime

def stop (i : AvailabityIntervalDto) : Int := timeToMinutes i.endTime

end AvailabityIntervalDto

def invalidRange (weekday : Nat) (current : AvailabityIntervalDto) : Exn :=
  .badRequest s!"Invalid time range [{current.startTime} -> {current.endTime}] on weekday {weekday}. Start time must be strictly before end time."

/-- A number of minutes is printed as one where it is whole, as those of offerings
are. -/
def tooShort (weekday : Nat) (current : AvailabityIntervalDto) (minRequiredMinutes : ℚ) : Exn :=
  .badRequest s!"Availability window [{current.startTime} -> {current.endTime}] ({current.stop - current.start} mins) on weekday {weekday} is too short to accommodate the minimum required service duration + buffer ({minRequiredMinutes} mins)"

def duplicate (weekday : Nat) (current : AvailabityIntervalDto) : Exn :=
  .badRequest s!"Duplicate availability interval [{current.startTime} -> {current.endTime}] on weekday {weekday}"

def overlapping (weekday : Nat) (current next : AvailabityIntervalDto) : Exn :=
  .badRequest s!"Overlapping time intervals on weekday {weekday}: [{current.startTime}-{current.endTime}] conflicts with [{next.startTime}-{next.endTime}]"

/-- The checks of an interval against its successor. -/
def checkNext (weekday : Nat) (current next : AvailabityIntervalDto) : Except Exn Unit :=
  if current.startTime = next.startTime ∧ current.endTime = next.endTime then
    .error (duplicate weekday current)
  else if current.stop > next.start then .error (overlapping weekday current next)
  else .ok ()

/-- The checks of an interval by itself. -/
def checkInterval (weekday : Nat) (minRequiredMinutes : Option ℚ)
    (current : AvailabityIntervalDto) : Except Exn Unit :=
  if current.start ≥ current.stop then .error (invalidRange weekday current)
  else match minRequiredMinutes with
    | some m =>
        if m ≠ 0 ∧ ((current.stop - current.start : Int) : ℚ) < m then .error (tooShort weekday current m)
        else .ok ()
    | none => .ok ()

/-- The loop over the intervals of a weekday. -/
def checkIntervals (weekday : Nat) (minRequiredMinutes : Option ℚ) :
    List AvailabityIntervalDto → Except Exn Unit
  | [] => .ok ()
  | [current] => checkInterval weekday minRequiredMinutes current
  | current :: next :: rest => do
      checkInterval weekday minRequiredMinutes current
      checkNext weekday current next
      checkIntervals weekday minRequiredMinutes (next :: rest)

/-- `intervals.sort((a, b) => start(a) - start(b))`, of those of a weekday. -/
def sortedOn (weekday : Nat) (schedule : List AvailabityIntervalDto) :
    List AvailabityIntervalDto :=
  (schedule.filter (·.weekday == weekday)).insertionSort fun a b => a.start ≤ b.start

/-- `Object.entries` lists the weekdays in ascending order. -/
def validateSchedules (schedule : List AvailabityIntervalDto) (minRequiredMinutes : Option ℚ) :
    Except Exn Unit :=
  [0, 1, 2, 3, 4, 5, 6].forM fun weekday =>
    checkIntervals weekday minRequiredMinutes (sortedOn weekday schedule)

/-! ## The service -/

/-- What the columns of a window are set to. -/
def newWindow (id providerId : Uuid) (i : AvailabityIntervalDto) : Availability where
  id := id
  providerId := providerId
  weekday := i.weekday
  startTime := i.startTime
  endTime := i.endTime
  isAvailable := i.isAvailable
  startTime_valid := i.startTime_valid
  endTime_valid := i.endTime_valid

/-- The rows of `createMany`; `uuid` are the ids that are generated for them. -/
def newWindows (uuid : Nat → Uuid) (providerId : Uuid) (schedules : List AvailabityIntervalDto) :
    List Availability :=
  schedules.mapIdx fun n i => newWindow (uuid n) providerId i

/-- The numbers of rows that were deleted and created. -/
structure Replaced where
  deleted : Nat
  created : Nat

def replaceAvailibityTransaction (uuid : Nat → Uuid) (providerId : Uuid)
    (schedules : List AvailabityIntervalDto) : Query Replaced := do
  let ids ← query (.startDelete providerId)
  let deleted ← query (.deleteWindows providerId ids)
  let created ← query (.createWindows (newWindows uuid providerId schedules))
  pure ⟨List.length deleted, List.length created⟩

/-- The least time that an active offering of the provider takes. -/
def minReqMinutes (providerServices : List ProviderService) : Option Nat :=
  ((providerServices.filter (·.isActive)).map fun s => s.durationMinutes + s.bufferMinutes).min?

structure Op where
  uuid : Nat → Uuid
  providerId : Uuid
  dto : SetAvailabilityDto

def setAvailibity (o : Op) : Call Replaced := do
  let providerServices ← autocommit Ext (query (.findProviderServices o.providerId))
  match validateSchedules o.dto.schedules ((minReqMinutes providerServices).map fun m => (m : ℚ)) with
  | .error e => .throw e
  | .ok _ => do
      let result ← transaction Ext
        (replaceAvailibityTransaction o.uuid o.providerId o.dto.schedules)
      Prog.perform (Instr.call .incrementSearchVersion)
      pure result

end ServiceHub.Schedules
