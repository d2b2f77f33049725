/-
# `Data.Calendar` — instants, UTC fields and ISO-8601 texts

An instant is a number of milliseconds since 1970-01-01T00:00:00Z, as a
JavaScript `Date` holds it; its UTC fields are quotients and remainders.  Days
are counted from the epoch, the proleptic Gregorian calendar is
`daysFromCivil` and its inverse `civilFromDays`.

`parseIso` reads the date-time format of ECMAScript,
`YYYY-MM-DDTHH:mm:ss[.sss](Z|±HH:mm)`.  As engines do, it takes any day of the
month up to 31 and lets it run into the next month; every other text is left to
the host, and is `none` here.
-/
import Mathlib.Data.Int.Basic

namespace Data

/-- Milliseconds since the epoch. -/
abbrev Time : Type := Int

namespace Time

def msPerMinute : Int := 60000
def msPerDay : Int := 86400000

/-- The days from the epoch to the day of `t`. -/
def utcDay (t : Time) : Int := t / msPerDay

def msOfDay (t : Time) : Int := t % msPerDay

/-- The day of the week, Sunday being 0. -/
def getUTCDay (t : Time) : Int := (utcDay t + 4) % 7

def getUTCHours (t : Time) : Int := msOfDay t / 3600000

def getUTCMinutes (t : Time) : Int := msOfDay t / 60000 % 60

def getUTCSeconds (t : Time) : Int := msOfDay t / 1000 % 60

def getUTCMilliseconds (t : Time) : Int := msOfDay t % 1000

/-- The instant on the day of `t` at the given time of day. -/
def setUTCHours (t : Time) (h m s ms : Int) : Time :=
  utcDay t * msPerDay + h * 3600000 + m * 60000 + s * 1000 + ms

end Time

/-! ## The Gregorian calendar -/

/-- Days from the epoch to day `d` of month `m` of year `y`.  Years are counted
from March, so that the leap day is the last of its year. -/
def daysFromCivil (y m d : Int) : Int :=
  let y' := if m ≤ 2 then y - 1 else y
  let era := y' / 400
  let yoe := y' - era * 400
  let doy := (153 * ((m + 9) % 12) + 2) / 5 + d - 1
  era * 146097 + (yoe * 365 + yoe / 4 - yoe / 100 + doy) - 719468

/-- Year, month and day of a day count. -/
def civilFromDays (z : Int) : Int × Int × Int :=
  let z' := z + 719468
  let era := z' / 146097
  let doe := z' - era * 146097
  let yoe := (doe - doe / 1460 + doe / 36524 - doe / 146096) / 365
  let doy := doe - (365 * yoe + yoe / 4 - yoe / 100)
  let mp := (5 * doy + 2) / 153
  let m := if mp < 10 then mp + 3 else mp - 9
  let y := yoe + era * 400
  (if m ≤ 2 then y + 1 else y, m, doy - (153 * mp + 2) / 5 + 1)

example : civilFromDays (daysFromCivil 2024 2 29) = (2024, 2, 29) := by decide

/-! ## Texts -/

/-- `String(n).padStart(width, "0")`. -/
def padStart (width : Nat) (n : Nat) : String :=
  let digits := n.repr
  String.ofList (List.replicate (width - digits.length) '0') ++ digits

/-- `t.toISOString()`, for the years 0 to 9999. -/
def toISOString (t : Time) : String :=
  let (y, m, d) := civilFromDays t.utcDay
  let date := padStart 4 y.toNat ++ "-" ++ padStart 2 m.toNat ++ "-" ++ padStart 2 d.toNat
  let time := padStart 2 t.getUTCHours.toNat ++ ":" ++ padStart 2 t.getUTCMinutes.toNat ++ ":" ++
    padStart 2 t.getUTCSeconds.toNat ++ "." ++ padStart 3 t.getUTCMilliseconds.toNat
  date ++ "T" ++ time ++ "Z"

/-- The number that a list of decimal digits stands for. -/
def decimal (cs : List Char) : Option Nat :=
  cs.foldl (fun o c => o.bind fun n =>
    if c.isDigit then some (10 * n + (c.toNat - '0'.toNat)) else none) (some 0)

/-- The offset in minutes that `Z` or `±HH:mm` stands for. -/
def parseOffset : List Char → Option Int
  | ['Z'] => some 0
  | [sign, h₁, h₂, ':', m₁, m₂] => do
      let h ← decimal [h₁, h₂]
      let m ← decimal [m₁, m₂]
      if 24 ≤ h ∨ 60 ≤ m then none
      else if sign = '+' then some (h * 60 + m)
      else if sign = '-' then some (-(h * 60 + m))
      else none
  | _ => none

/-- The milliseconds and the offset after the seconds. -/
def parseFraction : List Char → Option (Nat × Int)
  | '.' :: f₁ :: f₂ :: f₃ :: rest => do
      let ms ← decimal [f₁, f₂, f₃]
      let offset ← parseOffset rest
      some (ms, offset)
  | rest => (parseOffset rest).map fun offset => (0, offset)

/-- The days from the epoch to the date `YYYY-MM-DD`. -/
def parseDate : List Char → Option Int
  | [y₁, y₂, y₃, y₄, '-', m₁, m₂, '-', d₁, d₂] => do
      let y ← decimal [y₁, y₂, y₃, y₄]
      let m ← decimal [m₁, m₂]
      let d ← decimal [d₁, d₂]
      if 1 ≤ m ∧ m ≤ 12 ∧ 1 ≤ d ∧ d ≤ 31 then some (daysFromCivil y m d) else none
  | _ => none

/-- The milliseconds of day of `HH:mm:ss`, and what follows it. -/
def parseClock : List Char → Option (Int × List Char)
  | h₁ :: h₂ :: ':' :: m₁ :: m₂ :: ':' :: s₁ :: s₂ :: rest => do
      let h ← decimal [h₁, h₂]
      let m ← decimal [m₁, m₂]
      let s ← decimal [s₁, s₂]
      if h < 24 ∧ m < 60 ∧ s < 60 then
        some ((h * 3600000 + m * 60000 + s * 1000 : Int), rest)
      else none
  | _ => none

/-- The instant that a text in the date-time format of ECMAScript stands for. -/
def parseIso (text : String) : Option Time := do
  let day ← parseDate (text.toList.take 10)
  match text.toList.drop 10 with
  | 'T' :: clock =>
      let (ms, rest) ← parseClock clock
      let (frac, offset) ← parseFraction rest
      some (day * Time.msPerDay + ms + frac - offset * Time.msPerMinute)
  | _ => none

example : parseIso "2026-03-02T09:00:00+05:30" = parseIso "2026-03-02T03:30:00.000Z" := by decide

example : (parseIso "2026-03-02T03:30:00.250Z").map toISOString
    = some "2026-03-02T03:30:00.250Z" := by decide +kernel

end Data
