import Machining.Numeric.Numeral
import Machining.Numeric.Scalar

/-!
# Time stamps

An instant is counted in seconds and microseconds from the beginning of 1970.  Its stamp is the day
of the calendar and the time of the day down to milliseconds, which are cut off and not rounded.

* `Instant.ofFloat` takes an instant from a number of seconds.
* `Instant.stamp` writes an instant.
-/

namespace Machining.Log

open Machining.Numeric

/-- A point in time. -/
structure Instant where
  /-- Whole seconds since the beginning of 1970. -/
  seconds : Int
  /-- Microseconds beyond, less than a million. -/
  micros : Nat
  deriving DecidableEq

/-- Why an instant has no stamp. -/
inductive StampError where
  /-- "No number" is no time. -/
  | notNumber
  /-- The seconds are out of the range of the clock. -/
  | outOfRange
  /-- The year is out of the range of the clock. -/
  | outOfClock
  /-- The year is out of the range of the calendar. -/
  | badYear (year : Int)
  deriving DecidableEq

/-- The wording of a stamp error. -/
def StampError.message : StampError → String
  | notNumber => "Invalid value NaN (not a number)"
  | outOfRange => "timestamp out of range for platform time_t"
  | outOfClock => "[Errno 75] Value too large for defined data type"
  | badYear year => s!"year {year} is out of range"

namespace Instant

/-- The largest whole number whose magnitude is not above that of a finite number. -/
def wholePart (mantissa : Nat) (exponent : Int) : Nat :=
  let (up, down) := powerParts 2 exponent
  mantissa * up / down

/-- The microseconds of a fraction of a second: the product is rounded to a floating-point number
before it is rounded to a whole one. -/
def fractionMicros (fraction : Float) : Int :=
  (Binary64.ofFloat (fraction * Float.ofNat 1000000)).nearestInt

/-- The instant after a number of seconds.  Seconds are in range up to a magnitude of `2 ^ 63`,
which itself is left to the clock. -/
def ofFloat (x : Float) : Except StampError Instant :=
  match Binary64.ofFloat x with
  | .nan => .error .notNumber
  | .infinite _ => .error .outOfRange
  | .finite negative mantissa exponent =>
    let size := wholePart mantissa exponent
    let whole : Int := if negative then -size else size
    if 2 ^ 63 < size then .error .outOfRange
    else
      let micros := fractionMicros (x - Float.ofInt whole)
      -- a fraction that rounds to a whole second, or lies below zero, moves the second
      if micros < 0 then .ok ⟨whole - 1, (micros + 1000000).toNat⟩
      else if 1000000 ≤ micros then .ok ⟨whole + 1, (micros - 1000000).toNat⟩
      else .ok ⟨whole, micros.toNat⟩

end Instant

/-! ## The calendar -/

/-- A day of a calendar that goes on in both directions. -/
structure CivilDay where
  /-- The year. -/
  year : Int
  /-- The month, from one. -/
  month : Nat
  /-- The day of the month, from one. -/
  day : Nat
  deriving DecidableEq

/-- The days of 400 years, after which the calendar repeats. -/
def eraDays : Nat := 146097

/-- The days from the first of March of the year zero to the beginning of 1970. -/
def epochDays : Nat := 719468

/-- The day that comes so many days after the first of January 1970.  Years are counted from March,
so that a leap day is the last of its year. -/
def civilDay (days : Int) : CivilDay :=
  let shifted := days + epochDays
  let era := shifted / eraDays
  let rest := (shifted % eraDays).toNat
  -- of 400 years, every fourth has one day more, but for three of those that end a century
  let year := (rest - rest / 1460 + rest / 36524 - rest / 146096) / 365
  let dayOfYear := rest - (365 * year + year / 4 - year / 100)
  let month := (5 * dayOfYear + 2) / 153
  let day := dayOfYear - (153 * month + 2) / 5 + 1
  let late := 10 ≤ month
  ⟨year + era * 400 + (if late then 1 else 0), if late then month - 9 else month + 3, day⟩

/-- The seconds of a day. -/
def daySeconds : Nat := 86400

/-- The years that the calendar counts. -/
def inCalendar (year : Int) : Bool := 1 ≤ year && year ≤ 9999

/-- A year as the clock counts it: with 32 bits, of which it shows those that are left when it is
written in full. -/
def clockYear (year : Int) : Except StampError Int :=
  if year - 1900 < -(2 ^ 31) ∨ 2 ^ 31 ≤ year - 1900 then .error .outOfClock
  else .ok (if 2 ^ 31 ≤ year then year - 2 ^ 32 else year)

/-- The day that a number of seconds falls on. -/
def dayOf (seconds : Int) : Except StampError CivilDay := do
  let day := civilDay (seconds / daySeconds)
  let year ← clockYear day.year
  if inCalendar year then return day else throw (.badYear year)

/-! ## Stamps -/

/-- In which zone stamps are written; the local zone is that of the machine, which is `UTC` too but
is not named. -/
inductive Zone where
  /-- The common zone. -/
  | utc
  /-- Any other zone, under its name. -/
  | local (name : String)
  deriving DecidableEq

namespace Zone

/-- The zone of a name. -/
def ofName (name : String) : Zone := if name = "UTC" then utc else .local name

/-- The name of a zone. -/
def name : Zone → String
  | utc => "UTC"
  | .local name => name

end Zone

/-- The time of the day of a number of seconds, with milliseconds. -/
def timeText (seconds : Int) (micros : Nat) : String :=
  let time := (seconds % daySeconds).toNat
  let two := Fixed.paddedDigits 2
  two (time / 3600) ++ ":" ++ two (time / 60 % 60) ++ ":" ++ two (time % 60) ++ "." ++
    Fixed.paddedDigits 3 (micros / 1000)

/-- Month, day and time behind the year. -/
def restText (day : CivilDay) (instant : Instant) : String :=
  "-" ++ Fixed.paddedDigits 2 day.month ++ "-" ++ Fixed.paddedDigits 2 day.day ++ "T" ++
    timeText instant.seconds instant.micros

/-- The stamp of an instant.  In the local zone the year has four digits, and the day before has to
be in the calendar as well. -/
def Instant.stamp (zone : Zone) (instant : Instant) : Except StampError String := do
  let day ← dayOf instant.seconds
  match zone with
  | .utc => return toString day.year ++ restText day instant ++ "Z"
  | .local _ =>
    discard (dayOf (instant.seconds - daySeconds))
    return Fixed.paddedDigits 4 day.year.toNat ++ restText day instant

end Machining.Log
