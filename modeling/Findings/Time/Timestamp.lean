import Findings.Time.Calendar

/-!
# Timestamps

A timestamp is a second of universal time and a fraction of it in nanoseconds. During a leap
second the fraction goes on above one.
-/
namespace Findings.Time

def firstYear : Int := -262143

def lastYear : Int := 262142

def firstSecond : Int := (Date.mk firstYear 1 1).dayNumber * 86400

/-- The second after the end of the last year. -/
def endSecond : Int := (Date.mk (lastYear + 1) 1 1).dayNumber * 86400

/-- A point of universal time. -/
structure Timestamp where
  seconds : Int
  nanos : Nat
  seconds_range : firstSecond ≤ seconds ∧ seconds < endSecond
  nanos_lt : nanos < 2000000000
  deriving DecidableEq, Repr

instance : Inhabited Timestamp := ⟨⟨0, 0, by decide, by decide⟩⟩

/-- The timestamp of seconds and nanoseconds, if there is one. -/
def Timestamp.of? (seconds : Int) (nanos : Nat) : Option Timestamp :=
  if h : (firstSecond ≤ seconds ∧ seconds < endSecond) ∧ nanos < 2000000000 then
    some ⟨seconds, nanos, h.1, h.2⟩
  else none

/-- The reading of a calendar and a clock at some place. -/
structure ClockReading where
  date : Date
  hour : Nat
  minute : Nat
  second : Nat
  nanos : Nat
  deriving DecidableEq, Repr

namespace ClockReading

/-- Whether the calendar and the clock have the reading. Second 60 is a leap second. -/
def isValid (r : ClockReading) : Bool :=
  firstYear ≤ r.date.year && r.date.year ≤ lastYear && r.date.isValid &&
    r.hour ≤ 23 && r.minute ≤ 59 && r.second ≤ 60

/-- The timestamp of a reading at a place whose clocks are `offset` seconds ahead. -/
def timestamp? (r : ClockReading) (offset : Int) : Option Timestamp :=
  if !r.isValid then none
  else
    let second := min r.second 59
    let seconds :=
      r.date.dayNumber * 86400 + (r.hour * 3600 + r.minute * 60 + second : Nat) - offset
    Timestamp.of? seconds (if r.second = 60 then r.nanos + 1000000000 else r.nanos)

end ClockReading

namespace Timestamp

/-- The universal reading of a timestamp. -/
def reading (t : Timestamp) : ClockReading :=
  let second := (t.seconds % 86400).toNat
  let leap := 1000000000 ≤ t.nanos
  { date := Date.ofDayNumber (t.seconds / 86400)
    hour := second / 3600
    minute := second / 60 % 60
    second := second % 60 + (if leap then 1 else 0)
    nanos := if leap then t.nanos - 1000000000 else t.nanos }

end Timestamp

end Findings.Time
