import TopicSink.Text.Basic
import TopicSink.Binary64.Basic

namespace TopicSink

structure Date where
  year : Int
  month : Nat
  day : Nat
deriving DecidableEq, Repr

namespace Date

def isLeap (year : Int) : Bool := year % 4 = 0 && (year % 100 ≠ 0 || year % 400 = 0)

def monthLength (year : Int) (month : Nat) : Nat :=
  if month = 2 then if isLeap year then 29 else 28
  else if month = 4 ∨ month = 6 ∨ month = 9 ∨ month = 11 then 30
  else 31

def daysBeforeMonth (year : Int) (month : Nat) : Nat :=
  (List.range (month - 1)).foldl (fun days m => days + monthLength year (m + 1)) 0

def daysBeforeYear (year : Int) : Int :=
  let y := year - 1
  365 * y + y / 4 - y / 100 + y / 400

/-- The number of a date counted from 1970-01-01. -/
def toDay (d : Date) : Int :=
  daysBeforeYear d.year + daysBeforeMonth d.year d.month + d.day - 1 - daysBeforeYear 1970

/-- The date of a day counted from 1970-01-01. Years are taken to begin in March, so that a leap day
ends one, and are counted in eras of 400 years, which all have the same number of days. -/
def ofDay (n : Int) : Date :=
  let z := n + 719468
  let era := z / 146097
  let dayOfEra := z % 146097
  let yearOfEra := (dayOfEra - dayOfEra / 1460 + dayOfEra / 36524 - dayOfEra / 146096) / 365
  let dayOfYear := dayOfEra - (365 * yearOfEra + yearOfEra / 4 - yearOfEra / 100)
  let shifted := (5 * dayOfYear + 2) / 153
  let day := dayOfYear - (153 * shifted + 2) / 5 + 1
  let month := if shifted < 10 then shifted + 3 else shifted - 9
  let year := yearOfEra + era * 400 + if month ≤ 2 then 1 else 0
  ⟨year, month.toNat, day.toNat⟩

/-- Year, month and day between hyphens. The year has as many digits as it needs. -/
def render (d : Date) : Text :=
  Text.ofInt d.year ++ "-" ++ Text.padded 2 d.month ++ "-" ++ Text.padded 2 d.day

end Date

structure Instant where
  date : Date
  hour : Nat
  minute : Nat
  second : Nat
  microsecond : Nat
deriving DecidableEq, Repr

namespace Instant

inductive Fault where
  | beyondBinary64
  | beyondClock
  | beyondClockYear
  | yearOutOfRange (year : Int)
  | monthOutOfRange
  | dayOutOfRange
  /-- a part of the time of day is below zero or above its greatest value -/
  | timeOutOfRange (part : Text) (greatest : Nat)
  /-- year, month and day are not all given, or more parts are than there are -/
  | wrongPartCount
deriving DecidableEq, Repr

def ofSeconds (seconds : Int) (microsecond : Nat) : Instant :=
  let s := (seconds % 86400).toNat
  ⟨Date.ofDay (seconds / 86400), s / 3600, s / 60 % 60, s % 60, microsecond⟩

def hasClockYear (t : Instant) : Bool :=
  -2 ^ 31 ≤ t.date.year - 1900 && t.date.year - 1900 < 2 ^ 31

/-- The instant of a reading of the clock, unless its year is out of the clock's reach or does not
fit 32 bits by itself, as it must to be written. -/
def ofClock? (seconds : Int) : Option Instant :=
  let t := ofSeconds seconds 0
  if t.hasClockYear && t.date.year < 2 ^ 31 then some t else none

/-- A number of seconds in whole microseconds, the even number where two are equally near. -/
def microseconds (negative : Bool) (mantissa : Nat) (exponent : Int) : Int :=
  let (n, d) := Binary64.magnitude mantissa exponent
  let total := n / d * 1000000 + Binary64.roundHalfEven (n % d * 1000000) d
  if negative then -(total : Int) else total

/-- The instant of a number of microseconds. The clock counts seconds in 64 bits and years after
1900 in 32; the calendar goes from year 1 to year 9999. -/
def ofMicroseconds (total : Int) : Except Fault Instant :=
  let seconds := total / 1000000
  if ¬(-2 ^ 63 ≤ seconds ∧ seconds < 2 ^ 63) then .error .beyondClock
  else
    let t := ofSeconds seconds (total % 1000000).toNat
    if !t.hasClockYear then .error .beyondClockYear
    else if ¬(1 ≤ t.date.year ∧ t.date.year ≤ 9999) then .error (.yearOutOfRange t.date.year)
    else .ok t

/-- The instant of a timestamp in milliseconds from the first moment of 1970. -/
def ofMillis (millis : Int) : Except Fault Instant :=
  match Binary64.ofRatio millis 1000 with
  | .finite negative mantissa exponent => ofMicroseconds (microseconds negative mantissa exponent)
  | _ => .error .beyondBinary64

def timePart (part : Text) (greatest : Nat) (value : Int) : Except Fault Nat :=
  if 0 ≤ value ∧ value ≤ greatest then .ok value.toNat else .error (.timeOutOfRange part greatest)

def datePart (year month day : Int) : Except Fault Date :=
  if ¬(1 ≤ year ∧ year ≤ 9999) then .error (.yearOutOfRange year)
  else if ¬(1 ≤ month ∧ month ≤ 12) then .error .monthOutOfRange
  else if ¬(1 ≤ day ∧ day ≤ Date.monthLength year month.toNat) then .error .dayOutOfRange
  else .ok ⟨year, month.toNat, day.toNat⟩

/-- The instant of its parts, the year first. Parts that are left out at the end of the time of day
are zero. Of several parts out of range the first one is told. -/
def ofParts : List Int → Except Fault Instant
  | year :: month :: day :: time =>
    if 4 < time.length then .error .wrongPartCount
    else do
      let date ← datePart year month day
      let hour ← timePart "hour" 23 (time.getD 0 0)
      let minute ← timePart "minute" 59 (time.getD 1 0)
      let second ← timePart "second" 59 (time.getD 2 0)
      let microsecond ← timePart "microsecond" 999999 (time.getD 3 0)
      pure ⟨date, hour, minute, second, microsecond⟩
  | _ => .error .wrongPartCount

/-- Date and time with the offset of UTC, as log lines begin. -/
def render (t : Instant) : Text :=
  t.date.render ++ "T" ++ Text.padded 2 t.hour ++ ":" ++ Text.padded 2 t.minute ++ ":"
    ++ Text.padded 2 t.second ++ "+0000"

end Instant

end TopicSink
