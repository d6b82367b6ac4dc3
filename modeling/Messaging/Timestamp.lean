/-!
# Timestamps

Instants of universal time by the calendar: a date of the Gregorian calendar and a time of day to
the nanosecond.  A minute may have a second numbered sixty, a leap second.
-/

namespace Messaging

/-- A date of the Gregorian calendar. -/
structure Date where
  year : Int
  month : Nat
  day : Nat
  deriving DecidableEq, Repr

namespace Date

/-- Whether the year has a twenty-ninth of February. -/
def isLeap (year : Int) : Bool := year % 4 = 0 && (year % 100 ≠ 0 || year % 400 = 0)

/-- The number of days of a month. -/
def daysIn (year : Int) (month : Nat) : Nat :=
  if month = 2 then (if isLeap year then 29 else 28)
  else if month = 4 ∨ month = 6 ∨ month = 9 ∨ month = 11 then 30
  else 31

/-- The first and the last year of the calendar. -/
def firstYear : Int := -262143
@[inherit_doc firstYear]
def lastYear : Int := 262142

/-- Whether the day exists and its year is covered. -/
def Exists (d : Date) : Prop :=
  firstYear ≤ d.year ∧ d.year ≤ lastYear ∧ 1 ≤ d.month ∧ d.month ≤ 12 ∧
    1 ≤ d.day ∧ d.day ≤ daysIn d.year d.month

instance (d : Date) : Decidable d.Exists := by unfold Exists; infer_instance

/-- The day after. -/
def next (d : Date) : Date :=
  if d.day < daysIn d.year d.month then { d with day := d.day + 1 }
  else if d.month < 12 then ⟨d.year, d.month + 1, 1⟩
  else ⟨d.year + 1, 1, 1⟩

/-- The day before. -/
def previous (d : Date) : Date :=
  if 1 < d.day then { d with day := d.day - 1 }
  else if 1 < d.month then ⟨d.year, d.month - 1, daysIn d.year (d.month - 1)⟩
  else ⟨d.year - 1, 12, 31⟩

/-- The date so many days later. -/
def later (d : Date) : Nat → Date
  | 0 => d
  | n + 1 => d.next.later n

end Date

/-- An instant of universal time. -/
structure Timestamp where
  date : Date
  hour : Nat
  minute : Nat
  second : Nat
  nano : Nat
  /-- The date exists, and the parts of the time are in range; sixty is a leap second. -/
  inRange : date.Exists ∧ hour < 24 ∧ minute < 60 ∧ second ≤ 60 ∧ nano < 1000000000
  deriving DecidableEq

namespace Timestamp

/-- The instant with these parts, if they are in range. -/
def ofParts? (date : Date) (hour minute second nano : Nat) : Option Timestamp :=
  if h : date.Exists ∧ hour < 24 ∧ minute < 60 ∧ second ≤ 60 ∧ nano < 1000000000 then
    some ⟨date, hour, minute, second, nano, h⟩
  else none

/-- The instant of a local time that is `offset` minutes ahead of universal time. -/
def ofLocal? (date : Date) (hour minute second nano : Nat) (offset : Int) : Option Timestamp := do
  let there ← ofParts? date hour minute second nano
  let minutes : Int := there.hour * 60 + there.minute - offset
  let date := if minutes < 0 then date.previous else if 1440 ≤ minutes then date.next else date
  let ofDay := (minutes % 1440).toNat
  ofParts? date (ofDay / 60) (ofDay % 60) second nano

/-- The start of 1970. -/
def epoch : Timestamp := ⟨⟨1970, 1, 1⟩, 0, 0, 0, 0, by decide⟩

/-- The instant so many milliseconds after the start of 1970; the calendar ends in the year
262142. -/
def ofMillis (ms : Nat) : Timestamp :=
  let seconds := ms / 1000
  let ofDay := seconds % 86400
  (ofParts? (epoch.date.later (seconds / 86400)) (ofDay / 3600) (ofDay / 60 % 60) (ofDay % 60)
    (ms % 1000 * 1000000)).getD epoch

end Timestamp

end Messaging
