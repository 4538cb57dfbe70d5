/-!
Points of time in the civil calendar of universal time.
-/

namespace ContractWatch

def isLeapYear (y : Int) : Bool := y % 4 = 0 && (y % 100 ≠ 0 || y % 400 = 0)

def daysIn (y : Int) (m : Nat) : Nat :=
  if m = 2 then (if isLeapYear y then 29 else 28)
  else if m = 4 ∨ m = 6 ∨ m = 9 ∨ m = 11 then 30
  else 31

structure Date where
  year : Int
  month : Nat
  day : Nat
  deriving DecidableEq

namespace Date

def minYear : Int := -262143

def maxYear : Int := 262142

/-- The date is in the calendar, and its year in the supported range. -/
def Valid (d : Date) : Prop :=
  (minYear ≤ d.year ∧ d.year ≤ maxYear) ∧ (1 ≤ d.month ∧ d.month ≤ 12) ∧
    (1 ≤ d.day ∧ d.day ≤ daysIn d.year d.month)

instance (d : Date) : Decidable d.Valid := inferInstanceAs (Decidable (_ ∧ _ ∧ _))

def next (d : Date) : Date :=
  if d.day < daysIn d.year d.month then { d with day := d.day + 1 }
  else if d.month < 12 then ⟨d.year, d.month + 1, 1⟩
  else ⟨d.year + 1, 1, 1⟩

def previous (d : Date) : Date :=
  if 1 < d.day then { d with day := d.day - 1 }
  else if 1 < d.month then ⟨d.year, d.month - 1, daysIn d.year (d.month - 1)⟩
  else ⟨d.year - 1, 12, 31⟩

/-- Days since the first of January 1970. Years are counted from March, so that a leap day ends one. -/
def dayNumber (d : Date) : Int :=
  let y := if d.month ≤ 2 then d.year - 1 else d.year
  let m := if d.month ≤ 2 then d.month + 9 else d.month - 3
  365 * y + y / 4 - y / 100 + y / 400 + ((153 * m + 2) / 5 : Nat) + d.day - 719469

end Date

/-- A second of 60 is a leap second. -/
structure Instant where
  date : Date
  hour : Nat
  minute : Nat
  second : Nat
  nano : Nat
  valid : date.Valid ∧ hour < 24 ∧ minute < 60 ∧ second ≤ 60 ∧ nano < 1_000_000_000
  deriving DecidableEq

namespace Instant

def of? (d : Date) (hour minute second nano : Nat) : Option Instant :=
  if h : d.Valid ∧ hour < 24 ∧ minute < 60 ∧ second ≤ 60 ∧ nano < 1_000_000_000 then
    some ⟨d, hour, minute, second, nano, h⟩
  else none

/-- The first of January 1970, 00:00. -/
def epoch : Instant := ⟨⟨1970, 1, 1⟩, 0, 0, 0, 0, by decide⟩

/-- Milliseconds since the epoch. -/
def millis (t : Instant) : Int :=
  (t.date.dayNumber * 86400 + t.hour * 3600 + t.minute * 60 + t.second) * 1000 + (t.nano / 1000000 : Nat)

end Instant

end ContractWatch
