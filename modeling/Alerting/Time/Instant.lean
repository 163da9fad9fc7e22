/-!
# Instants

An instant is a day of the Gregorian calendar, a second of that day and a
fraction in nanoseconds, all in universal time. A leap second is the last second
of its minute with a fraction of one second or more.
-/
namespace Alerting.Time

def isLeapYear (year : Int) : Bool := year % 4 = 0 && (year % 100 ≠ 0 || year % 400 = 0)

/-- Days of a month, which counts from 1. -/
def monthLength (year : Int) (month : Nat) : Nat :=
  match month with
  | 2 => if isLeapYear year then 29 else 28
  | 4 | 6 | 9 | 11 => 30
  | _ => 31

def firstYear : Int := -262143
def lastYear : Int := 262142

abbrev IsDay (year : Int) (month day : Nat) : Prop :=
  firstYear ≤ year ∧ year ≤ lastYear ∧ 1 ≤ month ∧ month ≤ 12 ∧ 1 ≤ day ∧
    day ≤ monthLength year month

structure Day where
  year : Int
  month : Nat
  day : Nat
  isDay : IsDay year month day
deriving DecidableEq

namespace Day

def of? (year : Int) (month day : Nat) : Option Day :=
  if h : IsDay year month day then some ⟨year, month, day, h⟩ else none

/-- The day after, which the last day lacks. -/
def next? (d : Day) : Option Day :=
  (of? d.year d.month (d.day + 1)).or <|
    (of? d.year (d.month + 1) 1).or (of? (d.year + 1) 1 1)

/-- The day before, which the first day lacks. -/
def previous? (d : Day) : Option Day :=
  (of? d.year d.month (d.day - 1)).or <|
    (of? d.year (d.month - 1) (monthLength d.year (d.month - 1))).or (of? (d.year - 1) 12 31)

def after? (d : Day) : Nat → Option Day
  | 0 => some d
  | n + 1 => d.next?.bind fun e => e.after? n

end Day

def secondsPerDay : Nat := 86400

/-- A fraction is less than a second, but for the last second of a minute less than two. -/
abbrev IsFraction (second nanos : Nat) : Prop :=
  nanos < 1000000000 ∨ second % 60 = 59 ∧ nanos < 2000000000

structure Instant where
  day : Day
  /-- Whole seconds since midnight. -/
  second : Nat
  /-- Nanoseconds since the start of the second. -/
  nanos : Nat
  second_lt : second < secondsPerDay
  fraction : IsFraction second nanos
deriving DecidableEq

namespace Instant

def of? (day : Day) (second nanos : Nat) : Option Instant :=
  if h : second < secondsPerDay ∧ IsFraction second nanos then
    some ⟨day, second, nanos, h.1, h.2⟩
  else none

/-- The instant whose parts read `day`, `second` and `nanos` on a clock that is `ahead` minutes
ahead of universal time. -/
def ofLocal? (day : Day) (second nanos : Nat) (ahead : Int) : Option Instant :=
  let shifted := (second : Int) - 60 * ahead
  if shifted < 0 then
    day.previous?.bind fun d => of? d (shifted + secondsPerDay).toNat nanos
  else if shifted < secondsPerDay then of? day shifted.toNat nanos
  else day.next?.bind fun d => of? d (shifted - secondsPerDay).toNat nanos

def plusSeconds? (t : Instant) (n : Nat) : Option Instant :=
  (t.day.after? ((t.second + n) / secondsPerDay)).bind fun d =>
    of? d ((t.second + n) % secondsPerDay) t.nanos

def newYear2024 : Instant :=
  ⟨⟨2024, 1, 1, by decide⟩, 0, 0, by decide, by decide⟩

instance : Inhabited Instant := ⟨newYear2024⟩

end Instant
end Alerting.Time
