/-! Points in time, in UTC: a day of the Gregorian calendar, a time of day down to nanoseconds, and sixty as
    the second of a leap second. Every value is a day and time that exist. -/

namespace SplitterLaunch

/-- Whether the year has a day more than 365. -/
def isLeapYear (year : Int) : Bool := year % 4 == 0 && (year % 100 != 0 || year % 400 == 0)

def daysInMonth (year : Int) (month : Nat) : Nat :=
  if month = 2 then if isLeapYear year then 29 else 28
  else if month = 4 ∨ month = 6 ∨ month = 9 ∨ month = 11 then 30
  else 31

theorem daysInMonth_pos (year : Int) (month : Nat) : 0 < daysInMonth year month := by
  unfold daysInMonth
  repeat' split
  all_goals decide

/-- A day of the calendar. -/
structure Date where
  year : Int
  month : Nat
  day : Nat
  month_range : 1 ≤ month ∧ month ≤ 12
  day_range : 1 ≤ day ∧ day ≤ daysInMonth year month
deriving DecidableEq, Repr

namespace Date

/-- The day with this year, month and day, if there is one. -/
def ofParts? (year : Int) (month day : Nat) : Option Date :=
  if h : (1 ≤ month ∧ month ≤ 12) ∧ 1 ≤ day ∧ day ≤ daysInMonth year month then
    some ⟨year, month, day, h.1, h.2⟩
  else none

def next (d : Date) : Date :=
  if h : d.day < daysInMonth d.year d.month then
    ⟨d.year, d.month, d.day + 1, d.month_range, by omega⟩
  else if h : d.month < 12 then
    ⟨d.year, d.month + 1, 1, by omega, by have := daysInMonth_pos d.year (d.month + 1); omega⟩
  else
    ⟨d.year + 1, 1, 1, by decide, by have := daysInMonth_pos (d.year + 1) 1; omega⟩

def previous (d : Date) : Date :=
  if h : 1 < d.day then
    ⟨d.year, d.month, d.day - 1, d.month_range, by have := d.day_range; omega⟩
  else if h : 1 < d.month then
    ⟨d.year, d.month - 1, daysInMonth d.year (d.month - 1), by have := d.month_range; omega, by
      have := daysInMonth_pos d.year (d.month - 1); omega⟩
  else
    ⟨d.year - 1, 12, 31, by decide, by simp [daysInMonth]⟩

end Date

/-- A point in time. -/
structure Timestamp where
  date : Date
  hour : Nat
  minute : Nat
  second : Nat
  nanosecond : Nat
  hour_lt : hour < 24
  minute_lt : minute < 60
  second_le : second ≤ 60
  nanosecond_lt : nanosecond < 1000000000
deriving DecidableEq, Repr

namespace Timestamp

def ofDate (date : Date) : Timestamp := ⟨date, 0, 0, 0, 0, by decide, by decide, by decide, by decide⟩

/-- The first second of 1970. -/
def epoch : Timestamp := ofDate ⟨1970, 1, 1, by decide, by decide⟩

/-- The time so many nanoseconds after the start of 1970. -/
def ofNanoseconds (n : Nat) : Timestamp :=
  let seconds := n / 1000000000
  let rest := seconds % 86400
  ⟨Nat.repeat Date.next (seconds / 86400) epoch.date, rest / 3600, rest % 3600 / 60, rest % 60, n % 1000000000,
    by omega, by omega, by omega, Nat.mod_lt _ (by decide)⟩

/-- The time that clocks show which are behind by this many minutes. -/
def subMinutes (t : Timestamp) (minutes : Int) : Timestamp :=
  let total : Int := t.hour * 60 + t.minute - minutes
  let date := if total < 0 then t.date.previous else if 1440 ≤ total then t.date.next else t.date
  let rest := (total % 1440).toNat
  ⟨date, rest / 60, rest % 60, t.second, t.nanosecond, by omega, by omega, t.second_le, t.nanosecond_lt⟩

end Timestamp
end SplitterLaunch
