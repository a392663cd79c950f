import Mathlib.Data.Rat.Cast.Order
import LayoutAdblock.Data.Digits

namespace LayoutAdblock.Data

/-! # The civil calendar and RFC 3339

Days of the proleptic Gregorian calendar are counted from 1970-01-01, and a
date-time of RFC 3339 denotes an instant in seconds from the start of that day.
-/

/-- Years divisible by four, except for the full centuries that 400 does not divide. -/
def leapYear (year : Nat) : Bool := year % 4 = 0 && (year % 100 ≠ 0 || year % 400 = 0)

/-- The length of a month of that year. Months outside the calendar have 31 days and are
excluded where a date is built. -/
def daysInMonth (year month : Nat) : Nat :=
  if month = 2 then if leapYear year then 29 else 28
  else if month = 4 ∨ month = 6 ∨ month = 9 ∨ month = 11 then 30 else 31

/-- A day that is in the calendar. Month and day are checked when a date is built, so no
later proof has to. -/
structure Date where
  year : Nat
  month : Nat
  day : Nat
  monthValid : 1 ≤ month ∧ month ≤ 12
  dayValid : 1 ≤ day ∧ day ≤ daysInMonth year month

/-- The days from the start of year 0 to the start of a year. -/
def daysBeforeYear (year : Nat) : Nat :=
  365 * year + (year + 3) / 4 - (year + 99) / 100 + (year + 399) / 400

/-- The days from the start of a year to the start of a month. -/
def daysBeforeMonth (year : Nat) : Nat → Nat
  | 0 => 0
  | 1 => 0
  | month + 2 => daysBeforeMonth year (month + 1) + daysInMonth year (month + 1)

theorem daysBeforeYear_succ (year : Nat) :
    daysBeforeYear (year + 1) = daysBeforeYear year + if leapYear year then 366 else 365 := by
  have fours : (year + 1 + 3) / 4 = (year + 3) / 4 + if year % 4 = 0 then 1 else 0 := by
    split <;> omega
  have centuries :
      (year + 1 + 99) / 100 = (year + 99) / 100 + if year % 100 = 0 then 1 else 0 := by
    split <;> omega
  have cycles :
      (year + 1 + 399) / 400 = (year + 399) / 400 + if year % 400 = 0 then 1 else 0 := by
    split <;> omega
  have fewer : (year + 99) / 100 ≤ (year + 3) / 4 := by omega
  simp only [daysBeforeYear, fours, centuries, cycles, leapYear]
  by_cases four : year % 4 = 0
  · by_cases century : year % 100 = 0
    · by_cases cycle : year % 400 = 0
      · simp [four, century, cycle]
        omega
      · simp [four, century, cycle]
        omega
    · have cycle : year % 400 ≠ 0 := by omega
      simp [four, century, cycle]
      omega
  · have century : year % 100 ≠ 0 := by omega
    have cycle : year % 400 ≠ 0 := by omega
    simp [four, century, cycle]
    omega

theorem daysBeforeMonth_succ (year : Nat) {month : Nat} (later : 1 ≤ month) :
    daysBeforeMonth year (month + 1) = daysBeforeMonth year month + daysInMonth year month := by
  cases month with
  | zero => omega
  | succ month => rfl

@[simp] theorem daysBeforeMonth_one (year : Nat) : daysBeforeMonth year 1 = 0 := rfl

namespace Date

def dayNumber (date : Date) : Int :=
  (daysBeforeYear date.year + daysBeforeMonth date.year date.month + (date.day - 1) : Nat) -
    (daysBeforeYear 1970 : Nat)

def next (date : Date) : Date :=
  if more : date.day + 1 ≤ daysInMonth date.year date.month then
    { date with day := date.day + 1, dayValid := ⟨by omega, more⟩ }
  else if sameYear : date.month + 1 ≤ 12 then
    { year := date.year, month := date.month + 1, day := 1
      monthValid := ⟨by omega, sameYear⟩
      dayValid := ⟨le_rfl, by simp only [daysInMonth]; split_ifs <;> omega⟩ }
  else
    { year := date.year + 1, month := 1, day := 1
      monthValid := ⟨le_rfl, by omega⟩
      dayValid := ⟨le_rfl, by simp [daysInMonth]⟩ }

theorem daysBeforeMonth_twelve (year : Nat) :
    daysBeforeMonth year 12 + daysInMonth year 12 = if leapYear year then 366 else 365 := by
  cases leap : leapYear year <;> simp [daysBeforeMonth, daysInMonth, leap]

/-- Day numbers count the days. -/
theorem dayNumber_next (date : Date) : date.next.dayNumber = date.dayNumber + 1 := by
  obtain ⟨year, month, day, ⟨january, december⟩, first, last⟩ := date
  simp only [next]
  split
  · simp only [dayNumber]
    omega
  · split
    · simp only [dayNumber, daysBeforeMonth_succ year january]
      omega
    · have twelve : month = 12 := by omega
      subst twelve
      have wholeYear := daysBeforeYear_succ year
      rw [← daysBeforeMonth_twelve year] at wholeYear
      simp only [dayNumber, wholeYear, daysBeforeMonth_one]
      omega

end Date

/-- How far a clock is ahead of universal time, as RFC 3339 writes it: a letter where it is
not, and otherwise hours and minutes with their sign. -/
inductive UtcOffset where
  | zulu (letter : Char) (valid : letter = 'Z' ∨ letter = 'z')
  | shift (behind : Bool) (hours minutes : Nat) (hoursValid : hours ≤ 23)
      (minutesValid : minutes ≤ 59)

namespace UtcOffset

def text : UtcOffset → List Char
  | zulu letter _ => [letter]
  | shift behind hours minutes _ _ =>
      (if behind then '-' else '+') :: decimal 2 hours ++ ':' :: decimal 2 minutes

/-- By how many seconds local time is ahead of universal time. -/
def seconds : UtcOffset → Int
  | zulu _ _ => 0
  | shift behind hours minutes _ _ =>
      (if behind then -1 else 1) * (hours * 3600 + minutes * 60 : Nat)

end UtcOffset

/-- A moment as RFC 3339 writes it, down to the separator and the fraction. A sixtieth
second is allowed, since leap seconds are. -/
structure DateTime extends Date where
  yearValid : year ≤ 9999
  separator : Char
  separatorValid : separator = 'T' ∨ separator = 't' ∨ separator = ' '
  hour : Nat
  hourValid : hour ≤ 23
  minute : Nat
  minuteValid : minute ≤ 59
  second : Nat
  secondValid : second ≤ 60
  fraction : Option Digits
  offset : UtcOffset

namespace DateTime

variable (moment : DateTime)

/-- The digits after the point, with the point; nothing where there are none. -/
def fractionText : List Char :=
  match moment.fraction with
  | none => []
  | some digits => '.' :: digits.text

/-- A moment as it is written, which is what a parser has to take for it again. -/
def text : List Char :=
  decimal 4 moment.year ++ '-' :: decimal 2 moment.month ++ '-' :: decimal 2 moment.day ++
    moment.separator :: decimal 2 moment.hour ++ ':' :: decimal 2 moment.minute ++
    ':' :: decimal 2 moment.second ++ moment.fractionText ++ moment.offset.text

/-- The seconds since midnight of the local clock. -/
def secondsOfDay : Nat := moment.hour * 3600 + moment.minute * 60 + moment.second

/-- Whole seconds of the local clock since 1970. -/
def localSeconds : Int := moment.dayNumber * 86400 + moment.secondsOfDay

/-- The part of a second, exact however many digits there are. -/
def fractionSeconds : ℚ :=
  match moment.fraction with
  | none => 0
  | some digits => digits.value / 10 ^ digits.text.length

/-- The instant denoted, in seconds of universal time since 1970, with the fraction. Two
texts with different offsets may denote the same one. -/
def instant : ℚ := moment.localSeconds - moment.offset.seconds + moment.fractionSeconds

end DateTime

end LayoutAdblock.Data
