/-!
The proleptic Gregorian calendar. Days are counted from the first of January of the year one;
the calendar runs on before it with year zero and the negative years.
-/

namespace Formula

structure Date where
  year : Int
  month : Nat
  day : Nat
deriving DecidableEq, Repr

namespace Calendar

def isLeapYear (year : Int) : Bool :=
  year % 4 == 0 && (year % 100 != 0 || year % 400 == 0)

def daysInMonth (year : Int) (month : Nat) : Nat :=
  match month with
  | 2 => if isLeapYear year then 29 else 28
  | 4 | 6 | 9 | 11 => 30
  | _ => 31

/-- Days from the first of January of the year one to that of another year. -/
def daysBeforeYear (year : Int) : Int :=
  let past := year - 1
  365 * past + past / 4 - past / 100 + past / 400

def daysBeforeMonth (year : Int) : Nat → Nat
  | 0 => 0
  | 1 => 0
  | month + 1 => daysBeforeMonth year month + daysInMonth year month

def isValid (date : Date) : Bool :=
  1 ≤ date.month && date.month ≤ 12 && 1 ≤ date.day &&
    date.day ≤ daysInMonth date.year date.month

def dayNumber (date : Date) : Int :=
  daysBeforeYear date.year + daysBeforeMonth date.year date.month + (date.day - 1)

/-- The year that a day falls in: a guess from the mean length of a year, mended by one. -/
def yearOf (day : Int) : Int :=
  let guess := day * 400 / 146097 + 1
  if day < daysBeforeYear guess then guess - 1
  else if daysBeforeYear (guess + 1) ≤ day then guess + 1
  else guess

def monthAndDay (year : Int) (dayOfYear : Nat) : Nat × Nat :=
  let month := ((List.range 12).map (· + 1)).countP fun month =>
    daysBeforeMonth year month ≤ dayOfYear
  (month, dayOfYear - daysBeforeMonth year month + 1)

def dateOf (day : Int) : Date :=
  let year := yearOf day
  let (month, day) := monthAndDay year (day - daysBeforeYear year).toNat
  ⟨year, month, day⟩

def dayOfYear (day : Int) : Int :=
  day - daysBeforeYear (yearOf day) + 1

/-- Zero is Sunday; the calendar's first day is a Monday. -/
def dayOfWeek (day : Int) : Int :=
  (day + 1) % 7

/-- The years that a date can be in at all. -/
def leastYear : Int := -262143

def greatestYear : Int := 262142

def ofParts? (year : Int) (month day : Nat) : Option Date :=
  if leastYear ≤ year ∧ year ≤ greatestYear ∧ isValid ⟨year, month, day⟩ then
    some ⟨year, month, day⟩
  else none

def addMonths (date : Date) (months : Int) : Date :=
  let count := date.year * 12 + (date.month - 1) + months
  let year := count / 12
  let month := (count % 12).toNat + 1
  ⟨year, month, min date.day (daysInMonth year month)⟩

def shiftMonths? (date : Date) (months : Int) : Option Date :=
  let shifted := addMonths date months
  ofParts? shifted.year shifted.month shifted.day

def monthsLater? (date : Date) (count : Nat) : Option Date :=
  shiftMonths? date count

def monthsEarlier? (date : Date) (count : Nat) : Option Date :=
  shiftMonths? date (-count)

end Calendar

end Formula
