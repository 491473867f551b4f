import Formula.Time.Calendar
import Formula.Time.TimeSpan
import Formula.Time.Zone

/-!
Instants on the calendar between the years 1 and 9999: a day, a second of the day and the
nanoseconds past it, with a mark for the clock it was read on. During a leap second the
nanoseconds run on beyond a second.
-/

namespace Formula

inductive DateTimeKind where
  | unspecified
  | universal
  | localTime
deriving DecidableEq, Repr

namespace DateTimeKind

def bits : DateTimeKind → Int
  | unspecified => 0
  | universal => 1
  | localTime => 2

def ofBits (bits : Int) : DateTimeKind :=
  if bits = 1 then universal else if bits = 2 then localTime else unspecified

end DateTimeKind

structure DateTime where
  day : Int
  second : Nat
  nanosecond : Nat
  kind : DateTimeKind
deriving DecidableEq

namespace DateTime

def dayLimit : Int := 3652059

def greatestTicks : Int := 3155378975999999999

def unixEpochTicks : Int := 621355968000000000

def checked (moment : DateTime) : Outcome DateTime :=
  if 0 ≤ moment.day ∧ moment.day < dayLimit then .ok moment
  else .error (.malformed .dateOutOfRange)

def ofTicks (ticks : Int) (kind : DateTimeKind) : Outcome DateTime :=
  if 0 ≤ ticks ∧ ticks ≤ greatestTicks then
    let rest := ticks % TimeSpan.ticksPerDay
    .ok
      { day := ticks / TimeSpan.ticksPerDay
        second := (rest / TimeSpan.ticksPerSecond).toNat
        nanosecond := (rest % TimeSpan.ticksPerSecond * 100).toNat
        kind := kind }
  else .error (.malformed .dateOutOfRange)

/-- A leap second counts as the last tick before it. -/
def ticks (moment : DateTime) : Int :=
  moment.day * TimeSpan.ticksPerDay + moment.second * TimeSpan.ticksPerSecond +
    (min moment.nanosecond 999999999) / 100

/-- Compares the instants and not the kinds. -/
def order (left right : DateTime) : Ordering :=
  (compare left.day right.day).then
    ((compare left.second right.second).then (compare left.nanosecond right.nanosecond))

def date (moment : DateTime) : DateTime :=
  { moment with second := 0, nanosecond := 0 }

def calendarDate (moment : DateTime) : Date :=
  Calendar.dateOf moment.day

def hour (moment : DateTime) : Nat := moment.second / 3600
def minute (moment : DateTime) : Nat := moment.second / 60 % 60
def secondOfMinute (moment : DateTime) : Nat := moment.second % 60
def millisecond (moment : DateTime) : Nat := min (moment.nanosecond / 1000000) 999

def timeOfDay (moment : DateTime) : TimeSpan :=
  .wrap (moment.ticks % TimeSpan.ticksPerDay)

def shift (moment : DateTime) (span : TimeSpan) : Outcome DateTime :=
  ofTicks (moment.ticks + span.ticks) moment.kind

def difference (left right : DateTime) : TimeSpan :=
  .wrap (left.ticks - right.ticks)

def addMonths (moment : DateTime) (months : Int) : Outcome DateTime :=
  let shifted :=
    if months < 0 then Calendar.monthsEarlier? moment.calendarDate months.natAbs
    else Calendar.monthsLater? moment.calendarDate months.natAbs
  match shifted with
  | some date => checked { moment with day := Calendar.dayNumber date }
  | none => .error (.malformed .dateOutOfRange)

def addYears (moment : DateTime) (years : Int) : Outcome DateTime :=
  if IntegerKind.int32.Holds (years * 12) then moment.addMonths (years * 12)
  else .error (.malformed .dateOutOfRange)

/-- What a clock shows that is so many seconds ahead. -/
def ahead (moment : DateTime) (seconds : Int) : DateTime :=
  { moment with
    day := moment.day + (moment.second + seconds) / 86400
    second := ((moment.second + seconds) % 86400).toNat }

def seconds (moment : DateTime) : Int :=
  moment.day * 86400 + moment.second

def onClockOf (zone : TimeZone) (moment : DateTime) : DateTime :=
  { moment.ahead (zone.offsetAt moment.seconds).seconds with kind := .localTime }

/-- Whatever is not universal is taken as local time. -/
def toUniversal (zone : TimeZone) (moment : DateTime) : Outcome DateTime :=
  if moment.kind = .universal then .ok moment
  else
    match zone.offsetShowing? moment.seconds with
    | some offset => checked { moment.ahead (-offset.seconds) with kind := .universal }
    | none => .error (.malformed .dateOutOfRange)

/-- Whatever is not local is taken as universal time. -/
def toLocal (zone : TimeZone) (moment : DateTime) : Outcome DateTime :=
  if moment.kind = .localTime then .ok moment else checked (moment.onClockOf zone)

/-- The layout `MM/dd/yyyy HH:mm:ss`; a leap second shows as the sixtieth. -/
def toChars (moment : DateTime) : List Char :=
  let date := moment.calendarDate
  let second := moment.secondOfMinute + moment.nanosecond / 1000000000
  TimeSpan.padded 2 date.month ++ '/' :: TimeSpan.padded 2 date.day ++
    '/' :: TimeSpan.padded 4 date.year.toNat ++ ' ' :: TimeSpan.padded 2 moment.hour ++
    ':' :: TimeSpan.padded 2 moment.minute ++ ':' :: TimeSpan.padded 2 second

def toText (moment : DateTime) : String :=
  String.ofList moment.toChars

end DateTime

namespace Calendar

/-- The days from the first of a month to the first of the next one, for the years 1 to 9999. -/
def monthLength (year month : Int) : Outcome Nat :=
  if 1 ≤ year ∧ year ≤ 9999 ∧ 1 ≤ month ∧ month ≤ 12 then
    match ofParts? year month.toNat 1 with
    | some first =>
        let next := (monthsLater? first 1).getD ⟨greatestYear, 12, 31⟩
        .ok (dayNumber next - dayNumber first).toNat
    | none => .error (.malformed .dateParts)
  else .error (.malformed .dateParts)

def leapYear (year : Int) : Outcome Bool :=
  if 1 ≤ year ∧ year ≤ 9999 then .ok (ofParts? year 2 29).isSome
  else .error (.malformed .year)

end Calendar

end Formula
