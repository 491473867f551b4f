import Formula.Fault
import Formula.Number.Binary
import Formula.Number.Numeral
import Formula.Text.Blank
import Formula.Text.Search

/-!
Spans of time in ticks of 100 nanoseconds, over the whole range of 64 bits: components, checked
arithmetic, and the text `[-][d.]hh:mm:ss[.fffffff]`.
-/

namespace Formula

structure TimeSpan where
  ticks : Int
  holds : IntegerKind.int64.Holds ticks
deriving DecidableEq

namespace TimeSpan

def ticksPerMillisecond : Int := 10000
def ticksPerSecond : Int := 1000 * ticksPerMillisecond
def ticksPerMinute : Int := 60 * ticksPerSecond
def ticksPerHour : Int := 60 * ticksPerMinute
def ticksPerDay : Int := 24 * ticksPerHour

def zero : TimeSpan := ⟨0, by decide⟩
def least : TimeSpan := ⟨IntegerKind.int64.least, IntegerKind.int64.holds_least⟩
def greatest : TimeSpan := ⟨IntegerKind.int64.greatest, IntegerKind.int64.holds_greatest⟩

def wrap (ticks : Int) : TimeSpan :=
  ⟨IntegerKind.int64.wrap ticks, IntegerKind.int64.holds_wrap ticks⟩

def ofTicks? (ticks : Int) : Option TimeSpan :=
  if holds : IntegerKind.int64.Holds ticks then some ⟨ticks, holds⟩ else none

def ofTicks (ticks : Int) (cause : Malformed) : Outcome TimeSpan :=
  match ofTicks? ticks with
  | some span => .ok span
  | none => .error (.malformed cause)

def ofUnits (count : Float) (ticksPerUnit : Int) : Outcome TimeSpan :=
  if count.isNaN then .error (.malformed .spanOfNotANumber)
  else
    match (Number.doubleDatum (count * Number.doubleOfInt ticksPerUnit)).truncate? with
    | some ticks => ofTicks ticks .spanTooLong
    | none => .error (.malformed .spanTooLong)

def days (span : TimeSpan) : Int := span.ticks.tdiv ticksPerDay
def hours (span : TimeSpan) : Int := (span.ticks.tdiv ticksPerHour).tmod 24
def minutes (span : TimeSpan) : Int := (span.ticks.tdiv ticksPerMinute).tmod 60
def seconds (span : TimeSpan) : Int := (span.ticks.tdiv ticksPerSecond).tmod 60
def milliseconds (span : TimeSpan) : Int := (span.ticks.tdiv ticksPerMillisecond).tmod 1000

def total (span : TimeSpan) (ticksPerUnit : Int) : Float :=
  Number.doubleOfInt span.ticks / Number.doubleOfInt ticksPerUnit

def add (left right : TimeSpan) : Outcome TimeSpan :=
  ofTicks (left.ticks + right.ticks) .spanTooLong

def subtract (left right : TimeSpan) : Outcome TimeSpan :=
  ofTicks (left.ticks - right.ticks) .spanTooLong

def negate (span : TimeSpan) : Outcome TimeSpan :=
  ofTicks (-span.ticks) .spanNegation

def magnitude (span : TimeSpan) : Outcome TimeSpan :=
  if span.ticks < 0 then span.negate else .ok span

def order (left right : TimeSpan) : Ordering :=
  compare left.ticks right.ticks

def padded (width number : Nat) : List Char :=
  let digits := Nat.toDigits 10 number
  List.replicate (width - digits.length) '0' ++ digits

def toChars (span : TimeSpan) : List Char :=
  let ticks := span.ticks.natAbs
  let unit (perUnit : Int) (modulus : Nat) : List Char :=
    padded 2 (ticks / perUnit.toNat % modulus)
  let dayCount := ticks / ticksPerDay.toNat
  let fraction := ticks % ticksPerSecond.toNat
  (if span.ticks < 0 then ['-'] else []) ++
    (if dayCount = 0 then [] else Nat.toDigits 10 dayCount ++ ['.']) ++
    unit ticksPerHour 24 ++ ':' :: unit ticksPerMinute 60 ++ ':' :: unit ticksPerSecond 60 ++
    (if fraction = 0 then [] else '.' :: padded 7 fraction)

def toText (span : TimeSpan) : String :=
  String.ofList span.toChars

namespace Reading

def field? (text : List Char) : Option Int :=
  (Numeral.integerOf? .int64 text).map Integer.value

def fieldBelow? (bound : Int) (text : List Char) : Option Int :=
  (field? text).filter fun value => 0 ≤ value && value < bound

/-- One to seven digits after the point, as ticks. -/
def fraction? (digits : List Char) : Option Int :=
  if digits.length ≤ 7 then
    (Numeral.natural? digits).map fun value => (value * Nat.pow 10 (7 - digits.length) : Nat)
  else none

def daysAndHours? (text : List Char) : Option (Int × Int) :=
  match Text.cutAt? ['.'] text with
  | some (days, hours) => do
      let days ← (field? days).filter (0 ≤ ·)
      let hours ← fieldBelow? 24 hours
      return (days, hours)
  | none => (fieldBelow? 24 text).map fun hours => (0, hours)

def secondTicks? (text : List Char) : Option Int :=
  match Text.cutAt? ['.'] text with
  | some (seconds, digits) => do
      let seconds ← fieldBelow? 60 seconds
      let fraction ← fraction? digits
      return seconds * ticksPerSecond + fraction
  | none => (fieldBelow? 60 text).map (· * ticksPerSecond)

def clockTicks? (head minutes : List Char) (seconds : Option (List Char)) :
    Option Int := do
  let (days, hours) ← daysAndHours? head
  let minutes ← fieldBelow? 60 minutes
  let seconds ← (seconds.map secondTicks?).getD (some 0)
  return days * ticksPerDay + hours * ticksPerHour + minutes * ticksPerMinute + seconds

/-- The ticks of a text without its sign: a bare number counts days. -/
def ticks? (text : List Char) : Option Int :=
  match Text.splitOn [':'] text with
  | [days] => (field? days).map (· * ticksPerDay)
  | [head, minutes] => clockTicks? head minutes none
  | [head, minutes, seconds] => clockTicks? head minutes (some seconds)
  | _ => none

end Reading

def ofText? (text : List Char) : Option TimeSpan :=
  let trimmed := Text.trim text
  match Text.stripLeading? ['-'] trimmed with
  | some rest =>
      (Reading.ticks? rest).bind fun ticks =>
        (ofTicks? ticks).bind fun span => ofTicks? (-span.ticks)
  | none => (Reading.ticks? trimmed).bind ofTicks?

end TimeSpan

end Formula
