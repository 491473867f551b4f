import Formula.Time.DateTime

/-!
Reading instants: ISO 8601 with an offset, or one of six layouts without. A layout is a list of
items; each takes what it can from the front of the text and the last one leaves nothing.
-/

namespace Formula

namespace DateTime.Reading

inductive Item where
  | year
  | month
  | day
  | hour
  | minute
  | second
  | fraction
  | mark (char : Char)
  | gap

structure Fields where
  year : Int := 1
  month : Int := 1
  day : Int := 1
  hour : Int := 0
  minute : Int := 0
  second : Int := 0
  nanosecond : Int := 0

/-- Reads at least `fewest` and at most `most` digits from the front. -/
def number? (fewest most : Nat) (text : List Char) : Option (Int × List Char) :=
  let digits := (text.take most).takeWhile Char.isDigit
  if digits.length < fewest then none
  else some ((Numeral.ofDigits digits : Nat), text.drop digits.length)

def inRange (low high : Int) (value : Int) : Option Int :=
  if low ≤ value ∧ value ≤ high then some value else none

def small? (low high : Int) (text : List Char) : Option (Int × List Char) := do
  let (value, rest) ← number? 1 2 (Text.trimStart text)
  return (← inRange low high value, rest)

/-- Four digits at most, or any number of them after a sign. -/
def year? (text : List Char) : Option (Int × List Char) := do
  let text := Text.trimStart text
  let (value, rest) ←
    match text with
    | '-' :: digits => (number? 1 digits.length digits).map fun (value, rest) => (-value, rest)
    | '+' :: digits => number? 1 digits.length digits
    | _ => number? 1 4 text
  return (← inRange Calendar.leastYear Calendar.greatestYear value, rest)

/-- Nine digits count; more are passed over. -/
def nanoseconds? (text : List Char) : Option (Int × List Char) := do
  let (value, rest) ← number? 1 9 text
  let places := text.length - rest.length
  return (value * Nat.pow 10 (9 - places), rest.dropWhile Char.isDigit)

def Item.read (item : Item) (fields : Fields) (text : List Char) :
    Option (Fields × List Char) :=
  match item with
  | .year => (year? text).map fun (value, rest) => ({ fields with year := value }, rest)
  | .month => (small? 1 12 text).map fun (value, rest) => ({ fields with month := value }, rest)
  | .day => (small? 1 31 text).map fun (value, rest) => ({ fields with day := value }, rest)
  | .hour => (small? 0 23 text).map fun (value, rest) => ({ fields with hour := value }, rest)
  | .minute =>
      (small? 0 59 text).map fun (value, rest) => ({ fields with minute := value }, rest)
  | .second =>
      (small? 0 60 text).map fun (value, rest) => ({ fields with second := value }, rest)
  | .fraction =>
      match text with
      | '.' :: digits =>
          (nanoseconds? digits).map fun (value, rest) =>
            ({ fields with nanosecond := value }, rest)
      | _ => some (fields, text)
  | .mark char => (Text.stripLeading? [char] text).map fun rest => (fields, rest)
  | .gap => some (fields, Text.trimStart text)

/-- A second numbered sixty is a leap second, kept as nanoseconds past the one before. -/
def Fields.moment? (fields : Fields) (kind : DateTimeKind) : Option DateTime :=
  let date : Date := ⟨fields.year, fields.month.toNat, fields.day.toNat⟩
  let leap := fields.second = 60
  let second := if leap then 59 else fields.second
  if Calendar.isValid date then
    some
      { day := Calendar.dayNumber date
        second := (fields.hour * 3600 + fields.minute * 60 + second).toNat
        nanosecond := (fields.nanosecond + if leap then 1000000000 else 0).toNat
        kind := kind }
  else none

def readItems (fields : Fields) (text : List Char) : List Item → Option Fields
  | [] => if text.isEmpty then some fields else none
  | item :: items => (item.read fields text).bind fun (fields, rest) => readItems fields rest items

def isoDate : List Item := [.year, .mark '-', .month, .mark '-', .day]
def slashDate : List Item := [.month, .mark '/', .day, .mark '/', .year]
def clock : List Item := [.hour, .mark ':', .minute, .mark ':', .second]

def layouts : List (List Item) :=
  [ isoDate ++ .mark 'T' :: clock ++ [.fraction],
    isoDate ++ .gap :: clock ++ [.fraction],
    isoDate ++ [.mark 'T', .hour, .mark ':', .minute],
    slashDate ++ .gap :: clock,
    isoDate,
    slashDate ]

def unspecified? (text : List Char) : Option DateTime :=
  layouts.findSome? fun layout =>
    (readItems {} text layout).bind (·.moment? .unspecified)

def offset? (text : List Char) : Option Int := do
  match text with
  | ['Z'] | ['z'] => return 0
  | sign :: digits =>
      let (hours, rest) ← number? 2 2 digits
      let minutes ← Text.stripLeading? [':'] rest
      let (minutes, rest) ← number? 2 2 minutes
      let seconds := hours * 3600 + (← inRange 0 59 minutes) * 60
      if !rest.isEmpty ∨ 86400 ≤ seconds then none
      else if sign = '+' then return seconds
      else if sign = '-' ∨ sign.toNat = 0x2212 then return -seconds
      else none
  | [] => none

def fixedWidth? (low high : Int) (width : Nat) (text : List Char) :
    Option (Int × List Char) := do
  let (value, rest) ← number? width width text
  return (← inRange low high value, rest)

/-- Every field in its full width, and an offset behind; the result is on the clock of the zone. -/
def withOffset? (zone : TimeZone) (text : List Char) : Option DateTime := do
  let (year, rest) ← fixedWidth? 0 9999 4 text
  let (month, rest) ← fixedWidth? 1 12 2 (← Text.stripLeading? ['-'] rest)
  let (day, rest) ← fixedWidth? 1 31 2 (← Text.stripLeading? ['-'] rest)
  let separator ← rest.head?
  guard (separator ∈ ['T', 't', ' '])
  let (hour, rest) ← fixedWidth? 0 23 2 rest.tail
  let (minute, rest) ← fixedWidth? 0 59 2 (← Text.stripLeading? [':'] rest)
  let (second, rest) ← fixedWidth? 0 60 2 (← Text.stripLeading? [':'] rest)
  let (nanosecond, rest) ←
    match rest with
    | '.' :: digits => nanoseconds? digits
    | _ => some (0, rest)
  let offset ← offset? rest
  let moment ← Fields.moment? ⟨year, month, day, hour, minute, second, nanosecond⟩ .universal
  return (moment.ahead (-offset)).onClockOf zone

end DateTime.Reading

/-- White space around the text does not count. A text that names a time outside the years 1 to
9999 is out of range rather than unreadable. -/
def DateTime.ofText (zone : TimeZone) (text : String) : Outcome DateTime :=
  let trimmed := Text.trim text.toList
  match (Reading.withOffset? zone trimmed).orElse fun _ => Reading.unspecified? trimmed with
  | some moment => checked moment
  | none => .error (.malformed (.dateText text))

end Formula
