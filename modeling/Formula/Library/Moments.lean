import Formula.Library.Spans
import Formula.Time.Reading

/-!
Members of instants on the calendar. The universal time that it is now and the zone of the local
clock come from outside.
-/

namespace Formula.Library

private def clocks (zone : TimeZone) (now : DateTime) : List Member :=
  let clock (name : String) (moment : DateTime) : Member :=
    .staticProperty name Shape.moment.type fun call =>
      .ok (Shape.moment.write call.site moment)
  [ clock "Now" (now.onClockOf zone),
    clock "UtcNow" { now with kind := .universal },
    clock "Today" (now.onClockOf zone).date ]

private def limit (name : String) (ticks : Int) (kind : DateTimeKind) : Member :=
  .staticField name Shape.moment.type fun call => do
    return Shape.moment.write call.site (← DateTime.ofTicks ticks kind)

private def limits : List Member :=
  [ limit "MinValue" 0 .unspecified,
    limit "MaxValue" DateTime.greatestTicks .unspecified,
    limit "UnixEpoch" DateTime.unixEpochTicks .universal ]

private def part (name : String) (read : DateTime → Int) : Member :=
  property name .moment .int32 read

private def parts : List Member :=
  [ part "Year" fun moment => moment.calendarDate.year,
    part "Month" fun moment => moment.calendarDate.month,
    part "Day" fun moment => moment.calendarDate.day,
    part "DayOfYear" fun moment => Calendar.dayOfYear moment.day,
    part "Hour" fun moment => moment.hour,
    part "Minute" fun moment => moment.minute,
    part "Second" fun moment => moment.secondOfMinute,
    part "Millisecond" fun moment => moment.millisecond,
    property "DayOfWeek" .moment (.flags .dayOfWeek) fun moment =>
      Calendar.dayOfWeek moment.day,
    property "Kind" .moment (.flags .dateTimeKind) fun moment => moment.kind.bits,
    property "Ticks" .moment .int64 DateTime.ticks,
    property "Date" .moment .moment DateTime.date,
    property "TimeOfDay" .moment .span DateTime.timeOfDay ]

def momentMakers (zone : TimeZone) : List Method :=
  [ function1 "Parse" (Shape.text.named "s") .moment
      (DateTime.ofText zone),
    function1 "IsLeapYear" (Shape.int32.named "year") .boolean Calendar.leapYear,
    function2 "DaysInMonth" (Shape.int32.named "year") (Shape.int32.named "month") .int32
      fun year month => Int.ofNat <$> Calendar.monthLength year month,
    function2 "SpecifyKind" (Shape.moment.named "value")
      ((Shape.flags .dateTimeKind).named "kind") .moment fun moment bits =>
      .ok { moment with kind := .ofBits bits },
    function2 "Compare" (Shape.moment.named "t1") (Shape.moment.named "t2") .int32
      fun left right => .ok (signOf (left.order right)) ]

def addUnits (moment : DateTime) (count : Float) (ticksPerUnit : Int) : Outcome DateTime :=
  match TimeSpan.ofUnits count ticksPerUnit with
  | .ok span => moment.shift span
  | .error _ => .error (.malformed .dateOutOfRange)

def addTicks (moment : DateTime) (ticks : Int) : Outcome DateTime :=
  DateTime.ofTicks (moment.ticks + ticks) moment.kind

def subtractSpan (moment : DateTime) (span : TimeSpan) : Outcome DateTime := do
  moment.shift (← span.negate)

def momentMovements (zone : TimeZone) : List Method :=
  timeUnits.map (fun (unit, ticks) =>
    method1 ("Add" ++ unit) .moment (Shape.double.named "value") .moment fun moment count =>
      addUnits moment count ticks) ++
  [ method1 "AddTicks" .moment (Shape.int64.named "value") .moment addTicks,
    method1 "AddMonths" .moment (Shape.int32.named "months") .moment DateTime.addMonths,
    method1 "AddYears" .moment (Shape.int32.named "value") .moment DateTime.addYears,
    method1 "Add" .moment (Shape.span.named "value") .moment DateTime.shift,
    method1 "Subtract" .moment (Shape.span.named "value") .moment subtractSpan,
    method1 "Subtract" .moment (Shape.moment.named "value") .span fun left right =>
      .ok (left.difference right),
    method0 "ToUniversalTime" .moment .moment (DateTime.toUniversal zone),
    method0 "ToLocalTime" .moment .moment (DateTime.toLocal zone) ]

def momentOperators : List Method :=
  [ function2 "op_Addition" (Shape.moment.named "d") (Shape.span.named "t") .moment
      DateTime.shift,
    function2 "op_Subtraction" (Shape.moment.named "d") (Shape.span.named "t") .moment
      subtractSpan,
    function2 "op_Subtraction" (Shape.moment.named "d1") (Shape.moment.named "d2") .span
      fun left right => .ok (left.difference right) ]

def momentMethods (zone : TimeZone) : List Method :=
  momentMakers zone ++ momentMovements zone ++ momentOperators ++
    equalities .moment DateTime.order ++ inequalities .moment DateTime.order

def momentEntry (zone : TimeZone) (now : DateTime) : TypeEntry :=
  ((TypeEntry.declare "System" "DateTime" .structType).addMembers
    (clocks zone now ++ limits ++ parts)).addMethods (momentMethods zone)

def times (zone : TimeZone) (now : DateTime) : List InstallationStep :=
  [.register dateTimeKind, .register spanEntry, .register (momentEntry zone now)]

end Formula.Library
