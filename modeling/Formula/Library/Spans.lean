import Formula.Library.Enumerations
import Formula.Library.Signature

/-!
Members of spans of time.
-/

namespace Formula.Library

def timeUnits : List (String × Int) :=
  [ ("Days", TimeSpan.ticksPerDay), ("Hours", TimeSpan.ticksPerHour),
    ("Minutes", TimeSpan.ticksPerMinute), ("Seconds", TimeSpan.ticksPerSecond),
    ("Milliseconds", TimeSpan.ticksPerMillisecond) ]

private def fixed (name : String) (value : TimeSpan) : Member :=
  .staticField name Shape.span.type
    (.constant (.object (.shared ("TimeSpan." ++ name)) .timeSpan (.span value)))

private def unitConstant (name : String) (ticks : Int) : Member :=
  .constant name (.int64 ticks)

private def spanMembers : List Member :=
  [ fixed "Zero" .zero, fixed "MinValue" .least, fixed "MaxValue" .greatest,
    unitConstant "TicksPerMillisecond" TimeSpan.ticksPerMillisecond,
    unitConstant "TicksPerSecond" TimeSpan.ticksPerSecond,
    unitConstant "TicksPerMinute" TimeSpan.ticksPerMinute,
    unitConstant "TicksPerHour" TimeSpan.ticksPerHour,
    unitConstant "TicksPerDay" TimeSpan.ticksPerDay ] ++
  timeUnits.map (fun (unit, ticks) =>
    property ("Total" ++ unit) .span .double fun span => span.total ticks) ++
  [ property "Days" .span .int32 TimeSpan.days, property "Hours" .span .int32 TimeSpan.hours,
    property "Minutes" .span .int32 TimeSpan.minutes,
    property "Seconds" .span .int32 TimeSpan.seconds,
    property "Milliseconds" .span .int32 TimeSpan.milliseconds,
    property "Ticks" .span .int64 TimeSpan.ticks ]

/-- A span of any number of ticks that 64 bits hold, which is all that is asked for. -/
def spanOfText (text : String) : Outcome TimeSpan :=
  match TimeSpan.ofText? text.toList with
  | some span => .ok span
  | none => .error (.malformed .spanText)

private def spanMakers : List Method :=
  timeUnits.map (fun (unit, ticks) =>
    function1 ("From" ++ unit) (Shape.double.named "value") .span fun count =>
      TimeSpan.ofUnits count ticks) ++
  [ function1 "FromTicks" (Shape.int64.named "value") .span fun ticks =>
      .ok (.wrap ticks),
    function1 "Parse" (Shape.text.named "input") .span spanOfText ]

private def arithmetic (name operator : String)
    (apply : TimeSpan → TimeSpan → Outcome TimeSpan) : List Method :=
  [ method1 name .span (Shape.span.named "ts") .span apply,
    function2 operator (Shape.span.named "t1") (Shape.span.named "t2") .span apply ]

private def spanMethods : List Method :=
  spanMakers ++ arithmetic "Add" "op_Addition" TimeSpan.add ++
    arithmetic "Subtract" "op_Subtraction" TimeSpan.subtract ++
    [ method0 "Negate" .span .span TimeSpan.negate,
      method0 "Duration" .span .span TimeSpan.magnitude,
      function1 "op_UnaryNegation" (Shape.span.named "t") .span TimeSpan.negate,
      function1 "op_UnaryPlus" (Shape.span.named "t") .span .ok,
      compareTo .span fun left right => some (left.order right) ] ++
    equalities .span TimeSpan.order ++ inequalities .span TimeSpan.order

def spanEntry : TypeEntry :=
  ((TypeEntry.declare "System" "TimeSpan" .structType).addMembers spanMembers).addMethods
    spanMethods

end Formula.Library
