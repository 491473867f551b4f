import Formula.Decimal.Arithmetic
import Formula.Library.Installation
import Formula.Library.Signature

/-!
Mathematical constants and functions. The greater and the lesser of two floating point numbers
are not numbers if one of them is not.
-/

namespace Formula.Library

private def notANumber : Float := Float.ofBits 0x7ff8000000000000

def greaterDouble (left right : Float) : Float :=
  if left.isNaN || right.isNaN then notANumber else if left < right then right else left

def lesserDouble (left right : Float) : Float :=
  if left.isNaN || right.isNaN then notANumber else if right < left then right else left

private def viaDouble (apply : Float → Float → Float) (left right : Float32) : Float32 :=
  (apply left.toFloat right.toFloat).toFloat32

/-- To so many places after the point, or before it; a tie goes to the even neighbour. -/
def roundToPlaces (number : Float) (places : Int) : Float :=
  if places = 0 then Number.roundDouble number
  else
    let scale := Number.powerOfDouble 10 places
    Number.roundDouble (number * scale) / scale

private def logarithm (number base : Float) : Float :=
  number.log / base.log

def absolute (kind : IntegerKind) (number : Int) : Outcome Int :=
  if kind.Holds number.natAbs then .ok number.natAbs else .error .overflow

def signOfDouble (number : Float) : Outcome Int :=
  match Number.doubleOrder number 0 with
  | some order => .ok (signOf order)
  | none => .error (.malformed .signOfNotANumber)

def clamp (number low high : Int) : Int :=
  min (max number low) high

section

variable {α β : Type}

private def unary (name : String) (shape : Shape α) (result : Shape β) (apply : α → β) :
    Method :=
  function1 name (shape.named "x") result fun number => .ok (apply number)

private def binary (name : String) (shape : Shape α) (apply : α → α → α) : Method :=
  function2 name (shape.named "val1") (shape.named "val2") shape fun left right =>
    .ok (apply left right)

end

private def absoluteOf (kind : IntegerKind) : Method :=
  function1 "Abs" ((Shape.integer kind).named "x") (.integer kind) (absolute kind)

private def absolutes : List Method :=
  [.int8, .int16, .int32, .int64].map absoluteOf ++
    [ unary "Abs" .single .single Float32.abs, unary "Abs" .double .double Float.abs,
      unary "Abs" .decimal .decimal Decimal.magnitude ]

private def integerExtremes (kind : IntegerKind) : List Method :=
  [binary "Max" (.integer kind) max, binary "Min" (.integer kind) min]

private def singleExtremes : List Method :=
  [ binary "Max" .single (viaDouble greaterDouble),
    binary "Min" .single (viaDouble lesserDouble) ]

private def extremes : List Method :=
  [IntegerKind.uint8, .int8, .int16, .uint16, .int32, .uint32, .int64, .uint64].flatMap
      integerExtremes ++
    [ binary "Max" .decimal fun left right => if left.order right = .lt then right else left,
      binary "Min" .decimal fun left right => if left.order right = .gt then right else left ] ++
    singleExtremes ++
    [binary "Max" .double greaterDouble, binary "Min" .double lesserDouble]

private def signs : List Method :=
  [ unary "Sign" .int32 .int32 Int.sign, unary "Sign" .int64 .int32 Int.sign,
    unary "Sign" .decimal .int32 fun number => signOf (number.order .zero),
    function1 "Sign" (Shape.double.named "x") .int32 signOfDouble ]

private def doubleFunctions : List Method :=
  [ ("Sqrt", Float.sqrt), ("Exp", Float.exp), ("Log", Float.log), ("Log10", Float.log10),
    ("Log2", Float.log2), ("Sin", Float.sin), ("Cos", Float.cos), ("Tan", Float.tan),
    ("Atan", Float.atan), ("Floor", Float.floor), ("Ceiling", Float.ceil),
    ("Truncate", Number.truncateDouble), ("Round", Number.roundDouble) ].map
      (fun (name, apply) => unary name .double .double apply) ++
    [ binary "Pow" .double Float.pow, binary "Atan2" .double Float.atan2,
      binary "Log" .double logarithm,
      function2 "Round" (Shape.double.named "value") (Shape.int32.named "digits") .double
        fun number places => .ok (roundToPlaces number places) ]

private def decimalFunctions : List Method :=
  [ unary "Floor" .decimal .decimal Decimal.floor,
    unary "Ceiling" .decimal .decimal Decimal.ceiling,
    unary "Truncate" .decimal .decimal Decimal.truncate,
    unary "Round" .decimal .decimal Decimal.round ]

private def clampOf {α : Type} (shape : Shape α) (apply : α → α → α → α) : Method :=
  function3 "Clamp" (shape.named "value") (shape.named "min") (shape.named "max") shape
    fun number low high => .ok (apply number low high)

def mathEntry : TypeEntry :=
  ((TypeEntry.declare "System" "Math" .staticType).addMembers
    [ .constant "PI" (.double (Float.ofBits 0x400921fb54442d18)),
      .constant "E" (.double (Float.ofBits 0x4005bf0a8b145769)),
      .constant "Tau" (.double (Float.ofBits 0x401921fb54442d18)) ]).addMethods
    (absolutes ++ extremes ++ signs ++ doubleFunctions ++ decimalFunctions ++
      [ clampOf .int32 clamp,
        clampOf .double fun number low high => lesserDouble (greaterDouble number low) high ])

def singleMathEntry : TypeEntry :=
  ((TypeEntry.declare "System" "MathF" .staticType).addMembers
    [ .constant "PI" (.single (Float32.ofBits 0x40490fdb)),
      .constant "E" (.single (Float32.ofBits 0x402df854)) ]).addMethods
    ([ unary "Abs" .single .single Float32.abs, unary "Sqrt" .single .single Float32.sqrt,
       unary "Floor" .single .single Float32.floor,
       unary "Ceiling" .single .single Float32.ceil,
       unary "Round" .single .single Number.roundSingle,
       unary "Truncate" .single .single Number.truncateSingle ] ++
      singleExtremes ++ [binary "Pow" .single Float32.pow])

def mathematics : List InstallationStep :=
  [.register mathEntry, .register singleMathEntry]

end Formula.Library
