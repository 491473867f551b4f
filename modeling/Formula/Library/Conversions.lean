import Formula.Decimal.Arithmetic
import Formula.Decimal.Binary
import Formula.Library.Scalars
import Formula.Value.Text

/-!
Conversions between scalars and texts that look at the value and not at its type. A floating
point number is rounded to the nearest integer, a tie to the even one.
-/

namespace Formula.Library

private def refuse {α : Type} (value : Value) (target : Scalar) : Outcome α :=
  .error (.invalidCast value.kindName target.name)

private def orOverflow {α : Type} : Option α → Outcome α
  | some result => .ok result
  | none => .error .overflow

def nearestInteger (number : Float) : Outcome Int :=
  let rounded := Number.roundDouble number
  if rounded.abs < Number.doubleOfInt (Nat.pow 10 38) then
    orOverflow (Number.doubleDatum rounded).truncate?
  else .error .overflow

def wideInteger? (text : List Char) : Option Int :=
  (Numeral.integer? text).filter fun number =>
    -(1 <<< 127 : Nat) ≤ number && number < (1 <<< 127 : Nat)

def integerOf (target : Scalar) (value : Value) : Outcome Int :=
  match value.toInt? with
  | some number => .ok number
  | none =>
      match value with
      | .null => .ok 0
      | .boolean flag => .ok flag.toInt
      | .single number => nearestInteger number.toFloat
      | .double number => nearestInteger number
      | .decimal number => .ok number.round.toInt
      | .text _ text => parseNumber wideInteger? text
      | value => refuse value target

def toIntegerKind (kind : IntegerKind) (value : Value) : Outcome Int := do
  let number ← integerOf (.integer kind) value
  if kind.Holds number then return number else throw .overflow

def toDouble (value : Value) : Outcome Float :=
  match value.toInt? with
  | some number => .ok (Number.doubleOfInt number)
  | none =>
      match value with
      | .null => .ok 0
      | .boolean flag => .ok (if flag then 1 else 0)
      | .single number => .ok number.toFloat
      | .double number => .ok number
      | .decimal number => .ok number.toDouble
      | .text _ text => parseNumber Numeral.double? text
      | value => refuse value .double

def toDecimal (value : Value) : Outcome Decimal :=
  match value.toInt? with
  | some number => orOverflow (Decimal.ofInt? number)
  | none =>
      match value with
      | .null => .ok .zero
      | .boolean flag => .ok (if flag then .one else .zero)
      | .single number => orOverflow (Decimal.ofSingle? number)
      | .double number => orOverflow (Decimal.ofDouble? number)
      | .decimal number => .ok number
      | .text _ text => parseNumber Decimal.ofText? text
      | value => refuse value .decimal

def truthOfText (text : String) : Outcome Bool :=
  let name := String.ofList (Text.trim text.toList)
  if Text.sameName name "true" then .ok true
  else if Text.sameName name "false" then .ok false
  else .error (.malformed (.truthValue text))

/-- Everything but zero, null and the text for it is true. -/
def toBoolean (value : Value) : Outcome Bool :=
  match value.toInt? with
  | some number => .ok (number != 0)
  | none =>
      match value with
      | .null => .ok false
      | .boolean flag => .ok flag
      | .single number => .ok (number != 0)
      | .double number => .ok (number != 0)
      | .decimal number => .ok !number.isZero
      | .text _ text => truthOfText text
      | value => refuse value .boolean

def characterOf (number : Int) : Outcome Char :=
  if 0 ≤ number ∧ number < 65536 ∧ number.toNat.isValidChar then .ok (Char.ofNat number.toNat)
  else .error .overflow

def toCharacter : Value → Outcome Char
  | .null => .ok (Char.ofNat 0)
  | .character char => .ok char
  | .text _ text =>
      match text.toList with
      | [char] => .ok char
      | _ => .error (.malformed .characterCount)
  | .integer number => characterOf number.value
  | value => refuse value .character

private def converter {α : Type} (name : String) (result : Shape α)
    (convert : Value → Outcome α) : Method :=
  function1 name (Shape.any.named "value") result convert

def convertEntry : TypeEntry :=
  (TypeEntry.declare "System" "Convert" .staticType).addMethods
    [ converter "ToInt32" .int32 (toIntegerKind .int32),
      converter "ToInt64" .int64 (toIntegerKind .int64),
      converter "ToDouble" .double toDouble,
      converter "ToDecimal" .decimal toDecimal,
      converter "ToBoolean" .boolean toBoolean,
      converter "ToChar" .character toCharacter,
      converter "ToString" .text fun value => .ok value.toText ]

def conversions : List InstallationStep :=
  [.register convertEntry]

end Formula.Library
