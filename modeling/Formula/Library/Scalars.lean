import Formula.Decimal.Text
import Formula.Library.Installation
import Formula.Library.Signature
import Formula.Number.Numeral
import Formula.Text.Case
import Formula.Text.Letters

/-!
Members of the scalar types: limits, reading from text, comparison and kinds of characters.
White space around a text that is read does not count.
-/

namespace Formula.Library

def parseNumber {α : Type} (read? : List Char → Option α) (text : String) : Outcome α :=
  match read? (Text.trim text.toList) with
  | some number => .ok number
  | none => .error (.malformed (.numeral text))

private def numeric {α : Type} (id : TypeId) (shape : Shape α) (least greatest : Value)
    (read? : List Char → Option α) (order : α → α → Option Ordering) : InstallationStep :=
  .extend id
    [.constant "MinValue" least, .constant "MaxValue" greatest]
    [function1 "Parse" (Shape.text.named "s") shape (parseNumber read?), compareTo shape order]

private def integral (kind : IntegerKind) : InstallationStep :=
  numeric (.ofScalar (.integer kind)) (.integer kind)
    (.integer (.wrap kind kind.least)) (.integer (.wrap kind kind.greatest))
    (fun text => (Numeral.integerOf? kind text).map Integer.value)
    (fun left right => some (compare left right))

private def singles : InstallationStep :=
  numeric .single .single (.single (Float32.ofBits 0xff7fffff))
    (.single (Float32.ofBits 0x7f7fffff)) Numeral.single? Number.singleOrder

private def doubles : InstallationStep :=
  numeric .double .double (.double (Float.ofBits 0xffefffffffffffff))
    (.double (Float.ofBits 0x7fefffffffffffff)) Numeral.double? Number.doubleOrder

private def decimals : InstallationStep :=
  numeric .decimal .decimal (.decimal .least) (.decimal .greatest) Decimal.ofText?
    fun left right => some (left.order right)

private def doubleTest (name : String) (test : Float → Bool) : Method :=
  function1 name (Shape.double.named "d") .boolean fun number => .ok (test number)

private def specialDoubles : InstallationStep :=
  .extend .double
    [ .constant "Epsilon" (.double (Float.ofBits 1)),
      .constant "NaN" (.double (Float.ofBits 0x7ff8000000000000)),
      .constant "PositiveInfinity" (.double (Float.ofBits 0x7ff0000000000000)),
      .constant "NegativeInfinity" (.double (Float.ofBits 0xfff0000000000000)) ]
    [ doubleTest "IsNaN" Float.isNaN, doubleTest "IsInfinity" Float.isInf,
      doubleTest "IsFinite" Float.isFinite ]

private def specialSingles : InstallationStep :=
  .extend .single
    [ .constant "Epsilon" (.single (Float32.ofBits 1)),
      .constant "NaN" (.single (Float32.ofBits 0x7fc00000)),
      .constant "PositiveInfinity" (.single (Float32.ofBits 0x7f800000)),
      .constant "NegativeInfinity" (.single (Float32.ofBits 0xff800000)) ]
    [ function1 "IsNaN" (Shape.single.named "f") .boolean fun number => .ok number.isNaN ]

private def specialDecimals : InstallationStep :=
  .extend .decimal
    [ .constant "Zero" (.decimal .zero), .constant "One" (.decimal .one),
      .constant "MinusOne" (.decimal .minusOne) ] []

def parseTruth (text : String) : Outcome Bool :=
  let name := (Text.trim text.toList).map Char.toLower
  if name == "true".toList then .ok true
  else if name == "false".toList then .ok false
  else .error (.malformed (.truthValue text))

private def truthValues : InstallationStep :=
  .extend .boolean
    [ .constant "TrueString" (.text (.shared "Boolean.TrueString") "True"),
      .constant "FalseString" (.text (.shared "Boolean.FalseString") "False") ]
    [ function1 "Parse" (Shape.text.named "value") .boolean parseTruth ]

private def characterTest (name : String) (test : Char → Bool) : Method :=
  function1 name (Shape.character.named "c") .boolean fun char => .ok (test char)

private def characterForm (name : String) (form : Char → List Char) : Method :=
  function1 name (Shape.character.named "c") .character fun char =>
    .ok ((form char).headD char)

private def characters : InstallationStep :=
  .extend .character
    [ .constant "MinValue" (.character (Char.ofNat 0)),
      .constant "MaxValue" (.character (Char.ofNat 0xffff)) ]
    [ characterTest "IsDigit" Char.isDigit, characterTest "IsLetter" Text.isLetter,
      characterTest "IsLetterOrDigit" Text.isLetterOrNumber,
      characterTest "IsWhiteSpace" Text.isBlank, characterTest "IsUpper" Text.isUpper,
      characterTest "IsLower" Text.isLower,
      characterTest "IsPunctuation" Text.isPunctuation,
      characterForm "ToUpper" Text.upperChar, characterForm "ToLower" Text.lowerChar ]

def scalars : List InstallationStep :=
  IntegerKind.all.map integral ++
    [singles, doubles, decimals, specialDoubles, specialSingles, specialDecimals, truthValues,
      characters]

end Formula.Library
