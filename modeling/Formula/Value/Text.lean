import Formula.Decimal.Text
import Formula.Hash.Sip13
import Formula.Number.Shortest
import Formula.Value.Basic

/-!
The texts of values: the text that a program sees, the text that a diagnostic shows, and the
hash code, which is taken from the former.
-/

namespace Formula

namespace Content

def toText : Content → String
  | fields _ => "System.Object"
  | label payload => payload.toText
  | span value => value.toText
  | moment value => value.toText
  | guid value => value.toText

end Content

namespace Value

/-- The invariant text; null has none. -/
def toText : Value → String
  | null => ""
  | boolean true => "True"
  | boolean false => "False"
  | character value => value.toString
  | integer value => toString value.value
  | single value => BinaryFormat.single.plainText (Number.singleDatum value)
  | double value => BinaryFormat.double.plainText (Number.doubleDatum value)
  | decimal value => value.toText
  | text _ value => value
  | enumeration _ bits => toString bits.toInt
  | array _ _ _ => "System.Array"
  | object _ _ content => content.toText
  | function _ _ _ => "System.Delegate"

private def integerLabel : IntegerKind → String
  | .int8 => "Int8"
  | .uint8 => "UInt8"
  | .int16 => "Int16"
  | .uint16 => "UInt16"
  | .int32 => "Int32"
  | .uint32 => "UInt32"
  | .int64 => "Int64"
  | .uint64 => "UInt64"

private def labelled (label body : String) : String :=
  label ++ "(" ++ body ++ ")"

mutual

def diagnosticText : Value → String
  | null => "Null"
  | boolean value => labelled "Bool" (if value then "true" else "false")
  | character value => labelled "Char" (Text.quoteChar value)
  | integer value => labelled (integerLabel value.kind) (toString value.value)
  | single value =>
      labelled "Float" (BinaryFormat.single.diagnosticText (Number.singleDatum value))
  | double value =>
      labelled "Double" (BinaryFormat.double.diagnosticText (Number.doubleDatum value))
  | decimal value => labelled "Decimal" value.toText
  | text _ value => labelled "String" (Text.quoteText value)
  | enumeration type bits =>
      labelled "Enum" (type.diagnosticText ++ ", " ++ toString bits.toInt)
  | array _ _ items => "[" ++ ", ".intercalate (diagnosticTexts items) ++ "]"
  | object _ type _ => labelled "Object" type.diagnosticText
  | function _ type _ => labelled "Delegate" type.diagnosticText

def diagnosticTexts : List Value → List String
  | [] => []
  | item :: items => diagnosticText item :: diagnosticTexts items

end

/-- The low 32 bits of a digest of the text, as a signed number. -/
def hashCode (value : Value) : Int32 :=
  (Hash.sip13 (value.toText.toUTF8.toList ++ [0xff])).toUInt32.toInt32

end Value

end Formula
