import Formula.Number.Integer

/-!
The kinds of scalar: truth values, characters, integers of eight kinds, two binary floating
point formats and decimal numbers.
-/

namespace Formula

inductive Scalar where
  | boolean
  | character
  | integer (kind : IntegerKind)
  | single
  | double
  | decimal
deriving DecidableEq, Repr

namespace Scalar

def int32 : Scalar := .integer .int32

def all : List Scalar :=
  [boolean, character] ++ IntegerKind.all.map integer ++ [single, double, decimal]

def name : Scalar → String
  | boolean => "Boolean"
  | character => "Char"
  | integer .int8 => "SByte"
  | integer .uint8 => "Byte"
  | integer .int16 => "Int16"
  | integer .uint16 => "UInt16"
  | integer .int32 => "Int32"
  | integer .uint32 => "UInt32"
  | integer .int64 => "Int64"
  | integer .uint64 => "UInt64"
  | single => "Single"
  | double => "Double"
  | decimal => "Decimal"

def isNumeric (kind : Scalar) : Bool :=
  kind != boolean

def integerKind? : Scalar → Option IntegerKind
  | integer kind => some kind
  | _ => none

def isInteger (kind : Scalar) : Bool :=
  kind.integerKind?.isSome

def isSigned : Scalar → Bool
  | integer kind => kind.isSigned
  | single | double | decimal => true
  | boolean | character => false

def isFloating : Scalar → Bool
  | single | double => true
  | _ => false

def isSmallInteger (kind : Scalar) : Bool :=
  kind.integerKind?.any IntegerKind.isSmall

/-- The width in bits of what holds an integer; a character has 16. -/
def width? : Scalar → Option Nat
  | integer kind => some kind.width
  | character => some 16
  | _ => none

end Scalar

end Formula
