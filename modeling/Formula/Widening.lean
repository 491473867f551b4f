import Formula.DataType

/-!
Which scalar kinds turn into which without a cast. Integers widen to wider integers and to
floating point numbers, never to decimal ones, and signed integers never to unsigned ones. Text
takes part only to convert to itself.
-/

namespace Formula

namespace Scalar

def floating : List Scalar := [single, double]

def widenings : Scalar → List Scalar
  | character =>
      [character, integer .uint16, integer .uint32, integer .int32, integer .uint64,
        integer .int64] ++ floating
  | integer .int8 =>
      [integer .int8, integer .int16, integer .int32, integer .int64] ++ floating
  | integer .uint8 =>
      [integer .uint8, character, integer .uint16, integer .int16, integer .uint32,
        integer .int32, integer .uint64, integer .int64] ++ floating
  | integer .int16 => [integer .int16, integer .int32, integer .int64] ++ floating
  | integer .uint16 =>
      [integer .uint16, integer .uint32, integer .int32, integer .uint64, integer .int64] ++
        floating
  | integer .int32 => [integer .int32, integer .int64] ++ floating
  | integer .uint32 => [integer .uint32, integer .uint64, integer .int64] ++ floating
  | integer .int64 => integer .int64 :: floating
  | integer .uint64 => integer .uint64 :: floating
  | single => floating
  | kind => [kind]

def slot (kind : Scalar) : Nat :=
  all.findIdx (· = kind)

def wideningBits (kind : Scalar) : Nat :=
  kind.widenings.foldl (fun bits target => bits ||| 1 <<< target.slot) 0

end Scalar

namespace DataType

def slotBit? (type : DataType) : Option Nat :=
  if type.isString then some (1 <<< Scalar.all.length)
  else type.scalar?.map fun kind => 1 <<< kind.slot

def widensTo (source target : DataType) : Bool :=
  match source.scalar?, target.scalar? with
  | some narrow, some wide => narrow.widenings.contains wide
  | _, _ => source.isString && target.isString

end DataType

end Formula
