import Formula.Library.Installation
import Formula.Library.Signature
import Formula.Value.Text

/-!
The members that every type inherits from the root of the hierarchy, and those of arrays.
-/

namespace Formula.Library

def objects : List InstallationStep :=
  [ .extend .object []
      [ method0 "ToString" .any .text fun value => .ok value.toText,
        method1 "Equals" .any (Shape.any.named "obj") .boolean fun value other =>
          .ok (value.same other),
        method0 "GetHashCode" .any .int32 fun value => .ok value.hashCode.toInt,
        function2 "Equals" (Shape.any.named "objA") (Shape.any.named "objB") .boolean
          fun left right => .ok (left.same right),
        function2 "ReferenceEquals" (Shape.any.named "objA") (Shape.any.named "objB") .boolean
          fun left right => .ok (left.identical right) ] ]

def itemAt (items : List Value) (index : Int) : Outcome Value :=
  if 0 ≤ index then
    match items[index.toNat]? with
    | some item => .ok item
    | none => .error .indexOutOfRange
  else .error .indexOutOfRange

/-- Every array has one dimension; one with more is an array of arrays. -/
def arrays : List InstallationStep :=
  [ .extend .array
      [ property "Length" .items .int32 fun items => items.length,
        property "Rank" .items .int32 fun _ => 1 ]
      [ method1 "GetValue" .items (Shape.int32.named "index") .any itemAt,
        method1 "Contains" .items (Shape.any.named "value") .boolean fun items value =>
          .ok (items.any fun item => item.same value) ] ]

end Formula.Library
