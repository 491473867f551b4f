import Formula.Entry
import Formula.Time.DateTime

/-!
Shapes: how the bodies of library members read their arguments and write their results. A shape
joins a data type to what a body works with in its place.
-/

namespace Formula

/-- A way to read values as something of type `α`, and to make values of it. -/
structure Shape (α : Type) where
  type : DataType
  /-- What a complaint about an argument of another shape calls this one. -/
  label : String
  read? : Value → Option α
  write : List Nat → α → Value

namespace Shape

def any : Shape Value :=
  { type := .object, label := "Object", read? := some, write := fun _ value => value }

private def ofKind {α : Type} (kind : Scalar) (read? : Value → Option α)
    (make : α → Value) : Shape α :=
  { type := .ofScalar kind, label := kind.name, read? := read?, write := fun _ => make }

def boolean : Shape Bool :=
  ofKind .boolean (fun | .boolean value => some value | _ => none) .boolean

def character : Shape Char :=
  ofKind .character (fun | .character value => some value | _ => none) .character

def integer (kind : IntegerKind) : Shape Int :=
  ofKind (.integer kind)
    (fun
      | .integer value => if value.kind = kind then some value.value else none
      | _ => none)
    (fun value => .integer (.wrap kind value))

def int32 : Shape Int := integer .int32

def int64 : Shape Int := integer .int64

def single : Shape Float32 :=
  ofKind .single (fun | .single value => some value | _ => none) .single

def double : Shape Float :=
  ofKind .double (fun | .double value => some value | _ => none) .double

def decimal : Shape Decimal :=
  ofKind .decimal (fun | .decimal value => some value | _ => none) .decimal

/-- The bits of an enumeration value; anything else has none of them set. -/
def flags (id : TypeId) : Shape Int :=
  { type := .plain id
    label := "Object"
    read? := fun | .enumeration _ bits => some bits.toInt | _ => some 0
    write := fun _ bits => .enumeration id (.ofInt bits) }

def text : Shape String :=
  { type := .string
    label := "String"
    read? := fun | .text _ value => some value | _ => none
    write := fun site value => .text (.made site 0) value }

def texts : Shape (List String) :=
  { type := DataType.string.arrayOf
    label := "Array"
    read? := fun
      | .array _ _ items =>
          items.mapM fun | .text _ value => some value | _ => none
      | _ => none
    write := fun site values =>
      .array (.made site 0) .string
        (values.zipIdx.map fun (value, index) => .text (.made site (index + 1)) value) }

def items : Shape (List Value) :=
  { type := .plain .array
    label := "Array"
    read? := Value.items?
    write := fun site values => .array (.made site 0) .object values }

private def ofContent {α : Type} (id : TypeId) (label : String)
    (read? : Content → Option α) (make : α → Content) : Shape α :=
  { type := .plain id
    label := label
    read? := fun | .object _ _ content => read? content | _ => none
    write := fun site value => .object (.made site 0) id (make value) }

def span : Shape TimeSpan :=
  ofContent .timeSpan "TimeSpan" (fun | .span value => some value | _ => none) .span

def moment : Shape DateTime :=
  ofContent .dateTime "DateTime" (fun | .moment value => some value | _ => none) .moment

def guid : Shape Guid :=
  ofContent .guid "Guid" (fun | .guid value => some value | _ => none) .guid

def orNull {α : Type} (shape : Shape α) : Shape (Option α) :=
  { type := shape.type
    label := shape.label
    read? := fun value => if value.isNull then some none else (shape.read? value).map some
    write := fun site value =>
      match value with
      | some value => shape.write site value
      | none => .null }

end Shape

namespace Invocation

private def readAs {α : Type} (shape : Shape α) (index : Nat) (value : Value) : Outcome α :=
  match shape.read? value with
  | some result => .ok result
  | none => .error (.argumentType index shape.label value.kindName)

/-- An argument in a shape. A missing argument is null. -/
def argument {α : Type} (call : Invocation) (index : Nat) (shape : Shape α) : Outcome α :=
  readAs shape index (call.arguments[index]?.getD .null)

def self {α : Type} (call : Invocation) (shape : Shape α) : Outcome α :=
  match call.receiver with
  | none | some .null => .error .nullReference
  | some value => readAs shape 0 value

end Invocation

end Formula
