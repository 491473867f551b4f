import Formula.DataType
import Formula.Decimal.Basic
import Formula.Guid
import Formula.Time.DateTime

/-!
The values of the language. Scalars and enumeration values are what they hold. Texts, arrays,
objects and functions also have an origin: two of them are one and the same when they have the
same origin, and a copy keeps it. What the host brings in compares, prints and answers in ways of
its own.
-/

namespace Formula

/-- Where a value with an identity comes from. -/
inductive Origin where
  | given (number : Nat)
  | shared (name : String)
  /-- Made while a tree is evaluated: the path to the node, from the node up, and the number of
  the value among those that the node makes. -/
  | made (site : List Nat) (number : Nat)
deriving DecidableEq, Repr

/-- A type of the host's whose values compare and print in their own way. -/
structure HostType where
  number : Nat
  equals : String → String → Bool
  text : String → String

structure Payload where
  type : HostType
  item : String

def HostType.texts : HostType where
  number := 0
  equals left right := left == right
  text item := item

instance : Coe String Payload where
  coe text := { type := .texts, item := text }

/-- All that can be seen of a value from outside: how a function answers cannot. -/
inductive Datum where
  | null
  | boolean (value : Bool)
  | character (value : Char)
  | integer (value : Integer)
  | single (value : Float32)
  | double (value : Float)
  | decimal (value : Decimal)
  | text (origin : Origin) (value : String)
  | enumeration (type : TypeId) (bits : Int64)
  | array (origin : Origin) (element : DataType) (items : List Datum)
  | fields (origin : Origin) (type : TypeId) (fields : List (String × Datum))
  | label (origin : Origin) (type : TypeId) (payload : Payload)
  | span (origin : Origin) (type : TypeId) (value : TimeSpan)
  | moment (origin : Origin) (type : TypeId) (value : DateTime)
  | guid (origin : Origin) (type : TypeId) (value : Guid)
  | function (origin : Origin) (type : TypeId)

mutual

inductive Value where
  | null
  | boolean (value : Bool)
  | character (value : Char)
  | integer (value : Integer)
  | single (value : Float32)
  | double (value : Float)
  | decimal (value : Decimal)
  | text (origin : Origin) (value : String)
  /-- An enumeration value is the bits of its underlying integer. -/
  | enumeration (type : TypeId) (bits : Int64)
  | array (origin : Origin) (element : DataType) (items : List Value)
  | object (origin : Origin) (type : TypeId) (content : Content)
  | function (origin : Origin) (type : TypeId) (response : Response)

/-- What an object holds. All but the fields of a host object are values of their own: such
objects compare and print by what they hold. -/
inductive Content where
  | fields (fields : List (String × Value))
  | label (payload : Payload)
  | span (value : TimeSpan)
  | moment (value : DateTime)
  | guid (value : Guid)

/-- How something of the host's answers a call. -/
inductive Response where
  | receiver
  | arguments
  | constant (value : Value)
  | argument (index : Nat)
  | field (name : String)
  | failure (text : String)
  | panic (text : String)
  /-- An answer that depends on what the arguments are. -/
  | depends (response : List Datum → Response)

end

namespace Value

def isNull : Value → Bool
  | null => true
  | _ => false

def scalar? : Value → Option Scalar
  | boolean _ => some .boolean
  | character _ => some .character
  | integer value => some (.integer value.kind)
  | single _ => some .single
  | double _ => some .double
  | decimal _ => some .decimal
  | _ => none

/-- The type of the value itself; null is an object. -/
def type : Value → DataType
  | text _ _ => .string
  | enumeration type _ => .plain type
  | array _ element _ => element.arrayOf
  | object _ type _ => .plain type
  | function _ type _ => .plain type
  | null => .object
  | boolean _ => .ofScalar .boolean
  | character _ => .ofScalar .character
  | integer value => .ofScalar (.integer value.kind)
  | single _ => .ofScalar .single
  | double _ => .ofScalar .double
  | decimal _ => .ofScalar .decimal

def kindName : Value → String
  | null => "null"
  | text _ _ => "String"
  | enumeration _ _ => "Enum"
  | array _ _ _ => "Array"
  | object _ _ _ => "Object"
  | function _ _ _ => "Delegate"
  | boolean _ => Scalar.boolean.name
  | character _ => Scalar.character.name
  | integer value => (Scalar.integer value.kind).name
  | single _ => Scalar.single.name
  | double _ => Scalar.double.name
  | decimal _ => Scalar.decimal.name

def toInt? : Value → Option Int
  | character value => some value.toNat
  | integer value => some value.value
  | enumeration _ bits => some bits.toInt
  | _ => none

def items? : Value → Option (List Value)
  | array _ _ items => some items
  | _ => none

def int32 (value : Int) : Value :=
  integer (.wrap .int32 value)

def int64 (value : Int) : Value :=
  integer (.wrap .int64 value)

mutual

def datum : Value → Datum
  | null => .null
  | boolean value => .boolean value
  | character value => .character value
  | integer value => .integer value
  | single value => .single value
  | double value => .double value
  | decimal value => .decimal value
  | text origin value => .text origin value
  | enumeration type bits => .enumeration type bits
  | array origin element items => .array origin element (data items)
  | object origin type content => contentDatum origin type content
  | function origin type _ => .function origin type

def contentDatum (origin : Origin) (type : TypeId) : Content → Datum
  | .fields fields => .fields origin type (fieldData fields)
  | .label payload => .label origin type payload
  | .span value => .span origin type value
  | .moment value => .moment origin type value
  | .guid value => .guid origin type value

def data : List Value → List Datum
  | [] => []
  | value :: values => datum value :: data values

def fieldData : List (String × Value) → List (String × Datum)
  | [] => []
  | (name, value) :: fields => (name, datum value) :: fieldData fields

end

end Value

/-- Equality as the type of the first of the two has it. -/
def Payload.same (left right : Payload) : Bool :=
  left.type.number == right.type.number && left.type.equals left.item right.item

def Payload.toText (payload : Payload) : String :=
  payload.type.text payload.item

namespace Content

def same : Content → Content → Bool
  | label left, label right => left.same right
  | span left, span right => left.ticks == right.ticks
  | moment left, moment right => left.order right == .eq
  | guid left, guid right => left.value == right.value
  | _, _ => false

def isValue : Content → Bool
  | fields _ => false
  | _ => true

end Content

namespace Value

/-- Equality of values: numbers of one kind by value, texts by their characters, objects that
are values by type and content, and what has only an identity by that. -/
def same : Value → Value → Bool
  | null, null => true
  | boolean left, boolean right => left == right
  | character left, character right => left == right
  | integer left, integer right => left.kind == right.kind && left.value == right.value
  | single left, single right => left == right
  | double left, double right => left == right
  | decimal left, decimal right => left.same right
  | text _ left, text _ right => left == right
  | enumeration leftType left, enumeration rightType right =>
      leftType == rightType && left == right
  | array left _ _, array right _ _ => left == right
  | object left leftType leftContent, object right rightType rightContent =>
      if leftContent.isValue && leftType == rightType then leftContent.same rightContent
      else left == right
  | function left _ _, function right _ _ => left == right
  | _, _ => false

/-- Whether both are one and the same value; never true of scalars. -/
def identical : Value → Value → Bool
  | null, null => true
  | text left _, text right _ => left == right
  | object left _ _, object right _ _ => left == right
  | array left _ _, array right _ _ => left == right
  | function left _ _, function right _ _ => left == right
  | _, _ => false

end Value

end Formula
