import Formula.Operators.Resolution
import Formula.Term.Basic

/-!
What names mean in an expression: the built-in names of types, imported types by their short
names, the static members of some of them, and the members of a receiver, if there is one. Names
of types are looked up in lower case.
-/

namespace Formula

/-- A type that can be named; its static members need no name in front if it is open. -/
structure Import where
  key : String
  type : DataType
  isOpen : Bool

namespace Import

def scalar (key : String) (kind : Scalar) : Import :=
  ⟨key, .ofScalar kind, false⟩

def closed (key : String) (id : TypeId) : Import :=
  ⟨key, .plain id, false⟩

def opened (key : String) (id : TypeId) : Import :=
  ⟨key, .plain id, true⟩

/-- The names that every scope has; no imported type takes one over. -/
def builtins : List Import :=
  [ scalar "bool" .boolean, scalar "boolean" .boolean,
    scalar "byte" (.integer .uint8), scalar "sbyte" (.integer .int8),
    scalar "short" (.integer .int16), scalar "ushort" (.integer .uint16),
    scalar "int" (.integer .int32), scalar "uint" (.integer .uint32),
    scalar "long" (.integer .int64), scalar "ulong" (.integer .uint64),
    scalar "int8" (.integer .int8), scalar "uint8" (.integer .uint8),
    scalar "int16" (.integer .int16), scalar "uint16" (.integer .uint16),
    scalar "int32" (.integer .int32), scalar "uint32" (.integer .uint32),
    scalar "int64" (.integer .int64), scalar "uint64" (.integer .uint64),
    scalar "float" .single, scalar "single" .single, scalar "double" .double,
    scalar "decimal" .decimal, scalar "char" .character,
    opened "string" .string, opened "object" .object, closed "convert" .convert,
    opened "math" .math, opened "mathf" .singleMath, closed "dayofweek" .dayOfWeek,
    closed "stringcomparison" .stringComparison,
    opened "stringsplitoptions" .stringSplitOptions, closed "timespan" .timeSpan,
    closed "datetime" .dateTime, closed "datetimekind" .dateTimeKind, closed "guid" .guid,
    closed "regex" .regex, closed "regexoptions" .regexOptions ]

end Import

structure Scope where
  catalog : Catalog
  /-- In the order of their first registration, one for each key. -/
  imports : List Import := []
  receiver : Option Term := none

namespace Scope

def isBuiltin (key : String) : Bool :=
  Import.builtins.any fun builtin => builtin.key == key

def place (imports : List Import) (added : Import) : List Import :=
  if imports.any fun earlier => earlier.key == added.key then
    imports.map fun earlier => if earlier.key == added.key then added else earlier
  else imports ++ [added]

/-- Makes a registered type known by its short name. A later type of the same name takes the
place of an earlier one; a built-in name stays what it is. -/
def importType (scope : Scope) (id : TypeId) (isOpen : Bool) :
    Except RegistrationError Scope :=
  match scope.catalog.find? id with
  | none => .error (.unknownType id)
  | some entry =>
      let key := Text.lower entry.name
      if isBuiltin key then .ok scope
      else .ok { scope with imports := place scope.imports ⟨key, entry.type, isOpen⟩ }

/-- Adds a receiver. Its type is imported and open, unless it is an object, an array or a type
with null added. -/
def withReceiver (scope : Scope) (receiver : Term) : Except RegistrationError Scope := do
  let type := receiver.type
  let imported ←
    if type.isObject || type.isArray || type.nullable then pure scope
    else scope.importType type.id true
  return { imported with receiver := some receiver }

def openTypes (scope : Scope) : List DataType :=
  ((Import.builtins ++ scope.imports).filter Import.isOpen).map Import.type |>.filter
    fun type => scope.catalog.contains type.id

def typeNamed? (scope : Scope) (name : String) : Option DataType :=
  let key := Text.lower name
  ((Import.builtins ++ scope.imports).find? fun known => known.key == key).map Import.type
    |>.filter fun type => scope.catalog.contains type.id

def owners (scope : Scope) : Option DataType → List DataType
  | some owner => [owner]
  | none => scope.openTypes

def memberOf (scope : Scope) (owner : Option DataType) (name : String)
    (isStatic : Bool) : Except TypingError (Option Member) :=
  match (scope.owners owner).flatMap fun owner => scope.catalog.members owner name isStatic with
  | [] => .ok none
  | [member] => .ok (some member)
  | members => .error (.ambiguousAmong (members.map scope.catalog.memberLine))

def methodOf (scope : Scope) (owner : Option DataType) (name : String)
    (arguments : List DataType) (isStatic : Bool) : Except TypingError (Option Method) :=
  scope.catalog.selectMethod
    ((scope.owners owner).flatMap fun owner => scope.catalog.methods owner name isStatic)
    arguments

/-- The type of the receiver where it answers a lookup: static, and without an owner. -/
def receiverType? (scope : Scope) (owner : Option DataType) (isStatic : Bool) :
    Option DataType :=
  if owner.isNone && isStatic then scope.receiver.map Term.type else none

def bindMember (scope : Scope) (owner : Option DataType) (name : String) (isStatic : Bool) :
    Except TypingError (Option Member) := do
  let own ← match scope.receiverType? owner isStatic with
    | some type => scope.memberOf (some type) name false
    | none => pure none
  match own with
  | some member => return some member
  | none => scope.memberOf owner name isStatic

def bindMethod (scope : Scope) (owner : Option DataType) (name : String)
    (arguments : List DataType) (isStatic : Bool) : Except TypingError (Option Method) := do
  let own ← match scope.receiverType? owner isStatic with
    | some type => scope.methodOf (some type) name arguments false
    | none => pure none
  match own with
  | some method => return some method
  | none => scope.methodOf owner name arguments isStatic

def receiverFor (scope : Scope) (isStatic : Bool) (name : String) :
    Except TypingError (Option Term) :=
  if isStatic then .ok none
  else
    match scope.receiver with
    | some receiver => .ok (some receiver)
    | none => .error (.receiverRequired name)

end Scope

end Formula
