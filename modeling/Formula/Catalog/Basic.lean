import Formula.Entry

/-!
The catalog of all types that expressions can speak of, by id. It says what kind of type each
data type is, what its base is, and what a value may be used as.
-/

namespace Formula

inductive RegistrationError where
  | duplicateType (name : String)
  | unknownType (id : TypeId)
deriving DecidableEq

namespace RegistrationError

def message : RegistrationError → String
  | duplicateType name => "type '" ++ name ++ "' is already registered"
  | unknownType id => "type " ++ id.toText ++ " is not registered"

end RegistrationError

/-- No two entries have one id as long as types come in through `register`. -/
structure Catalog where
  entries : List TypeEntry := []

namespace Catalog

def find? (catalog : Catalog) (id : TypeId) : Option TypeEntry :=
  catalog.entries.find? fun entry => entry.id = id

def contains (catalog : Catalog) (id : TypeId) : Bool :=
  (catalog.find? id).isSome

def size (catalog : Catalog) : Nat :=
  catalog.entries.length

def register (catalog : Catalog) (entry : TypeEntry) : Except RegistrationError Catalog :=
  if catalog.contains entry.id then .error (.duplicateType entry.qualifiedName)
  else .ok ⟨catalog.entries ++ [entry]⟩

def registerAll (catalog : Catalog) (entries : List TypeEntry) :
    Except RegistrationError Catalog :=
  entries.foldlM register catalog

def update (catalog : Catalog) (id : TypeId) (change : TypeEntry → TypeEntry) :
    Except RegistrationError Catalog :=
  if catalog.contains id then
    .ok ⟨catalog.entries.map fun entry =>
      if entry.id = id then { change entry with id := entry.id } else entry⟩
  else .error (.unknownType id)

/-- The bare entries of the types that the language itself depends on. -/
def primitives : Catalog :=
  let plain : List TypeEntry :=
    [ { TypeEntry.declare "System" "Object" .classType with base := none },
      .declare "System" "Void" .structType,
      .declare "System" "String" .classType,
      .declare "System" "Array" .classType,
      .declare "System" "Nullable" .structType ]
  ⟨plain ++ Scalar.all.map fun kind => .declare "System" kind.name (.scalar kind)⟩

def entryFor? (catalog : Catalog) (type : DataType) : Option TypeEntry :=
  if type.isArray then catalog.find? .array
  else if type.isNullable then catalog.find? .nullable
  else catalog.find? type.id

def isValueType (catalog : Catalog) (type : DataType) : Bool :=
  !type.isArray &&
    (type.isNullable || type.scalar?.isSome ||
      (catalog.find? type.id).any TypeEntry.isValueType)

/-- Classes, interfaces, functions, texts, arrays and types that nobody has declared. -/
def isReferenceType (catalog : Catalog) (type : DataType) : Bool :=
  !type.isVoid && !catalog.isValueType type

def acceptsNull (catalog : Catalog) (type : DataType) : Bool :=
  type.isNullable || catalog.isReferenceType type

def underlying? (catalog : Catalog) (type : DataType) : Option Scalar :=
  if type.isArray || type.nullable then none
  else (catalog.find? type.id).bind TypeEntry.underlying?

def isEnumeration (catalog : Catalog) (type : DataType) : Bool :=
  (catalog.underlying? type).isSome

def isDelegate (catalog : Catalog) (type : DataType) : Bool :=
  !type.isArray && !type.nullable &&
    (catalog.find? type.id).any fun entry => entry.kind = .delegateType

def isInterface (catalog : Catalog) (type : DataType) : Bool :=
  !type.isArray && (catalog.find? type.id).any fun entry => entry.kind = .interfaceType

end Catalog

end Formula
