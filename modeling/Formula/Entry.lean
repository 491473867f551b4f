import Formula.Text.Case
import Formula.Value.Basic

/-!
Declared types with their members and methods. Every member and method has a body, which
answers calls; each knows the type that declares it.
-/

namespace Formula

/-- A call as a body sees it: where in the tree it happens, the receiver unless the member is
static, and the arguments in the order of the parameters. -/
structure Invocation where
  site : List Nat
  receiver : Option Value
  arguments : List Value

abbrev Body := Invocation → Outcome Value

namespace Response

/-- Answers a call. The receiver is null where there is none, and so are missing arguments and
missing fields. -/
def run (response : Response) (call : Invocation) : Outcome Value :=
  match response with
  | receiver => .ok (call.receiver.getD .null)
  | arguments => .ok (.array (.made call.site 0) .object call.arguments)
  | constant value => .ok value
  | argument index => .ok (call.arguments[index]?.getD .null)
  | field name =>
      match call.receiver with
      | some (.object _ _ (.fields fields)) => .ok ((fields.lookup name).getD .null)
      | _ => .error .nullReference
  | failure text => .error (.host text)
  | panic text => .error (.panic text)
  | depends response => (response (Value.data call.arguments)).run call

end Response

namespace Body

def constant (value : Value) : Body :=
  fun _ => .ok value

/-- Passes a call on to the function it is made on, which sees no receiver. -/
def forward : Body := fun call =>
  match call.receiver with
  | some (.function _ _ response) => response.run { call with receiver := none }
  | some .null | none => .error .nullReference
  | some other => .error (.invalidCast other.kindName "Delegate")

end Body

/-- The type of a variadic parameter is that of the array which collects the arguments. -/
structure Parameter where
  name : String
  type : DataType
  default : Option Value := none
  isVariadic : Bool := false

namespace Parameter

def of (name : String) (type : DataType) : Parameter :=
  { name := name, type := type }

def variadic (name : String) (element : DataType) : Parameter :=
  { name := name, type := element.arrayOf, isVariadic := true }

end Parameter

def parameterTypes (parameters : List Parameter) : List DataType :=
  parameters.map Parameter.type

inductive MemberKind where
  | field
  | property
  | constant
deriving DecidableEq

/-- A field, property or constant; one with parameters is read by indexing. -/
structure Member where
  name : String
  owner : TypeId := .none
  type : DataType
  isStatic : Bool
  kind : MemberKind
  parameters : List Parameter := []
  body : Body

namespace Member

def property (name : String) (type : DataType) (body : Body) : Member :=
  { name, type, isStatic := false, kind := .property, body }

def staticProperty (name : String) (type : DataType) (body : Body) : Member :=
  { name, type, isStatic := true, kind := .property, body }

def field (name : String) (type : DataType) (body : Body) : Member :=
  { name, type, isStatic := false, kind := .field, body }

def staticField (name : String) (type : DataType) (body : Body) : Member :=
  { name, type, isStatic := true, kind := .field, body }

def constantOf (name : String) (type : DataType) (value : Value) : Member :=
  { name, type, isStatic := true, kind := .constant, body := .constant value }

def constant (name : String) (value : Value) : Member :=
  constantOf name value.type value

def indexer (name : String) (parameters : List Parameter) (type : DataType) (body : Body) :
    Member :=
  { name, type, isStatic := false, kind := .property, parameters, body }

def isIndexer (member : Member) : Bool :=
  !member.parameters.isEmpty

def isNamed (member : Member) (name : String) : Bool :=
  Text.sameName member.name name

end Member

structure Method where
  name : String
  owner : TypeId := .none
  parameters : List Parameter
  result : DataType
  isStatic : Bool
  body : Body

namespace Method

def onInstance (name : String) (parameters : List Parameter) (result : DataType)
    (body : Body) : Method :=
  { name, parameters, result, isStatic := false, body }

def onType (name : String) (parameters : List Parameter) (result : DataType)
    (body : Body) : Method :=
  { name, parameters, result, isStatic := true, body }

def isNamed (method : Method) (name : String) : Bool :=
  Text.sameName method.name name

def types (method : Method) : List DataType :=
  parameterTypes method.parameters

end Method

inductive TypeKind where
  | scalar (kind : Scalar)
  | classType
  | structType
  | enumType (underlying : Scalar)
  | interfaceType
  | delegateType
  | staticType
deriving DecidableEq

structure TypeEntry where
  id : TypeId
  name : String
  namespaceName : String
  kind : TypeKind
  base : Option TypeId
  interfaces : List TypeId := []
  members : List Member := []
  methods : List Method := []

namespace TypeEntry

private def qualify (namespaceName name : String) : String :=
  if namespaceName.isEmpty then name else namespaceName ++ "." ++ name

def qualifiedName (entry : TypeEntry) : String :=
  qualify entry.namespaceName entry.name

/-- An entry without members. Its base is the root of the hierarchy; an interface has none. -/
def declare (namespaceName name : String) (kind : TypeKind) : TypeEntry :=
  { id := .ofName (qualify namespaceName name)
    name := name
    namespaceName := namespaceName
    kind := kind
    base := if kind = .interfaceType then none else some .object }

def type (entry : TypeEntry) : DataType :=
  .plain entry.id

def addMember (entry : TypeEntry) (member : Member) : TypeEntry :=
  { entry with members := entry.members ++ [{ member with owner := entry.id }] }

def addMethod (entry : TypeEntry) (method : Method) : TypeEntry :=
  { entry with methods := entry.methods ++ [{ method with owner := entry.id }] }

def addMembers (entry : TypeEntry) (members : List Member) : TypeEntry :=
  members.foldl addMember entry

def addMethods (entry : TypeEntry) (methods : List Method) : TypeEntry :=
  methods.foldl addMethod entry

def addValue (entry : TypeEntry) (name : String) (bits : Int64) : TypeEntry :=
  entry.addMember (.constantOf name entry.type (.enumeration entry.id bits))

def enumeration (namespaceName name : String) (underlying : Scalar)
    (values : List (String × Int64)) : TypeEntry :=
  values.foldl (fun entry (name, bits) => entry.addValue name bits)
    (declare namespaceName name (.enumType underlying))

def delegate (namespaceName name : String) (parameters : List Parameter)
    (result : DataType) : TypeEntry :=
  (declare namespaceName name .delegateType).addMethod
    (.onInstance "Invoke" parameters result .forward)

def underlying? (entry : TypeEntry) : Option Scalar :=
  match entry.kind with
  | .enumType underlying => some underlying
  | _ => none

def isValueType (entry : TypeEntry) : Bool :=
  match entry.kind with
  | .scalar _ | .structType | .enumType _ => true
  | _ => false

def valueName? (entry : TypeEntry) (bits : Int64) : Option String :=
  (entry.members.find? fun member =>
    member.isStatic &&
      match member.body ⟨[], none, []⟩ with
      | .ok (.enumeration _ own) => own == bits
      | _ => false).map Member.name

end TypeEntry

end Formula
