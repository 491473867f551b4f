import Formula.Catalog.Basic

/-!
The names of types, and the lines that describe members and methods. A type that nobody has
registered goes by its id.
-/

namespace Formula.Catalog

def shapeMarks (type : DataType) : String :=
  (if type.nullable then "?" else "") ++ String.join (List.replicate type.rank "[]")

def nameBy (catalog : Catalog) (nameOf : TypeEntry → String) (type : DataType) :
    String :=
  let declared := match catalog.find? type.id with
    | some entry => nameOf entry
    | none => type.id.toText
  declared ++ shapeMarks type

def shortName (catalog : Catalog) (type : DataType) : String :=
  catalog.nameBy TypeEntry.name type

def qualifiedName (catalog : Catalog) (type : DataType) : String :=
  catalog.nameBy TypeEntry.qualifiedName type

def parameterNames (catalog : Catalog) (parameters : List Parameter) : String :=
  ", ".intercalate (parameters.map fun parameter => catalog.shortName parameter.type)

def declaredIn (catalog : Catalog) (line : String) (owner : TypeId) : String :=
  line ++ " (in " ++ catalog.qualifiedName (.plain owner) ++ ")"

def methodLine (catalog : Catalog) (method : Method) : String :=
  let signature := catalog.shortName method.result ++ " " ++ method.name ++ "(" ++
    catalog.parameterNames method.parameters ++ ")"
  catalog.declaredIn signature method.owner

def memberLine (catalog : Catalog) (member : Member) : String :=
  let plain := catalog.shortName member.type ++ " " ++ member.name
  let line :=
    if member.isIndexer then plain ++ " [" ++ catalog.parameterNames member.parameters ++ "]"
    else plain
  catalog.declaredIn line member.owner

end Formula.Catalog
