import Formula.Catalog.Hierarchy

/-!
Members and methods by name, without regard to case. What an instance has is what its type and
the bases of that declare, the type's own first; static members are looked up on the type alone.
-/

namespace Formula.Catalog

def entryBases (catalog : Catalog) : Nat → List TypeId → TypeEntry → List TypeEntry
  | 0, _, entry => [entry]
  | limit + 1, seen, entry =>
      match entry.base.bind catalog.find? with
      | none => [entry]
      | some base =>
          if base.id ∈ seen then [entry]
          else entry :: entryBases catalog limit (base.id :: seen) base

def declaringEntries (catalog : Catalog) (type : DataType) (isStatic : Bool) :
    List TypeEntry :=
  match catalog.entryFor? type with
  | none => []
  | some entry =>
      if isStatic then [entry] else entryBases catalog catalog.size [entry.id] entry

/-- A member found before hides one that another type declares under the very same name. -/
def addUnlessHidden (found : List Member) (member : Member) : List Member :=
  if found.any fun earlier => earlier.name == member.name && earlier.owner != member.owner then
    found
  else found ++ [member]

def members (catalog : Catalog) (type : DataType) (name : String) (isStatic : Bool) :
    List Member :=
  (((catalog.declaringEntries type isStatic).flatMap TypeEntry.members).filter fun member =>
    member.isStatic == isStatic && !member.isIndexer && member.isNamed name).foldl
      addUnlessHidden []

def addUnlessOverridden (found : List Method) (method : Method) : List Method :=
  if found.any fun earlier =>
      earlier.owner != method.owner && earlier.name == method.name &&
        earlier.types == method.types then
    found
  else found ++ [method]

/-- The overloads of a name. One found before overrides one that another type declares under
the very same name and for the same parameter types. -/
def methods (catalog : Catalog) (type : DataType) (name : String) (isStatic : Bool) :
    List Method :=
  (((catalog.declaringEntries type isStatic).flatMap TypeEntry.methods).filter fun method =>
    method.isStatic == isStatic && method.isNamed name).foldl addUnlessOverridden []

def indexers (catalog : Catalog) (type : DataType) : List Member :=
  ((catalog.declaringEntries type false).flatMap TypeEntry.members).filter fun member =>
    !member.isStatic && member.isIndexer

end Formula.Catalog
