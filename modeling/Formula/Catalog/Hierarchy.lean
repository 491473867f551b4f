import Formula.Catalog.Basic

/-!
Bases and interfaces. A type can be used as another one if the other is the type itself, one of
its bases, or an interface that one of those lists, directly or through other interfaces. Links
may run in circles; a walk up the bases stops after 64 types.
-/

namespace Formula.Catalog

/-- The direct base: arrays share one, and so do types with null added. -/
def base? (catalog : Catalog) (type : DataType) : Option DataType :=
  if type.isArray then some (.plain .array)
  else if type.isNullable then some .object
  else ((catalog.find? type.id).bind TypeEntry.base).map .plain

def chainLimit : Nat := 64

def baseChain (catalog : Catalog) : Nat → DataType → List DataType
  | 0, _ => []
  | limit + 1, type =>
      match catalog.base? type with
      | none => [type]
      | some base => type :: baseChain catalog limit base

def depth (catalog : Catalog) (type : DataType) : Nat :=
  (catalog.baseChain (chainLimit + 1) type).length - 1

def directInterfaces (catalog : Catalog) (id : TypeId) : List TypeId :=
  match catalog.find? id with
  | some entry => entry.interfaces
  | none => []

/-- Asks the items in turn until one says yes. Each is told the ids that have been met before. -/
def anyInTurn {α : Type} (ask : α → List TypeId → Bool × List TypeId) :
    List α → List TypeId → Bool × List TypeId
  | [], met => (false, met)
  | item :: rest, met =>
      match ask item met with
      | (true, met) => (true, met)
      | (false, met) => anyInTurn ask rest met

/-- Whether a type lists the interface, directly or through other interfaces, and the ids that
have been met by then. What has been met before is not searched again. -/
def implements (catalog : Catalog) (interface : TypeId) :
    Nat → TypeId → List TypeId → Bool × List TypeId
  | 0, _, met => (false, met)
  | depth + 1, id, met =>
      if id ∈ met then (false, met)
      else
        anyInTurn (fun parent met =>
            if parent = interface then (true, met)
            else implements catalog interface depth parent met)
          (catalog.directInterfaces id) (id :: met)

/-- No search goes deeper than there are entries, as an entry is met once. -/
def searchDepth (catalog : Catalog) : Nat :=
  catalog.size + 1

def arrives (catalog : Catalog) (target type : DataType) (met : List TypeId) :
    Bool × List TypeId :=
  if type = target then (true, met)
  else if type.isArray then (false, met)
  else catalog.implements target.id catalog.searchDepth type.id met

/-- Whether a base of the source, or an interface of one, is the target. What the search has met
on one base it does not search again on the next. -/
def reaches (catalog : Catalog) (target source : DataType) : Bool :=
  (anyInTurn (catalog.arrives target) (catalog.baseChain chainLimit source) []).1

/-- `rank` is that of the target; arrays of references follow their elements. -/
def isAssignableAt (catalog : Catalog) (rank : Nat) (target source : DataType) : Bool :=
  if target == source || target.isObject then true
  else if target.isNullable && target.underlying == source then true
  else if source.isArray && target.isArray then
    match rank, source.element?, target.element? with
    | rank + 1, some sourceElement, some targetElement =>
        catalog.isReferenceType sourceElement &&
          isAssignableAt catalog rank targetElement sourceElement
    | _, _, _ => false
  else if target.isArray || target.nullable then false
  else catalog.reaches target source

def isAssignable (catalog : Catalog) (target source : DataType) : Bool :=
  catalog.isAssignableAt target.rank target source

end Formula.Catalog
