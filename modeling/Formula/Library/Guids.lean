import Formula.Hash.Xxh64
import Formula.Library.Installation
import Formula.Library.Signature

/-!
Members of unique identifiers.
-/

namespace Formula.Library

/-- A fresh identifier for a place in a tree: a digest of the path, marked as a random one. -/
def freshGuid (site : List Nat) : Guid :=
  let path := site.flatMap fun step => [step.toUInt8, 0xff]
  let high := (Hash.xxh64 1 path).toNat
  let low := (Hash.xxh64 2 path).toNat
  let value :=
    (high >>> 16) <<< 80 + 4 <<< 76 + (high % 1 <<< 12) <<< 64 + 2 <<< 62 + low % 1 <<< 62
  ⟨value % 1 <<< 128, Nat.mod_lt _ (by decide)⟩

private def guidMethods (fresh : List Nat → Guid) : List Method :=
  [ .onType "NewGuid" [] Shape.guid.type fun call =>
      .ok (Shape.guid.write call.site (fresh call.site)),
    function1 "Parse" (Shape.text.named "input") .guid Guid.ofText,
    method1 "ToString" .guid ((Shape.orNull .text).named "format") .text fun guid layout =>
      guid.format (layout.getD ""),
    compareTo .guid fun left right => some (left.order right) ] ++
  equalities .guid Guid.order

def guidEntry (fresh : List Nat → Guid) : TypeEntry :=
  ((TypeEntry.declare "System" "Guid" .structType).addMember
    (.staticField "Empty" Shape.guid.type
      (.constant (.object (.shared "Guid.Empty") .guid (.guid .zero))))).addMethods
    (guidMethods fresh)

def guids (fresh : List Nat → Guid) : List InstallationStep :=
  [.register (guidEntry fresh)]

end Formula.Library
