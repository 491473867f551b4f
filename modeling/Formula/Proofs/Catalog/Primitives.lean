import Formula.Catalog.Hierarchy

/-!
Catalogs that hold the types of the language itself, and what scalar types are in them.
-/

namespace Formula

theorem DataType.scalar?_ofScalar (kind : Scalar) : (ofScalar kind).scalar? = some kind :=
  TypeId.scalar?_ofScalar kind

theorem DataType.ofScalar_injective {left right : Scalar} (same : ofScalar left = ofScalar right) :
    left = right := by
  have kinds := congrArg DataType.scalar? same
  rw [scalar?_ofScalar, scalar?_ofScalar] at kinds
  exact Option.some.inj kinds

theorem DataType.eq_ofScalar {type : DataType} {kind : Scalar} (found : type.scalar? = some kind) :
    type = ofScalar kind := by
  obtain ⟨id, nullable, rank⟩ := type
  unfold scalar? at found
  split at found
  · rename_i shape
    obtain ⟨flat, marked⟩ := shape
    unfold TypeId.scalar? at found
    have named := List.find?_some found
    simp only [decide_eq_true_eq] at named
    simp only at flat marked
    subst flat
    rw [Bool.not_eq_true'] at marked
    subst marked
    rw [← named]
    rfl
  · cases found

namespace Catalog

def HoldsPrimitives (catalog : Catalog) : Prop :=
  ∀ entry ∈ primitives.entries,
    (catalog.find? entry.id).map TypeEntry.kind = some entry.kind

def primitiveKinds : List (TypeId × TypeKind) :=
  [ (.object, .classType), (.void, .structType), (.string, .classType), (.array, .classType),
    (.nullable, .structType) ] ++
  Scalar.all.map fun kind => (.ofScalar kind, .scalar kind)

theorem primitives_kinds :
    primitives.entries.map (fun entry => (entry.id, entry.kind)) = primitiveKinds := by
  decide +kernel

theorem holdsPrimitives_primitives : primitives.HoldsPrimitives := by
  unfold HoldsPrimitives
  decide +kernel

theorem HoldsPrimitives.register {catalog extended : Catalog} {entry : TypeEntry}
    (holds : catalog.HoldsPrimitives) (registered : catalog.register entry = .ok extended) :
    extended.HoldsPrimitives := by
  unfold Catalog.register at registered
  split at registered
  · cases registered
  · cases registered
    intro primitive member
    have found := holds primitive member
    rw [Option.map_eq_some_iff] at found ⊢
    obtain ⟨known, isKnown, kind⟩ := found
    refine ⟨known, ?_, kind⟩
    unfold find? at isKnown ⊢
    rw [List.find?_append, isKnown]
    rfl

variable {catalog : Catalog}

theorem find?_mem {id : TypeId} {entry : TypeEntry} (found : catalog.find? id = some entry) :
    entry ∈ catalog.entries ∧ entry.id = id := by
  unfold find? at found
  have named := List.find?_some found
  exact ⟨List.mem_of_find?_eq_some found, of_decide_eq_true named⟩

theorem HoldsPrimitives.find? (holds : catalog.HoldsPrimitives) {id : TypeId} {kind : TypeKind}
    (member : (id, kind) ∈ primitiveKinds) :
    ∃ entry, catalog.find? id = some entry ∧ entry.kind = kind := by
  rw [← primitives_kinds, List.mem_map] at member
  obtain ⟨primitive, isPrimitive, same⟩ := member
  rw [Prod.mk.injEq] at same
  have found := holds primitive isPrimitive
  rw [Option.map_eq_some_iff, same.1, same.2] at found
  exact found

theorem HoldsPrimitives.find?_ofScalar (holds : catalog.HoldsPrimitives) (kind : Scalar) :
    ∃ entry, catalog.find? (.ofScalar kind) = some entry ∧ entry.kind = .scalar kind := by
  apply holds.find?
  apply List.mem_append_right
  apply List.mem_map_of_mem
  cases kind with
  | integer kind => cases kind <;> decide
  | _ => decide

theorem isValueType_ofScalar (kind : Scalar) :
    catalog.isValueType (.ofScalar kind) = true := by
  unfold isValueType
  rw [DataType.scalar?_ofScalar]
  simp [DataType.ofScalar, DataType.plain, DataType.isArray]

theorem isReferenceType_ofScalar (kind : Scalar) :
    catalog.isReferenceType (.ofScalar kind) = false := by
  unfold isReferenceType
  rw [isValueType_ofScalar]
  exact Bool.and_false _

theorem acceptsNull_ofScalar (kind : Scalar) :
    catalog.acceptsNull (.ofScalar kind) = false := by
  unfold acceptsNull
  rw [isReferenceType_ofScalar]
  rfl

theorem scalar?_of_acceptsNull {type : DataType} (accepts : catalog.acceptsNull type = true) :
    type.scalar? = none := by
  cases found : type.scalar? with
  | none => rfl
  | some kind =>
      rw [DataType.eq_ofScalar found, acceptsNull_ofScalar] at accepts
      cases accepts

theorem acceptsNull_of_isReferenceType {type : DataType}
    (isReference : catalog.isReferenceType type = true) : catalog.acceptsNull type = true := by
  unfold acceptsNull
  rw [isReference, Bool.or_true]

theorem HoldsPrimitives.underlying?_ofScalar (holds : catalog.HoldsPrimitives) (kind : Scalar) :
    catalog.underlying? (.ofScalar kind) = none := by
  obtain ⟨entry, found, isScalar⟩ := holds.find?_ofScalar kind
  unfold underlying?
  simp only [DataType.ofScalar, DataType.plain, DataType.isArray, found, Option.bind_some]
  unfold TypeEntry.underlying?
  rw [isScalar]
  rfl

end Catalog

end Formula
