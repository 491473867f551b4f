import Formula.Proofs.Catalog.Inheritance
import Formula.Proofs.Library.Objects
import Formula.Proofs.Library.Registration

/-!
The members of all objects in the library and what is registered over it. The bases of a type lead
up to the root of the hierarchy, or else to an interface, which has no base. What leads to the root
has the methods of all objects, but for those that a type below the root declares again. What leads
to an interface does not have them.
-/

namespace Formula

namespace TypeEntry

/-- The base is the one that types of the kind have by default. -/
def HasDefaultBase (entry : TypeEntry) : Prop :=
  entry.base = (declare entry.namespaceName entry.name entry.kind).base

variable {entry : TypeEntry}

theorem HasDefaultBase.cases (usual : entry.HasDefaultBase) :
    entry.base = some .object ∨ entry.base = none ∧ entry.kind = .interfaceType := by
  unfold HasDefaultBase declare at usual
  dsimp only at usual
  split at usual
  · next isInterface => exact .inr ⟨usual, isInterface⟩
  · exact .inl usual

theorem HasDefaultBase.of_bare {other : TypeEntry} (same : entry.bare = other.bare)
    (usual : other.HasDefaultBase) : entry.HasDefaultBase := by
  have base : entry.base = other.base :=
    (congrArg TypeEntry.base same : entry.bare.base = other.bare.base)
  have kind : entry.kind = other.kind :=
    (congrArg TypeEntry.kind same : entry.bare.kind = other.bare.kind)
  change entry.base = if entry.kind = .interfaceType then none else some .object
  rw [base, kind]
  exact usual

theorem Built.hasDefaultBase (built : entry.Built) : entry.HasDefaultBase := by
  cases built with
  | added namespaceName name kind members methods =>
      have usual : (declare namespaceName name kind).HasDefaultBase := rfl
      exact .of_bare ((bare_addMethods _ methods).trans (bare_addMembers _ members)) usual
  | enumeration namespaceName name underlying values =>
      have usual : (declare namespaceName name (.enumType underlying)).HasDefaultBase := rfl
      refine .of_bare ?_ usual
      exact reading_foldl TypeEntry.bare (fun entry value => entry.addValue value.1 value.2)
        (fun _ _ => rfl) values _

end TypeEntry

namespace Catalog

open Library

/-- The base of the entry is the one that is usual for its kind, or it is registered. -/
def AdmitsBase (catalog : Catalog) (entry : TypeEntry) : Prop :=
  entry.HasDefaultBase ∨ ∃ base, entry.base = some base ∧ catalog.contains base = true

inductive Extension (start : Catalog) : Catalog → Prop
  | start : Extension start start
  | register {catalog extended : Catalog} {entry : TypeEntry} (further : Extension start catalog)
      (admits : catalog.AdmitsBase entry) (registered : catalog.register entry = .ok extended) :
      Extension start extended

/-- The bases of the type lead up to the root of the hierarchy. -/
def Rooted (catalog : Catalog) (type : DataType) : Prop :=
  ∃ root ∈ catalog.declaringEntries type false, root.id = .object

/-- The type, or a base of it below the root, has a method of the same name for the same
parameters. -/
def RedeclaredBelowRoot (catalog : Catalog) (type : DataType) (declared : Method) : Prop :=
  ∃ entry ∈ catalog.declaringEntries type false, entry.id ≠ .object ∧
    ∃ own ∈ entry.methods, own.isStatic = false ∧ own.name = declared.name ∧
      own.types = declared.types

/-- What instances of a type have of the methods of all objects. -/
structure InheritsFromRoot (catalog : Catalog) (type : DataType) : Prop where
  rooted_iff : catalog.Rooted type ↔
    ∀ entry ∈ catalog.declaringEntries type false, entry.kind = .interfaceType →
      entry.base.isSome = true
  rooted (shared : type.isArray = true ∨ type.isNullable = true) : catalog.Rooted type
  /-- A name is looked up in any case, but only the very same name redeclares. -/
  answers (isRooted : catalog.Rooted type) {declared : Method}
    (isDeclared : declared ∈ objectMethods) (onInstance : declared.isStatic = false)
    {name : String} (named : declared.isNamed name = true) :
    catalog.methods type name false ≠ [] ∧
      (declared ∈ catalog.methods type name false ∨ catalog.RedeclaredBelowRoot type declared)
  lacks (unrooted : ¬catalog.Rooted type) {name : String} {method : Method}
    (found : method ∈ catalog.methods type name false) :
    ∃ entry ∈ catalog.declaringEntries type false, entry.id ≠ .object ∧ method ∈ entry.methods

variable {catalog : Catalog} {entry : TypeEntry} {type : DataType}

/-- Bases are registered, they are on lower levels than what extends them, and only the root and
interfaces have none. -/
structure Grounded (catalog : Catalog) : Prop where
  falling : ∃ level, catalog.Falling level
  registered : ∀ child parent, catalog.Extends child parent → catalog.contains parent = true
  tops : ∀ id entry, catalog.find? id = some entry → entry.base = none →
    id = .object ∨ entry.kind = .interfaceType
  root : catalog.contains .object = true

theorem contains_of_find? {id : TypeId} (found : catalog.find? id = some entry) :
    catalog.contains id = true := by
  rw [contains, found]
  rfl

theorem Grounded.map {change : TypeEntry → TypeEntry} (grounded : catalog.Grounded)
    (keeps : ∀ entry : TypeEntry, entry.Grows (change entry)) :
    (Catalog.mk (catalog.entries.map change)).Grounded := by
  have find : ∀ id, (Catalog.mk (catalog.entries.map change)).find? id =
      (catalog.find? id).map change := find?_map fun entry => (keeps entry).id
  have contains : ∀ id, (Catalog.mk (catalog.entries.map change)).contains id =
      catalog.contains id := by
    intro id
    rw [Catalog.contains, find, Option.isSome_map]
    rfl
  have extends_ : ∀ child parent,
      (Catalog.mk (catalog.entries.map change)).Extends child parent →
        catalog.Extends child parent := by
    rintro child parent ⟨entry, found, isBase⟩
    rw [find] at found
    obtain ⟨own, isOwn, rfl⟩ := Option.map_eq_some_iff.mp found
    exact ⟨own, isOwn, (keeps own).base ▸ isBase⟩
  obtain ⟨level, falling⟩ := grounded.falling
  refine ⟨⟨level, fun child parent link => falling child parent (extends_ child parent link)⟩,
    fun child parent link => ?_, fun id entry found noBase => ?_, ?_⟩
  · rw [contains]
    exact grounded.registered child parent (extends_ child parent link)
  · rw [find] at found
    obtain ⟨own, isOwn, rfl⟩ := Option.map_eq_some_iff.mp found
    rw [(keeps own).base] at noBase
    rw [(keeps own).kind]
    exact grounded.tops id own isOwn noBase
  · rw [contains]
    exact grounded.root

theorem find?_appended {id : TypeId} {found : TypeEntry}
    (isFound : (Catalog.mk (catalog.entries ++ [entry])).find? id = some found) :
    catalog.find? id = some found ∨ id = entry.id ∧ found = entry := by
  rw [find?_append, Option.or_eq_some_iff] at isFound
  refine isFound.imp_right fun ⟨_, isNew⟩ => ?_
  obtain ⟨same, isNew⟩ := Option.ite_none_right_eq_some.mp isNew
  exact ⟨same, (Option.some.inj isNew).symm⟩

theorem contains_append {id : TypeId} (known : catalog.contains id = true) :
    (Catalog.mk (catalog.entries ++ [entry])).contains id = true := by
  obtain ⟨found, isFound⟩ := Option.isSome_iff_exists.mp known
  rw [contains, find?_append, isFound]
  rfl

theorem Grounded.contains_base (grounded : catalog.Grounded) (admits : catalog.AdmitsBase entry)
    {base : TypeId} (isBase : entry.base = some base) : catalog.contains base = true := by
  rcases admits with usual | ⟨other, isOther, known⟩
  · rcases usual.cases with isRoot | ⟨noBase, _⟩
    · obtain rfl := Option.some.inj (isBase.symm.trans isRoot)
      exact grounded.root
    · cases isBase.symm.trans noBase
  · obtain rfl := Option.some.inj (isBase.symm.trans isOther)
    exact known

theorem Grounded.append (grounded : catalog.Grounded) (absent : catalog.contains entry.id = false)
    (admits : catalog.AdmitsBase entry) : (Catalog.mk (catalog.entries ++ [entry])).Grounded := by
  -- Nothing extends the new type yet: what is extended is registered, and the new type was not.
  have old : ∀ {id : TypeId}, catalog.contains id = true → id ≠ entry.id := by
    rintro id known rfl
    exact Bool.false_ne_true (absent.symm.trans known)
  obtain ⟨level, falling⟩ := grounded.falling
  refine ⟨⟨fun id => if id = entry.id then (entry.base.map level).getD 0 + 1 else level id, ?_⟩,
    ?_, ?_, contains_append grounded.root⟩
  · rintro child parent ⟨found, isFound, isBase⟩
    rcases find?_appended isFound with before | ⟨rfl, rfl⟩
    · have link : catalog.Extends child parent := ⟨found, before, isBase⟩
      dsimp only
      rw [if_neg (old (contains_of_find? before)),
        if_neg (old (grounded.registered child parent link))]
      exact falling child parent link
    · dsimp only
      rw [if_pos rfl, if_neg (old (grounded.contains_base admits isBase)), isBase]
      exact Nat.lt_succ_self _
  · rintro child parent ⟨found, isFound, isBase⟩
    rcases find?_appended isFound with before | ⟨rfl, rfl⟩
    · exact contains_append (grounded.registered child parent ⟨found, before, isBase⟩)
    · exact contains_append (grounded.contains_base admits isBase)
  · intro id found isFound noBase
    rcases find?_appended isFound with before | ⟨_, rfl⟩
    · exact grounded.tops id found before noBase
    · rcases admits with usual | ⟨_, isBase, _⟩
      · rcases usual.cases with isRoot | ⟨_, isInterface⟩
        · cases noBase.symm.trans isRoot
        · exact .inr isInterface
      · cases noBase.symm.trans isBase

theorem Grounded.perform {step : InstallationStep} {extended : Catalog}
    (grounded : catalog.Grounded) (performed : catalog.perform step = .ok extended)
    (admits : ∀ entry, step = .register entry → catalog.AdmitsBase entry) : extended.Grounded := by
  rcases perform_cases performed with
    ⟨changed, members, methods, rfl, _, rfl⟩ | ⟨added, rfl, absent, rfl⟩
  · exact grounded.map (TypeEntry.grows_extendIf changed members methods)
  · exact grounded.append absent (admits added rfl)

theorem Grounded.install {steps : List InstallationStep} (grounded : catalog.Grounded)
    (usual : ∀ entry, .register entry ∈ steps → entry.HasDefaultBase) :
    (catalog.install steps).1.Grounded := by
  induction steps generalizing catalog with
  | nil => exact grounded
  | cons step steps ih =>
      unfold Catalog.install
      split
      · next next performed =>
          refine ih (grounded.perform performed ?_) fun entry member =>
            usual entry (List.mem_cons_of_mem _ member)
          rintro entry rfl
          exact .inl (usual entry (List.mem_cons_self ..))
      · exact grounded

theorem grounded_primitives : primitives.Grounded := by
  have links : ∀ entry ∈ primitives.entries,
      entry.id = .object ∧ entry.base = none ∨ entry.id ≠ .object ∧ entry.base = some .object := by
    decide +kernel
  have link : ∀ child parent, primitives.Extends child parent →
      child ≠ .object ∧ parent = .object := by
    rintro child parent ⟨entry, found, isBase⟩
    obtain ⟨listed, rfl⟩ := find?_mem found
    rcases links entry listed with ⟨_, noBase⟩ | ⟨notRoot, isRoot⟩
    · cases noBase.symm.trans isBase
    · exact ⟨notRoot, Option.some.inj (isBase.symm.trans isRoot)⟩
  refine ⟨⟨fun id => if id = .object then 0 else 1, fun child parent extends_ => ?_⟩,
    fun child parent extends_ => ?_, fun id entry found noBase => ?_, by decide +kernel⟩
  · obtain ⟨notRoot, rfl⟩ := link child parent extends_
    dsimp only
    rw [if_pos rfl, if_neg notRoot]
    exact Nat.one_pos
  · obtain ⟨_, rfl⟩ := link child parent extends_
    decide +kernel
  · obtain ⟨listed, rfl⟩ := find?_mem found
    rcases links entry listed with ⟨isRoot, _⟩ | ⟨_, isBase⟩
    · exact .inl isRoot
    · cases noBase.symm.trans isBase

theorem grounded_standard (surroundings : Surroundings) : (standard surroundings).Grounded := by
  refine grounded_primitives.install fun entry member => ?_
  rcases steps_built surroundings member with extension | ⟨built, same, isBuilt⟩
  · cases extension
  · cases same
    exact isBuilt.hasDefaultBase

theorem register_ok {extended : Catalog} (registered : catalog.register entry = .ok extended) :
    catalog.contains entry.id = false ∧ extended = ⟨catalog.entries ++ [entry]⟩ := by
  unfold register at registered
  split at registered
  · cases registered
  · next absent =>
      cases registered
      exact ⟨eq_false_of_ne_true absent, rfl⟩

theorem Extension.grounded {start : Catalog} (grounded : start.Grounded)
    (extension : Extension start catalog) : catalog.Grounded := by
  induction extension with
  | start => exact grounded
  | register _ admits registered ih =>
      obtain ⟨absent, rfl⟩ := register_ok registered
      exact ih.append absent admits

theorem Extension.find? {start : Catalog} (extension : Extension start catalog) {id : TypeId}
    (found : start.find? id = some entry) : catalog.find? id = some entry := by
  induction extension with
  | start => exact found
  | register _ _ registered ih =>
      obtain ⟨_, rfl⟩ := register_ok registered
      rw [find?_append, ih, Option.some_or]

theorem Grounded.exists_top (grounded : catalog.Grounded) {first : TypeEntry}
    (known : catalog.find? first.id = some first) :
    ∃ top, catalog.find? top.id = some top ∧ top.base = none ∧
      (top = first ∨ catalog.Descends first.id top.id) := by
  obtain ⟨level, falling⟩ := grounded.falling
  -- Every link leads to a lower level, so the induction is on the level of the type.
  induction height : level first.id using Nat.strong_induction_on generalizing first with
  | _ height ih =>
      cases isBase : first.base with
      | none => exact ⟨first, known, isBase, .inl rfl⟩
      | some base =>
          have link : catalog.Extends first.id base := ⟨first, known, isBase⟩
          obtain ⟨next, isNext⟩ := Option.isSome_iff_exists.mp (grounded.registered _ _ link)
          obtain ⟨_, rfl⟩ := find?_mem isNext
          obtain ⟨top, isTop, noBase, upward⟩ :=
            ih (level next.id) (height ▸ falling _ _ link) isNext rfl
          refine ⟨top, isTop, noBase, .inr ?_⟩
          rcases upward with rfl | descends
          · exact .single link
          · exact .head link descends

theorem not_descends_of_noBase (known : catalog.find? entry.id = some entry)
    (noBase : entry.base = none) (id : TypeId) : ¬catalog.Descends entry.id id := by
  intro descends
  obtain ⟨_, ⟨own, isOwn, isBase⟩, _⟩ := Relation.TransGen.head'_iff.mp descends
  obtain rfl := Option.some.inj (known.symm.trans isOwn)
  cases noBase.symm.trans isBase

theorem eq_of_noBase {first second : TypeEntry}
    (isFirst : first ∈ catalog.declaringEntries type false)
    (isSecond : second ∈ catalog.declaringEntries type false) (firstEnds : first.base = none)
    (secondEnds : second.base = none) : first = second := by
  let Comparable (one other : TypeEntry) : Prop :=
    one = other ∨ catalog.Below one other ∨ catalog.Below other one
  have symmetric : Std.Symm Comparable := ⟨fun _ _ => Or.imp Eq.symm Or.symm⟩
  have comparable : (catalog.declaringEntries type false).Pairwise Comparable :=
    (declaringEntries_pairwise type false).imp fun below => .inr (.inl below)
  rcases comparable.forall_of_forall (fun _ _ => .inl rfl) isFirst isSecond with
    same | below | below
  · exact same
  · exact absurd below.1 (not_descends_of_noBase (declaringEntries_find? isFirst) firstEnds _)
  · exact absurd below.1 (not_descends_of_noBase (declaringEntries_find? isSecond) secondEnds _)

theorem subset_foldl_addUnlessOverridden (methods found : List Method) :
    found ⊆ methods.foldl addUnlessOverridden found := by
  induction methods generalizing found with
  | nil => exact List.Subset.refl found
  | cons method methods ih =>
      rw [List.foldl_cons]
      refine List.Subset.trans ?_ (ih _)
      rcases addUnlessOverridden_cases found method with same | added
      · rw [same]
        exact List.Subset.refl found
      · rw [added]
        exact List.subset_append_left found _

/-- What is not found is overridden by what is. -/
theorem mem_foldl_addUnlessOverridden {method : Method} {methods : List Method}
    (member : method ∈ methods) (found : List Method) :
    method ∈ methods.foldl addUnlessOverridden found ∨
      ∃ earlier ∈ methods.foldl addUnlessOverridden found,
        earlier.owner ≠ method.owner ∧ earlier.name = method.name ∧
          earlier.types = method.types := by
  induction methods generalizing found with
  | nil => cases member
  | cons first methods ih =>
      rw [List.foldl_cons]
      rcases List.mem_cons.mp member with rfl | later
      · have kept := subset_foldl_addUnlessOverridden methods (addUnlessOverridden found method)
        unfold addUnlessOverridden at kept ⊢
        split at kept
        · next overridden =>
            obtain ⟨earlier, isFound, overrides⟩ := List.any_eq_true.mp overridden
            rw [Bool.and_eq_true, Bool.and_eq_true, bne_iff_ne, beq_iff_eq, beq_iff_eq] at overrides
            rw [if_pos overridden]
            exact .inr ⟨earlier, kept isFound, overrides.1.1, overrides.1.2, overrides.2⟩
        · next new =>
            rw [if_neg new]
            exact .inl (kept (List.mem_append_right _ (List.mem_singleton_self method)))
      · exact ih later _

theorem owner_objectMethods {method : Method} (isDeclared : method ∈ objectMethods) :
    method.owner = .object := by
  obtain ⟨step, _, member⟩ := List.mem_flatMap.mp isDeclared
  cases step with
  | extend =>
      obtain ⟨_, _, rfl⟩ := List.mem_map.mp member
      rfl
  | register => cases member

/-- Whoever finds the root finds its methods, or what has been declared in their place. -/
theorem answers_of_root {root : TypeEntry} (isRoot : root ∈ catalog.declaringEntries type false)
    (id : root.id = .object) (methods : root.methods = objectMethods) {declared : Method}
    (isDeclared : declared ∈ objectMethods) (onInstance : declared.isStatic = false) {name : String}
    (named : declared.isNamed name = true) :
    catalog.methods type name false ≠ [] ∧
      (declared ∈ catalog.methods type name false ∨ catalog.RedeclaredBelowRoot type declared) := by
  have listed : declared ∈ ((catalog.declaringEntries type false).flatMap TypeEntry.methods).filter
      fun method => method.isStatic == false && method.isNamed name := by
    rw [List.mem_filter, List.mem_flatMap, onInstance, named]
    exact ⟨⟨root, isRoot, methods ▸ isDeclared⟩, rfl⟩
  rcases mem_foldl_addUnlessOverridden listed [] with found | ⟨earlier, found, owner, overrides⟩
  · exact ⟨List.ne_nil_of_mem found, .inl found⟩
  · refine ⟨List.ne_nil_of_mem found, .inr ?_⟩
    obtain ⟨isStatic, entry, declaring, own⟩ := declaresMethod_of_methods found
    refine ⟨entry, declaring, fun isObject => owner ?_, earlier, own, isStatic, overrides⟩
    have known := declaringEntries_find? declaring
    rw [isObject, ← id, declaringEntries_find? isRoot] at known
    obtain rfl := Option.some.inj known
    rw [methods] at own
    rw [owner_objectMethods own, owner_objectMethods isDeclared]

theorem Extension.root {surroundings : Surroundings}
    (extension : Extension (standard surroundings) catalog) :
    ∃ root, catalog.find? .object = some root ∧ root.base = none ∧
      root.kind ≠ .interfaceType ∧ root.methods = objectMethods := by
  obtain ⟨root, found, noBase, methods⟩ := standard_find?_object surroundings
  have bare : (primitives.find? .object).map TypeEntry.kind = some .classType := by decide +kernel
  obtain ⟨entry, isEntry, isClass⟩ := Option.map_eq_some_iff.mp bare
  obtain ⟨grown, isGrown, grows⟩ := standard_find? surroundings isEntry
  obtain rfl := Option.some.inj (found.symm.trans isGrown)
  refine ⟨root, extension.find? found, noBase, ?_, methods⟩
  rw [grows.kind, isClass]
  exact nofun

theorem Extension.shared {surroundings : Surroundings}
    (extension : Extension (standard surroundings) catalog)
    (shared : type.isArray = true ∨ type.isNullable = true) :
    ∃ first, catalog.entryFor? type = some first ∧ first.base = some .object := by
  have bare : ∀ id ∈ [TypeId.array, .nullable],
      (primitives.find? id).map TypeEntry.base = some (some .object) := by
    decide +kernel
  have entry : ∀ id ∈ [TypeId.array, .nullable],
      ∃ first, catalog.find? id = some first ∧ first.base = some .object := by
    intro id member
    obtain ⟨first, found, isBase⟩ := Option.map_eq_some_iff.mp (bare id member)
    obtain ⟨grown, isGrown, grows⟩ := standard_find? surroundings found
    exact ⟨grown, extension.find? isGrown, grows.base.trans isBase⟩
  unfold entryFor?
  by_cases isArray : type.isArray = true
  · rw [if_pos isArray]
    exact entry .array (by simp)
  · rw [if_neg isArray, if_pos (shared.resolve_left isArray)]
    exact entry .nullable (by simp)

/-- Over the library, the bases of every type lead up to the root and its methods, unless they end
in an interface: then no method of the root is found. Arrays and types with null added are always
below the root. -/
theorem inheritsFromRoot {surroundings : Surroundings}
    (extension : Extension (standard surroundings) catalog)
    (known : (catalog.entryFor? type).isSome = true) : catalog.InheritsFromRoot type := by
  have grounded := extension.grounded (grounded_standard surroundings)
  obtain ⟨level, falling⟩ := grounded.falling
  obtain ⟨root, isRoot, noBase, notInterface, methods⟩ := extension.root
  obtain ⟨_, rootId⟩ := find?_mem isRoot
  have found : catalog.find? root.id = some root := find?_id isRoot
  have rooted_iff : catalog.Rooted type ↔ root ∈ catalog.declaringEntries type false := by
    constructor
    · rintro ⟨other, isOther, isObject⟩
      have same := declaringEntries_find? isOther
      rw [isObject, isRoot] at same
      exact Option.some.inj same ▸ isOther
    · exact fun member => ⟨root, member, rootId⟩
  refine ⟨⟨fun isRooted entry declaring isInterface => ?_, fun ends => ?_⟩, fun shared => ?_,
    fun isRooted => ?_, fun unrooted _ method found => ?_⟩
  · rw [Option.isSome_iff_ne_none]
    intro none
    have same := eq_of_noBase (rooted_iff.mp isRooted) declaring noBase none
    exact notInterface (same ▸ isInterface)
  · obtain ⟨first, isFirst⟩ := Option.isSome_iff_exists.mp known
    obtain ⟨top, isTop, none, upward⟩ := grounded.exists_top (entryFor?_find? isFirst)
    have declaring := falling.mem_declaringEntries_iff.mpr ⟨isTop, first, isFirst, upward⟩
    rcases grounded.tops top.id top isTop none with isObject | isInterface
    · exact ⟨top, declaring, isObject⟩
    · have hasBase := ends top declaring isInterface
      rw [none] at hasBase
      cases hasBase
  · obtain ⟨first, isFirst, isBase⟩ := extension.shared shared
    rw [rooted_iff, falling.mem_declaringEntries_iff]
    refine ⟨found, first, isFirst, .inr (.single ⟨first, entryFor?_find? isFirst, ?_⟩)⟩
    rw [isBase, rootId]
  · exact answers_of_root (rooted_iff.mp isRooted) rootId methods
  · obtain ⟨_, entry, declaring, own⟩ := declaresMethod_of_methods found
    exact ⟨entry, declaring, fun isObject => unrooted ⟨entry, declaring, isObject⟩, own⟩

/-- What instances have of the root. -/
example :
    (objectMethods.filter fun method => !method.isStatic).map
        (fun method => (method.name, method.types)) =
      [("ToString", []), ("Equals", [.object]), ("GetHashCode", [])] := by
  decide +kernel

def shape : TypeEntry :=
  .declare "App" "Shape" .interfaceType

def atRest : Surroundings :=
  ⟨⟨0, 0, 0, .unspecified⟩, .universal, fun _ => .zero⟩

def withShape : Catalog :=
  ⟨(standard atRest).entries ++ [shape]⟩

/-- The interface has no methods at all, and arrays of it have those of all objects. -/
theorem inheritsFromRoot_shape :
    Extension (standard atRest) withShape ∧
      (withShape.entryFor? shape.type).isSome = true ∧ ¬withShape.Rooted shape.type ∧
      (∀ name, withShape.methods shape.type name false = []) ∧
      (withShape.entryFor? shape.type.arrayOf).isSome = true ∧
      withShape.methods shape.type.arrayOf "ToString" false ≠ [] := by
  have absent : (standard atRest).contains shape.id = false := by decide +kernel
  have extension : Extension (standard atRest) withShape := by
    have usual : shape.HasDefaultBase := rfl
    refine .register .start (.inl usual) ?_
    rw [register, absent]
    rfl
  have found : withShape.entryFor? shape.type = some shape := by
    change withShape.find? shape.id = some shape
    rw [withShape, find?_append, contains_eq_false.mp absent, if_pos rfl]
    rfl
  have known : (withShape.entryFor? shape.type).isSome = true := Option.isSome_of_eq_some found
  have alone : withShape.declaringEntries shape.type false = [shape] :=
    declaringEntries_of_root found rfl false
  obtain ⟨first, isFirst, _⟩ := @Extension.shared _ shape.type.arrayOf _ extension (.inl rfl)
  have knownArray := Option.isSome_of_eq_some isFirst
  have ofArray := inheritsFromRoot extension knownArray
  refine ⟨extension, known, fun isRooted => ?_, fun name => ?_, knownArray, ?_⟩
  · have hasBase := (inheritsFromRoot extension known).rooted_iff.mp isRooted shape
      (alone ▸ List.mem_singleton_self shape) rfl
    cases hasBase
  · rw [methods, alone]
    rfl
  · have listed : objectMethods.any (fun declared =>
        !declared.isStatic && declared.isNamed "ToString") = true := by
      decide +kernel
    obtain ⟨declared, isDeclared, facts⟩ := List.any_eq_true.mp listed
    rw [Bool.and_eq_true, Bool.not_eq_true'] at facts
    exact (ofArray.answers (ofArray.rooted (.inl rfl)) isDeclared facts.1 facts.2).1

end Catalog

end Formula
