import Formula.Proofs.Typing.Preparation
import Mathlib.Data.List.Induction
import Mathlib.Data.List.Nodup

/-!
What the types of a scope are called after they have been named in any order, some of them twice,
some under the name of another type, and some not registered at all. The last type of a name has it,
a built-in name stays what it is, and each name keeps its place among the open types. It is names
that are kept apart there, not types: a built-in type is open a second time if the entry registered
for it goes by another name.
-/

namespace Formula

namespace Import

def latest? (imports : List Import) (key : String) : Option Import :=
  imports.reverse.find? fun known => known.key == key

/-- The last import under each key, in the order in which the keys first come. -/
def survivors (imports : List Import) : List Import :=
  (imports.map key).eraseDups.filterMap (latest? imports)

end Import

namespace Catalog

def openBuiltins (catalog : Catalog) : List DataType :=
  ((Import.builtins.filter Import.isOpen).map Import.type).filter fun type =>
    catalog.contains type.id

end Catalog

namespace Scope

/-- Names a type, or leaves the scope alone if the type is not registered. -/
def attempt (scope : Scope) (naming : Naming) : Scope :=
  match scope.importType naming.id naming.isOpen with
  | .ok named => named
  | .error _ => scope

def attempted (catalog : Catalog) (namings : List Naming) : Scope :=
  namings.foldl attempt { catalog }

/-- What types are called, and which are open, after attempts to name them. -/
structure NamesTypes (catalog : Catalog) (namings : List Naming) : Prop where
  unregistered {id : TypeId} (isOpen : Bool) (absent : catalog.find? id = none) :
    (attempted catalog namings).importType id isOpen = .error (.unknownType id) ∧
      (attempted catalog namings).attempt ⟨id, isOpen⟩ = attempted catalog namings
  registered {id : TypeId} (isOpen : Bool) (present : catalog.contains id = true) :
    ∃ named, (attempted catalog namings).importType id isOpen = .ok named
  builtin {known : Import} (isBuiltin : known ∈ Import.builtins) {name : String}
    (named : Text.lower name = known.key) :
    (attempted catalog namings).typeNamed? name =
      if catalog.contains known.type.id then some known.type else none
  user {name : String} (other : isBuiltin (Text.lower name) = false) :
    (attempted catalog namings).typeNamed? name =
      (Import.latest? (namings.filterMap catalog.imported?) (Text.lower name)).map Import.type
  opened : (attempted catalog namings).openTypes =
    catalog.openBuiltins ++
      ((Import.survivors (namings.filterMap catalog.imported?)).filter Import.isOpen).map
        Import.type
  /-- A type is open twice only if it is built in and has taken another name as well. -/
  apart : (attempted catalog namings).openTypes.Nodup ↔
    ∀ known ∈ Import.survivors (namings.filterMap catalog.imported?), known.isOpen = true →
      known.type ∉ catalog.openBuiltins
  once (named : ∀ type ∈ catalog.openBuiltins, ∀ entry ∈ catalog.find? type.id,
      isBuiltin (Text.lower entry.name) = true) :
    (attempted catalog namings).openTypes.Nodup

variable {catalog : Catalog} {imports : List Import} {added : Import} {key : String}

theorem place_known (known : added.key ∈ imports.map Import.key) :
    place imports added =
      imports.map fun earlier => if earlier.key == added.key then added else earlier := by
  obtain ⟨earlier, member, same⟩ := List.mem_map.mp known
  have taken : (imports.any fun earlier => earlier.key == added.key) = true :=
    List.any_eq_true.mpr ⟨earlier, member, beq_iff_eq.mpr same⟩
  rw [place, if_pos taken]

theorem place_unknown (unknown : added.key ∉ imports.map Import.key) :
    place imports added = imports ++ [added] :=
  place_new fun _ member same => unknown (List.mem_map.mpr ⟨_, member, same⟩)

theorem latest?_append (imports : List Import) (added : Import) (key : String) :
    Import.latest? (imports ++ [added]) key =
      if added.key = key then some added else Import.latest? imports key := by
  simp only [Import.latest?, List.reverse_append, List.reverse_singleton, List.singleton_append,
    List.find?_cons]
  by_cases same : added.key = key
  · rw [if_pos same, beq_iff_eq.mpr same]
  · rw [if_neg same, beq_eq_false_iff_ne.mpr same]

theorem key_of_latest? (latest : Import.latest? imports key = some added) : added.key = key := by
  have found := List.find?_some latest
  exact beq_iff_eq.mp found

theorem eraseDups_append_singleton (keys : List String) (key : String) :
    (keys ++ [key]).eraseDups =
      if key ∈ keys then keys.eraseDups else keys.eraseDups ++ [key] := by
  rw [List.eraseDups_append]
  by_cases known : key ∈ keys
  · simp [known, List.removeAll]
  · simp [known, List.removeAll, List.eraseDups_cons]

theorem nodup_eraseDups (keys : List String) : keys.eraseDups.Nodup := by
  induction keys using List.reverseRecOn with
  | nil => exact List.nodup_nil
  | append_singleton keys key ih =>
      rw [eraseDups_append_singleton]
      split
      · exact ih
      · next unknown =>
          rw [← List.concat_eq_append]
          exact ih.concat fun member => unknown (List.mem_eraseDups.mp member)

theorem latest?_of_mem (known : key ∈ imports.map Import.key) :
    ∃ latest, Import.latest? imports key = some latest := by
  obtain ⟨earlier, member, same⟩ := List.mem_map.mp known
  refine Option.isSome_iff_exists.mp (List.find?_isSome.mpr ⟨earlier, ?_, beq_iff_eq.mpr same⟩)
  exact List.mem_reverse.mpr member

theorem mem_of_latest? (latest : Import.latest? imports key = some added) : added ∈ imports :=
  List.mem_reverse.mp (List.mem_of_find?_eq_some latest)

theorem mem_survivors :
    added ∈ Import.survivors imports ↔ Import.latest? imports added.key = some added := by
  rw [Import.survivors, List.mem_filterMap]
  constructor
  · rintro ⟨key, _, latest⟩
    rwa [key_of_latest? latest]
  · intro latest
    have known : added.key ∈ imports.map Import.key := List.mem_map_of_mem (mem_of_latest? latest)
    exact ⟨added.key, List.mem_eraseDups.mpr known, latest⟩

theorem find?_survivors (imports : List Import) (key : String) :
    (Import.survivors imports).find? (fun known => known.key == key) =
      Import.latest? imports key := by
  cases found : (Import.survivors imports).find? fun known => known.key == key with
  | some known =>
      have keyed : (known.key == key) = true := by
        have held := List.find?_some found
        exact held
      rw [← beq_iff_eq.mp keyed]
      exact (mem_survivors.mp (List.mem_of_find?_eq_some found)).symm
  | none =>
      cases latest : Import.latest? imports key with
      | none => rfl
      | some known =>
          obtain rfl := key_of_latest? latest
          exact absurd (beq_self_eq_true known.key)
            (List.find?_eq_none.mp found known (mem_survivors.mpr latest))

theorem keys_survivors (imports : List Import) :
    (Import.survivors imports).map Import.key = (imports.map Import.key).eraseDups := by
  have keyed : ∀ key ∈ (imports.map Import.key).eraseDups,
      (Import.latest? imports key).map Import.key = some key := by
    intro key member
    obtain ⟨latest, isLatest⟩ := latest?_of_mem (List.mem_eraseDups.mp member)
    rw [isLatest, Option.map_some, key_of_latest? isLatest]
  rw [Import.survivors, List.map_filterMap, List.filterMap_congr keyed, List.filterMap_some]

/-- To place an import is to take it behind the others. -/
theorem place_survivors (imports : List Import) (added : Import) :
    place (Import.survivors imports) added = Import.survivors (imports ++ [added]) := by
  have keys := keys_survivors imports
  by_cases known : added.key ∈ imports.map Import.key
  · rw [place_known (keys ▸ List.mem_eraseDups.mpr known)]
    unfold Import.survivors
    rw [List.map_append, List.map_singleton, eraseDups_append_singleton, if_pos known,
      List.map_filterMap]
    -- No key is new, so only what stands under the key of the added one changes.
    refine List.filterMap_congr fun key member => ?_
    obtain ⟨latest, isLatest⟩ := latest?_of_mem (List.mem_eraseDups.mp member)
    rw [latest?_append, isLatest, Option.map_some, key_of_latest? isLatest]
    by_cases same : added.key = key
    · rw [if_pos same, if_pos (beq_iff_eq.mpr same.symm)]
    · rw [if_neg same, if_neg fun equal => same (beq_iff_eq.mp equal).symm]
  · rw [place_unknown fun member => known (List.mem_eraseDups.mp (keys ▸ member))]
    unfold Import.survivors
    rw [List.map_append, List.map_singleton, eraseDups_append_singleton, if_neg known,
      List.filterMap_append]
    congr 1
    · refine List.filterMap_congr fun key member => ?_
      have other : added.key ≠ key := fun same => known (same ▸ List.mem_eraseDups.mp member)
      rw [latest?_append, if_neg other]
    · rw [List.filterMap_cons, latest?_append, if_pos rfl, List.filterMap_nil]

theorem importType_of_find? {scope : Scope} {id : TypeId} {entry : TypeEntry}
    (found : scope.catalog.find? id = some entry) (isOpen : Bool) :
    scope.importType id isOpen =
      .ok (match entry.imported? isOpen with
        | some added => { scope with imports := place scope.imports added }
        | none => scope) := by
  unfold importType TypeEntry.imported?
  rw [found]
  dsimp only
  split <;> rfl

theorem importType_of_absent {scope : Scope} {id : TypeId}
    (absent : scope.catalog.find? id = none) (isOpen : Bool) :
    scope.importType id isOpen = .error (.unknownType id) := by
  unfold importType
  rw [absent]

theorem attempt_eq (scope : Scope) (naming : Naming) :
    scope.attempt naming =
      match scope.catalog.imported? naming with
      | some added => { scope with imports := place scope.imports added }
      | none => scope := by
  unfold attempt Catalog.imported?
  cases found : scope.catalog.find? naming.id with
  | none => rw [importType_of_absent found, Option.bind_none]
  | some entry => rw [importType_of_find? found, Option.bind_some]

theorem attempted_eq (catalog : Catalog) (namings : List Naming) :
    attempted catalog namings =
      { catalog, imports := Import.survivors (namings.filterMap catalog.imported?) } := by
  induction namings using List.reverseRecOn with
  | nil => rfl
  | append_singleton namings naming ih =>
      have next : attempted catalog (namings ++ [naming]) =
          (attempted catalog namings).attempt naming := List.foldl_append
      rw [next, ih, attempt_eq, List.filterMap_append]
      cases imported : catalog.imported? naming with
      | none =>
          rw [List.filterMap_cons_none imported, List.filterMap_nil, List.append_nil]
      | some added =>
          rw [List.filterMap_cons_some imported, List.filterMap_nil, ← place_survivors]

theorem catalog_attempted (catalog : Catalog) (namings : List Naming) :
    (attempted catalog namings).catalog = catalog := by
  rw [attempted_eq]

theorem entry_of_mem_survivors {namings : List Naming}
    (survives : added ∈ Import.survivors (namings.filterMap catalog.imported?)) :
    isBuiltin added.key = false ∧
      ∃ entry, catalog.find? added.type.id = some entry ∧ added.key = Text.lower entry.name := by
  have member := mem_of_latest? (mem_survivors.mp survives)
  obtain ⟨naming, _, imported⟩ := List.mem_filterMap.mp member
  obtain ⟨entry, found, imported⟩ := Option.bind_eq_some_iff.mp imported
  unfold TypeEntry.imported? at imported
  split at imported
  · cases imported
  · next other =>
      cases imported
      exact ⟨eq_false_of_ne_true other, entry, Catalog.find?_id found, rfl⟩

theorem contains_of_mem_survivors {namings : List Naming}
    (survives : added ∈ Import.survivors (namings.filterMap catalog.imported?)) :
    catalog.contains added.type.id = true := by
  obtain ⟨_, entry, found, _⟩ := entry_of_mem_survivors survives
  rw [Catalog.contains, found]
  rfl

theorem nodup_survivors (catalog : Catalog) (namings : List Naming) :
    (((Import.survivors (namings.filterMap catalog.imported?)).filter Import.isOpen).map
      Import.type).Nodup := by
  have distinct : (Import.survivors (namings.filterMap catalog.imported?)).Nodup := by
    refine List.Nodup.of_map Import.key ?_
    rw [keys_survivors]
    exact nodup_eraseDups _
  refine List.Nodup.map_on ?_ (distinct.filter _)
  intro first isFirst second isSecond sameType
  obtain ⟨isFirst, _⟩ := List.mem_filter.mp isFirst
  obtain ⟨isSecond, _⟩ := List.mem_filter.mp isSecond
  obtain ⟨_, entry, found, firstKey⟩ := entry_of_mem_survivors isFirst
  obtain ⟨_, other, otherFound, secondKey⟩ := entry_of_mem_survivors isSecond
  rw [sameType, otherFound] at found
  obtain rfl := Option.some.inj found
  have latest := mem_survivors.mp isFirst
  rw [firstKey, ← secondKey, mem_survivors.mp isSecond] at latest
  exact (Option.some.inj latest).symm

theorem find?_builtins {known : Import} (isBuiltin : known ∈ Import.builtins) :
    (Import.builtins.find? fun other => other.key == known.key).map Import.type =
      some known.type := by
  have first : ∀ known ∈ Import.builtins,
      (Import.builtins.find? fun other => other.key == known.key).map Import.type =
        some known.type := by
    decide +kernel
  exact first known isBuiltin

theorem nodup_openBuiltins (catalog : Catalog) : catalog.openBuiltins.Nodup := by
  have distinct : ((Import.builtins.filter Import.isOpen).map Import.type).Nodup := by decide
  exact distinct.filter _

theorem typeNamed?_builtin (scope : Scope) {known : Import} (isBuiltin : known ∈ Import.builtins)
    {name : String} (named : Text.lower name = known.key) :
    scope.typeNamed? name =
      if scope.catalog.contains known.type.id then some known.type else none := by
  obtain ⟨first, found, sameType⟩ := Option.map_eq_some_iff.mp (find?_builtins isBuiltin)
  simp only [typeNamed?, named, List.find?_append, found, Option.some_or, Option.map_some,
    sameType, Option.filter_some]

theorem typeNamed?_user (scope : Scope) {name : String}
    (other : isBuiltin (Text.lower name) = false) :
    scope.typeNamed? name =
      ((scope.imports.find? fun known => known.key == Text.lower name).map Import.type).filter
        fun type => scope.catalog.contains type.id := by
  have absent : (Import.builtins.find? fun known => known.key == Text.lower name) = none :=
    List.find?_eq_none.mpr fun known member => List.any_eq_false.mp other known member
  simp only [typeNamed?, List.find?_append, absent, Option.none_or]

theorem openTypes_attempted (catalog : Catalog) (namings : List Naming) :
    (attempted catalog namings).openTypes =
      catalog.openBuiltins ++
        ((Import.survivors (namings.filterMap catalog.imported?)).filter Import.isOpen).map
          Import.type := by
  rw [attempted_eq]
  simp only [openTypes, List.filter_append, List.map_append]
  refine congrArg (catalog.openBuiltins ++ ·) (List.filter_eq_self.mpr ?_)
  intro type isOpen
  obtain ⟨known, survives, rfl⟩ := List.mem_map.mp isOpen
  exact contains_of_mem_survivors (List.mem_of_mem_filter survives)

theorem nodup_openTypes_attempted (catalog : Catalog) (namings : List Naming) :
    (attempted catalog namings).openTypes.Nodup ↔
      ∀ known ∈ Import.survivors (namings.filterMap catalog.imported?), known.isOpen = true →
        known.type ∉ catalog.openBuiltins := by
  rw [openTypes_attempted, List.nodup_append']
  constructor
  · rintro ⟨_, _, disjoint⟩ known survives isOpen builtin
    exact disjoint builtin (List.mem_map_of_mem (List.mem_filter.mpr ⟨survives, isOpen⟩))
  · intro apart
    refine ⟨nodup_openBuiltins catalog, nodup_survivors catalog namings, ?_⟩
    intro type builtin isUser
    obtain ⟨known, survives, rfl⟩ := List.mem_map.mp isUser
    obtain ⟨survives, isOpen⟩ := List.mem_filter.mp survives
    exact apart known survives isOpen builtin

/-- However types have been named, a name has the last type that took it, and the open types are the
built-in ones and those that were open when they took their names. -/
theorem namesTypes (catalog : Catalog) (namings : List Naming) : NamesTypes catalog namings where
  unregistered isOpen absent := by
    rw [← catalog_attempted catalog namings] at absent
    have refused := importType_of_absent absent isOpen
    exact ⟨refused, by rw [attempt, refused]⟩
  registered isOpen present := by
    rw [← catalog_attempted catalog namings] at present
    obtain ⟨entry, found⟩ := Option.isSome_iff_exists.mp present
    exact ⟨_, importType_of_find? found isOpen⟩
  builtin isBuiltin _ named := by
    rw [typeNamed?_builtin _ isBuiltin named, catalog_attempted]
  user other := by
    rw [attempted_eq, typeNamed?_user _ other, find?_survivors]
    dsimp only
    cases latest : Import.latest? (namings.filterMap catalog.imported?) _ with
    | none => rfl
    | some known =>
        rw [← key_of_latest? latest] at latest
        have registered := contains_of_mem_survivors (mem_survivors.mpr latest)
        rw [Option.map_some, Option.filter_some, if_pos registered]
  opened := openTypes_attempted catalog namings
  apart := nodup_openTypes_attempted catalog namings
  once named := by
    refine (nodup_openTypes_attempted catalog namings).mpr fun known survives _ builtin => ?_
    obtain ⟨other, entry, found, keyed⟩ := entry_of_mem_survivors survives
    rw [keyed, named _ builtin entry found] at other
    cases other

/-- The types that the language itself depends on go by built-in names. -/
example : ∀ type ∈ Catalog.primitives.openBuiltins, ∀ entry ∈ Catalog.primitives.find? type.id,
    isBuiltin (Text.lower entry.name) = true := by
  decide +kernel

/-- A type outside of all namespaces of which the name is the full name of a built-in type. -/
def dottedMath : TypeEntry :=
  .declare "" "System.Math" .staticType

/-- It has the id of that type and not the name, and so it is open twice as soon as it is named. -/
theorem openTypes_dottedMath :
    ∃ catalog, Catalog.primitives.register dottedMath = .ok catalog ∧
      (attempted catalog [⟨.math, true⟩]).openTypes =
        [.plain .string, .plain .object, .plain .math, .plain .math] ∧
      ¬(attempted catalog [⟨.math, true⟩]).openTypes.Nodup := by
  have new : Catalog.primitives.contains dottedMath.id = false := by decide +kernel
  refine ⟨⟨Catalog.primitives.entries ++ [dottedMath]⟩, ?_, ?_⟩
  · rw [Catalog.register, new]
    rfl
  · have opened : (attempted ⟨Catalog.primitives.entries ++ [dottedMath]⟩
        [⟨.math, true⟩]).openTypes =
          [.plain .string, .plain .object, .plain .math, .plain .math] := by
      decide +kernel
    rw [opened]
    exact ⟨rfl, by decide⟩

end Scope

end Formula
