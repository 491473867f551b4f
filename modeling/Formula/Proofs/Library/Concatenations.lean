import Formula.Proofs.Catalog.Hierarchy
import Formula.Proofs.Library.Installation
import Formula.Proofs.Text.Case
import Formula.Typing.Binary

/-!
The overloads that concatenate texts. The library declares them on the type of texts, nothing
else of that name is declared there, and no other type declares a method in its place.
-/

namespace Formula

namespace Library

def concatMethods : List Method :=
  concats.map (·.ownedBy .string)

def textMembers : List Member :=
  texts.flatMap fun
    | .extend _ members _ => members
    | .register _ => []

structure TakesOperand (element : DataType) (parameter : Parameter) : Prop where
  type : parameter.type = element
  default : parameter.default = none
  single : parameter.isVariadic = false

/-- A method that joins the texts of its arguments, all of them texts or all of them objects. -/
structure IsConcat (method : Method) (element : DataType) : Prop where
  known : element = .string ∨ element = .object
  body : method.body = concatBody
  parameters :
    (method.parameters ≠ [] ∧ ∀ parameter ∈ method.parameters, TakesOperand element parameter) ∨
      ∃ name, method.parameters = [.variadic name element]

theorem takesOperand_concatOf (label : String) (element : DataType) (count : Nat) :
    ∀ parameter ∈ (concatOf label element count).parameters, TakesOperand element parameter := by
  intro parameter member
  obtain ⟨index, _, rfl⟩ := List.mem_map.mp member
  exact ⟨rfl, rfl, rfl⟩

theorem isConcat_concatOf (label : String) {element : DataType}
    (known : element = .string ∨ element = .object) {count : Nat} (positive : 0 < count) :
    IsConcat ((concatOf label element count).ownedBy .string) element := by
  refine ⟨known, rfl, .inl ⟨?_, takesOperand_concatOf label element count⟩⟩
  intro impossible
  have none := List.map_eq_nil_iff.mp impossible
  rw [List.range_eq_nil] at none
  omega

theorem isConcat_concatAll (name : String) {element : DataType}
    (known : element = .string ∨ element = .object) :
    IsConcat ((concatAll name element).ownedBy .string) element :=
  ⟨known, rfl, .inr ⟨name, rfl⟩⟩

theorem isConcat_of_mem {method : Method} (member : method ∈ concatMethods) :
    ∃ element, IsConcat method element := by
  obtain ⟨declared, isDeclared, rfl⟩ := List.mem_map.mp member
  unfold concats at isDeclared
  simp only [List.mem_append, List.mem_map, List.mem_singleton] at isDeclared
  rcases isDeclared with ((⟨count, counts, rfl⟩ | rfl) | ⟨count, counts, rfl⟩) | rfl
  · refine ⟨.string, isConcat_concatOf _ (.inl rfl) ?_⟩
    simp only [List.mem_cons, List.not_mem_nil, or_false] at counts
    omega
  · exact ⟨.string, isConcat_concatAll _ (.inl rfl)⟩
  · refine ⟨.object, isConcat_concatOf _ (.inr rfl) ?_⟩
    simp only [List.mem_cons, List.not_mem_nil, or_false] at counts
    omega
  · exact ⟨.object, isConcat_concatAll _ (.inr rfl)⟩

end Library

namespace Catalog

open Library

variable {catalog : Catalog}

/-- A catalog that concatenates texts the way of the library. -/
structure Concatenates (catalog : Catalog) : Prop where
  primitives : catalog.HoldsPrimitives
  overloads : catalog.methods .string concatName true = concatMethods
  /-- Whoever looks up a concatenation of texts sees all of its overloads. -/
  elsewhere : ∀ type name method, method ∈ catalog.methods type name true →
    method.owner = .string → method.name = concatName →
      catalog.methods type name true = concatMethods
  distinct : catalog.isAssignable .string .object = false

theorem foldl_addUnlessOverridden_own {id : TypeId} {methods found : List Method}
    (own : ∀ method ∈ methods, method.owner = id) (ownFound : ∀ method ∈ found, method.owner = id) :
    methods.foldl addUnlessOverridden found = found ++ methods := by
  induction methods generalizing found with
  | nil => rw [List.foldl_nil, List.append_nil]
  | cons method methods ih =>
      have ownHead := own method (List.mem_cons_self ..)
      have added : addUnlessOverridden found method = found ++ [method] := by
        unfold addUnlessOverridden
        rw [if_neg]
        intro overridden
        obtain ⟨earlier, member, differs⟩ := List.any_eq_true.mp overridden
        rw [ownFound earlier member, ownHead] at differs
        simp at differs
      rw [List.foldl_cons, added, ih]
      · rw [List.append_assoc, List.singleton_append]
      · exact fun later member => own later (List.mem_cons_of_mem _ member)
      · intro earlier member
        rcases List.mem_append.mp member with before | same
        · exact ownFound earlier before
        · rw [List.mem_singleton.mp same]
          exact ownHead

/-- What is declared in one entry only is found there, whatever comes first. -/
theorem methods_of_declaringEntries (owns : catalog.OwnsMethods) {type : DataType}
    {isStatic : Bool} {entry : TypeEntry} (known : entry ∈ catalog.entries)
    (alone : catalog.declaringEntries type isStatic = [entry]) (name : String) :
    catalog.methods type name isStatic =
      entry.methods.filter fun method => method.isStatic == isStatic && method.isNamed name := by
  have own : ∀ method ∈ entry.methods.filter fun method =>
      method.isStatic == isStatic && method.isNamed name, method.owner = entry.id :=
    fun method member => owns entry known method (List.mem_filter.mp member).1
  unfold methods
  rw [alone, List.flatMap_singleton]
  exact foldl_addUnlessOverridden_own own fun method impossible => by cases impossible

theorem methods_static (owns : catalog.OwnsMethods) {type : DataType} {entry : TypeEntry}
    (found : catalog.entryFor? type = some entry) (name : String) :
    catalog.methods type name true =
      entry.methods.filter fun method => method.isStatic && method.isNamed name := by
  have known := (find?_mem (entryFor?_find? found)).1
  have alone : catalog.declaringEntries type true = [entry] := by
    unfold declaringEntries
    simp only [found, if_true]
  rw [methods_of_declaringEntries owns known alone]
  simp only [beq_true]

theorem standard_ownsMethods (surroundings : Surroundings) :
    (standard surroundings).OwnsMethods := by
  apply install_ownsMethods
  · exact fun step member => steps_ownMethods surroundings member
  · intro entry member method declared
    have bare : primitives.entries.all (·.methods.isEmpty) = true := by decide +kernel
    rw [List.isEmpty_iff.mp (List.all_eq_true.mp bare entry member)] at declared
    cases declared

/-- What the language depends on keeps its kind, its base and its interfaces. -/
theorem standard_find? (surroundings : Surroundings) {id : TypeId} {entry : TypeEntry}
    (found : primitives.find? id = some entry) :
    ∃ grown, (standard surroundings).find? id = some grown ∧ entry.Grows grown := by
  obtain ⟨grown, isGrown, grows, _⟩ := install_find? (steps surroundings) found
  exact ⟨grown, isGrown, grows⟩

theorem standard_holdsPrimitives (surroundings : Surroundings) :
    (standard surroundings).HoldsPrimitives := by
  intro primitive member
  obtain ⟨entry, found, kind⟩ :=
    Option.map_eq_some_iff.mp (holdsPrimitives_primitives primitive member)
  obtain ⟨grown, isGrown, grows⟩ := standard_find? surroundings found
  rw [isGrown, Option.map_some, grows.kind, kind]

theorem standard_extendIf_string (surroundings : Surroundings) :
    ∃ bare, primitives.find? .string = some bare ∧ bare.base = some .object ∧
      bare.members = [] ∧ bare.methods = [] ∧
      (standard surroundings).find? .string =
        some (bare.extendIf .string textMembers (concats ++ textMethods)) := by
  have bare : (primitives.find? .string).map (fun entry =>
      (entry.base, entry.members.isEmpty, entry.methods.isEmpty)) =
        some (some .object, true, true) := by decide +kernel
  obtain ⟨entry, found, isBare⟩ := Option.map_eq_some_iff.mp bare
  simp only [Prod.mk.injEq, List.isEmpty_iff] at isBare
  obtain ⟨base, members, methods⟩ := isBare
  let later := arrays ++ enumerations ++ mathematics ++ conversions ++
    times surroundings.zone surroundings.now ++ guids surroundings.fresh ++ patterns
  have order : steps surroundings = (objects ++ scalars) ++ (texts ++ later) := by
    simp [steps, later, Part.all, Part.steps]
  have succeeds : (primitives.install (objects ++ scalars)).2 = none := by decide +kernel
  have sparedBefore : (objects ++ scalars).all (·.spares .string) = true := by decide +kernel
  have sparedLater : later.all (·.spares .string) = true := rfl
  refine ⟨entry, found, base, members, methods, ?_⟩
  unfold standard
  rw [order]
  exact install_extend found succeeds sparedBefore sparedLater textMembers _

theorem standard_find?_string (surroundings : Surroundings) :
    ∃ entry, (standard surroundings).find? .string = some entry ∧
      entry.methods = concatMethods ++ textMethods.map (·.ownedBy .string) := by
  obtain ⟨bare, found, _, _, methods, isGrown⟩ := standard_extendIf_string surroundings
  refine ⟨_, isGrown, ?_⟩
  rw [TypeEntry.methods_extendIf (find?_mem found).2, methods, List.nil_append, List.map_append]
  rfl

theorem filter_concats {name : String} (same : Text.sameName concatName name = true) :
    ((concatMethods ++ textMethods.map (·.ownedBy .string)).filter fun method =>
      method.isStatic && method.isNamed name) = concatMethods := by
  have all : concatMethods.all (fun method => method.isStatic && method.isNamed concatName) =
      true := by decide +kernel
  have none : textMethods.all (fun method => !(method.isStatic && method.isNamed concatName)) =
      true := by decide +kernel
  have named : ∀ method : Method, method.isNamed name = method.isNamed concatName :=
    fun method => (Text.sameName_congr same method.name).symm
  simp only [named]
  rw [List.filter_append, List.filter_eq_self.mpr, List.filter_eq_nil_iff.mpr, List.append_nil]
  · intro declared member
    obtain ⟨method, isMethod, rfl⟩ := List.mem_map.mp member
    have other := List.all_eq_true.mp none method isMethod
    rw [Bool.not_eq_true'] at other
    exact ne_true_of_eq_false other
  · exact List.all_eq_true.mp all

theorem standard_methods (surroundings : Surroundings) {type : DataType} {name : String}
    {entry : TypeEntry} (found : (standard surroundings).entryFor? type = some entry)
    (isString : entry.id = .string) (same : Text.sameName concatName name = true) :
    (standard surroundings).methods type name true = concatMethods := by
  obtain ⟨known, isKnown, methods⟩ := standard_find?_string surroundings
  have isFound := entryFor?_find? found
  rw [isString, isKnown] at isFound
  cases isFound
  rw [methods_static (standard_ownsMethods surroundings) found, methods]
  exact filter_concats same

theorem isAssignable_of_root {root : TypeEntry} (found : catalog.find? .object = some root)
    (noBase : root.base = none) (noInterfaces : root.interfaces = []) :
    catalog.isAssignable .string .object = false := by
  have base : catalog.base? .object = none := by
    unfold base?
    simp [DataType.object, DataType.isArray, DataType.isNullable, found, noBase]
  have chain : catalog.baseChain chainLimit .object = [.object] := by
    unfold chainLimit baseChain
    rw [base]
  have direct : catalog.directInterfaces .object = [] := by
    unfold directInterfaces
    rw [found]
    exact noInterfaces
  have missed : catalog.reaches .string .object = false := by
    rw [Bool.eq_false_iff]
    intro reached
    obtain ⟨type, member, arrives⟩ := reaches_iff.mp reached
    rw [chain, List.mem_singleton] at member
    subst member
    rcases arrives with same | ⟨_, implements⟩
    · exact absurd same (by decide)
    · exact not_implements_of_none direct _ implements
  exact missed

theorem standard_concatenates (surroundings : Surroundings) :
    (standard surroundings).Concatenates where
  primitives := standard_holdsPrimitives surroundings
  overloads := by
    obtain ⟨entry, found, _⟩ := standard_find?_string surroundings
    exact standard_methods surroundings found (find?_mem found).2 (by decide +kernel)
  elsewhere type name method member isString isConcat := by
    cases found : (standard surroundings).entryFor? type with
    | none =>
        unfold methods declaringEntries at member
        simp [found] at member
    | some entry =>
        have known := (find?_mem (entryFor?_find? found)).1
        have listed := member
        rw [methods_static (standard_ownsMethods surroundings) found, List.mem_filter,
          Bool.and_eq_true] at listed
        obtain ⟨declared, _, named⟩ := listed
        unfold Method.isNamed at named
        rw [isConcat] at named
        rw [standard_ownsMethods surroundings entry known method declared] at isString
        exact standard_methods surroundings found isString named
  distinct := by
    have bare : (Catalog.primitives.find? .object).map (fun root => (root.base, root.interfaces)) =
        some (none, []) := by decide +kernel
    obtain ⟨root, found, isRoot⟩ := Option.map_eq_some_iff.mp bare
    rw [Prod.mk.injEq] at isRoot
    obtain ⟨grown, isGrown, grows⟩ := standard_find? surroundings found
    exact isAssignable_of_root isGrown (grows.base.trans isRoot.1)
      (grows.interfaces.trans isRoot.2)

end Catalog

end Formula
