import Formula.Library.Standard
import Formula.Proofs.Typing.Lookup

/-!
What the installation of a library leaves alone. Steps add members and methods to entries, each
under the id of its entry, and new entries under new ids; the kind, the base and the interfaces of
a type stay what they are.
-/

namespace Formula

def Method.ownedBy (method : Method) (owner : TypeId) : Method :=
  { method with owner := owner }

namespace TypeEntry

def OwnsMethods (entry : TypeEntry) : Prop :=
  ∀ method ∈ entry.methods, method.owner = entry.id

structure Grows (entry grown : TypeEntry) : Prop where
  id : grown.id = entry.id
  kind : grown.kind = entry.kind
  base : grown.base = entry.base
  interfaces : grown.interfaces = entry.interfaces
  methods : entry.OwnsMethods → grown.OwnsMethods

namespace Grows

variable {entry middle grown : TypeEntry}

theorem refl (entry : TypeEntry) : Grows entry entry :=
  ⟨rfl, rfl, rfl, rfl, fun owns => owns⟩

theorem trans (first : Grows entry middle) (second : Grows middle grown) : Grows entry grown where
  id := second.id.trans first.id
  kind := second.kind.trans first.kind
  base := second.base.trans first.base
  interfaces := second.interfaces.trans first.interfaces
  methods owns := second.methods (first.methods owns)

end Grows

theorem grows_addMember (entry : TypeEntry) (member : Member) :
    Grows entry (entry.addMember member) :=
  ⟨rfl, rfl, rfl, rfl, fun owns => owns⟩

theorem grows_addMethod (entry : TypeEntry) (method : Method) :
    Grows entry (entry.addMethod method) := by
  refine ⟨rfl, rfl, rfl, rfl, ?_⟩
  intro owns declared member
  unfold addMethod at member
  rw [List.mem_append, List.mem_singleton] at member
  rcases member with earlier | rfl
  · exact owns declared earlier
  · rfl

theorem grows_addMembers (entry : TypeEntry) (members : List Member) :
    Grows entry (entry.addMembers members) := by
  unfold addMembers
  induction members generalizing entry with
  | nil => exact .refl entry
  | cons member members ih => exact (grows_addMember entry member).trans (ih _)

theorem grows_addMethods (entry : TypeEntry) (methods : List Method) :
    Grows entry (entry.addMethods methods) := by
  unfold addMethods
  induction methods generalizing entry with
  | nil => exact .refl entry
  | cons method methods ih => exact (grows_addMethod entry method).trans (ih _)

theorem methods_addMethods (entry : TypeEntry) (methods : List Method) :
    (entry.addMethods methods).methods =
      entry.methods ++ methods.map (·.ownedBy entry.id) := by
  unfold addMethods
  induction methods generalizing entry with
  | nil => rw [List.foldl_nil, List.map_nil, List.append_nil]
  | cons method methods ih =>
      rw [List.foldl_cons, ih, List.map_cons]
      unfold addMethod
      rw [List.append_assoc]
      rfl

theorem reading_foldl {β γ : Type} (reading : TypeEntry → γ) (add : TypeEntry → β → TypeEntry)
    (keeps : ∀ entry item, reading (add entry item) = reading entry) (items : List β)
    (entry : TypeEntry) : reading (items.foldl add entry) = reading entry := by
  induction items generalizing entry with
  | nil => rfl
  | cons item items ih => rw [List.foldl_cons, ih, keeps]

theorem methods_addMembers (entry : TypeEntry) (members : List Member) :
    (entry.addMembers members).methods = entry.methods :=
  reading_foldl TypeEntry.methods addMember (fun _ _ => rfl) members entry

def extendIf (id : TypeId) (members : List Member) (methods : List Method) (entry : TypeEntry) :
    TypeEntry :=
  if entry.id = id then { (entry.addMembers members).addMethods methods with id := entry.id }
  else entry

theorem extendIf_other {id : TypeId} {entry : TypeEntry} (other : entry.id ≠ id)
    (members : List Member) (methods : List Method) :
    entry.extendIf id members methods = entry :=
  if_neg other

theorem grows_extendIf (id : TypeId) (members : List Member) (methods : List Method)
    (entry : TypeEntry) : Grows entry (entry.extendIf id members methods) := by
  unfold extendIf
  split
  · have grows := (grows_addMembers entry members).trans (grows_addMethods _ methods)
    refine ⟨rfl, grows.kind, grows.base, grows.interfaces, ?_⟩
    intro owns method member
    rw [grows.methods owns method member]
    exact grows.id
  · exact .refl entry

theorem methods_extendIf {id : TypeId} {entry : TypeEntry} (same : entry.id = id)
    (members : List Member) (methods : List Method) :
    (entry.extendIf id members methods).methods =
      entry.methods ++ methods.map (·.ownedBy id) := by
  unfold extendIf
  rw [if_pos same]
  change ((entry.addMembers members).addMethods methods).methods = _
  rw [methods_addMethods, methods_addMembers, (grows_addMembers entry members).id, same]

theorem ownsMethods_declare (namespaceName name : String) (kind : TypeKind) :
    (declare namespaceName name kind).OwnsMethods := by
  intro method impossible
  cases impossible

theorem ownsMethods_enumeration (namespaceName name : String) (underlying : Scalar)
    (values : List (String × Int64)) :
    (enumeration namespaceName name underlying values).OwnsMethods := by
  unfold enumeration
  have start := ownsMethods_declare namespaceName name (.enumType underlying)
  generalize declare namespaceName name (.enumType underlying) = entry at start ⊢
  induction values generalizing entry with
  | nil => exact start
  | cons value values ih => exact ih _ ((grows_addMember entry _).methods start)

theorem ownsMethods_added (namespaceName name : String) (kind : TypeKind) (members : List Member)
    (methods : List Method) :
    (((declare namespaceName name kind).addMembers members).addMethods methods).OwnsMethods := by
  have own := (grows_addMembers _ members).methods (ownsMethods_declare namespaceName name kind)
  exact (grows_addMethods _ methods).methods own

inductive Built : TypeEntry → Prop
  | added (namespaceName name : String) (kind : TypeKind) (members : List Member)
      (methods : List Method) :
      Built (((declare namespaceName name kind).addMembers members).addMethods methods)
  | enumeration (namespaceName name : String) (underlying : Scalar)
      (values : List (String × Int64)) :
      Built (enumeration namespaceName name underlying values)

theorem Built.ownsMethods {entry : TypeEntry} (built : entry.Built) : entry.OwnsMethods := by
  cases built with
  | added => exact ownsMethods_added _ _ _ _ _
  | enumeration => exact ownsMethods_enumeration _ _ _ _

end TypeEntry

namespace InstallationStep

def OwnsMethods : InstallationStep → Prop
  | extend _ _ _ => True
  | register entry => entry.OwnsMethods

def isExtension : InstallationStep → Bool
  | extend _ _ _ => true
  | register _ => false

theorem ownsMethods_of_isExtension {step : InstallationStep}
    (extension : step.isExtension = true) : step.OwnsMethods := by
  cases step with
  | extend id members methods => trivial
  | register entry => cases extension

def spares (id : TypeId) : InstallationStep → Bool
  | extend extended _ _ => extended != id
  | register _ => true

end InstallationStep

namespace Catalog

variable {catalog extended : Catalog}

def OwnsMethods (catalog : Catalog) : Prop :=
  ∀ entry ∈ catalog.entries, entry.OwnsMethods

theorem perform_cases {step : InstallationStep} (performed : catalog.perform step = .ok extended) :
    (∃ id members methods, step = .extend id members methods ∧ catalog.contains id = true ∧
      extended = ⟨catalog.entries.map (TypeEntry.extendIf id members methods)⟩) ∨
    ∃ entry, step = .register entry ∧ catalog.contains entry.id = false ∧
      extended = ⟨catalog.entries ++ [entry]⟩ := by
  cases step with
  | extend id members methods =>
      change catalog.update id _ = .ok extended at performed
      unfold update at performed
      by_cases known : catalog.contains id = true
      · rw [if_pos known] at performed
        injection performed with same
        exact .inl ⟨id, members, methods, rfl, known, same.symm⟩
      · rw [if_neg known] at performed
        cases performed
  | register entry =>
      change catalog.register entry = .ok extended at performed
      unfold register at performed
      by_cases known : catalog.contains entry.id = true
      · rw [if_pos known] at performed
        cases performed
      · rw [if_neg known] at performed
        injection performed with same
        exact .inr ⟨entry, rfl, Bool.eq_false_iff.mpr known, same.symm⟩

theorem find?_map {change : TypeEntry → TypeEntry} (keeps : ∀ entry, (change entry).id = entry.id)
    (id : TypeId) :
    (Catalog.mk (catalog.entries.map change)).find? id = (catalog.find? id).map change := by
  unfold find?
  rw [List.find?_map]
  congr 2
  funext entry
  rw [Function.comp_apply, keeps]

theorem perform_extend {id : TypeId} {entry : TypeEntry} (found : catalog.find? id = some entry)
    (members : List Member) (methods : List Method) :
    ∃ extended, catalog.perform (.extend id members methods) = .ok extended ∧
      extended.find? id = some (entry.extendIf id members methods) := by
  have known : catalog.contains id = true := by
    unfold contains
    rw [found]
    rfl
  have keeps := fun entry => (TypeEntry.grows_extendIf id members methods entry).id
  exact ⟨_, if_pos known, (find?_map keeps id).trans (congrArg (Option.map _) found)⟩

theorem perform_find? {step : InstallationStep} (performed : catalog.perform step = .ok extended)
    {id : TypeId} {entry : TypeEntry} (found : catalog.find? id = some entry) :
    ∃ grown, extended.find? id = some grown ∧ entry.Grows grown ∧
      (step.spares id = true → grown = entry) := by
  rcases perform_cases performed with
    ⟨changed, members, methods, rfl, _, rfl⟩ | ⟨added, rfl, _, rfl⟩
  · have grows := TypeEntry.grows_extendIf changed members methods
    refine ⟨entry.extendIf changed members methods, ?_, grows entry, ?_⟩
    · rw [find?_map fun entry => (grows entry).id, found, Option.map_some]
    intro spared
    have other : changed ≠ id := bne_iff_ne.mp spared
    apply TypeEntry.extendIf_other
    rw [(find?_mem found).2]
    exact other.symm
  · refine ⟨entry, ?_, .refl entry, fun _ => rfl⟩
    unfold find? at found ⊢
    rw [List.find?_append, found]
    rfl

theorem perform_ownsMethods {step : InstallationStep}
    (performed : catalog.perform step = .ok extended) (stepOwns : step.OwnsMethods)
    (owns : catalog.OwnsMethods) : extended.OwnsMethods := by
  intro grown member
  rcases perform_cases performed with
    ⟨changed, members, methods, rfl, _, rfl⟩ | ⟨added, rfl, _, rfl⟩
  · obtain ⟨entry, known, rfl⟩ := List.mem_map.mp member
    exact (TypeEntry.grows_extendIf changed members methods entry).methods (owns entry known)
  · rcases List.mem_append.mp member with earlier | new
    · exact owns grown earlier
    · rw [List.mem_singleton.mp new]
      exact stepOwns

theorem install_cons {step : InstallationStep} (performed : catalog.perform step = .ok extended)
    (steps : List InstallationStep) :
    catalog.install (step :: steps) = extended.install steps := by
  simp only [install, performed]

theorem install_find? (steps : List InstallationStep) {id : TypeId} {entry : TypeEntry}
    (found : catalog.find? id = some entry) :
    ∃ grown, (catalog.install steps).1.find? id = some grown ∧ entry.Grows grown ∧
      (steps.all (·.spares id) = true → grown = entry) := by
  induction steps generalizing catalog entry with
  | nil => exact ⟨entry, found, .refl entry, fun _ => rfl⟩
  | cons step steps ih =>
      unfold install
      split
      · rename_i next performed
        obtain ⟨middle, isMiddle, first, sparedFirst⟩ := perform_find? performed found
        obtain ⟨grown, isGrown, rest, sparedRest⟩ := ih isMiddle
        refine ⟨grown, isGrown, first.trans rest, ?_⟩
        intro spared
        rw [List.all_cons, Bool.and_eq_true] at spared
        rw [sparedRest spared.2, sparedFirst spared.1]
      · rename_i cause failed
        refine ⟨entry, found, .refl entry, fun _ => rfl⟩

theorem install_ownsMethods {steps : List InstallationStep}
    (stepsOwn : ∀ step ∈ steps, step.OwnsMethods) (owns : catalog.OwnsMethods) :
    (catalog.install steps).1.OwnsMethods := by
  induction steps generalizing catalog with
  | nil => exact owns
  | cons step steps ih =>
      unfold install
      split
      · rename_i next performed
        apply ih fun later member => stepsOwn later (List.mem_cons_of_mem _ member)
        exact perform_ownsMethods performed (stepsOwn step (List.mem_cons_self ..)) owns
      · exact owns

theorem install_append {steps others : List InstallationStep}
    (succeeds : (catalog.install steps).2 = none) :
    catalog.install (steps ++ others) = (catalog.install steps).1.install others := by
  induction steps generalizing catalog with
  | nil => rfl
  | cons step steps ih =>
      rw [List.cons_append]
      cases performed : catalog.perform step with
      | ok next =>
          rw [install_cons performed] at succeeds
          rw [install_cons performed, install_cons performed]
          exact ih succeeds
      | error cause =>
          simp only [install, performed] at succeeds
          cases succeeds

/-- Where one step extends a type and no other does, the type is as it was with what that step
adds. -/
theorem install_extend {before later : List InstallationStep} {id : TypeId} {entry : TypeEntry}
    (found : catalog.find? id = some entry) (succeeds : (catalog.install before).2 = none)
    (sparedBefore : before.all (·.spares id) = true)
    (sparedLater : later.all (·.spares id) = true) (members : List Member)
    (methods : List Method) :
    (catalog.install (before ++ .extend id members methods :: later)).1.find? id =
      some (entry.extendIf id members methods) := by
  obtain ⟨kept, isKept, _, unchanged⟩ := install_find? before found
  rw [unchanged sparedBefore] at isKept
  obtain ⟨extended, performed, isGrown⟩ := perform_extend isKept members methods
  obtain ⟨last, isLast, _, unchangedLater⟩ := install_find? later isGrown
  rw [install_append succeeds, install_cons performed, isLast, unchangedLater sparedLater]

end Catalog

namespace Library

theorem steps_built (surroundings : Surroundings) {step : InstallationStep}
    (member : step ∈ steps surroundings) :
    step.isExtension = true ∨ ∃ entry, step = .register entry ∧ entry.Built := by
  obtain ⟨part, _, member⟩ := List.mem_flatMap.mp member
  cases part with
  | objects | texts | arrays =>
      rw [List.mem_singleton.mp member]
      exact .inl rfl
  | scalars =>
      have extensions : scalars.all InstallationStep.isExtension = true := rfl
      exact .inl (List.all_eq_true.mp extensions step member)
  | enumerations =>
      simp only [Part.steps, enumerations, List.mem_cons, List.not_mem_nil, or_false] at member
      rcases member with rfl | rfl | rfl <;> exact .inr ⟨_, rfl, .enumeration _ _ _ _⟩
  | mathematics =>
      simp only [Part.steps, mathematics, List.mem_cons, List.not_mem_nil, or_false] at member
      rcases member with rfl | rfl <;> exact .inr ⟨_, rfl, .added _ _ _ _ _⟩
  | conversions =>
      rw [List.mem_singleton.mp member]
      exact .inr ⟨_, rfl, .added _ _ _ [] _⟩
  | times =>
      simp only [Part.steps, times, List.mem_cons, List.not_mem_nil, or_false] at member
      rcases member with rfl | rfl | rfl
      · exact .inr ⟨_, rfl, .enumeration _ _ _ _⟩
      · exact .inr ⟨_, rfl, .added _ _ _ _ _⟩
      · exact .inr ⟨_, rfl, .added _ _ _ _ _⟩
  | guids =>
      rw [List.mem_singleton.mp member]
      exact .inr ⟨_, rfl, .added _ _ _ [_] _⟩
  | patterns =>
      simp only [Part.steps, patterns, List.mem_cons, List.not_mem_nil, or_false] at member
      rcases member with rfl | rfl
      · exact .inr ⟨_, rfl, .enumeration _ _ _ _⟩
      · exact .inr ⟨_, rfl, .added _ _ _ [] _⟩

theorem steps_ownMethods (surroundings : Surroundings) {step : InstallationStep}
    (member : step ∈ steps surroundings) : step.OwnsMethods := by
  rcases steps_built surroundings member with extension | ⟨entry, rfl, built⟩
  · exact InstallationStep.ownsMethods_of_isExtension extension
  · exact built.ownsMethods

theorem filter_isNamed_momentMethods (zone : TimeZone) {name : String}
    (unzoned : ["Parse", "ToUniversalTime", "ToLocalTime"].all
      fun zoned => !Text.sameName zoned name) :
    (momentMethods zone).filter (·.isNamed name) =
      (momentMethods .universal).filter (·.isNamed name) := by
  simp only [List.all_cons, List.all_nil, Bool.and_true, Bool.and_eq_true,
    Bool.not_eq_true'] at unzoned
  obtain ⟨parse, toUniversal, toLocal⟩ := unzoned
  have makers (zone : TimeZone) : (momentMakers zone).filter (·.isNamed name) =
      (momentMakers .universal).tail.filter (·.isNamed name) :=
    List.filter_cons_of_neg (ne_true_of_eq_false parse)
  have movements (zone : TimeZone) : (momentMovements zone).filter (·.isNamed name) =
      (momentMovements .universal).dropLast.dropLast.filter (·.isNamed name) := by
    have foreign : [method0 "ToUniversalTime" .moment .moment (DateTime.toUniversal zone),
        method0 "ToLocalTime" .moment .moment (DateTime.toLocal zone)].filter
          (·.isNamed name) = [] := by
      simp only [List.filter_eq_nil_iff, List.forall_mem_cons, List.not_mem_nil, false_implies,
        implies_true, and_true]
      exact ⟨ne_true_of_eq_false toUniversal, ne_true_of_eq_false toLocal⟩
    change ((momentMovements .universal).dropLast.dropLast ++ _).filter _ = _
    rw [List.filter_append, foreign, List.append_nil]
  simp only [momentMethods, List.filter_append, makers, movements zone, movements .universal]

/-- What the methods of instants make of a call, under any name but those of the methods that look
at the local clock. Who owns a method makes no difference to its response. -/
theorem bodies_momentEntry (zone : TimeZone) (now : DateTime) {name : String}
    (unzoned : ["Parse", "ToUniversalTime", "ToLocalTime"].all
      fun zoned => !Text.sameName zoned name) (call : Invocation) :
    ((momentEntry zone now).methods.filter (·.isNamed name)).map (·.body call) =
      ((momentMethods .universal).filter (·.isNamed name)).map (·.body call) := by
  rw [← filter_isNamed_momentMethods zone unzoned, momentEntry, TypeEntry.methods_addMethods,
    TypeEntry.methods_addMembers]
  change ((List.map _ _).filter _).map _ = _
  rw [List.filter_map, List.map_map]
  rfl

end Library

end Formula
