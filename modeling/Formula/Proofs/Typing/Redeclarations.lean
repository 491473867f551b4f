import Formula.Proofs.Catalog.Hiding
import Formula.Proofs.Overload.Circles
import Formula.Proofs.Typing.Ambiguities

/-!
Redeclarations. A lookup drops a method only if a type further down declares one of the very same
name and for the same parameter types, and drops no indexer; what else has the same parameter types
is left to the choice, where the depth of the declaring types decides. So what is redeclared is
neither returned nor listed, as long as preference does not run in a circle.
-/

namespace Formula

namespace Catalog

def TakeAlike (catalog : Catalog) (arguments : List DataType) (one other : List Parameter) :
    Prop :=
  ∃ form another, catalog.applicableForm? one arguments = some form ∧
    catalog.applicableForm? other arguments = some another ∧ form.isExpanded = another.isExpanded

/-- The first one is declared further down, for the same parameter types, and takes the arguments
in the same form. -/
structure Redeclares (catalog : Catalog) (arguments : List DataType) (derived base : Signature) :
    Prop where
  below : catalog.Descends derived.owner base.owner
  types : parameterTypes derived.parameters = parameterTypes base.parameters
  alike : catalog.TakeAlike arguments derived.parameters base.parameters

def Shallow (catalog : Catalog) : Prop :=
  ∀ entry ∈ catalog.entries, catalog.depth entry.type < 64

/-- Someone takes the arguments, and whoever does is beaten by another one. -/
def Circular (catalog : Catalog) (candidates : List Signature) (arguments : List DataType) : Prop :=
  (∃ candidate, catalog.Applies candidates arguments candidate) ∧
    ∀ candidate, catalog.Applies candidates arguments candidate →
      ¬catalog.Unbeaten candidates arguments candidate

/-- What an ambiguity among the items lists: those that are tied, or all if none takes the
arguments. -/
def listedAmong {α : Type} (catalog : Catalog) (items : List α) (signature : α → Signature)
    (arguments : List DataType) : List α :=
  match catalog.resolve (items.map signature) arguments with
  | .ambiguous tied => tied.filterMap fun index => items[index]?
  | _ => items

variable {catalog : Catalog} {arguments : List DataType}

theorem Capped.not_circular (capped : catalog.Capped) (acyclic : catalog.Acyclic)
    {candidates : List Signature} : ¬catalog.Circular candidates arguments := by
  rintro ⟨⟨candidate, applies⟩, beaten⟩
  obtain ⟨best, appliesBest, unbeaten⟩ := capped.exists_unbeaten acyclic applies
  exact beaten best appliesBest unbeaten

theorem TakeAlike.trans {one other last : List Parameter}
    (lower : catalog.TakeAlike arguments one other)
    (upper : catalog.TakeAlike arguments other last) : catalog.TakeAlike arguments one last := by
  obtain ⟨form, middle, takes, takesMiddle, same⟩ := lower
  obtain ⟨again, another, takesAgain, takesLast, further⟩ := upper
  cases takesMiddle.symm.trans takesAgain
  exact ⟨form, another, takes, takesLast, same.trans further⟩

theorem Shallow.depth_owner_lt (shallow : catalog.Shallow) {type : DataType} {isStatic : Bool}
    {owner : TypeId}
    (declared : ∃ entry ∈ catalog.declaringEntries type isStatic, owner = entry.id) :
    catalog.depth (.plain owner) < 64 := by
  obtain ⟨entry, declaring, rfl⟩ := declared
  exact shallow entry (mem_entries_of_declaringEntries declaring)

theorem mem_of_listedAmong {α : Type} {items : List α} {signature : α → Signature} {item : α}
    (listed : item ∈ catalog.listedAmong items signature arguments) : item ∈ items := by
  unfold listedAmong at listed
  split at listed
  · obtain ⟨_, _, place⟩ := List.mem_filterMap.mp listed
    exact List.mem_of_getElem? place
  · exact listed

section Choices

variable {α : Type} {items : List α} {signature : α → Signature} {derived base : α}

theorem Redeclares.deeper {lower upper : Signature}
    (redeclares : catalog.Redeclares arguments lower upper)
    (ends : catalog.depth (.plain upper.owner) < 64) :
    catalog.depth (.plain upper.owner) < catalog.depth (.plain lower.owner) := by
  obtain ⟨links, proper, isAncestor⟩ := redeclares.below.exists_links
  exact (depth_lt_iff proper isAncestor).mpr ends

theorem Redeclares.beats {candidates : List Signature} {lower upper : Applicable}
    (appliesLower : catalog.Applies candidates arguments lower)
    (appliesUpper : catalog.Applies candidates arguments upper)
    (redeclares : catalog.Redeclares arguments lower.signature upper.signature)
    (deeper : catalog.depth (.plain upper.signature.owner) <
      catalog.depth (.plain lower.signature.owner)) :
    catalog.compareCandidates lower upper arguments = .first := by
  obtain ⟨form, another, takes, takesOther, same⟩ := redeclares.alike
  have sameForm : lower.form.isExpanded = upper.form.isExpanded := by
    cases appliesLower.2.symm.trans takes
    cases appliesUpper.2.symm.trans takesOther
    exact same
  exact compareCandidates_eq_first_iff.mpr (.inr ⟨compareParameters_eq_neither sameForm
    (sameTypes_of_parameterTypes appliesLower appliesUpper sameForm redeclares.types)
    (length_of_parameterTypes redeclares.types), redeclares.types, deeper⟩)

variable (isDerived : derived ∈ items)
  (redeclares : catalog.Redeclares arguments (signature derived) (signature base))
  (ends : catalog.depth (.plain (signature base).owner) < 64)

include isDerived redeclares ends

theorem exists_beats {index : Nat} (place : items[index]? = some base) :
    ∃ form rival, catalog.Applies (items.map signature) arguments ⟨index, signature base, form⟩ ∧
      catalog.Applies (items.map signature) arguments rival ∧ rival.index ≠ index ∧
      catalog.compareCandidates rival ⟨index, signature base, form⟩ arguments = .first := by
  obtain ⟨form, another, takes, takesOther, same⟩ := redeclares.alike
  obtain ⟨lower, isLower⟩ := List.mem_iff_getElem?.mp isDerived
  have deeper := redeclares.deeper ends
  have appliesLower : catalog.Applies (items.map signature) arguments
      ⟨lower, signature derived, form⟩ := by
    refine ⟨?_, takes⟩
    rw [List.getElem?_map, isLower]
    rfl
  have appliesUpper : catalog.Applies (items.map signature) arguments
      ⟨index, signature base, another⟩ := by
    refine ⟨?_, takesOther⟩
    rw [List.getElem?_map, place]
    rfl
  refine ⟨another, _, appliesUpper, appliesLower, ?_,
    redeclares.beats appliesLower appliesUpper deeper⟩
  rintro rfl
  cases isLower.symm.trans place
  exact Nat.lt_irrefl _ deeper

theorem not_chosen {index : Nat} {form : CallForm}
    (outcome : catalog.resolve (items.map signature) arguments = .chosen index form) :
    items[index]? ≠ some base := by
  intro place
  obtain ⟨another, rival, applies, appliesRival, different, beats⟩ :=
    exists_beats isDerived redeclares ends place
  obtain ⟨own, appliesOwn, preferred⟩ := resolve_chosen_iff.mp outcome
  cases appliesOwn.eq_of_index applies rfl
  have forward := preferred rival appliesRival different
  rw [compareCandidates_swap, beats] at forward
  cases forward

theorem circular_of_listed
    (unchosen : ∀ index form, catalog.resolve (items.map signature) arguments ≠ .chosen index form)
    (listed : base ∈ catalog.listedAmong items signature arguments) :
    catalog.Circular (items.map signature) arguments := by
  unfold listedAmong at listed
  cases outcome : catalog.resolve (items.map signature) arguments with
  | chosen index form => exact absurd outcome (unchosen index form)
  | noMatch =>
      obtain ⟨place, isPlace⟩ := List.mem_iff_getElem?.mp isDerived
      obtain ⟨form, _, takes, _, _⟩ := redeclares.alike
      refine absurd ?_ (resolve_noMatch_iff.mp outcome ⟨place, signature derived, form⟩)
      refine ⟨?_, takes⟩
      rw [List.getElem?_map, isPlace]
      rfl
  | ambiguous tied =>
      rw [outcome] at listed
      obtain ⟨index, isTied, place⟩ := List.mem_filterMap.mp listed
      obtain ⟨another, rival, applies, appliesRival, different, beats⟩ :=
        exists_beats isDerived redeclares ends place
      obtain ⟨someone, _, _, members⟩ := resolve_ambiguous_iff.mp outcome
      obtain ⟨candidate, appliesCandidate, rfl, open_⟩ := (members index).mp isTied
      rw [← appliesCandidate.eq_of_index applies rfl] at beats
      exact ⟨someone, open_.resolve_left fun unbeaten =>
        unbeaten rival appliesRival different beats⟩

end Choices

/-- A type of the chain redeclares the method of the name. Where it does so in another spelling,
whatever overrides the redeclaration further down takes the arguments as well. -/
def MethodRedeclared (catalog : Catalog) (type : DataType) (name : String)
    (arguments : List DataType) (base : Method) : Prop :=
  ∃ entry derived, catalog.OnChain type entry ∧ derived ∈ entry.methodsNamed name false ∧
    catalog.Redeclares arguments derived.signature base.signature ∧
    (base.overrideKey ≠ derived.overrideKey →
      ∀ lower other, catalog.OnChain type lower → other ∈ lower.methodsNamed name false →
        catalog.Descends lower.id entry.id → other.overrideKey = derived.overrideKey →
          catalog.TakeAlike arguments other.parameters derived.parameters)

def IndexerRedeclared (catalog : Catalog) (type : DataType) (arguments : List DataType)
    (base : Member) : Prop :=
  ∃ entry derived, catalog.OnChain type entry ∧ derived ∈ entry.members ∧
    derived.isStatic = false ∧ derived.isIndexer = true ∧
    catalog.Redeclares arguments derived.signature base.signature

variable {type : DataType} {name : String}

theorem mem_methodsNamed {entry : TypeEntry} {isStatic : Bool} {method : Method}
    (member : method ∈ entry.methodsNamed name isStatic) : method ∈ entry.methods :=
  (List.mem_filter.mp member).1

/-- What a lookup finds instead of a redeclaration redeclares as well, if it finds what is
redeclared at all. -/
theorem MethodRedeclared.exists_found (owned : catalog.Owned) (acyclic : catalog.Acyclic)
    {base : Method} (redeclared : catalog.MethodRedeclared type name arguments base)
    (isFound : base ∈ catalog.methods type name false) :
    ∃ derived ∈ catalog.methods type name false,
      catalog.Redeclares arguments derived.signature base.signature := by
  obtain ⟨entry, derived, onChain, isDerived, redeclares, alike⟩ := redeclared
  have declaring := (mem_declaringEntries_iff acyclic).mpr onChain
  have ownerOf : ∀ upper ∈ catalog.declaringEntries type false,
      ∀ method ∈ upper.methodsNamed name false, method.owner = upper.id :=
    fun _ isUpper _ member =>
      owned.methods _ (mem_entries_of_declaringEntries isUpper) _ (mem_methodsNamed member)
  obtain ⟨lower, other, found, isOther, same, place⟩ :=
    @exists_unhidden _ _ _ Method.overrideKey (TypeEntry.methodsNamed · name false) [] _ entry
      derived declaring isDerived List.not_mem_nil
  have ownDerived : derived.signature.owner = entry.id := ownerOf entry declaring derived isDerived
  have below : catalog.Descends entry.id base.owner := ownDerived ▸ redeclares.below
  rcases place with ⟨rfl, rfl⟩ | order
  · exact ⟨other, by rwa [methods_eq_unhidden owned], redeclares⟩
  · have isLower : lower ∈ catalog.declaringEntries type false :=
      order.subset (List.mem_cons_self ..)
    have descends : catalog.Descends lower.id entry.id :=
      (List.pairwise_pair.mp ((declaringEntries_pairwise type false).sublist order)).1
    have ownOther : other.signature.owner = lower.id := ownerOf lower isLower other isOther
    -- Under one key there would be two owners, of which one descends from the other.
    have respelled : base.overrideKey ≠ derived.overrideKey := by
      intro spelled
      rw [methods_eq_unhidden owned] at isFound
      have sameOwner : base.owner = other.signature.owner :=
        owner_eq_of_unhidden ownerOf isFound found (spelled.trans same.symm)
      rw [sameOwner, ownOther] at below
      exact acyclic.not_descends _ (descends.trans below)
    refine ⟨other, by rwa [methods_eq_unhidden owned], ?_, ?_, ?_⟩
    · rw [ownOther]
      exact descends.trans below
    · exact (congrArg Prod.snd same).trans redeclares.types
    · exact (alike respelled lower other ((mem_declaringEntries_iff acyclic).mp isLower) isOther
        descends same).trans redeclares.alike

theorem IndexerRedeclared.exists_found (acyclic : catalog.Acyclic) {base : Member}
    (redeclared : catalog.IndexerRedeclared type arguments base) :
    ∃ derived ∈ catalog.indexers type,
      catalog.Redeclares arguments derived.signature base.signature := by
  obtain ⟨entry, derived, onChain, isDerived, onInstance, isIndexer, redeclares⟩ := redeclared
  refine ⟨derived, ?_, redeclares⟩
  unfold indexers
  rw [List.mem_filter, List.mem_flatMap, onInstance, isIndexer]
  exact ⟨⟨entry, (mem_declaringEntries_iff acyclic).mpr onChain, isDerived⟩, rfl⟩

theorem selectMethod_cases {methods : List Method} {outcome : Except TypingError (Option Method)}
    (selected : catalog.selectMethod methods arguments = outcome) :
    (∃ index form, catalog.resolve (methods.map Method.signature) arguments = .chosen index form ∧
        outcome = .ok methods[index]?) ∨
      outcome = .ok none ∨
      ((∀ index form, catalog.resolve (methods.map Method.signature) arguments ≠
          .chosen index form) ∧
        outcome = .error (.ambiguousAmong
          ((catalog.listedAmong methods Method.signature arguments).map catalog.methodLine))) := by
  subst selected
  unfold selectMethod listedAmong
  cases catalog.resolve (methods.map Method.signature) arguments with
  | chosen index form => exact .inl ⟨index, form, rfl, rfl⟩
  | noMatch => exact .inr (.inl rfl)
  | ambiguous tied =>
      refine .inr (.inr ⟨fun _ _ => Resolution.noConfusion, ?_⟩)
      rw [List.map_filterMap]

theorem chosen_of_indexTerm {target term : Term} {passed : List Term}
    (notArray : target.type.isArray = false)
    (built : catalog.indexTerm target passed = .ok term) :
    ∃ index form indexer terms,
      catalog.resolve ((catalog.indexers target.type).map Member.signature)
          (passed.map Term.type) = .chosen index form ∧
        (catalog.indexers target.type)[index]? = some indexer ∧
        term = .index target indexer terms := by
  unfold indexTerm at built
  rw [notArray, if_neg Bool.false_ne_true] at built
  dsimp only at built
  split at built
  · cases built
  · split at built
    · rename_i index form outcome
      split at built
      · rename_i indexer isIndexer
        obtain ⟨terms, _, isTerm⟩ := bind_eq_ok.mp built
        cases isTerm
        exact ⟨index, form, indexer, terms, outcome, isIndexer, rfl⟩
      · cases built
    · cases built
    · cases built

theorem lines_of_indexTerm {target : Term} {passed : List Term} {lines : List String}
    (notArray : target.type.isArray = false)
    (refused : catalog.indexTerm target passed = .error (.ambiguous lines)) :
    (∀ index form, catalog.resolve ((catalog.indexers target.type).map Member.signature)
        (passed.map Term.type) ≠ .chosen index form) ∧
      TypingError.ambiguousAmong ((catalog.listedAmong (catalog.indexers target.type)
        Member.signature (passed.map Term.type)).map catalog.memberLine) = .ambiguous lines := by
  unfold indexTerm at refused
  rw [notArray, if_neg Bool.false_ne_true] at refused
  dsimp only at refused
  unfold listedAmong
  split at refused
  · cases refused
  · split at refused
    · split at refused
      · -- Adapting the arguments reports no ambiguity.
        have silent : Names (fun _ => False) (Except.error (.ambiguous lines) : Typing Term) := by
          rw [← refused]
          exact .bind names_adaptArguments fun _ _ => .pure _
        exact (silent lines rfl).elim
      · cases refused
    · rename_i outcome
      rw [outcome]
      exact ⟨fun _ _ => Resolution.noConfusion, Except.error.inj refused⟩
    · rename_i tied outcome
      rw [outcome]
      refine ⟨fun _ _ => Resolution.noConfusion, ?_⟩
      rw [List.map_filterMap]
      exact Except.error.inj refused

end Catalog

namespace Scope

variable {scope : Scope}

theorem bindMethod_eq (owner : DataType) (name : String) (arguments : List DataType)
    (isStatic : Bool) :
    scope.bindMethod (some owner) name arguments isStatic =
      scope.catalog.selectMethod (scope.catalog.methods owner name isStatic) arguments := by
  rw [bindMethod_some]
  unfold methodOf owners
  rw [List.flatMap_singleton]

structure PrefersDerived (scope : Scope) (type : DataType) : Prop where
  returned : ∀ name arguments base,
    scope.bindMethod (some type) name arguments false = .ok (some base) →
      ¬scope.catalog.MethodRedeclared type name arguments base
  listed : ∀ name arguments error,
    scope.bindMethod (some type) name arguments false = .error error →
      let methods := scope.catalog.methods type name false
      let listed := scope.catalog.listedAmong methods Method.signature arguments
      error = .ambiguousAmong (listed.map scope.catalog.methodLine) ∧
        ∀ base ∈ listed, scope.catalog.MethodRedeclared type name arguments base →
          scope.catalog.Circular (methods.map Method.signature) arguments
  indexed : ∀ target passed term, target.type = type → type.isArray = false →
    scope.catalog.indexTerm target passed = .ok term →
      ∃ indexer terms, term = .index target indexer terms ∧
        ¬scope.catalog.IndexerRedeclared type (passed.map Term.type) indexer
  indexers : ∀ target passed lines, target.type = type → type.isArray = false →
    scope.catalog.indexTerm target passed = .error (.ambiguous lines) →
      let indexers := scope.catalog.indexers type
      let listed := scope.catalog.listedAmong indexers Member.signature (passed.map Term.type)
      TypingError.ambiguousAmong (listed.map scope.catalog.memberLine) = .ambiguous lines ∧
        ∀ base ∈ listed, scope.catalog.IndexerRedeclared type (passed.map Term.type) base →
          scope.catalog.Circular (indexers.map Member.signature) (passed.map Term.type)
  straight : scope.catalog.Capped → ∀ candidates arguments,
    ¬scope.catalog.Circular candidates arguments
  /-- What a type of the chain declares under a name and parameter types that no type further
  down declares is found, each declaration once. -/
  once : ∀ name entry, scope.catalog.OnChain type entry →
    ∀ method ∈ entry.methodsNamed name false,
      (∀ lower, scope.catalog.OnChain type lower → scope.catalog.Descends lower.id entry.id →
        ∀ other ∈ lower.methodsNamed name false, other.overrideKey ≠ method.overrideKey) →
      ((scope.catalog.methods type name false).filter fun found =>
          decide (found.owner = entry.id ∧ found.overrideKey = method.overrideKey)) =
        (entry.methodsNamed name false).filter fun own =>
          decide (own.overrideKey = method.overrideKey)

/-- Where links run in no circle and chains of bases are shorter than a walk, choices prefer what
is declared further down. -/
theorem prefersDerived (owned : scope.catalog.Owned) (acyclic : scope.catalog.Acyclic)
    (shallow : scope.catalog.Shallow) (type : DataType) : scope.PrefersDerived type where
  returned name arguments base bound redeclared := by
    rw [bindMethod_eq] at bound
    have isFound := Catalog.mem_of_selectMethod bound
    obtain ⟨derived, isDerived, redeclares⟩ := redeclared.exists_found owned acyclic isFound
    have ends := shallow.depth_owner_lt (owned.of_methods isFound)
    rcases Catalog.selectMethod_cases bound with
      ⟨index, form, outcome, isChosen⟩ | impossible | ⟨_, impossible⟩
    · exact Catalog.not_chosen isDerived redeclares ends outcome (Except.ok.inj isChosen).symm
    · cases impossible
    · cases impossible
  listed name arguments error refused := by
    rw [bindMethod_eq] at refused
    rcases Catalog.selectMethod_cases refused with
      ⟨_, _, _, impossible⟩ | impossible | ⟨unchosen, isError⟩
    · cases impossible
    · cases impossible
    · refine ⟨Except.error.inj isError, fun base isListed redeclared => ?_⟩
      have isFound := Catalog.mem_of_listedAmong isListed
      obtain ⟨derived, isDerived, redeclares⟩ := redeclared.exists_found owned acyclic isFound
      have ends := shallow.depth_owner_lt (owned.of_methods isFound)
      exact Catalog.circular_of_listed isDerived redeclares ends unchosen isListed
  indexed target passed term isType notArray built := by
    subst isType
    obtain ⟨index, form, indexer, terms, outcome, isIndexer, isTerm⟩ :=
      Catalog.chosen_of_indexTerm notArray built
    refine ⟨indexer, terms, isTerm, fun redeclared => ?_⟩
    obtain ⟨derived, isDerived, redeclares⟩ := redeclared.exists_found acyclic
    have ends := shallow.depth_owner_lt (owned.of_indexers (List.mem_of_getElem? isIndexer))
    exact Catalog.not_chosen isDerived redeclares ends outcome isIndexer
  indexers target passed lines isType notArray refused := by
    subst isType
    obtain ⟨unchosen, isError⟩ := Catalog.lines_of_indexTerm notArray refused
    refine ⟨isError, fun base isListed redeclared => ?_⟩
    obtain ⟨derived, isDerived, redeclares⟩ := redeclared.exists_found acyclic
    have ends := shallow.depth_owner_lt (owned.of_indexers (Catalog.mem_of_listedAmong isListed))
    exact Catalog.circular_of_listed isDerived redeclares ends unchosen isListed
  straight capped _ _ := capped.not_circular acyclic
  once name entry onChain method isMethod isNew := by
    rw [Catalog.methods_eq_unhidden owned]
    refine filter_unhidden ?_ (Catalog.declaringEntries_apart type false)
      ((Catalog.mem_declaringEntries_iff acyclic).mpr onChain) fun lower order other isOther => ?_
    · intro entry declaring method listed
      exact owned.methods entry (Catalog.mem_entries_of_declaringEntries declaring) method
        (Catalog.mem_methodsNamed listed)
    · have isLower := (Catalog.mem_declaringEntries_iff acyclic).mp
        (order.subset (List.mem_cons_self ..))
      have below := ((Catalog.declaringEntries_pairwise type false).sublist order)
      exact isNew lower isLower (List.pairwise_pair.mp below).1 other isOther

end Scope

namespace Catalog

def declaredMethod (name : String) (owner : TypeId) (parameters : List Parameter) : Method :=
  { Method.onInstance name parameters .void (.constant .null) with owner := owner }

def withDefault : List Parameter :=
  [ .of "first" .int32,
    { Parameter.of "second" .int32 with default := some (.integer (.wrap .int32 1)) } ]

def overridden : Catalog :=
  ⟨[ { id := ⟨1⟩, name := "Base", namespaceName := "App", kind := .classType, base := none,
       methods := [declaredMethod "go" ⟨1⟩ withDefault] },
     { id := ⟨2⟩, name := "Middle", namespaceName := "App", kind := .classType, base := some ⟨1⟩,
       methods := [declaredMethod "Go" ⟨2⟩ withDefault] },
     { id := ⟨3⟩, name := "Leaf", namespaceName := "App", kind := .classType, base := some ⟨2⟩,
       methods := [declaredMethod "Go" ⟨3⟩ [.of "first" .int32, .of "second" .int32]] } ]⟩

end Catalog

theorem Scope.prefersDerived_overridden :
    ∃ base ∈ Catalog.overridden.methods (.plain ⟨2⟩) "go" false,
      Catalog.overridden.MethodRedeclared (.plain ⟨2⟩) "go" [.int32] base ∧
        (Scope.mk Catalog.overridden [] none).bindMethod (some (.plain ⟨2⟩)) "go" [.int32] false ≠
          .ok (some base) := by
  have owned : Catalog.overridden.Owned := ⟨by decide +kernel, by decide +kernel⟩
  have acyclic : Catalog.overridden.Acyclic := .of_order [⟨1⟩, ⟨2⟩, ⟨3⟩] (by decide +kernel)
  have shallow : Catalog.overridden.Shallow := by
    unfold Catalog.Shallow
    decide +kernel
  have prefers := @Scope.prefersDerived (Scope.mk Catalog.overridden [] none) owned acyclic shallow
    (.plain ⟨2⟩)
  have redeclared : Catalog.overridden.MethodRedeclared (.plain ⟨2⟩) "go" [.int32]
      (Catalog.declaredMethod "go" ⟨1⟩ Catalog.withDefault) := by
    have onChain : Catalog.overridden.OnChain (.plain ⟨2⟩) Catalog.overridden.entries[1] :=
      ⟨rfl, _, rfl, .inl rfl⟩
    refine ⟨_, Catalog.declaredMethod "Go" ⟨2⟩ Catalog.withDefault, onChain,
      List.mem_singleton_self _, ⟨.single ⟨_, rfl, rfl⟩, rfl, .normal, .normal, rfl, rfl, rfl⟩, ?_⟩
    -- On the chain of a type nothing is further down than the type itself.
    rintro _ lower _ ⟨_, first, isFirst, upward⟩ _ descends _
    cases isFirst
    rcases upward with rfl | ascends
    · exact absurd descends (acyclic.not_descends _)
    · exact absurd (descends.trans ascends) (acyclic.not_descends _)
  exact ⟨_, List.mem_of_getElem? (show _[1]? = some _ from rfl), redeclared,
    fun bound => prefers.returned _ _ _ bound redeclared⟩

namespace Catalog

def HasDerived (catalog : Catalog) (type : DataType) (name : String) (arguments : List DataType)
    (base : Method) : Prop :=
  ∃ entry derived, catalog.OnChain type entry ∧ derived ∈ entry.methodsNamed name false ∧
    catalog.Redeclares arguments derived.signature base.signature

def circling : Catalog :=
  let wide : DataType := .ofScalar (.integer .int64)
  ⟨[ { id := .object, name := "Object", namespaceName := "System", kind := .classType,
       base := none },
     { id := ⟨1⟩, name := "Counted", namespaceName := "App", kind := .interfaceType, base := none,
       interfaces := [.int32] },
     { id := wide.id, name := "Int64", namespaceName := "System", kind := .structType,
       base := some .object, interfaces := [⟨1⟩] },
     { id := .int16, name := "Int16", namespaceName := "System", kind := .structType,
       base := some .object, interfaces := [⟨1⟩] },
     { id := ⟨2⟩, name := "Base", namespaceName := "App", kind := .classType,
       base := some .object, methods := [declaredMethod "Count" ⟨2⟩ [.of "number" .int32]] },
     { id := ⟨3⟩, name := "Derived", namespaceName := "App", kind := .classType, base := some ⟨2⟩,
       methods := [ declaredMethod "count" ⟨3⟩ [.of "number" .int32],
         declaredMethod "Count" ⟨3⟩ [.of "number" wide],
         declaredMethod "Count" ⟨3⟩ [.of "number" (.plain ⟨1⟩)] ] } ]⟩

/-- A redeclared method is returned where its redeclaration is overridden by one that does not take
the arguments, and is listed where preference runs in a circle. -/
theorem hasDerived_returned_listed :
    (overridden.Owned ∧ overridden.Acyclic ∧ overridden.Shallow ∧ ∃ base,
      overridden.HasDerived (.plain ⟨3⟩) "go" [.int32] base ∧
        (Scope.mk overridden [] none).bindMethod (some (.plain ⟨3⟩)) "go" [.int32] false =
          .ok (some base)) ∧
    (circling.Owned ∧ circling.Acyclic ∧ circling.Shallow ∧
      ∃ (base : Method) (listed : List Method),
      circling.HasDerived (.plain ⟨3⟩) "Count" [.plain .int16] base ∧ base ∈ listed ∧
        (Scope.mk circling [] none).bindMethod (some (.plain ⟨3⟩)) "Count" [.plain .int16] false =
          .error (.ambiguousAmong (listed.map circling.methodLine))) := by
  constructor
  · refine ⟨⟨by decide +kernel, by decide +kernel⟩,
      .of_order [⟨1⟩, ⟨2⟩, ⟨3⟩] (by decide +kernel), by unfold Shallow; decide +kernel,
      declaredMethod "go" ⟨1⟩ withDefault, ?_, rfl⟩
    have onChain : overridden.OnChain (.plain ⟨3⟩) overridden.entries[1] :=
      ⟨rfl, _, rfl, .inr (.single (show overridden.Extends ⟨3⟩ ⟨2⟩ from ⟨_, rfl, rfl⟩))⟩
    exact ⟨_, declaredMethod "Go" ⟨2⟩ withDefault, onChain, List.mem_singleton_self _,
      .single ⟨_, rfl, rfl⟩, rfl, .normal, .normal, rfl, rfl, rfl⟩
  · have found : circling.methods (.plain ⟨3⟩) "Count" false =
        [ declaredMethod "count" ⟨3⟩ [.of "number" .int32],
          declaredMethod "Count" ⟨3⟩ [.of "number" (.ofScalar (.integer .int64))],
          declaredMethod "Count" ⟨3⟩ [.of "number" (.plain ⟨1⟩)],
          declaredMethod "Count" ⟨2⟩ [.of "number" .int32] ] := rfl
    have tied : circling.resolve ((circling.methods (.plain ⟨3⟩) "Count" false).map
        Method.signature) [.plain .int16] = .ambiguous [0, 1, 2, 3] := by
      rw [found]
      decide +kernel
    refine ⟨⟨by decide +kernel, by decide +kernel⟩,
      .of_order [.object, .int32, ⟨1⟩, .ofScalar (.integer .int64), .int16, ⟨2⟩, ⟨3⟩]
        (by decide +kernel), by unfold Shallow; decide +kernel,
      declaredMethod "Count" ⟨2⟩ [.of "number" .int32],
      circling.methods (.plain ⟨3⟩) "Count" false, ?_, ?_, ?_⟩
    · exact ⟨_, declaredMethod "count" ⟨3⟩ [.of "number" .int32], ⟨rfl, _, rfl, .inl rfl⟩,
        List.mem_cons_self .., .single ⟨_, rfl, rfl⟩, rfl, .normal, .normal, rfl, rfl, rfl⟩
    · rw [found]
      exact List.mem_of_getElem? (show _[3]? = some _ from rfl)
    · rw [Scope.bindMethod_eq]
      unfold selectMethod
      rw [tied]
      rfl

end Catalog

end Formula
