import Formula.Proofs.Library.Registration
import Formula.Proofs.Typing.Rearrangement

/-!
Scopes as they come about. Types are registered and extended step by step, some of them are named,
and there may be a receiver. Expressions do not show the order of all this, as long as no type
declares a method twice and no two types are named alike.
-/

namespace Formula

/-- A type to be named by its short name, and whether it is to be open. -/
structure Naming where
  id : TypeId
  isOpen : Bool
deriving DecidableEq

def TypeEntry.imported? (entry : TypeEntry) (isOpen : Bool) : Option Import :=
  if Scope.isBuiltin (Text.lower entry.name) then none
  else some ⟨Text.lower entry.name, entry.type, isOpen⟩

namespace Catalog

def importKey? (catalog : Catalog) (naming : Naming) : Option String :=
  (catalog.find? naming.id).map fun entry => Text.lower entry.name

def imported? (catalog : Catalog) (naming : Naming) : Option Import :=
  (catalog.find? naming.id).bind fun entry => entry.imported? naming.isOpen

theorem imported?_key {catalog : Catalog} {naming : Naming} {added : Import}
    (imported : catalog.imported? naming = some added) :
    catalog.importKey? naming = some added.key := by
  obtain ⟨entry, found, imported⟩ := Option.bind_eq_some_iff.mp imported
  unfold TypeEntry.imported? at imported
  unfold importKey?
  rw [found]
  split at imported
  · cases imported
  · cases imported
    rfl

theorem Rearranges.importKey? {first second : Catalog} (same : first.Rearranges second) :
    first.importKey? = second.importKey? := by
  funext naming
  exact same.read (Option.map fun entry => Text.lower entry.name) (fun _ => rfl) naming.id

theorem Rearranges.imported? {first second : Catalog} (same : first.Rearranges second) :
    first.imported? = second.imported? := by
  funext naming
  exact same.read (Option.bind · fun entry => entry.imported? naming.isOpen) (fun _ => rfl) naming.id

theorem keys_imports (catalog : Catalog) (namings : List Naming) :
    List.Sublist (((namings.filterMap catalog.imported?).map Import.key).map some)
      (namings.map catalog.importKey?) := by
  induction namings with
  | nil => exact .slnil
  | cons naming namings ih =>
      cases imported : catalog.imported? naming with
      | none =>
          rw [List.filterMap_cons_none imported]
          exact .cons _ ih
      | some added =>
          rw [List.filterMap_cons_some imported, List.map_cons, List.map_cons, List.map_cons,
            imported?_key imported]
          exact .cons_cons _ ih

end Catalog

namespace Scope

def importAll (scope : Scope) (namings : List Naming) : Except RegistrationError Scope :=
  namings.foldlM (fun scope naming => scope.importType naming.id naming.isOpen) scope

def receive (scope : Scope) : Option Term → Except RegistrationError Scope
  | none => .ok scope
  | some receiver => scope.withReceiver receiver

/-- The names that a receiver brings: its type, open, if it has a name of its own. -/
def received : Option Term → List Naming
  | none => []
  | some receiver =>
      if receiver.type.isObject || receiver.type.isArray || receiver.type.nullable then []
      else [⟨receiver.type.id, true⟩]

theorem place_new {imports : List Import} {added : Import}
    (new : ∀ earlier ∈ imports, earlier.key ≠ added.key) :
    place imports added = imports ++ [added] := by
  unfold place
  rw [if_neg]
  intro known
  obtain ⟨earlier, member, same⟩ := List.any_eq_true.mp known
  exact new earlier member (beq_iff_eq.mp same)

def naming (catalog : Catalog) (namings : List Naming) (receiver : Option Term) : Scope :=
  ⟨catalog, namings.filterMap catalog.imported?, receiver⟩

variable {catalog : Catalog} {namings : List Naming} {receiver : Option Term} {next : Scope}

theorem importType_naming {added : Naming}
    (apart : ((namings ++ [added]).map catalog.importKey?).Nodup)
    (named : (naming catalog namings receiver).importType added.id added.isOpen = .ok next) :
    next = naming catalog (namings ++ [added]) receiver := by
  have new : ∀ earlier ∈ namings.filterMap catalog.imported?,
      catalog.importKey? added ≠ some earlier.key := by
    intro earlier member same
    obtain ⟨one, isOne, imported⟩ := List.mem_filterMap.mp member
    rw [List.map_append] at apart
    refine List.disjoint_of_nodup_append apart (List.mem_map_of_mem isOne) ?_
    rw [Catalog.imported?_key imported, ← same]
    exact List.mem_singleton.mpr rfl
  unfold importType naming at named
  unfold naming
  rw [List.filterMap_append]
  unfold Catalog.importKey? at new
  cases found : catalog.find? added.id with
  | none =>
      rw [found] at named
      cases named
  | some entry =>
      rw [found] at named new
      have imported : catalog.imported? added = entry.imported? added.isOpen := by
        rw [Catalog.imported?, found, Option.bind_some]
      unfold TypeEntry.imported? at imported
      dsimp only at named
      split at named
      · rename_i builtin
        cases named
        rw [if_pos builtin] at imported
        rw [List.filterMap_cons_none imported, List.filterMap_nil, List.append_nil]
      · rename_i other
        cases named
        rw [if_neg other] at imported
        rw [List.filterMap_cons_some imported, List.filterMap_nil, place_new]
        intro earlier member same
        exact new earlier member (congrArg some same.symm)

theorem importAll_naming {added : List Naming}
    (apart : ((namings ++ added).map catalog.importKey?).Nodup)
    (named : (naming catalog namings receiver).importAll added = .ok next) :
    next = naming catalog (namings ++ added) receiver := by
  induction added generalizing namings with
  | nil =>
      cases named
      rw [List.append_nil]
  | cons one added ih =>
      unfold importAll at named
      rw [List.foldlM_cons, bind_eq_ok] at named
      obtain ⟨middle, first, rest⟩ := named
      rw [← List.singleton_append, ← List.append_assoc] at apart ⊢
      have firstApart := apart
      rw [List.map_append] at firstApart
      rw [importType_naming (List.nodup_append.mp firstApart).1 first] at rest
      exact ih apart rest

theorem receive_naming (apart : ((namings ++ received receiver).map catalog.importKey?).Nodup)
    (made : (naming catalog namings none).receive receiver = .ok next) :
    next = naming catalog (namings ++ received receiver) receiver := by
  cases receiver with
  | none =>
      cases made
      rw [received, List.append_nil]
  | some receiver =>
      change (naming catalog namings none).withReceiver receiver = .ok next at made
      unfold withReceiver at made
      unfold received at apart ⊢
      dsimp only at made apart ⊢
      split at made
      · rename_i plain
        cases made
        rw [if_pos plain, List.append_nil]
        rfl
      · rename_i ownName
        rw [if_neg ownName] at apart ⊢
        obtain ⟨imported, named, made⟩ := bind_eq_ok.mp made
        cases made
        rw [@importType_naming _ _ _ _ ⟨receiver.type.id, true⟩ apart named]
        rfl

end Scope

/-- What comes before expressions: steps on a catalog, and names for some of its types before and
after the receiver, if there is one. -/
structure Preparation where
  steps : List InstallationStep
  early : List Naming := []
  receiver : Option Term := none
  late : List Naming := []

namespace Preparation

def catalog (start : Catalog) (preparation : Preparation) : Catalog :=
  (start.install preparation.steps).1

def namings (preparation : Preparation) : List Naming :=
  preparation.early ++ Scope.received preparation.receiver ++ preparation.late

/-- The scope for expressions. It takes all steps to succeed. -/
def scope (start : Catalog) (preparation : Preparation) : Except RegistrationError Scope :=
  match start.install preparation.steps with
  | (_, some cause) => .error cause
  | (catalog, none) => do
      let early ← Scope.importAll { catalog } preparation.early
      let received ← early.receive preparation.receiver
      received.importAll preparation.late

/-- The same types, members, methods and names in any order. -/
structure Reorders (first second : Preparation) : Prop where
  steps : InstallationStep.Reorders first.steps second.steps
  namings : first.namings.Perm second.namings
  receiver : first.receiver = second.receiver

variable {start : Catalog} {preparation : Preparation}

theorem install_of_scope {scope : Scope} (made : preparation.scope start = .ok scope) :
    start.install preparation.steps = (preparation.catalog start, none) := by
  unfold Preparation.scope at made
  unfold Preparation.catalog
  split at made
  · cases made
  · rename_i catalog installed
    rw [installed]

/-- Types with names of their own are named in the order in which they come. -/
theorem scope_naming {scope : Scope} (made : preparation.scope start = .ok scope)
    (apart : (preparation.namings.map (preparation.catalog start).importKey?).Nodup) :
    scope = .naming (preparation.catalog start) preparation.namings preparation.receiver := by
  unfold Preparation.scope at made
  rw [install_of_scope made] at made
  obtain ⟨early, named, made⟩ := bind_eq_ok.mp made
  obtain ⟨received, receives, made⟩ := bind_eq_ok.mp made
  unfold namings at apart ⊢
  have apartReceived := apart
  rw [List.map_append] at apartReceived
  replace apartReceived := (List.nodup_append.mp apartReceived).1
  have apartEarly := apartReceived
  rw [List.map_append] at apartEarly
  replace apartEarly := (List.nodup_append.mp apartEarly).1
  obtain rfl := @Scope.importAll_naming _ [] none _ _ apartEarly named
  obtain rfl := Scope.receive_naming apartReceived receives
  exact Scope.importAll_naming apart made

/-- A scope shows no order: the same tree is built, with the same members, methods and conversions,
or building fails for the same reason and names the same candidates. -/
theorem term_anyOrder {first second : Preparation} (reorders : first.Reorders second)
    (declares : ∀ entry ∈ (first.catalog start).entries, entry.Declares)
    (apart : (first.namings.map (first.catalog start).importKey?).Nodup) {scope other : Scope}
    (made : first.scope start = .ok scope) (madeOther : second.scope start = .ok other)
    (expr : Expr) : scope.term expr = other.term expr := by
  have same := Catalog.install_rearranges reorders.steps (install_of_scope made)
    (install_of_scope madeOther) declares
  have apartOther : (second.namings.map (second.catalog start).importKey?).Nodup := by
    rw [← same.importKey?]
    exact (reorders.namings.map _).nodup_iff.mp apart
  rw [scope_naming made apart, scope_naming madeOther apartOther]
  refine Scope.term_rearranged ⟨same, ?_, ?_, reorders.receiver⟩ expr
  · unfold Scope.naming
    rw [← same.imported?]
    exact reorders.namings.filterMap _
  · have keys := apart.sublist ((first.catalog start).keys_imports first.namings)
    exact keys.of_map

def hosted (id : UInt64) (name : String) : InstallationStep :=
  .register { TypeEntry.declare "" name .classType with id := ⟨id⟩ }

def grow (kind : Scalar) : Method :=
  .onType "Grow" [.of "amount" (.ofScalar kind)] (.ofScalar kind) (.constant .null)

def pages : Preparation where
  steps := [hosted 1 "Disk", hosted 2 "Box", hosted 3 "Page"] ++
    [ .extend ⟨1⟩ [] [grow (.integer .int32)], .extend ⟨2⟩ [] [grow (.integer .int32)],
      .extend ⟨1⟩ [] [grow .double] ]
  early := [⟨⟨1⟩, true⟩]
  receiver := some (.parameter "page" (.plain ⟨3⟩))
  late := [⟨⟨2⟩, true⟩]

def pagesReversed : Preparation where
  steps := [hosted 1 "Disk", hosted 2 "Box", hosted 3 "Page"].reverse ++
    [ InstallationStep.extend ⟨1⟩ [] [grow (.integer .int32)],
      .extend ⟨2⟩ [] [grow (.integer .int32)], .extend ⟨1⟩ [] [grow .double] ].reverse
  early := [⟨⟨2⟩, true⟩]
  receiver := some (.parameter "page" (.plain ⟨3⟩))
  late := [⟨⟨1⟩, true⟩]

theorem term_anyOrder_pages :
    ∃ scope other, pages.scope .primitives = .ok scope ∧
      pagesReversed.scope .primitives = .ok other ∧
      ∀ expr, scope.term expr = other.term expr := by
  have reorders : pages.Reorders pagesReversed :=
    { steps := InstallationStep.reorders_of_perm
        ((List.reverse_perm _).symm.append (List.reverse_perm _).symm)
      namings := by decide
      receiver := rfl }
  have members : ∀ entry ∈ (pages.catalog .primitives).entries,
      ∀ member ∈ entry.members, member.owner = entry.id := by decide +kernel
  have methods : ∀ entry ∈ (pages.catalog .primitives).entries,
      ∀ method ∈ entry.methods, method.owner = entry.id := by decide +kernel
  have differ : ∀ entry ∈ (pages.catalog .primitives).entries,
      entry.methods.Pairwise Method.Differs := by
    unfold Method.Differs
    decide +kernel
  have apart : (pages.namings.map (pages.catalog .primitives).importKey?).Nodup := by
    decide +kernel
  have makes : (pages.scope .primitives).isOk = true := by decide +kernel
  have makesOther : (pagesReversed.scope .primitives).isOk = true := by decide +kernel
  cases made : pages.scope .primitives with
  | error cause =>
      rw [made] at makes
      cases makes
  | ok scope =>
      cases madeOther : pagesReversed.scope .primitives with
      | error cause =>
          rw [madeOther] at makesOther
          cases makesOther
      | ok other =>
          refine ⟨scope, other, rfl, rfl, ?_⟩
          refine term_anyOrder reorders ?_ apart made madeOther
          exact fun entry member =>
            ⟨members entry member, methods entry member, differ entry member⟩

end Preparation

end Formula
