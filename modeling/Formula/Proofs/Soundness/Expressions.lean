import Formula.Proofs.Soundness.Trees

/-!
Type soundness: what the builder accepts, the evaluator can carry out. A value stands under the
type of its tree by steps between reference types, and where such steps compose it has the type.
-/

namespace Formula

namespace Catalog

variable {catalog : Catalog} {genuine : Value → Prop}

theorem constants_admits (lawful : catalog.Lawful genuine) :
    catalog.Constants fun value type => catalog.Admits genuine type value where
  ofNull _ accepts := ⟨.null, carries_null accepts⟩
  ofLeast kind :=
    admits_scalar (show (Value.integer (.least kind)).scalar? = some (.integer kind) from rfl)
  ofDefault := lawful.defaults

theorem Lawful.of_bodies (holds : catalog.HoldsPrimitives)
    (enumerates : catalog.EnumeratesIntegers)
    (owners : ∀ entry ∈ catalog.entries, ∀ member ∈ entry.members, member.owner = entry.id)
    (defaults : ∀ entry ∈ catalog.entries, ∀ parameter ∈ entry.declaredParameters,
      parameter.DefaultFits fun value type => catalog.Admits genuine type value)
    (members : ∀ entry ∈ catalog.entries, ∀ member ∈ entry.members, ∀ type,
      catalog.Answers genuine type member.isStatic member.parameters member.type member.body)
    (methods : ∀ entry ∈ catalog.entries, ∀ method ∈ entry.methods, ∀ type,
      catalog.Answers genuine type method.isStatic method.parameters method.result method.body) :
    catalog.Lawful genuine where
  primitives := holds
  enumerates := enumerates
  owners := owners
  defaults := defaults
  members type _ member declares := by
    obtain ⟨rfl, entry, declaring, declared⟩ := declares
    have known := (find?_mem (declaringEntries_find? declaring)).1
    exact members entry known member declared type
  methods type _ method declares := by
    obtain ⟨rfl, entry, declaring, declared⟩ := declares
    have known := (find?_mem (declaringEntries_find? declaring)).1
    exact methods entry known method declared type

theorem Lawful.of_members (holds : catalog.HoldsPrimitives)
    (enumerates : catalog.entries.all fun entry => entry.underlying?.all Scalar.isInteger)
    (owners : catalog.entries.all fun entry =>
      entry.members.all fun member => member.owner == entry.id)
    (plain : catalog.entries.all fun entry =>
      entry.methods.isEmpty && entry.declaredParameters.isEmpty)
    (members : ∀ member ∈ catalog.entries.flatMap TypeEntry.members, ∀ call,
      Yields (catalog.Admits genuine member.type) False (member.body call)) :
    catalog.Lawful genuine := by
  rw [List.all_eq_true] at owners plain
  have empty : ∀ entry ∈ catalog.entries,
      entry.methods = [] ∧ entry.declaredParameters = [] := by
    intro entry member
    have both := plain entry member
    rwa [Bool.and_eq_true, List.isEmpty_iff, List.isEmpty_iff] at both
  refine .of_bodies holds (.of_entries enumerates) ?_ ?_ ?_ ?_
  · intro entry known member declared
    have each := owners entry known
    rw [List.all_eq_true] at each
    exact eq_of_beq (each member declared)
  · intro entry known parameter declared
    rw [(empty entry known).2] at declared
    cases declared
  · intro entry known member declared _ call _
    exact members member (List.mem_flatMap.mpr ⟨entry, known, declared⟩) call
  · intro entry known method declared
    rw [(empty entry known).1] at declared
    cases declared

theorem Flat.of_entries (each : ∀ entry ∈ catalog.entries,
    entry.interfaces = [] ∧ (entry.base = none ∨ entry.base = some .object)) : catalog.Flat := by
  intro id entry parent found above
  obtain ⟨noInterfaces, base⟩ := each entry (find?_mem found).1
  rcases above with isBase | isInterface
  · rcases base with none | root
    · rw [isBase] at none
      cases none
    · rw [isBase] at root
      exact Option.some.inj root
  · rw [noInterfaces] at isInterface
    cases isInterface

theorem flat_primitives : primitives.Flat :=
  .of_entries (by decide +kernel)

end Catalog

namespace Scope

variable {scope : Scope} {genuine : Value → Prop}

theorem fits_of_term (lawful : scope.catalog.Lawful genuine) {setting : Setting}
    (sameCatalog : setting.catalog = scope.catalog)
    (receiverFits : ∀ target, scope.receiver = some target → setting.Fits genuine target)
    {expr : Expr} {tree : Term}
    (literals : ∀ value ∈ expr.literals, scope.catalog.Proper genuine value)
    (built : scope.term expr = .ok tree) : setting.Fits genuine tree := by
  obtain ⟨catalog, receiver, place⟩ := setting
  dsimp only at sameCatalog
  subst sameCatalog
  have admitLiterals : expr.LiteralsFit fun value type =>
      scope.catalog.Admits genuine type value := by
    intro value member
    exact ⟨literals value member, Catalog.carries_type value⟩
  exact term_wellFormed (Catalog.constants_admits lawful) lawful.enumerates receiverFits expr
    admitLiterals built

/-- Type soundness. Where no entry has a value type or the class of arrays above it, a tree is
never at fault unless it has a built-in shift that fills with zeros, and its value stands under
its type by steps between reference types. -/
theorem evaluate_sound (lawful : scope.catalog.Lawful genuine)
    (references : scope.catalog.ReferencesAbove) {setting : Setting}
    (sameCatalog : setting.catalog = scope.catalog)
    (receiverFits : ∀ target, scope.receiver = some target → setting.Fits genuine target)
    {expr : Expr} {tree : Term}
    (literals : ∀ value ∈ expr.literals, scope.catalog.Proper genuine value)
    (built : scope.term expr = .ok tree) (site : List Nat) :
    (∀ defect, setting.evaluate site tree = .error (.invalidTree defect) →
        tree.Any Term.IsZeroFill) ∧
      ∀ value, setting.evaluate site tree = .ok value →
        scope.catalog.Carries tree.type value ∧
          (scope.catalog.Composes → scope.catalog.MarksValues tree.type →
            scope.catalog.Conforms tree.type value) := by
  have fits := fits_of_term lawful sameCatalog receiverFits literals built
  have holds := lawful.primitives
  obtain ⟨catalog, receiver, place⟩ := setting
  dsimp only at sameCatalog
  subst sameCatalog
  have yields := Setting.evaluate_yields lawful references tree site fits
  constructor
  · intro defect failed
    rw [failed] at yields
    exact yields
  · intro value evaluated
    rw [evaluated] at yields
    have carries : scope.catalog.Carries tree.type value := yields.carries
    exact ⟨carries, carries.conforms_of_composes holds references⟩

end Scope

namespace Catalog

def scaledWidth : Body := fun call => do
  match ← (Response.field "width").run call, call.arguments with
  | .integer width, [.integer factor] => return .int32 (width.value * factor.value)
  | _, _ => throw .nullReference

def gaugeWidth : Member :=
  .property "Width" .int32 (Response.field "width").run

def gaugeScaled : Method :=
  .onInstance "Scaled" [{ Parameter.of "factor" .int32 with default := some (.int32 2) }] .int32
    scaledWidth

def gauges : Catalog :=
  let entry : TypeEntry :=
    { id := ⟨1⟩, name := "Gauge", namespaceName := "App", kind := .classType, base := some .object }
  ⟨primitives.entries ++ [(entry.addMember gaugeWidth).addMethod gaugeScaled]⟩

def IsGauge (value : Value) : Prop :=
  ∃ origin width, value = .object origin ⟨1⟩ (.fields [("width", .int32 width)])

theorem yields_width {catalog : Catalog} {type : DataType} {parameters : List Parameter}
    {call : Invocation} (invokes : catalog.Invokes IsGauge type false parameters call) :
    Yields (fun value => ∃ width, value = .int32 width) False
      ((Response.field "width").run call) := by
  obtain ⟨value, isReceiver, _, admits⟩ := invokes.receiver
  have proper := admits.proper
  unfold Response.run
  rw [isReceiver]
  cases value with
  | object origin type content =>
      cases proper with
      | scalar isScalar => cases isScalar
      | object hosted vouched =>
          obtain ⟨origin, width, same⟩ := vouched
          cases same
          exact ⟨width, rfl⟩
  | _ => trivial

theorem admits_int32 {catalog : Catalog} {genuine : Value → Prop} (number : Int) :
    catalog.Admits genuine .int32 (.int32 number) :=
  admits_scalar (show (Value.int32 number).scalar? = some (.integer .int32) from rfl)

theorem answers_gaugeScaled {catalog : Catalog} {type : DataType} :
    catalog.Answers IsGauge type false gaugeScaled.parameters .int32 scaledWidth := by
  intro call invokes
  refine (yields_width invokes).bind fun value isWidth => ?_
  obtain ⟨width, rfl⟩ := isWidth
  dsimp only [Value.int32]
  split
  · exact admits_int32 _
  · trivial

theorem eq_of_listed_alone {catalog : Catalog} {α : Type} {list : TypeEntry → List α}
    {entry : TypeEntry} {item only : α} (known : entry ∈ catalog.entries)
    (listed : item ∈ list entry) (alone : catalog.entries.flatMap list = [only]) :
    item = only := by
  have among := List.mem_flatMap.mpr ⟨entry, known, listed⟩
  rw [alone] at among
  exact List.mem_singleton.mp among

theorem lawful_gauges : gauges.Lawful IsGauge := by
  have members : gauges.entries.flatMap TypeEntry.members =
      [{ gaugeWidth with owner := ⟨1⟩ }] := rfl
  have methods : gauges.entries.flatMap TypeEntry.methods =
      [{ gaugeScaled with owner := ⟨1⟩ }] := rfl
  have parameters : gauges.entries.flatMap TypeEntry.declaredParameters =
      gaugeScaled.parameters := rfl
  refine .of_bodies ?_ (.of_entries (by decide +kernel)) ?_ ?_ ?_ ?_
  · unfold HoldsPrimitives
    decide +kernel
  · intro entry known member declared
    have owned : gauges.entries.all fun entry =>
        entry.members.all fun member => member.owner == entry.id := by decide +kernel
    exact eq_of_beq (List.all_eq_true.mp (List.all_eq_true.mp owned entry known) member declared)
  · intro entry known parameter declared
    rw [eq_of_listed_alone known declared parameters]
    intro value isDefault
    cases isDefault
    exact admits_int32 2
  · intro entry known member declared type
    rw [eq_of_listed_alone known declared members]
    exact fun call invokes => (yields_width invokes).mono
      (fun _ ⟨width, isWidth⟩ => isWidth ▸ admits_int32 width) False.elim
  · intro entry known method declared type
    rw [eq_of_listed_alone known declared methods]
    exact answers_gaugeScaled

theorem flat_gauges : gauges.Flat :=
  .of_entries (by decide +kernel)

end Catalog

namespace Scope

def onGauge : Scope :=
  ⟨.gauges, [], some (.parameter "it" (.plain ⟨1⟩))⟩

def onGaugeSetting : Setting :=
  { catalog := .gauges,
    receiver := some (.object (.given 0) ⟨1⟩ (.fields [("width", .int32 3)])) }

def widthAndScaled : Expr :=
  .binary "+" (.reference "Width") (.call (.reference "Scaled") [])

theorem evaluate_sound_gauge :
    ∃ tree value, onGauge.term widthAndScaled = .ok tree ∧
      onGaugeSetting.evaluate [] tree = .ok value ∧ value.toInt? = some 9 ∧
      Catalog.gauges.Conforms tree.type value := by
  have checked : (onGauge.term widthAndScaled).toOption.any (fun tree =>
      tree.type = .int32 ∧ ((onGaugeSetting.evaluate [] tree).toOption.bind Value.toInt?) =
        some 9) = true := by
    decide +kernel
  obtain ⟨tree, built, checked⟩ := ok_of_any checked
  obtain ⟨isInt32, isNine⟩ := of_decide_eq_true checked
  have references : onGauge.catalog.ReferencesAbove :=
    Catalog.flat_gauges.referencesAbove Catalog.lawful_gauges.primitives
  have receiverFits : ∀ target, onGauge.receiver = some target →
      onGaugeSetting.Fits Catalog.IsGauge target := by
    intro target same
    cases same
    have hosted : Catalog.gauges.Hosted ⟨1⟩ :=
      ⟨by decide +kernel, by decide, by decide +kernel⟩
    refine .intro ⟨_, rfl, .object hosted ⟨_, _, rfl⟩, Catalog.carries_type _⟩ ?_
    exact fun _ impossible => absurd impossible List.not_mem_nil
  have literals : ∀ value ∈ widthAndScaled.literals,
      onGauge.catalog.Proper Catalog.IsGauge value :=
    fun _ impossible => absurd impossible List.not_mem_nil
  have sound := evaluate_sound Catalog.lawful_gauges references
    (show onGaugeSetting.catalog = _ from rfl) receiverFits literals built []
  cases evaluated : onGaugeSetting.evaluate [] tree with
  | error cause =>
      rw [evaluated] at isNine
      cases isNine
  | ok value =>
      rw [evaluated] at isNine
      refine ⟨tree, value, built, evaluated, isNine, ?_⟩
      refine (sound.2 value evaluated).2 Catalog.flat_gauges.composes ?_
      rw [isInt32]
      exact fun marked => absurd marked Bool.false_ne_true

variable {scope : Scope}

/-- Every tree that the builder makes of an expression is one that the evaluator can carry out,
and its value has the type of the tree. -/
def Sound (scope : Scope) (setting : Setting) (expr : Expr) : Prop :=
  ∀ tree, scope.term expr = .ok tree →
    (∀ defect, setting.evaluate [] tree ≠ .error (.invalidTree defect)) ∧
      ∀ value, setting.evaluate [] tree = .ok value → scope.catalog.Conforms tree.type value

/-- Builds and evaluates an expression to see that it is not sound. -/
def refutes (scope : Scope) (setting : Setting) (expr : Expr) : Bool :=
  match scope.term expr with
  | .error _ => false
  | .ok tree =>
      match setting.evaluate [] tree with
      | .error (.invalidTree _) => true
      | .error _ => false
      | .ok value => !decide (scope.catalog.Conforms tree.type value)

theorem not_sound_of_refutes {setting : Setting} {expr : Expr}
    (refuted : scope.refutes setting expr = true) : ¬scope.Sound setting expr := by
  intro sound
  unfold refutes at refuted
  split at refuted
  · cases refuted
  · rename_i tree built
    obtain ⟨fits, conforms⟩ := sound tree built
    split at refuted
    · rename_i defect failed
      exact fits defect failed
    · cases refuted
    · rename_i value evaluated
      rw [Bool.not_eq_true', decide_eq_false_iff_not] at refuted
      exact refuted (conforms value evaluated)

end Scope

namespace Catalog

/-- Types that a host may register, though some of them stand under what no class should be
under: truth values, the class of arrays, an interface under another one. -/
def tangled : Catalog :=
  let entry (id : UInt64) (name : String) (kind : TypeKind) (base : Option TypeId) : TypeEntry :=
    { id := ⟨id⟩, name := name, namespaceName := "App", kind := kind, base := base }
  let arrays : TypeEntry :=
    { id := .array, name := "Array", namespaceName := "System", kind := .classType,
      base := some .object }
  ⟨arrays.addMember (.property "Length" .int32 (.constant (.int32 0))) :: primitives.entries ++
    [ entry 1 "Level" (.enumType .int32) (some .object),
      entry 2 "Flag" .classType (some .boolean),
      entry 3 "Rows" .classType (some .array),
      entry 4 "Shape" .interfaceType none,
      entry 5 "Round" .interfaceType (some ⟨4⟩),
      { entry 6 "Disk" .classType (some .object) with interfaces := [⟨5⟩] },
      (entry 7 "Node" .classType (some .object)).addMember
        (.staticProperty "Next" (.orNull ⟨7⟩) (.constant .null)),
      entry 8 "Leaf" .classType (some ⟨7⟩) ]⟩

theorem lawful_tangled {genuine : Value → Prop} : tangled.Lawful genuine := by
  refine .of_members ?_ (by decide +kernel) (by decide +kernel) (by decide +kernel) ?_
  · unfold HoldsPrimitives
    decide +kernel
  · have members : tangled.entries.flatMap TypeEntry.members =
        [ { Member.property "Length" .int32 (.constant (.int32 0)) with owner := .array },
          { Member.staticProperty "Next" (.orNull ⟨7⟩) (.constant .null) with owner := ⟨7⟩ } ] :=
      rfl
    rw [members]
    intro member listed call
    simp only [List.mem_cons, List.not_mem_nil, or_false] at listed
    rcases listed with rfl | rfl
    · exact admits_scalar (show (Value.int32 0).scalar? = some (.integer .int32) from rfl)
    · exact admits_null_orNull ⟨7⟩

end Catalog

namespace Scope

def tangled : Scope :=
  ⟨.tangled, [.closed "shape" ⟨4⟩, .closed "round" ⟨5⟩, .closed "node" ⟨7⟩], none⟩

def tangledSetting : Setting :=
  { catalog := .tangled }

def hostObject (id : UInt64) : Expr :=
  .literal (.object (.given id.toNat) ⟨id⟩ (.fields []))

/-- The shift that fills with zeros, on an enumeration value; an object that passes for a truth
value, and one that passes for an array; an object under an interface that its type does not
have; and an object under a class with null added. -/
def unsound : List Expr :=
  [ .binary ">>>" (.literal (.enumeration ⟨1⟩ 8)) (.literal (.int32 1)),
    .conditional (hostObject 2) (.literal (.int32 1)) (.literal (.int32 2)),
    .member (hostObject 3) (.reference "Length"),
    .binary "??" (.cast "shape" (.literal .null))
      (.binary "??" (.cast "round" (.literal .null)) (hostObject 6)),
    .binary "??" (.member (.reference "node") (.reference "Next"))
      (.binary "??" (.cast "node" (.literal .null)) (hostObject 8)) ]

/-- Bodies that answer and literals that are what they say do not make expressions sound. -/
theorem unsound_tangled :
    tangled.catalog.Lawful (fun _ => True) ∧
      ∀ expr ∈ unsound,
        (∀ value ∈ expr.literals, tangled.catalog.Proper (fun _ => True) value) ∧
          ¬tangled.Sound tangledSetting expr := by
  refine ⟨Catalog.lawful_tangled, fun expr member => ⟨?_, ?_⟩⟩
  · have hosted : ∀ id ∈ [(2 : UInt64), 3, 6, 8], Catalog.tangled.Hosted ⟨id⟩ := by
      intro id listed
      simp only [List.mem_cons, List.not_mem_nil, or_false] at listed
      rcases listed with rfl | rfl | rfl | rfl <;>
        exact ⟨by decide +kernel, by decide, by decide +kernel⟩
    have proper : ∀ value ∈ unsound.flatMap Expr.literals,
        tangled.catalog.Proper (fun _ => True) value := by
      intro value listed
      simp only [unsound, hostObject, Expr.literals, List.flatMap_cons, List.flatMap_nil,
        List.cons_append, List.nil_append, List.append_nil, List.mem_cons, List.not_mem_nil,
        or_false] at listed
      rcases listed with rfl | rfl | rfl | rfl | rfl | rfl | rfl | rfl | rfl | rfl | rfl
      · exact .enumeration 8 (by decide +kernel)
      · exact .scalar (show _ = some (.integer .int32) from rfl)
      · exact .object (hosted 2 (by decide)) trivial
      · exact .scalar (show _ = some (.integer .int32) from rfl)
      · exact .scalar (show _ = some (.integer .int32) from rfl)
      · exact .object (hosted 3 (by decide)) trivial
      · exact .null
      · exact .null
      · exact .object (hosted 6 (by decide)) trivial
      · exact .null
      · exact .object (hosted 8 (by decide)) trivial
    exact fun value literal => proper value (List.mem_flatMap.mpr ⟨expr, member, literal⟩)
  · have refuted : unsound.all (tangled.refutes tangledSetting) = true := by
      decide +kernel
    rw [List.all_eq_true] at refuted
    exact not_sound_of_refutes (refuted expr member)

end Scope

end Formula
