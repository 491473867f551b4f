import Formula.Evaluation.Expression
import Formula.Proofs.Typing.Receivers

/-!
Evaluation on a value is evaluation of the same expression with the value written out. What an
expression names of the value on which it is evaluated can be named as a member of a literal, and
the tree of that gives the same without a receiver: the same value, or the same fault.
-/

namespace Formula

open Term (Supplied)

namespace Setting

/-- Two runs of which the first has a value as its receiver and is otherwise the other one. -/
structure Supplies (one other : Setting) (value : Value) : Prop where
  catalog : one.catalog = other.catalog
  place : one.place = other.place
  receiver : one.receiver = some value

mutual

/-- A value in the places of the receiver gives what the receiver gives. -/
theorem evaluate_supplied {one other : Setting} {value : Value}
    (supplies : Supplies one other value) :
    ∀ (term : Term) {replaced : Term}, Supplied value term replaced → ∀ site,
      one.evaluate site term = other.evaluate site replaced
  | .constant content type, _, supplied, site => by
      cases supplied
      simp only [evaluate]
  | .parameter name type, _, supplied, site => nomatch supplied
  | .staticMember member, _, supplied, site => by
      cases supplied
      simp only [evaluate, supplies.place]
  | .instanceMember target member, _, supplied, site => by
      cases supplied with
      | ownMember name type member =>
          simp only [evaluate, supplies.place, supplies.receiver]
      | instanceMember member read =>
          have same := evaluate_supplied supplies target read (0 :: site)
          simp only [evaluate, supplies.place, same]
  | .index target indexer arguments, _, supplied, site => by
      cases supplied with
      | index indexer read passed =>
          have same := evaluate_supplied supplies target read (0 :: site)
          have sameArguments := evaluateAll_supplied supplies arguments passed site 1
          simp only [evaluate, supplies.place, same, sameArguments]
  | .staticCall method arguments, _, supplied, site => by
      cases supplied with
      | staticCall method passed =>
          have sameArguments := evaluateAll_supplied supplies arguments passed site 1
          simp only [evaluate, supplies.place, sameArguments]
  | .instanceCall target method arguments, _, supplied, site => by
      cases supplied with
      | ownCall name type method passed =>
          have sameArguments := evaluateAll_supplied supplies arguments passed site 1
          simp only [evaluate, supplies.place, supplies.receiver, sameArguments]
      | instanceCall method read passed =>
          have same := evaluate_supplied supplies target read (0 :: site)
          have sameArguments := evaluateAll_supplied supplies arguments passed site 1
          simp only [evaluate, supplies.place, same, sameArguments]
  | .convert operand target, _, supplied, site => by
      cases supplied with
      | convert target inner =>
          have same := evaluate_supplied supplies operand inner (0 :: site)
          simp only [evaluate, supplies.catalog, same, inner.type_eq]
  | .convertBy method operand target, _, supplied, site => by
      cases supplied with
      | convertBy method target inner =>
          have same := evaluate_supplied supplies operand inner (0 :: site)
          simp only [evaluate, supplies.place, same]
  | .unary operator operand type, _, supplied, site => by
      cases supplied with
      | unary operator type inner =>
          have same := evaluate_supplied supplies operand inner (0 :: site)
          simp only [evaluate, same]
  | .unaryBy method operator operand, _, supplied, site => by
      cases supplied with
      | unaryBy method operator inner =>
          have same := evaluate_supplied supplies operand inner (0 :: site)
          simp only [evaluate, supplies.place, same]
  | .binary operator left right type, _, supplied, site => by
      cases supplied with
      | binary operator type first second =>
          have sameLeft := evaluate_supplied supplies left first (0 :: site)
          have sameRight := evaluate_supplied supplies right second (1 :: site)
          -- the logical operators have equations of their own
          cases operator <;> simp only [evaluate, sameLeft, sameRight]
  | .binaryBy method operator left right, _, supplied, site => by
      cases supplied with
      | binaryBy method operator first second =>
          have sameLeft := evaluate_supplied supplies left first (0 :: site)
          have sameRight := evaluate_supplied supplies right second (1 :: site)
          simp only [evaluate, supplies.place, sameLeft, sameRight]
  | .coalesce left right, _, supplied, site => by
      cases supplied with
      | coalesce first second =>
          have sameLeft := evaluate_supplied supplies left first (0 :: site)
          have sameRight := evaluate_supplied supplies right second (1 :: site)
          simp only [evaluate, sameLeft, sameRight]
  | .conditional test whenTrue whenFalse, _, supplied, site => by
      cases supplied with
      | conditional tested first second =>
          have sameTest := evaluate_supplied supplies test tested (0 :: site)
          have sameTrue := evaluate_supplied supplies whenTrue first (1 :: site)
          have sameFalse := evaluate_supplied supplies whenFalse second (2 :: site)
          simp only [evaluate, sameTest, sameTrue, sameFalse]
  | .elementAt array position, _, supplied, site => by
      cases supplied with
      | elementAt read asked =>
          have sameArray := evaluate_supplied supplies array read (0 :: site)
          have samePosition := evaluate_supplied supplies position asked (1 :: site)
          simp only [evaluate, sameArray, samePosition]
  | .lengthOf array, _, supplied, site => by
      cases supplied with
      | ownLength name type => simp only [evaluate, supplies.receiver]
      | lengthOf read =>
          have same := evaluate_supplied supplies array read (0 :: site)
          simp only [evaluate, same]
  | .newArray itemType items, _, supplied, site => by
      cases supplied with
      | newArray itemType filled =>
          have same := evaluateAll_supplied supplies items filled site 0
          simp only [evaluate, supplies.place, same]

theorem evaluateAll_supplied {one other : Setting} {value : Value}
    (supplies : Supplies one other value) :
    ∀ (terms : List Term) {replaced : List Term},
      List.Forall₂ (Supplied value) terms replaced → ∀ site child,
        one.evaluateAll site child terms = other.evaluateAll site child replaced
  | [], _, supplied, site, child => by
      cases supplied
      simp only [evaluateAll]
  | term :: terms, _, supplied, site, child => by
      cases supplied with
      | cons first rest =>
          have same := evaluate_supplied supplies term first (child :: site)
          have sameRest := evaluateAll_supplied supplies terms rest site (child + 1)
          simp only [evaluateAll, same, sameRest]

end

end Setting

namespace Catalog

/-- The scope of expressions that need no receiver, in which the static members of a type need no
target, unless it is that of objects or of arrays. -/
def scopeOf (catalog : Catalog) (type : DataType) : Except RegistrationError Scope :=
  if type.isObject || type.isArray then .ok ⟨catalog, [], none⟩
  else Scope.importType ⟨catalog, [], none⟩ type.id true

/-- An expression that builds on a value builds with the value written out as well, and gives the
same. -/
def Addresses (catalog : Catalog) (context : Value) (expr : Expr) : Prop :=
  ∀ (scope : Scope) (tree : Term),
    Scope.withReceiver ⟨catalog, [], none⟩ (.parameter contextName context.type) = .ok scope →
    scope.term expr = .ok tree →
    ∃ plain other, catalog.scopeOf context.type = .ok plain ∧
      plain.term (scope.addressed context expr) = .ok other ∧
      catalog.evaluateOn context expr = plain.evaluate none (scope.addressed context expr)

variable {catalog : Catalog}

theorem nullable_type {value : Value} (flat : value.type.isArray = false) :
    value.type.nullable = false := by
  cases value with
  | array origin element items =>
      unfold Value.type DataType.arrayOf DataType.isArray at flat
      simp at flat
  | integer number => rfl
  | _ => rfl

theorem importType_eq_ok {scope imported : Scope} {id : TypeId} {isOpen : Bool}
    (isImported : scope.importType id isOpen = .ok imported) :
    imported.receiver = scope.receiver ∧ imported.catalog = scope.catalog := by
  unfold Scope.importType at isImported
  split at isImported
  · cases isImported
  · dsimp only at isImported
    split at isImported
    · cases isImported
      exact ⟨rfl, rfl⟩
    · cases isImported
      exact ⟨rfl, rfl⟩

theorem withReceiver_eq_ok {context : Value} {scope : Scope} {name : String}
    (received : Scope.withReceiver ⟨catalog, [], none⟩ (.parameter name context.type) =
      .ok scope) :
    catalog.scopeOf context.type = .ok scope.unbound ∧ scope.StandsFor context ∧
      scope.catalog = catalog := by
  have unmarked : (context.type.isObject || context.type.isArray || context.type.nullable) =
      (context.type.isObject || context.type.isArray) := by
    cases flat : context.type.isArray with
    | true => rw [Bool.or_true, Bool.true_or]
    | false => rw [nullable_type flat, Bool.or_false]
  unfold Scope.withReceiver at received
  dsimp only [Term.type] at received
  rw [unmarked] at received
  unfold scopeOf
  split at received
  · rename_i unnamed
    cases received
    rw [if_pos unnamed]
    exact ⟨rfl, ⟨name, rfl⟩, rfl⟩
  · rename_i named
    rw [bind_eq_ok] at received
    obtain ⟨imported, isImported, received⟩ := received
    cases received
    rw [if_neg named]
    obtain ⟨noReceiver, sameCatalog⟩ := importType_eq_ok isImported
    obtain ⟨_, imports, receiver⟩ := imported
    cases noReceiver
    cases sameCatalog
    exact ⟨isImported, ⟨name, rfl⟩, rfl⟩

theorem evaluateOn_addressed (noDelegate : catalog.isDelegate .int32 = false) (context : Value)
    (expr : Expr) : catalog.Addresses context expr := by
  intro scope tree received built
  obtain ⟨plain, bound, sameCatalog⟩ := withReceiver_eq_ok received
  rw [← sameCatalog] at noDelegate
  obtain ⟨other, isOther, supplied⟩ := Scope.term_addressed noDelegate bound expr tree built
  refine ⟨scope.unbound, other, plain, isOther, ?_⟩
  have supplies : Setting.Supplies { catalog := scope.catalog, receiver := some context }
      { catalog := scope.unbound.catalog } context := ⟨rfl, rfl, rfl⟩
  have same := Setting.evaluate_supplied supplies tree supplied []
  unfold evaluateOn Scope.evaluate Scope.value
  simp only [received, built, isOther, same, Except.mapError, bind, Except.bind]

def boxes : Catalog :=
  let entry : TypeEntry :=
    { id := ⟨1⟩, name := "Box", namespaceName := "App", kind := .classType, base := some .object }
  let width : Member := .property "Width" .int32 (Response.field "width").run
  let spare : Method := .onInstance "Spare" [.of "taken" .int32] .int32
    (Response.field "spare").run
  ⟨primitives.entries ++ [(entry.addMember width).addMethod spare]⟩

def box : Value :=
  .object (.given 0) ⟨1⟩ (.fields [("width", .int32 3), ("spare", .int32 4)])

def widthAndSpare : Expr :=
  .binary "+" (.reference "width") (.call (.reference "spare") [.literal (.int32 2)])

def widthAndSpareOfBox : Expr :=
  .binary "+" (.member (.literal box) (.reference "width"))
    (.call (.member (.literal box) (.reference "spare")) [.literal (.int32 2)])

theorem evaluateOn_addressed_box :
    ∃ scope tree plain other,
      Scope.withReceiver ⟨boxes, [], none⟩ (.parameter contextName box.type) = .ok scope ∧
      scope.term widthAndSpare = .ok tree ∧
      scope.addressed box widthAndSpare = widthAndSpareOfBox ∧
      boxes.scopeOf box.type = .ok plain ∧ plain.term widthAndSpareOfBox = .ok other ∧
      boxes.evaluateOn box widthAndSpare = plain.evaluate none widthAndSpareOfBox ∧
      (boxes.evaluateOn box widthAndSpare).toOption.bind Value.toInt? = some 7 := by
  have received : (Scope.withReceiver ⟨boxes, [], none⟩
      (.parameter contextName box.type)).toOption.any (fun scope =>
        scope.namesOwn "width" && !scope.namesOwn "spare" && scope.callsOwn "spare" [.int32] &&
          (scope.term widthAndSpare).toOption.any fun _ => true) = true := by
    decide +kernel
  obtain ⟨scope, isScope, tested⟩ := ok_of_any received
  simp only [Bool.and_eq_true, Bool.not_eq_true'] at tested
  obtain ⟨⟨⟨width, notMember⟩, spare⟩, built⟩ := tested
  obtain ⟨tree, isTree, _⟩ := ok_of_any built
  obtain ⟨plain, other, isPlain, isOther, same⟩ :=
    evaluateOn_addressed (show boxes.isDelegate .int32 = false by decide +kernel) box
      widthAndSpare scope tree isScope isTree
  have arguments : scope.terms [.literal (.int32 2)] = .ok [.ofValue (.int32 2)] := by
    unfold Scope.terms Scope.terms Scope.term
    rfl
  have types : [Term.ofValue (.int32 2)].map Term.type = [.int32] := rfl
  have written : scope.addressed box widthAndSpare = widthAndSpareOfBox := by
    unfold widthAndSpare
    simp only [Scope.addressed, Scope.addressedAll, arguments, types, width, notMember, spare,
      Bool.or_true, if_true]
    rfl
  rw [written] at isOther same
  exact ⟨scope, tree, plain, other, isScope, isTree, written, isPlain, isOther, same,
    by decide +kernel⟩

/-- A catalog in which the integers of 32 bits are functions, and arrays have a length of a type
of its own. -/
def miscounted : Catalog :=
  ⟨[.delegate "System" "Int32" [] .object,
    (TypeEntry.declare "System" "Array" .classType).addMember
      (.property "Length" (.plain ⟨1⟩) (.constant .null))]⟩

def noItems : Value :=
  .array (.given 0) (.plain ⟨2⟩) []

/-- The length of an array is an integer wherever it is read, but as a member that is called it has
the type that it is declared with. -/
theorem not_addresses_miscounted :
    ¬miscounted.Addresses noItems (.call (.reference "Length") []) := by
  intro everywhere
  have received : (Scope.withReceiver ⟨miscounted, [], none⟩
      (.parameter contextName noItems.type)).toOption.any (fun scope =>
        scope.namesOwn "Length" &&
          (scope.term (.call (.reference "Length") [])).toOption.any fun _ => true) = true := by
    decide +kernel
  obtain ⟨scope, isScope, tested⟩ := ok_of_any received
  rw [Bool.and_eq_true] at tested
  obtain ⟨tree, isTree, _⟩ := ok_of_any tested.2
  obtain ⟨plain, other, isPlain, isOther, _⟩ := everywhere scope tree isScope isTree
  have written : scope.addressed noItems (.call (.reference "Length") []) =
      .call (.member (.literal noItems) (.reference "Length")) [] := by
    simp only [Scope.addressed, Scope.addressedAll, tested.1, Bool.true_or, if_true]
    rfl
  cases isPlain
  have refused : (Scope.mk miscounted [] none).term
      (.call (.member (.literal noItems) (.reference "Length")) []) =
        .error (.notInvocable "Length") :=
    cause?_eq_some.mp (by decide +kernel)
  rw [written, refused] at isOther
  cases isOther

end Catalog

end Formula
