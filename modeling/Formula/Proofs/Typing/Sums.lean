import Formula.Proofs.Typing.Calls

/-!
Sums of texts are flat. However the additions are nested, the tree is one call: it joins the trees
of all the leaves, in the order in which they are written. That the pieces of a sum are joined
before the whole of it leaves no trace, for what they add to a leaf is not added a second time.
-/

namespace Formula

open Catalog Library

namespace Term

def isConcatenation : Term → Bool
  | staticCall method _ => method.owner = .string ∧ method.name = concatName
  | _ => false

theorem concatOperands_of_not {term : Term} (other : term.isConcatenation = false) :
    concatOperands term = [term] := by
  cases term with
  | staticCall method passed => exact concatOperands_other (of_decide_eq_false other) passed
  | _ => rfl

theorem eq_nullOf {term : Term} (isNull : term.isNull = true) : term = .nullOf term.type := by
  unfold Term.isNull at isNull
  split at isNull
  · rfl
  · cases isNull

end Term

namespace Catalog

variable {catalog : Catalog} {leaf : Term} {leaves : List Term}

/-- A leaf as an object: under a conversion if it is of a value type, and unchanged otherwise, but
for null, which is null of an object then. -/
def asObject (catalog : Catalog) (leaf : Term) : Term :=
  if catalog.isValueType leaf.type then .convert leaf .object
  else if leaf.isNull then .nullOf .object
  else leaf

/-- The operands that join the leaves under a conversion to objects, which texts do not need among
themselves. -/
def operandsUnder (under : Term → Term) (leaves : List Term) : List Term :=
  if leaves.all (·.type.isString) then leaves else leaves.map under

theorem isConcatenation_asObject (other : leaf.isConcatenation = false) :
    (catalog.asObject leaf).isConcatenation = false := by
  unfold asObject
  split
  · rfl
  · split
    · rfl
    · exact other

theorem isString_asObject (other : leaf.type.isString = false) :
    (catalog.asObject leaf).type.isString = false := by
  unfold asObject
  split
  · rfl
  · split
    · rfl
    · exact other

theorem all_operandsUnder (leaves : List Term) :
    (operandsUnder catalog.asObject leaves).all (·.type.isString) =
      leaves.all (·.type.isString) := by
  unfold operandsUnder
  split
  · rfl
  · rename_i mixed
    rw [Bool.not_eq_true] at mixed
    rw [mixed]
    obtain ⟨leaf, member, other⟩ := List.all_eq_false.mp mixed
    rw [Bool.not_eq_true] at other
    refine List.all_eq_false.mpr ⟨_, List.mem_map_of_mem member, ?_⟩
    rw [isString_asObject other]
    exact Bool.false_ne_true

section Objects

variable (holds : catalog.HoldsPrimitives)

include holds

theorem asObject_asObject (leaf : Term) :
    catalog.asObject (catalog.asObject leaf) = catalog.asObject leaf := by
  have ofObject : ∀ {other : Term}, other.type = .object →
      catalog.asObject other = if other.isNull then .nullOf .object else other := by
    intro other isObject
    unfold asObject
    rw [isObject, isValueType_of_isReferenceType holds.isReferenceType_object,
      if_neg Bool.false_ne_true]
  by_cases isValue : catalog.isValueType leaf.type = true
  · have converted : catalog.asObject leaf = .convert leaf .object := if_pos isValue
    rw [converted, ofObject rfl]
    rfl
  · by_cases isNull : leaf.isNull = true
    · have retyped : catalog.asObject leaf = .nullOf .object :=
        (if_neg isValue).trans (if_pos isNull)
      rw [retyped, ofObject rfl]
      rfl
    · have unchanged : catalog.asObject leaf = leaf := (if_neg isValue).trans (if_neg isNull)
      rw [unchanged, unchanged]

theorem passArgument_object (leaf : Term) :
    catalog.passArgument .object (catalog.boxed leaf) = .ok (catalog.asObject leaf) := by
  have accepts := acceptsNull_of_isReferenceType holds.isReferenceType_object
  rw [passArgument_boxed_eq holds (.inl rfl), accepts, Bool.and_true]
  unfold boxed asObject
  by_cases isValue : catalog.isValueType leaf.type = true
  · rw [if_pos isValue, if_pos isValue]
    rfl
  · rw [if_neg isValue, if_neg isValue]

theorem passArgument_string (isString : leaf.type = .string) :
    catalog.passArgument .string (catalog.boxed leaf) = .ok leaf := by
  have same := boxed_string holds isString
  rw [passArgument_boxed_eq holds (.inr (same.symm ▸ isString)), same]
  split
  · rename_i null
    rw [← isString, ← Term.eq_nullOf (Bool.and_eq_true_iff.mp null).1]
  · rfl

end Objects

/-- What a part of a sum brings to the whole: its leaves, some of which may be objects already. -/
structure Brings (catalog : Catalog) (operands leaves : List Term) : Prop where
  texts : operands.all (·.type.isString) = leaves.all (·.type.isString)
  unchanged : leaves.all (·.type.isString) = true → operands = leaves
  objects : operands.map catalog.asObject = leaves.map catalog.asObject

theorem Brings.refl (leaves : List Term) : catalog.Brings leaves leaves :=
  ⟨rfl, fun _ => rfl, rfl⟩

theorem brings_operandsUnder (holds : catalog.HoldsPrimitives) (leaves : List Term) :
    catalog.Brings (operandsUnder catalog.asObject leaves) leaves where
  texts := all_operandsUnder leaves
  unchanged := fun texts => if_pos texts
  objects := by
    unfold operandsUnder
    split
    · rfl
    · rw [List.map_map]
      exact List.map_congr_left fun leaf _ => asObject_asObject holds leaf

section Parts

variable {operands before after : List Term}

theorem Brings.length_eq (brings : catalog.Brings operands leaves) :
    operands.length = leaves.length := by
  have lengths := congrArg List.length brings.objects
  rwa [List.length_map, List.length_map] at lengths

theorem Brings.append {first second : List Term} (ofFirst : catalog.Brings first before)
    (ofSecond : catalog.Brings second after) :
    catalog.Brings (first ++ second) (before ++ after) where
  texts := by rw [List.all_append, List.all_append, ofFirst.texts, ofSecond.texts]
  unchanged := by
    intro texts
    rw [List.all_append, Bool.and_eq_true] at texts
    rw [ofFirst.unchanged texts.1, ofSecond.unchanged texts.2]
  objects := by rw [List.map_append, List.map_append, ofFirst.objects, ofSecond.objects]

theorem Brings.operandsUnder_eq (brings : catalog.Brings operands leaves) :
    operandsUnder catalog.asObject operands = operandsUnder catalog.asObject leaves := by
  unfold operandsUnder
  rw [brings.texts, brings.objects]
  split
  · rename_i texts
    exact brings.unchanged texts
  · rfl

end Parts

/-- One call joins the operands: each is an argument of it, or all are the items of the one array
that it is passed. -/
def JoinsAll (operands : List Term) (method : Method) (passed : List Term) : Prop :=
  method ∈ concatMethods ∧
    (passed = operands ∨ ∃ element, passed = [.newArray element operands])

theorem concatOperands_of_joinsAll {method : Method} {operands passed : List Term}
    (joins : JoinsAll operands method passed) (several : 2 ≤ operands.length) :
    concatOperands (.staticCall method passed) = operands := by
  have named : ∀ method ∈ concatMethods, method.owner = .string ∧ method.name = concatName := by
    decide +kernel
  rw [concatOperands_concat (named method joins.1)]
  rcases joins.2 with rfl | ⟨element, rfl⟩
  · exact spliced_several several
  · rfl

theorem PassedAs.eq_map {element : DataType} {items : List Term} {under : Term → Term}
    (passedAs : catalog.PassedAs element (leaves.map catalog.boxed) items)
    (passes : ∀ leaf ∈ leaves,
      catalog.passArgument element (catalog.boxed leaf) = .ok (under leaf)) :
    items = leaves.map under := by
  induction leaves generalizing items with
  | nil =>
      cases passedAs
      rfl
  | cons leaf leaves ih =>
      cases passedAs with
      | cons first rest =>
          rw [passes leaf (List.mem_cons_self ..), Except.ok.injEq] at first
          rw [List.map_cons, first,
            ih rest fun other member => passes other (List.mem_cons_of_mem _ member)]

section Joining

variable (holds : catalog.HoldsPrimitives)
  (overloads : catalog.methods .string concatName true = concatMethods)
  (distinct : catalog.isAssignable .string .object = false) {left right : Term}
  (several : 2 ≤ (concatOperands left ++ concatOperands right).length)

include holds overloads distinct several

/-- What is selected for so many elements joins the operands as they are passed for one. -/
theorem concatTerm_joinsAll_under {element : DataType}
    (known : element = .string ∨ element = .object) {under : Term → Term}
    (types : concatTypes (concatOperands left ++ concatOperands right) =
      List.replicate (concatOperands left ++ concatOperands right).length element)
    (spares : (concatOperands left ++ concatOperands right).all (·.type.isString) = true ∨
      catalog.TakesReferences element)
    (passes : ∀ operand ∈ concatOperands left ++ concatOperands right,
      catalog.passArgument element (catalog.boxed operand) = .ok (under operand)) :
    ∃ method passed, catalog.concatTerm left right = .ok (.staticCall method passed) ∧
      JoinsAll ((concatOperands left ++ concatOperands right).map under) method passed := by
  obtain ⟨index, method, form, isMethod, isConcat, chosen⟩ :=
    resolve_concatMethods distinct known several
  rw [← types, ← overloads] at chosen
  have isListed := isMethod
  rw [← overloads] at isListed
  have converts : ∀ parameter ∈ method.parameters, parameter.DefaultConverts catalog := by
    intro parameter member value isDefault
    have none : parameter.default = none := by
      rcases isConcat.parameters with ⟨_, takesEach⟩ | ⟨name, variadic⟩
      · exact (takesEach parameter member).default
      · rw [variadic, List.mem_singleton] at member
        rw [member]
        rfl
    rw [none] at isDefault
    cases isDefault
  obtain ⟨passed, built, adapted, _⟩ := concatTerm_of_resolve holds converts chosen isListed
    (spares.imp_right (sparesReferences_of_isConcat isConcat))
  refine ⟨method, passed, built, List.mem_of_getElem? isMethod, ?_⟩
  rw [← List.length_map catalog.boxed] at several
  rcases (calls_of_adaptArguments isConcat adapted).several several with
    passedAs | ⟨items, rfl, passedAs⟩
  · exact .inl (passedAs.eq_map passes)
  · exact .inr ⟨element, by rw [passedAs.eq_map passes]⟩

theorem concatTerm_joinsAll :
    ∃ method passed, catalog.concatTerm left right = .ok (.staticCall method passed) ∧
      JoinsAll (operandsUnder catalog.asObject (concatOperands left ++ concatOperands right))
        method passed := by
  unfold operandsUnder
  split
  · rename_i texts
    have isString : ∀ operand ∈ concatOperands left ++ concatOperands right,
        operand.type = .string :=
      fun operand member => eq_of_beq (List.all_eq_true.mp texts operand member)
    have types : concatTypes (concatOperands left ++ concatOperands right) =
        List.replicate (concatOperands left ++ concatOperands right).length .string := by
      unfold concatTypes
      rw [if_pos texts]
      refine List.eq_replicate_iff.mpr ⟨List.length_map _, fun type member => ?_⟩
      obtain ⟨operand, isOperand, rfl⟩ := List.mem_map.mp member
      exact isString operand isOperand
    have joined := concatTerm_joinsAll_under holds overloads distinct several (.inl rfl) types
      (.inl texts) fun operand member => passArgument_string holds (isString operand member)
    rwa [List.map_id'] at joined
  · rename_i mixed
    refine concatTerm_joinsAll_under holds overloads distinct several (.inr rfl) ?_
      (.inr takesReferences_object) fun operand _ => passArgument_object holds operand
    unfold concatTypes
    rw [if_neg mixed, List.map_const']

end Joining

end Catalog

namespace Scope

variable {scope : Scope}

def IsText (scope : Scope) (expr : Expr) : Prop :=
  ∃ tree, scope.term expr = .ok tree ∧ tree.type = .string

theorem IsText.type_eq {expr : Expr} {tree : Term} (isText : scope.IsText expr)
    (built : scope.term expr = .ok tree) : tree.type = .string := by
  obtain ⟨text, builtText, isString⟩ := isText
  rw [built, Except.ok.injEq] at builtText
  rwa [builtText]

/-- An expression adds up leaves, which are no concatenations: it is one of them, or it adds, in
parentheses or not, two such expressions one of which is a text. -/
inductive Adds (scope : Scope) : Expr → List Term → Prop
  | leaf {expr : Expr} {tree : Term} (built : scope.term expr = .ok tree)
      (other : tree.isConcatenation = false) : Adds scope expr [tree]
  | parenthesized {expr : Expr} {leaves : List Term} (inner : Adds scope expr leaves) :
      Adds scope (.parenthesized expr) leaves
  | sum {left right : Expr} {before after : List Term} (ofLeft : Adds scope left before)
      (ofRight : Adds scope right after) (textual : scope.IsText left ∨ scope.IsText right) :
      Adds scope (.binary "+" left right) (before ++ after)

/-- Whatever adds several leaves is one call that joins them, in their order, under a conversion if
not all are texts. None of its operands is a concatenation itself. -/
def JoinsLeaves (scope : Scope) (under : Term → Term) : Prop :=
  ∀ expr leaves, scope.Adds expr leaves → 2 ≤ leaves.length →
    ∃ method passed, scope.term expr = .ok (.staticCall method passed) ∧
      JoinsAll (operandsUnder under leaves) method passed ∧
      ∀ operand ∈ operandsUnder under leaves, operand.isConcatenation = false

theorem Adds.ne_nil {expr : Expr} {leaves : List Term} (adds : scope.Adds expr leaves) :
    leaves ≠ [] := by
  induction adds with
  | leaf _ _ => exact List.cons_ne_nil _ _
  | parenthesized _ ih => exact ih
  | sum _ _ _ ofLeft _ => exact List.append_ne_nil_of_left_ne_nil ofLeft _

theorem Adds.leaves_other {expr : Expr} {leaves : List Term} (adds : scope.Adds expr leaves) :
    ∀ leaf ∈ leaves, leaf.isConcatenation = false := by
  induction adds with
  | leaf _ other =>
      intro leaf member
      rwa [List.mem_singleton.mp member]
  | parenthesized _ ih => exact ih
  | sum _ _ _ ofLeft ofRight =>
      intro leaf member
      rcases List.mem_append.mp member with before | after
      · exact ofLeft leaf before
      · exact ofRight leaf after

section Flat

variable (holds : scope.catalog.HoldsPrimitives)
  (overloads : scope.catalog.methods .string concatName true = concatMethods)
  (distinct : scope.catalog.isAssignable .string .object = false)

include holds overloads distinct

/-- Induction on the sum: its operands come from those that its parts bring, whatever these have
been made into on the way. -/
theorem Adds.brings {expr : Expr} {leaves : List Term} (adds : scope.Adds expr leaves) :
    ∃ tree, scope.term expr = .ok tree ∧ scope.catalog.Brings (concatOperands tree) leaves ∧
      (2 ≤ leaves.length → ∃ method passed, tree = .staticCall method passed ∧
        JoinsAll (operandsUnder scope.catalog.asObject leaves) method passed) := by
  induction adds with
  | leaf built other =>
      rename_i expr tree
      refine ⟨tree, built, ?_, fun several => ?_⟩
      · rw [Term.concatOperands_of_not other]
        exact .refl [tree]
      · rw [List.length_singleton] at several
        omega
  | parenthesized _ ih =>
      unfold Scope.term
      exact ih
  | @sum left right before after addsLeft addsRight textual ofLeft ofRight =>
      obtain ⟨first, builtFirst, bringsFirst, _⟩ := ofLeft
      obtain ⟨second, builtSecond, bringsSecond, _⟩ := ofRight
      have isString : (first.type.isString || second.type.isString) = true := by
        rw [Bool.or_eq_true]
        exact textual.imp (fun isText => beq_iff_eq.mpr (isText.type_eq builtFirst))
          fun isText => beq_iff_eq.mpr (isText.type_eq builtSecond)
      have brings := bringsFirst.append bringsSecond
      have several : 2 ≤ (before ++ after).length := by
        have some := List.length_pos_iff.mpr addsLeft.ne_nil
        have others := List.length_pos_iff.mpr addsRight.ne_nil
        rw [List.length_append]
        omega
      rw [← brings.length_eq] at several
      obtain ⟨method, passed, built, joins⟩ :=
        concatTerm_joinsAll holds overloads distinct several
      rw [brings.operandsUnder_eq] at joins
      have bringsAll := brings_operandsUnder holds (before ++ after)
      rw [brings.length_eq, ← bringsAll.length_eq] at several
      refine ⟨.staticCall method passed, ?_, ?_, fun _ => ⟨method, passed, rfl, joins⟩⟩
      · rw [term_sum builtFirst builtSecond isString, built]
      · rw [concatOperands_of_joinsAll joins several]
        exact bringsAll

theorem Adds.isText {expr : Expr} {leaves : List Term} (adds : scope.Adds expr leaves)
    (several : 2 ≤ leaves.length) : scope.IsText expr := by
  have results : ∀ method ∈ concatMethods, method.result = .string := by decide +kernel
  obtain ⟨tree, built, _, joined⟩ := adds.brings holds overloads distinct
  obtain ⟨method, passed, rfl, joins⟩ := joined several
  exact ⟨_, built, results method joins.1⟩

/-- Sums of texts are flat: one call that joins all leaves, each of them made an object once where
one is no text. -/
theorem joinsLeaves : scope.JoinsLeaves scope.catalog.asObject := by
  intro expr leaves adds several
  obtain ⟨tree, built, _, joined⟩ := adds.brings holds overloads distinct
  obtain ⟨method, passed, rfl, joins⟩ := joined several
  refine ⟨method, passed, built, joins, fun operand member => ?_⟩
  unfold operandsUnder at member
  split at member
  · exact adds.leaves_other operand member
  · obtain ⟨leaf, isLeaf, rfl⟩ := List.mem_map.mp member
    exact isConcatenation_asObject (adds.leaves_other leaf isLeaf)

end Flat

theorem adds_literal (scope : Scope) (value : Value) :
    scope.Adds (.literal value) [.ofValue value] :=
  .leaf (term_literal value) rfl

theorem isText_literal (origin : Origin) (text : String) :
    scope.IsText (.literal (.text origin text)) :=
  ⟨_, term_literal _, rfl⟩

/-- The leaves `a`, `1`, `b`, `2` and `c`, added within and without parentheses. -/
def nestedSum : Expr :=
  .binary "+" (.binary "+" (.literal (.text (.given 0) "a")) (.literal (.int32 1)))
    (.parenthesized (.binary "+" (.literal (.text (.given 1) "b"))
      (.parenthesized (.binary "+" (.literal (.int32 2)) (.literal (.text (.given 2) "c"))))))

def nestedLeaves : List Term :=
  [.ofValue (.text (.given 0) "a"), .ofValue (.int32 1), .ofValue (.text (.given 1) "b"),
    .ofValue (.int32 2), .ofValue (.text (.given 2) "c")]

theorem joinsLeaves_nested :
    withLibrary.catalog.HoldsPrimitives ∧
      withLibrary.catalog.methods .string concatName true = concatMethods ∧
      withLibrary.catalog.isAssignable .string .object = false ∧
      withLibrary.Adds nestedSum nestedLeaves ∧
      ∃ method passed, withLibrary.term nestedSum = .ok (.staticCall method passed) ∧
        JoinsAll (operandsUnder withLibrary.catalog.asObject nestedLeaves) method passed := by
  have concatenates : withLibrary.catalog.Concatenates := by
    simp only [withLibrary]
    exact standard_concatenates _
  have holds := concatenates.primitives
  have overloads := concatenates.overloads
  have distinct := concatenates.distinct
  have first := (adds_literal withLibrary (.text (.given 0) "a")).sum
    (adds_literal withLibrary (.int32 1)) (.inl (isText_literal _ _))
  have last := (adds_literal withLibrary (.int32 2)).sum
    (adds_literal withLibrary (.text (.given 2) "c")) (.inr (isText_literal _ _))
  have second := (adds_literal withLibrary (.text (.given 1) "b")).sum last.parenthesized
    (.inl (isText_literal _ _))
  have adds := first.sum second.parenthesized
    (.inl (first.isText holds overloads distinct (by decide)))
  obtain ⟨method, passed, built, joined, _⟩ :=
    joinsLeaves holds overloads distinct nestedSum nestedLeaves adds (by decide)
  exact ⟨holds, overloads, distinct, adds, method, passed, built, joined⟩

def operandTypes : Term → List DataType
  | .staticCall _ passed => passed.map Term.type
  | _ => []

theorem JoinsLeaves.operandTypes_eq {under : Term → Term} (joins : scope.JoinsLeaves under)
    {expr : Expr} {leaves : List Term} {types : List DataType} (adds : scope.Adds expr leaves)
    (several : 2 ≤ leaves.length) (arguments : 2 ≤ types.length)
    (checked : (scope.term expr).toOption.any (fun tree => operandTypes tree = types) = true) :
    (operandsUnder under leaves).map Term.type = types := by
  obtain ⟨method, passed, built, ⟨_, joined⟩, _⟩ := joins expr leaves adds several
  rw [built] at checked
  have same : passed.map Term.type = types := of_decide_eq_true checked
  rcases joined with rfl | ⟨element, rfl⟩
  · exact same
  · rw [← same] at arguments
    simp at arguments

/-- A number and null of texts. -/
def sumWithNull : Expr :=
  .binary "+" (.literal (.int32 1)) (.cast "string" (.literal .null))

/-- A conversion is not all that an operand may be under: null of texts becomes null of objects. -/
theorem not_joinsLeaves_boxed : ¬withLibrary.JoinsLeaves withLibrary.catalog.boxed := by
  intro joins
  have builtNull : withLibrary.term (.cast "string" (.literal .null)) = .ok (.nullOf .string) := by
    have checked : (withLibrary.term (.cast "string" (.literal .null))).toOption.any (fun tree =>
        tree.isNull ∧ tree.type = .string) = true := by decide +kernel
    obtain ⟨tree, built, checked⟩ := ok_of_any checked
    obtain ⟨isNull, isString⟩ := of_decide_eq_true checked
    rw [built, Term.eq_nullOf isNull, isString]
  have adds : withLibrary.Adds sumWithNull [.ofValue (.int32 1), .nullOf .string] :=
    (adds_literal withLibrary (.int32 1)).sum (.leaf builtNull rfl) (.inr ⟨_, builtNull, rfl⟩)
  have types := joins.operandTypes_eq adds (by decide)
    (show 2 ≤ [DataType.object, .object].length by decide) (by decide +kernel)
  revert types
  decide +kernel

/-- Makes objects a kind of texts, and gives texts their concatenations. -/
def invertEntry (entry : TypeEntry) : TypeEntry :=
  if entry.id = .object then { entry with base := some .string }
  else if entry.id = .string then { entry with base := none, methods := concatMethods }
  else entry

theorem invertEntry_id (entry : TypeEntry) : (invertEntry entry).id = entry.id := by
  unfold invertEntry
  split
  · rfl
  · split <;> rfl

def inverted : Scope :=
  { catalog := ⟨primitives.entries.map invertEntry⟩ }

theorem inverted_methods :
    inverted.catalog.methods .string concatName true = concatMethods := by
  have owns : inverted.catalog.OwnsMethods := by
    unfold OwnsMethods TypeEntry.OwnsMethods
    decide +kernel
  have isKnown : (primitives.find? .string).isSome = true := by decide +kernel
  obtain ⟨entry, known⟩ := Option.isSome_iff_exists.mp isKnown
  have isString := (find?_mem known).2
  have found : inverted.catalog.entryFor? .string =
      some { entry with base := none, methods := concatMethods } := by
    have sameIds : (fun entry : TypeEntry => decide (entry.id = .string)) ∘ invertEntry =
        fun entry => decide (entry.id = .string) := by
      funext entry
      rw [Function.comp_apply, invertEntry_id]
    change (primitives.entries.map invertEntry).find? (fun entry => decide (entry.id = .string)) = _
    rw [List.find?_map, sameIds]
    change (primitives.find? .string).map invertEntry = _
    rw [known, Option.map_some]
    unfold invertEntry
    rw [if_neg (by rw [isString]; decide), if_pos isString]
  have listed : concatMethods.all (fun method => method.isStatic && method.isNamed concatName) =
      true := by decide +kernel
  rw [methods_static owns found]
  exact List.filter_eq_self.mpr (List.all_eq_true.mp listed)

/-- Where objects are texts, an overload for texts may be called for objects that are null. -/
theorem not_joinsLeaves_inverted :
    inverted.catalog.HoldsPrimitives ∧
      inverted.catalog.methods .string concatName true = concatMethods ∧
      ¬inverted.JoinsLeaves inverted.catalog.asObject := by
  refine ⟨by unfold HoldsPrimitives; decide +kernel, inverted_methods, ?_⟩
  intro joins
  have last := (adds_literal inverted (.text (.given 2) "c")).sum (adds_literal inverted .null)
    (.inl (isText_literal _ _))
  have adds := (adds_literal inverted (.text (.given 0) "a")).sum
    ((adds_literal inverted (.text (.given 1) "b")).sum last (.inl (isText_literal _ _)))
    (.inl (isText_literal _ _))
  have types := joins.operandTypes_eq adds (by decide)
    (show 2 ≤ [DataType.string, .string, .string, .string].length by decide) (by decide +kernel)
  revert types
  decide +kernel

/-- Null is more than a matter of conversions, and of what objects are. -/
theorem not_joinsLeaves :
    ¬withLibrary.JoinsLeaves withLibrary.catalog.boxed ∧
      inverted.catalog.HoldsPrimitives ∧
      inverted.catalog.methods .string concatName true = concatMethods ∧
      ¬inverted.JoinsLeaves inverted.catalog.asObject :=
  ⟨not_joinsLeaves_boxed, not_joinsLeaves_inverted⟩

end Scope

end Formula
