import Formula.Proofs.Soundness.Operators
import Formula.Proofs.Typing.Trees

/-!
Evaluation of well-formed trees. Each node turns values of its operand types into a value of its
own type, given that the bodies of members and methods do; so does the whole tree, and it is
never the tree that is at fault but for the shift that fills with zeros.
-/

namespace Formula

/-- A built-in shift that fills with zeros. -/
def Term.IsZeroFill (term : Term) : Prop :=
  ∃ left right type, term = .binary .shiftRightZero left right type

namespace Catalog

section Bodies

variable (catalog : Catalog) (genuine : Value → Prop)

/-- A body is called on a value of the type, unless it is static, with an argument for each
parameter. -/
structure Invokes (type : DataType) (isStatic : Bool) (parameters : List Parameter)
    (call : Invocation) : Prop where
  receiver : if isStatic then call.receiver = none
    else ∃ value, call.receiver = some value ∧ value.isNull = false ∧
      catalog.Admits genuine type value
  arguments : List.Forall₂ (fun value parameter => catalog.Admits genuine parameter.type value)
    call.arguments parameters

/-- When a body is called as it should be, it gives a value of its type, and does not blame the
tree. -/
def Answers (type : DataType) (isStatic : Bool) (parameters : List Parameter)
    (result : DataType) (body : Body) : Prop :=
  ∀ call, catalog.Invokes genuine type isStatic parameters call →
    Yields (catalog.Admits genuine result) False (body call)

/-- What the builder and the evaluator take for granted about a catalog. -/
structure Lawful : Prop where
  primitives : catalog.HoldsPrimitives
  enumerates : catalog.EnumeratesIntegers
  owners : ∀ entry ∈ catalog.entries, ∀ member ∈ entry.members, member.owner = entry.id
  defaults : ∀ entry ∈ catalog.entries, ∀ parameter ∈ entry.declaredParameters,
    parameter.DefaultFits fun value type => catalog.Admits genuine type value
  members : ∀ type isStatic member, catalog.DeclaresMember type isStatic member →
    catalog.Answers genuine type isStatic member.parameters member.type member.body
  methods : ∀ type isStatic method, catalog.DeclaresMethod type isStatic method →
    catalog.Answers genuine type isStatic method.parameters method.result method.body

end Bodies

variable {catalog : Catalog} {genuine : Value → Prop}

theorem Answers.onType {owner : DataType} {parameters : List Parameter} {result : DataType}
    {body : Body} (answers : catalog.Answers genuine owner true parameters result body)
    (site : List Nat) {arguments : List Value}
    (passed : List.Forall₂ (fun value parameter => catalog.Admits genuine parameter.type value)
      arguments parameters) (reason : Prop) :
    Yields (catalog.Admits genuine result) reason (body ⟨site, none, arguments⟩) :=
  (answers ⟨site, none, arguments⟩ ⟨rfl, passed⟩).mono (fun _ admits => admits) False.elim

theorem Answers.onInstance {type : DataType} {parameters : List Parameter} {result : DataType}
    {body : Body} (answers : catalog.Answers genuine type false parameters result body)
    (site : List Nat) {receiver : Value} {arguments : List Value}
    (present : receiver.isNull = false) (admits : catalog.Admits genuine type receiver)
    (passed : List.Forall₂ (fun value parameter => catalog.Admits genuine parameter.type value)
      arguments parameters) (reason : Prop) :
    Yields (catalog.Admits genuine result) reason (body ⟨site, some receiver, arguments⟩) :=
  (answers ⟨site, some receiver, arguments⟩ ⟨⟨receiver, rfl, present, admits⟩, passed⟩).mono
    (fun _ admits => admits) False.elim

theorem Passes.admits {parameters : List Parameter} {arguments : List Term}
    (passes : catalog.Passes parameters arguments) {values : List Value}
    (evaluated : List.Forall₂ (fun value (term : Term) => catalog.Admits genuine term.type value)
      values arguments) :
    List.Forall₂ (fun value parameter => catalog.Admits genuine parameter.type value) values
      parameters := by
  induction evaluated generalizing parameters with
  | nil =>
      cases passes
      exact .nil
  | cons admits _ ih =>
      cases passes with
      | cons serves rest => exact .cons (admits.serves serves) (ih rest)

theorem resolveBinary_builtin {operator : BinaryOperator} {left right type : DataType}
    (resolved : catalog.resolveBinary operator left right = .ok (some (.builtin type))) :
    catalog.builtinBinary? operator left right = some type := by
  rcases resolveBinary_cases resolved with ⟨_, _, _, impossible⟩ | builtin
  · cases impossible
  · obtain ⟨result, found, same⟩ := Option.map_eq_some_iff.mp builtin.symm
    cases same
    exact found

theorem resolveUnary_builtin {operator : UnaryOperator} {operand type : DataType}
    (resolved : catalog.resolveUnary operator operand = .ok (some (.builtin type))) :
    builtinUnary? operator operand = some type := by
  rcases resolveUnary_cases resolved with ⟨_, _, _, impossible⟩ | builtin
  · cases impossible
  · obtain ⟨result, found, same⟩ := Option.map_eq_some_iff.mp builtin.symm
    cases same
    exact found

theorem entryBases_above {limit : Nat} {seen : List TypeId} {entry base : TypeEntry}
    (found : catalog.find? entry.id = some entry)
    (member : base ∈ catalog.entryBases limit seen entry) :
    base = entry ∨ ∃ child, catalog.find? child.id = some child ∧ child.base = some base.id := by
  induction limit generalizing seen entry with
  | zero =>
      unfold entryBases at member
      exact .inl (List.mem_singleton.mp member)
  | succ limit ih =>
      unfold entryBases at member
      cases parent : entry.base.bind catalog.find? with
      | none =>
          simp only [parent, List.mem_singleton] at member
          exact .inl member
      | some next =>
          simp only [parent] at member
          split at member
          · exact .inl (List.mem_singleton.mp member)
          · rw [List.mem_cons] at member
            rcases member with same | further
            · exact .inl same
            · obtain ⟨id, isBase, isNext⟩ := Option.bind_eq_some_iff.mp parent
              rcases ih (find?_id isNext) further with rfl | above
              · refine .inr ⟨entry, found, ?_⟩
                rw [isBase, (find?_mem isNext).2]
              · exact .inr above

theorem declaringEntries_arrays (references : catalog.ReferencesAbove) {type : DataType}
    {entry : TypeEntry} (declaring : entry ∈ catalog.declaringEntries type false)
    (isArrays : entry.id = .array) :
    type.isArray = true ∨ type = .plain .array := by
  unfold declaringEntries at declaring
  cases isFirst : catalog.entryFor? type with
  | none =>
      rw [isFirst] at declaring
      cases declaring
  | some first =>
      simp only [isFirst, Bool.false_eq_true, if_false] at declaring
      rcases entryBases_above (entryFor?_find? isFirst) declaring with rfl | ⟨child, found, isBase⟩
      · unfold entryFor? at isFirst
        split at isFirst
        · rename_i isArray
          exact .inl isArray
        · rename_i flat
          split at isFirst
          · have isNullable := (find?_mem isFirst).2
            rw [isArrays] at isNullable
            exact absurd isNullable (by decide)
          · rename_i unmarked
            right
            obtain ⟨id, nullable, rank⟩ := type
            unfold DataType.isArray at flat
            simp only [decide_eq_true_eq, Nat.not_lt, Nat.le_zero] at flat
            subst flat
            unfold DataType.isNullable at unmarked
            simp only [beq_self_eq_true, Bool.true_and, Bool.not_eq_true] at unmarked
            subst unmarked
            have isId := (find?_mem isFirst).2
            rw [isArrays] at isId
            rw [isId]
            rfl
      · rw [isArrays] at isBase
        exact absurd rfl (references child.id child .array found (.inl isBase)).2

theorem isArray_of_declaring (holds : catalog.HoldsPrimitives)
    (references : catalog.ReferencesAbove) {type : DataType} {entry : TypeEntry}
    (declaring : entry ∈ catalog.declaringEntries type false) (isArrays : entry.id = .array)
    {value : Value} (admits : catalog.Admits genuine type value) :
    value = .null ∨ ∃ origin element items, value = .array origin element items ∧ True := by
  have items : value = .null ∨ ∃ origin element items, value = .array origin element items := by
    rcases declaringEntries_arrays references declaring isArrays with isArray | rfl
    · obtain ⟨element, isElement⟩ := isElement_of_isArray isArray
      rcases admits.carries.isArrayOf admits.proper isElement with
        isNull | ⟨origin, own, items, same, _⟩
      · exact .inl isNull
      · exact .inr ⟨origin, own, items, same⟩
    · exact admits.carries.ofArrays holds references admits.proper
  rcases items with isNull | ⟨origin, element, items, same⟩
  · exact .inl isNull
  · exact .inr ⟨origin, element, items, same, trivial⟩

theorem admits_newArray (origin : Origin) {itemType : DataType} {items : List Term}
    {values : List Value} (serve : ∀ item ∈ items, catalog.Serves item.type itemType)
    (admitted : List.Forall₂ (fun value (term : Term) => catalog.Admits genuine term.type value)
      values items) :
    catalog.Admits genuine itemType.arrayOf (.array origin itemType values) := by
  have each : ∀ value ∈ values, catalog.Admits genuine itemType value := by
    induction admitted with
    | nil => exact fun _ impossible => absurd impossible List.not_mem_nil
    | cons admits _ ih =>
        intro value member
        rcases List.mem_cons.mp member with rfl | later
        · exact admits.serves (serve _ (List.mem_cons_self ..))
        · exact ih (fun item member => serve item (List.mem_cons_of_mem _ member)) value later
  have proper : catalog.Proper genuine (.array origin itemType values) :=
    .array origin (fun value member => (each value member).proper)
      (fun value member => (each value member).carries)
  exact ⟨proper, carries_type (.array origin itemType values)⟩

end Catalog

namespace Setting

variable {setting : Setting} {genuine : Value → Prop}

theorem requireInstance_yields {type : DataType} {value : Value} (reason : Prop)
    (admits : setting.catalog.Admits genuine type value) :
    Yields (fun receiver => receiver.isNull = false ∧
      setting.catalog.Admits genuine type receiver) reason (requireInstance value) := by
  cases value with
  | null => trivial
  | _ => exact ⟨rfl, admits⟩

theorem requireTruth_yields {value : Value} (reason : Prop)
    (isTruth : value = .null ∨ value.scalar? = some .boolean) :
    Yields (fun _ => True) reason (requireTruth value) := by
  rcases isTruth with rfl | isScalar
  · trivial
  · cases value <;> simp only [Value.scalar?, Option.some.injEq, reduceCtorEq] at isScalar
    trivial

theorem requireItems_yields {value : Value} (reason : Prop) {good : List Value → Prop}
    (isArray : value = .null ∨ ∃ origin element items, value = .array origin element items ∧
      good items) : Yields good reason (requireItems value) := by
  rcases isArray with rfl | ⟨origin, element, items, rfl, isGood⟩
  · trivial
  · exact isGood

theorem elementOf_yields {good : Value → Prop} (reason : Prop) {array position : Value}
    (isArray : array = .null ∨ ∃ origin element items, array = .array origin element items ∧
      ∀ item ∈ items, good item) (isPosition : position.scalar? = some (.integer .int32)) :
    Yields good reason (elementOf array position) := by
  unfold elementOf
  refine (requireItems_yields reason isArray).bind fun items areGood => ?_
  cases position <;> simp only [Value.scalar?, Option.some.injEq, reduceCtorEq] at isPosition
  dsimp only [Value.toInt?]
  split
  · split
    · rename_i item found
      exact areGood item (List.mem_of_getElem? found)
    · trivial
  · trivial

theorem evaluate_eager {operator : BinaryOperator}
    (eager : ¬(operator = .andAlso ∨ operator = .orElse)) (site : List Nat) (left right : Term)
    (type : DataType) :
    setting.evaluate site (.binary operator left right type) = (do
      let first ← setting.evaluate (0 :: site) left
      let second ← setting.evaluate (1 :: site) right
      if first.isNull || second.isNull then return operator.applyNull first second
      else operator.apply first second) := by
  cases operator with
  | andAlso => exact absurd (.inl rfl) eager
  | orElse => exact absurd (.inr rfl) eager
  | _ =>
      conv_lhs => unfold evaluate

/-- A well-formed tree whose constants, and the receiver where it is named, are values of the
types they stand under. -/
def Fits (setting : Setting) (genuine : Value → Prop) (term : Term) : Prop :=
  setting.catalog.WellFormed (fun value type => setting.catalog.Admits genuine type value)
    (fun _ type => ∃ value, setting.receiver = some value ∧
      setting.catalog.Admits genuine type value) term

theorem yields_below {α : Type} {good : α → Prop} {term child : Term} {outcome : Outcome α}
    (member : child ∈ term.children) (yields : Yields good (child.Any Term.IsZeroFill) outcome) :
    Yields good (term.Any Term.IsZeroFill) outcome :=
  yields.mono (fun _ isGood => isGood) (Term.Any.inside member)

theorem yields_belowAll {α : Type} {good : α → Prop} {term : Term} {terms : List Term}
    {outcome : Outcome α} (members : ∀ child ∈ terms, child ∈ term.children)
    (yields : Yields good (∃ child ∈ terms, child.Any Term.IsZeroFill) outcome) :
    Yields good (term.Any Term.IsZeroFill) outcome :=
  yields.mono (fun _ isGood => isGood) fun ⟨child, member, found⟩ =>
    Term.Any.inside (members child member) found

mutual

/-- The value of a well-formed tree is one of its type; only a shift that fills with zeros may
make the tree itself the fault. -/
theorem evaluate_yields (lawful : setting.catalog.Lawful genuine)
    (references : setting.catalog.ReferencesAbove) :
    ∀ (term : Term) (site : List Nat), setting.Fits genuine term →
      Yields (setting.catalog.Admits genuine term.type) (term.Any Term.IsZeroFill)
        (setting.evaluate site term)
  | .constant value type, site, fits => by
      unfold evaluate
      exact fits.node
  | .parameter name type, site, fits => by
      obtain ⟨value, isReceiver, admits⟩ := fits.node
      unfold evaluate
      rw [isReceiver]
      exact admits
  | .staticMember member, site, fits => by
      obtain ⟨⟨owner, declares⟩, plain⟩ := fits.node
      unfold evaluate
      refine (lawful.members _ _ _ declares).onType _ ?_ _
      rw [plain]
      exact .nil
  | .instanceMember target member, site, fits => by
      obtain ⟨declares, plain⟩ := fits.node
      have inside : target ∈ (Term.instanceMember target member).children :=
        List.mem_singleton_self target
      have ofTarget := evaluate_yields lawful references target (0 :: site) (fits.child inside)
      unfold evaluate
      refine (yields_below inside ofTarget).bind fun value admits => ?_
      refine (requireInstance_yields _ admits).bind fun receiver ⟨present, admits⟩ => ?_
      refine (lawful.members _ _ _ declares).onInstance _ present admits ?_ _
      rw [plain]
      exact .nil
  | .index target indexer arguments, site, fits => by
      obtain ⟨declares, passes⟩ := fits.node
      have inside : target ∈ (Term.index target indexer arguments).children :=
        List.mem_cons_self ..
      have allInside : ∀ child ∈ arguments,
          child ∈ (Term.index target indexer arguments).children :=
        fun child member => List.mem_cons_of_mem _ member
      have ofTarget := evaluate_yields lawful references target (0 :: site) (fits.child inside)
      have ofArguments := evaluateAll_yields lawful references arguments site 1
        fun child member => fits.child (allInside child member)
      unfold evaluate
      refine (yields_below inside ofTarget).bind fun value admits => ?_
      refine (requireInstance_yields _ admits).bind fun receiver ⟨present, admits⟩ => ?_
      refine (yields_belowAll allInside ofArguments).bind fun values admitted => ?_
      exact (lawful.members _ _ _ declares).onInstance _ present admits (passes.admits admitted) _
  | .staticCall method arguments, site, fits => by
      obtain ⟨⟨owner, declares⟩, passes⟩ := fits.node
      have allInside : ∀ child ∈ arguments, child ∈ (Term.staticCall method arguments).children :=
        fun child member => member
      have ofArguments := evaluateAll_yields lawful references arguments site 1
        fun child member => fits.child (allInside child member)
      unfold evaluate
      refine (yields_belowAll allInside ofArguments).bind fun values admitted => ?_
      exact (lawful.methods _ _ _ declares).onType _ (passes.admits admitted) _
  | .instanceCall target method arguments, site, fits => by
      obtain ⟨declares, passes⟩ := fits.node
      have inside : target ∈ (Term.instanceCall target method arguments).children :=
        List.mem_cons_self ..
      have allInside : ∀ child ∈ arguments,
          child ∈ (Term.instanceCall target method arguments).children :=
        fun child member => List.mem_cons_of_mem _ member
      have ofTarget := evaluate_yields lawful references target (0 :: site) (fits.child inside)
      have ofArguments := evaluateAll_yields lawful references arguments site 1
        fun child member => fits.child (allInside child member)
      unfold evaluate
      refine (yields_below inside ofTarget).bind fun value admits => ?_
      refine (requireInstance_yields _ admits).bind fun receiver ⟨present, admits⟩ => ?_
      refine (yields_belowAll allInside ofArguments).bind fun values admitted => ?_
      exact (lawful.methods _ _ _ declares).onInstance _ present admits (passes.admits admitted) _
  | .convert operand target, site, fits => by
      have inside : operand ∈ (Term.convert operand target).children :=
        List.mem_singleton_self operand
      have ofOperand := evaluate_yields lawful references operand (0 :: site) (fits.child inside)
      unfold evaluate
      refine (yields_below inside ofOperand).bind fun value admits => ?_
      exact (Catalog.cast_yields admits.proper operand.type target).mono
        (fun _ admits => admits) False.elim
  | .convertBy method operand target, site, fits => by
      obtain ⟨⟨owner, declares⟩, passes, result⟩ := fits.node
      have inside : operand ∈ (Term.convertBy method operand target).children :=
        List.mem_singleton_self operand
      have ofOperand := evaluate_yields lawful references operand (0 :: site) (fits.child inside)
      unfold evaluate
      refine (yields_below inside ofOperand).bind fun value admits => ?_
      have admitted := passes.admits (.cons admits .nil)
      refine ((lawful.methods _ _ _ declares).onType _ admitted _).mono ?_ id
      rw [result]
      exact fun _ admits => admits
  | .unary operator operand type, site, fits => by
      have resolved := fits.node
      have inside : operand ∈ (Term.unary operator operand type).children :=
        List.mem_singleton_self operand
      have ofOperand := evaluate_yields lawful references operand (0 :: site) (fits.child inside)
      unfold evaluate
      refine (yields_below inside ofOperand).bind fun value admits => ?_
      refine (Catalog.builtinUnary?_yields lawful.primitives references
        (Catalog.resolveUnary_builtin resolved) admits).mono (fun _ admits => admits) False.elim
  | .unaryBy method operator operand, site, fits => by
      obtain ⟨⟨owner, declares⟩, passes⟩ := fits.node
      have inside : operand ∈ (Term.unaryBy method operator operand).children :=
        List.mem_singleton_self operand
      have ofOperand := evaluate_yields lawful references operand (0 :: site) (fits.child inside)
      unfold evaluate
      refine (yields_below inside ofOperand).bind fun value admits => ?_
      exact (lawful.methods _ _ _ declares).onType _ (passes.admits (.cons admits .nil)) _
  | .binary operator left right type, site, fits => by
      have found := Catalog.resolveBinary_builtin fits.node
      have insideLeft : left ∈ (Term.binary operator left right type).children :=
        List.mem_cons_self ..
      have insideRight : right ∈ (Term.binary operator left right type).children :=
        List.mem_cons_of_mem _ (List.mem_singleton_self right)
      have ofLeft := yields_below insideLeft
        (evaluate_yields lawful references left (0 :: site) (fits.child insideLeft))
      have ofRight := yields_below insideRight
        (evaluate_yields lawful references right (1 :: site) (fits.child insideRight))
      by_cases logical : operator = .andAlso ∨ operator = .orElse
      · obtain ⟨areTruths, admitsTruth⟩ := Catalog.builtinBinary?_logical lawful.primitives
          references logical found
        rcases logical with rfl | rfl
        · unfold evaluate
          refine ofLeft.bind fun first admits => ?_
          refine (requireTruth_yields _ (areTruths first (.inl admits))).bind fun truth _ => ?_
          split
          · refine ofRight.bind fun second admits => ?_
            refine (requireTruth_yields _ (areTruths second (.inr admits))).bind fun truth _ => ?_
            exact admitsTruth truth
          · exact admitsTruth false
        · unfold evaluate
          refine ofLeft.bind fun first admits => ?_
          refine (requireTruth_yields _ (areTruths first (.inl admits))).bind fun truth _ => ?_
          split
          · exact admitsTruth true
          · refine ofRight.bind fun second admits => ?_
            refine (requireTruth_yields _ (areTruths second (.inr admits))).bind fun truth _ => ?_
            exact admitsTruth truth
      · rw [evaluate_eager logical]
        refine ofLeft.bind fun first admitsFirst => ofRight.bind fun second admitsSecond => ?_
        refine (Catalog.builtinBinary?_yields lawful.primitives references found
          admitsFirst admitsSecond).mono (fun _ admits => admits) ?_
        rintro rfl
        exact .here ⟨left, right, type, rfl⟩
  | .binaryBy method operator left right, site, fits => by
      obtain ⟨⟨owner, declares⟩, passes⟩ := fits.node
      have insideLeft : left ∈ (Term.binaryBy method operator left right).children :=
        List.mem_cons_self ..
      have insideRight : right ∈ (Term.binaryBy method operator left right).children :=
        List.mem_cons_of_mem _ (List.mem_singleton_self right)
      have ofLeft := evaluate_yields lawful references left (0 :: site) (fits.child insideLeft)
      have ofRight := evaluate_yields lawful references right (1 :: site) (fits.child insideRight)
      unfold evaluate
      refine (yields_below insideLeft ofLeft).bind fun first admitsFirst => ?_
      refine (yields_below insideRight ofRight).bind fun second admitsSecond => ?_
      have admitted := passes.admits (.cons admitsFirst (.cons admitsSecond .nil))
      exact (lawful.methods _ _ _ declares).onType _ admitted _
  | .coalesce left right, site, fits => by
      have serves := fits.node
      have insideLeft : left ∈ (Term.coalesce left right).children := List.mem_cons_self ..
      have insideRight : right ∈ (Term.coalesce left right).children :=
        List.mem_cons_of_mem _ (List.mem_singleton_self right)
      have ofLeft := evaluate_yields lawful references left (0 :: site) (fits.child insideLeft)
      have ofRight := evaluate_yields lawful references right (1 :: site) (fits.child insideRight)
      unfold evaluate
      refine (yields_below insideLeft ofLeft).bind fun first admits => ?_
      split
      · exact (yields_below insideRight ofRight).mono (fun _ admits => admits.serves serves) id
      · exact admits
  | .conditional test whenTrue whenFalse, site, fits => by
      obtain ⟨serves, same⟩ := fits.node
      have insideTest : test ∈ (Term.conditional test whenTrue whenFalse).children :=
        List.mem_cons_self ..
      have insideTrue : whenTrue ∈ (Term.conditional test whenTrue whenFalse).children :=
        List.mem_cons_of_mem _ (List.mem_cons_self ..)
      have insideFalse : whenFalse ∈ (Term.conditional test whenTrue whenFalse).children :=
        List.mem_cons_of_mem _ (List.mem_cons_of_mem _ (List.mem_singleton_self whenFalse))
      have ofTest := evaluate_yields lawful references test (0 :: site) (fits.child insideTest)
      have ofTrue := evaluate_yields lawful references whenTrue (1 :: site) (fits.child insideTrue)
      have ofFalse :=
        evaluate_yields lawful references whenFalse (2 :: site) (fits.child insideFalse)
      unfold evaluate
      refine (yields_below insideTest ofTest).bind fun truth admits => ?_
      have asTruth : setting.catalog.Admits genuine (.ofScalar .boolean) truth :=
        admits.serves serves
      have isTruth := asTruth.scalar? lawful.primitives references
      refine (requireTruth_yields _ (.inr isTruth)).bind fun holds _ => ?_
      split
      · exact yields_below insideTrue ofTrue
      · have ofOther := yields_below insideFalse ofFalse
        rw [← same] at ofOther
        exact ofOther
  | .elementAt array position, site, fits => by
      obtain ⟨isArray, isPosition⟩ := fits.node
      obtain ⟨element, isElement⟩ := Catalog.isElement_of_isArray isArray
      have insideArray : array ∈ (Term.elementAt array position).children :=
        List.mem_cons_self ..
      have insidePosition : position ∈ (Term.elementAt array position).children :=
        List.mem_cons_of_mem _ (List.mem_singleton_self position)
      have ofArray := evaluate_yields lawful references array (0 :: site) (fits.child insideArray)
      have ofPosition :=
        evaluate_yields lawful references position (1 :: site) (fits.child insidePosition)
      unfold evaluate
      refine (yields_below insideArray ofArray).bind fun value admits => ?_
      refine (yields_below insidePosition ofPosition).bind fun index admitsIndex => ?_
      rw [isPosition] at admitsIndex
      have asIndex : setting.catalog.Admits genuine (.ofScalar (.integer .int32)) index :=
        admitsIndex
      have isIndex := asIndex.scalar? lawful.primitives references
      have items := (admits.carries.isArrayOf admits.proper isElement).items admits.proper
      unfold Term.type
      rw [isElement]
      exact elementOf_yields _ items isIndex
  | .lengthOf array, site, fits => by
      obtain ⟨member, ⟨_, entry, declaring, declared⟩, ofArrays⟩ := fits.node
      have inside : array ∈ (Term.lengthOf array).children := List.mem_singleton_self array
      have ofArray := evaluate_yields lawful references array (0 :: site) (fits.child inside)
      unfold evaluate
      refine (yields_below inside ofArray).bind fun value admits => ?_
      have isArray := Catalog.isArray_of_declaring lawful.primitives references declaring
        ((lawful.owners entry (Catalog.find?_mem (Catalog.declaringEntries_find? declaring)).1
          member declared).symm.trans ofArrays) admits
      refine (requireItems_yields _ isArray).bind fun items _ => ?_
      exact Catalog.admits_scalar
        (show (Value.int32 items.length).scalar? = some (.integer .int32) from rfl)
  | .newArray itemType items, site, fits => by
      have serve := fits.node
      have allInside : ∀ child ∈ items, child ∈ (Term.newArray itemType items).children :=
        fun child member => member
      have ofItems := evaluateAll_yields lawful references items site 0
        fun child member => fits.child (allInside child member)
      unfold evaluate
      refine (yields_belowAll allInside ofItems).bind fun values admitted => ?_
      exact Catalog.admits_newArray _ serve admitted

theorem evaluateAll_yields (lawful : setting.catalog.Lawful genuine)
    (references : setting.catalog.ReferencesAbove) :
    ∀ (terms : List Term) (site : List Nat) (child : Nat),
      (∀ term ∈ terms, setting.Fits genuine term) →
      Yields (List.Forall₂ (fun value (term : Term) =>
          setting.catalog.Admits genuine term.type value) · terms)
        (∃ term ∈ terms, term.Any Term.IsZeroFill) (setting.evaluateAll site child terms)
  | [], site, child, _ => by
      unfold evaluateAll
      exact .nil
  | term :: terms, site, child, fit => by
      have first := evaluate_yields lawful references term (child :: site)
        (fit term (List.mem_cons_self ..))
      have rest := evaluateAll_yields lawful references terms site (child + 1)
        fun other member => fit other (List.mem_cons_of_mem _ member)
      unfold evaluateAll
      refine (first.mono (fun _ admits => admits) fun found =>
        ⟨term, List.mem_cons_self .., found⟩).bind fun value admits => ?_
      refine (rest.mono (fun _ admitted => admitted) fun ⟨other, member, found⟩ =>
        ⟨other, List.mem_cons_of_mem _ member, found⟩).bind fun values admitted => ?_
      exact .cons admits admitted

end

end Setting

end Formula
