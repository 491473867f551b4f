import Formula.Proofs.Evaluation.Places
import Formula.Proofs.Typing.Concatenations

/-!
The value of a concatenation. Its tree is flat: what an operand would have joined by itself is
joined with everything else, and no operand is evaluated more than once or out of order. So the
text is that of the left operand followed by that of the right one, but for an operand that hands
one array over to a concatenation. By itself it gives the texts of the items; within another
concatenation the array is one operand among several, and gives the text that all arrays have.
-/

namespace Formula

open Catalog Library

def placesBelow (base : List Nat) : Nat → List (List Nat) → List (List Nat)
  | _, [] => []
  | child, above :: rest => (above ++ child :: base) :: placesBelow base (child + 1) rest

theorem length_placesBelow (base : List Nat) (child : Nat) (paths : List (List Nat)) :
    (placesBelow base child paths).length = paths.length := by
  induction paths generalizing child with
  | nil => rfl
  | cons above rest ih =>
      unfold placesBelow
      rw [List.length_cons, List.length_cons, ih]

theorem mem_placesBelow {base : List Nat} {child : Nat} {paths : List (List Nat)}
    {site : List Nat} (member : site ∈ placesBelow base child paths) :
    ∃ above position, child ≤ position ∧ site = above ++ position :: base := by
  induction paths generalizing child with
  | nil => cases member
  | cons above rest ih =>
      unfold placesBelow at member
      rcases List.mem_cons.mp member with rfl | later
      · exact ⟨above, child, Nat.le_refl child, rfl⟩
      · obtain ⟨other, position, bound, rfl⟩ := ih later
        exact ⟨other, position, by omega, rfl⟩

theorem pairwise_placesBelow (base : List Nat) (child : Nat) (paths : List (List Nat)) :
    (placesBelow base child paths).Pairwise Apart := by
  induction paths generalizing child with
  | nil => exact .nil
  | cons above rest ih =>
      unfold placesBelow
      refine .cons ?_ (ih (child + 1))
      intro site member
      obtain ⟨other, position, bound, rfl⟩ := mem_placesBelow member
      exact .of_children (by omega) above other base

namespace Library

theorem concatenation_append (first second : List Value) :
    concatenation (first ++ second) = concatenation first ++ concatenation second := by
  unfold concatenation
  rw [List.map_append, String.join_append]

theorem concatenation_single (value : Value) : concatenation [value] = value.toText := by
  unfold concatenation
  rw [List.map_cons, List.map_nil, String.join_cons, String.join_nil, String.append_empty]

theorem spread_several {values : List Value} (several : values.length ≠ 1) :
    spread values = values := by
  unfold spread
  split
  · exact absurd rfl several
  · rfl

end Library

namespace Catalog

theorem cast_object {catalog : Catalog} (holds : catalog.HoldsPrimitives) (value : Value)
    (source : DataType) : catalog.cast value source .object = .ok value := by
  have reference := holds.isReferenceType_object
  unfold cast
  cases null : value.isNull with
  | true =>
      rw [if_pos rfl]
      unfold castNull acceptsNull
      rw [reference, Bool.or_true, if_pos rfl]
      cases value with
      | null => rfl
      | _ => cases null
  | false =>
      rw [if_neg Bool.false_ne_true]
      change (if catalog.isReferenceType .object = true then _ else _) = _
      rw [if_pos reference]
      change (if catalog.isAssignable .object value.type = true then _ else _) = _
      rw [if_pos (isAssignable_object value.type)]

end Catalog

namespace Setting

variable {setting : Setting}

def evaluateEach (setting : Setting) : List (Term × List Nat) → Outcome (List Value)
  | [] => .ok []
  | (term, site) :: rest => do
      let value ← setting.evaluate site term
      return value :: (← evaluateEach setting rest)

theorem evaluateEach_append (first second : List (Term × List Nat)) :
    setting.evaluateEach (first ++ second) = (do
      let values ← setting.evaluateEach first
      let others ← setting.evaluateEach second
      return values ++ others) := by
  induction first with
  | nil =>
      change setting.evaluateEach second =
        (do let others ← setting.evaluateEach second; return [] ++ others)
      cases setting.evaluateEach second <;> rfl
  | cons placed rest ih =>
      obtain ⟨term, site⟩ := placed
      simp only [List.cons_append, evaluateEach, ih, bind_assoc, pure_bind]

/-- Children that give what other terms give somewhere below them. -/
theorem evaluateAll_eq {above : Term → List Nat} {operands terms : List Term}
    (each : List.Forall₂ (fun operand term => ∀ site,
      setting.evaluate site term = setting.evaluate (above operand ++ site) operand) operands terms)
    (site : List Nat) (child : Nat) :
    setting.evaluateAll site child terms =
      setting.evaluateEach (operands.zip (placesBelow site child (operands.map above))) := by
  induction each generalizing child with
  | nil => simp only [evaluateAll, List.zip_nil_left, evaluateEach]
  | cons same _ ih =>
      simp only [evaluateAll, List.map_cons, placesBelow, List.zip_cons_cons, evaluateEach,
        same, ih]

theorem evaluateAll_own (site : List Nat) (child : Nat) (terms : List Term) :
    setting.evaluateAll site child terms =
      setting.evaluateEach (terms.zip (placesBelow site child (terms.map fun _ => []))) := by
  apply evaluateAll_eq
  exact List.forall₂_same.mpr fun term _ site => rfl

theorem length_evaluateAll {site : List Nat} {child : Nat} {terms : List Term}
    {values : List Value} (evaluated : setting.evaluateAll site child terms = .ok values) :
    values.length = terms.length := by
  induction terms generalizing child values with
  | nil =>
      unfold evaluateAll at evaluated
      cases evaluated
      rfl
  | cons term terms ih =>
      unfold evaluateAll at evaluated
      simp only [bind_eq_ok, pure_eq_ok] at evaluated
      obtain ⟨value, _, others, areOthers, rfl⟩ := evaluated
      rw [List.length_cons, List.length_cons, ih areOthers]

theorem evaluateEach_of_agrees {one other : Setting} (terms : List Term)
    {sites targets : List (List Nat)} (one_each : sites.length = targets.length)
    (agrees : ∀ move ∈ sites.zip targets, Agrees one other move.1 move.2) :
    one.evaluateEach (terms.zip sites) = other.evaluateEach (terms.zip targets) := by
  induction terms generalizing sites targets with
  | nil => simp only [List.zip_nil_left, evaluateEach]
  | cons term terms ih =>
      cases sites with
      | nil =>
          rw [List.length_eq_zero_iff.mp one_each.symm]
          simp only [List.zip_nil_right, evaluateEach]
      | cons site sites =>
          cases targets with
          | nil => cases one_each
          | cons target targets =>
              have first := evaluate_of_agrees term (agrees (site, target) (List.mem_cons_self ..))
              have rest := ih (Nat.succ.inj one_each) fun move member =>
                agrees move (List.mem_cons_of_mem _ member)
              simp only [List.zip_cons_cons, evaluateEach, first, rest]

theorem evaluate_concat_each {method : Method} (body : method.body = concatBody)
    {arguments : List Term} (several : arguments.length ≠ 1) (site : List Nat) :
    setting.evaluate site (.staticCall method arguments) = (do
      let values ← setting.evaluateAll site 1 arguments
      return .text (.made (setting.place site) 0) (concatenation values)) := by
  simp only [evaluate, body]
  cases evaluated : setting.evaluateAll site 1 arguments with
  | error fault => rfl
  | ok values =>
      have length := length_evaluateAll evaluated
      change concatBody _ = _
      unfold concatBody
      rw [spread_several (by rw [length]; exact several)]
      rfl

theorem evaluate_concat_packed {method : Method} (body : method.body = concatBody)
    (element : DataType) (items : List Term) (site : List Nat) :
    setting.evaluate site (.staticCall method [.newArray element items]) = (do
      let values ← setting.evaluateAll (1 :: site) 0 items
      return .text (.made (setting.place site) 0) (concatenation values)) := by
  simp only [evaluate, evaluateAll, body]
  cases setting.evaluateAll (1 :: site) 0 items <;> rfl

/-- Where an operand stands below the argument that it is passed as. -/
def pathTo (catalog : Catalog) (operand : Term) : List Nat :=
  if catalog.isValueType operand.type then [0] else []

theorem evaluate_passed (holds : setting.catalog.HoldsPrimitives) {element : DataType}
    {operand passed : Term}
    (fits : element = .object ∨ (setting.catalog.boxed operand).type = element)
    (found : setting.catalog.passArgument element (setting.catalog.boxed operand) = .ok passed)
    (site : List Nat) :
    setting.evaluate site passed =
      setting.evaluate (pathTo setting.catalog operand ++ site) operand := by
  have ofBoxed : setting.evaluate site (setting.catalog.boxed operand) =
      setting.evaluate (pathTo setting.catalog operand ++ site) operand := by
    unfold boxed pathTo
    split
    · simp only [evaluate, cast_object holds, List.singleton_append]
      cases setting.evaluate (0 :: site) operand <;> rfl
    · rw [List.nil_append]
  rw [← ofBoxed]
  rcases passArgument_boxed holds fits found with rfl | ⟨null, rfl⟩
  · rfl
  · cases isBoxed : setting.catalog.boxed operand with
    | constant value type =>
        rw [isBoxed] at null
        cases value with
        | null => simp only [Term.nullOf, evaluate]
        | _ => cases null
    | _ =>
        rw [isBoxed] at null
        cases null

theorem evaluate_passedAs (holds : setting.catalog.HoldsPrimitives) {element : DataType}
    {operands items : List Term}
    (fits : ∀ operand ∈ operands,
      element = .object ∨ (setting.catalog.boxed operand).type = element)
    (passedAs : setting.catalog.PassedAs element (operands.map setting.catalog.boxed) items) :
    List.Forall₂ (fun operand term => ∀ site, setting.evaluate site term =
      setting.evaluate (pathTo setting.catalog operand ++ site) operand) operands items := by
  induction operands generalizing items with
  | nil =>
      cases passedAs
      exact .nil
  | cons operand operands ih =>
      cases passedAs with
      | cons found rest =>
          have here := fits operand (List.mem_cons_self ..)
          have later := ih (fun other member => fits other (List.mem_cons_of_mem _ member)) rest
          exact .cons (evaluate_passed holds here found) later

theorem evaluate_concatTerm (concatenates : setting.catalog.Concatenates)
    {left right tree : Term}
    (several : 2 ≤ (concatOperands left ++ concatOperands right).length)
    (built : setting.catalog.concatTerm left right = .ok tree) (site : List Nat) :
    ∃ targets, targets.length = (concatOperands left ++ concatOperands right).length ∧
      ((0 :: site) :: targets).Pairwise Apart ∧
      setting.evaluate site tree = (do
        let values ← setting.evaluateEach
          ((concatOperands left ++ concatOperands right).zip targets)
        return .text (.made (setting.place site) 0) (concatenation values)) := by
  obtain ⟨method, element, passed, rfl, isConcat, calls, fits⟩ :=
    concatTerm_calls concatenates several built
  generalize concatOperands left ++ concatOperands right = operands at several calls fits ⊢
  have fitsEach : ∀ operand ∈ operands,
      element = .object ∨ (setting.catalog.boxed operand).type = element :=
    fun operand member => fits.imp_right fun types => types operand member
  have several' := several
  rw [← List.length_map setting.catalog.boxed] at several'
  rcases calls.several several' with passedAs | ⟨items, rfl, passedAs⟩
  · refine ⟨placesBelow site 1 (operands.map (pathTo setting.catalog)), ?_, ?_, ?_⟩
    · rw [length_placesBelow, List.length_map]
    · refine .cons ?_ (pairwise_placesBelow _ _ _)
      intro target member
      obtain ⟨above, position, bound, rfl⟩ := mem_placesBelow member
      exact .of_children (by omega) [] above site
    · have length := passedAs.length_eq
      have each := evaluate_passedAs concatenates.primitives fitsEach passedAs
      rw [evaluate_concat_each isConcat.body (by omega), evaluateAll_eq each]
  · refine ⟨placesBelow (1 :: site) 0 (operands.map (pathTo setting.catalog)), ?_, ?_, ?_⟩
    · rw [length_placesBelow, List.length_map]
    · refine .cons ?_ (pairwise_placesBelow _ _ _)
      intro target member
      obtain ⟨above, position, bound, rfl⟩ := mem_placesBelow member
      have apart := Apart.of_children Nat.zero_ne_one [] (above ++ [position]) site
      rw [List.append_assoc] at apart
      exact apart
    · have each := evaluate_passedAs concatenates.primitives fitsEach passedAs
      rw [evaluate_concat_packed isConcat.body, evaluateAll_eq each]

/-- Whether the tree is a concatenation of nothing but an array that was there already. -/
def forwardsArray (setting : Setting) : Term → Bool
  | .staticCall _ [.newArray _ _] => false
  | .staticCall method [argument] =>
      if method.owner = .string ∧ method.name = concatName then
        match setting.evaluate [1] argument with
        | .ok (.array _ _ _) => true
        | _ => false
      else false
  | _ => false

/-- What an operand gives within a concatenation: the text of its value, but where it forwards an
array, the text of that array, which is not the text of its items. -/
def contribution (setting : Setting) (term : Term) : Outcome String := do
  let value ← setting.evaluate [] term
  return if setting.forwardsArray term then "System.Array" else value.toText

/-- The places at which the operands of a tree give what the tree contributes. -/
structure Contributes (term : Term) (sites : List (List Nat)) : Prop where
  length : sites.length = (concatOperands term).length
  apart : sites.Pairwise Apart
  contribution : ∀ setting : Setting, setting.contribution term = (do
    let values ← setting.evaluateEach ((concatOperands term).zip sites)
    return concatenation values)

theorem contributes_alone {term : Term} (alone : concatOperands term = [term])
    (ordinary : ∀ setting : Setting, setting.forwardsArray term = false) :
    Contributes term [[]] := by
  refine ⟨by rw [alone]; rfl, List.pairwise_singleton _ _, ?_⟩
  intro setting
  unfold Setting.contribution
  rw [alone, ordinary setting]
  simp only [List.zip_cons_cons, List.zip_nil_right, evaluateEach]
  cases setting.evaluate [] term with
  | error fault => rfl
  | ok value => exact congrArg Except.ok (concatenation_single value).symm

theorem forwardsArray_other {method : Method}
    (other : ¬(method.owner = .string ∧ method.name = concatName)) (passed : List Term) :
    setting.forwardsArray (.staticCall method passed) = false := by
  unfold forwardsArray
  split
  · rfl
  · rename_i isCall
    cases isCall
    exact if_neg other
  · rfl

theorem forwardsArray_several (method : Method) {arguments : List Term}
    (several : arguments.length ≠ 1) :
    setting.forwardsArray (.staticCall method arguments) = false := by
  unfold forwardsArray
  split
  · rfl
  · rename_i isCall
    cases isCall
    exact absurd rfl several
  · rfl

theorem forwardsArray_single {method : Method}
    (concat : method.owner = .string ∧ method.name = concatName) {argument : Term}
    (notNew : ∀ element items, argument ≠ .newArray element items) :
    setting.forwardsArray (.staticCall method [argument]) =
      match setting.evaluate [1] argument with
      | .ok (.array _ _ _) => true
      | _ => false := by
  cases argument with
  | newArray element items => exact absurd rfl (notNew element items)
  | _ => exact if_pos concat

section Call

variable {method : Method} (body : method.body = concatBody)
  (concat : method.owner = .string ∧ method.name = concatName)

include body concat

theorem contributes_single {argument : Term}
    (notNew : ∀ element items, argument ≠ .newArray element items) :
    Contributes (.staticCall method [argument]) [[1]] := by
  have operands : concatOperands (.staticCall method [argument]) = [argument] := by
    rw [concatOperands_concat concat]
    cases argument with
    | newArray element items => exact absurd rfl (notNew element items)
    | _ => rfl
  refine ⟨by rw [operands]; rfl, List.pairwise_singleton _ _, ?_⟩
  intro setting
  unfold Setting.contribution
  rw [operands, forwardsArray_single concat notNew]
  simp only [evaluate, evaluateAll, List.zip_cons_cons, List.zip_nil_right, evaluateEach, body]
  cases setting.evaluate [1] argument with
  | error fault => rfl
  | ok value =>
      have single := concatenation_single value
      cases value <;> exact congrArg Except.ok single.symm

/-- The items of a new array are joined one by one, inside and outside. -/
theorem contributes_packed (element : DataType) (items : List Term) :
    Contributes (.staticCall method [.newArray element items])
      (placesBelow [1] 0 (items.map fun _ => [])) := by
  have operands : concatOperands (.staticCall method [.newArray element items]) = items :=
    concatOperands_concat concat _
  refine ⟨by rw [operands, length_placesBelow, List.length_map], pairwise_placesBelow _ _ _, ?_⟩
  intro setting
  unfold Setting.contribution
  rw [operands, evaluate_concat_packed body, evaluateAll_own]
  cases setting.evaluateEach (items.zip (placesBelow [1] 0 (items.map fun _ => []))) <;> rfl

theorem contributes_each {arguments : List Term} (several : arguments.length ≠ 1) :
    Contributes (.staticCall method arguments)
      (placesBelow [] 1 (arguments.map fun _ => [])) := by
  have operands : concatOperands (.staticCall method arguments) = arguments := by
    rw [concatOperands_concat concat]
    unfold spliced
    split
    · exact absurd rfl several
    · rfl
  refine ⟨by rw [operands, length_placesBelow, List.length_map], pairwise_placesBelow _ _ _, ?_⟩
  intro setting
  unfold Setting.contribution
  rw [forwardsArray_several method several, operands, evaluate_concat_each body several,
    evaluateAll_own]
  cases setting.evaluateEach (arguments.zip (placesBelow [] 1 (arguments.map fun _ => []))) <;> rfl

end Call

/-- What a built tree contributes is what the concatenation around it has of it. -/
theorem contributes_of_root {scope : Scope} (concatenates : scope.catalog.Concatenates)
    {term : Term} (root : scope.Root term) : ∃ sites, Contributes term sites := by
  cases term with
  | staticCall method passed =>
      by_cases concat : method.owner = .string ∧ method.name = concatName
      · have body := root.body_eq concatenates rfl concat
        by_cases single : passed.length = 1
        · obtain ⟨argument, rfl⟩ := List.length_eq_one_iff.mp single
          by_cases isNew : ∃ element items, argument = .newArray element items
          · obtain ⟨element, items, rfl⟩ := isNew
            exact ⟨_, contributes_packed body concat element items⟩
          · refine ⟨_, contributes_single body concat ?_⟩
            rintro element items rfl
            exact isNew ⟨element, items, rfl⟩
        · exact ⟨_, contributes_each body concat single⟩
      · exact ⟨_, contributes_alone (concatOperands_other concat passed)
          fun _ => forwardsArray_other concat passed⟩
  | _ => exact ⟨_, contributes_alone rfl fun _ => rfl⟩

theorem evaluate_of_forwardsArray {scope : Scope} (concatenates : scope.catalog.Concatenates)
    {term : Term} (root : scope.Root term) (forwards : setting.forwardsArray term = true) :
    ∃ method argument origin element items, term = .staticCall method [argument] ∧
      setting.evaluate [1] argument = .ok (.array origin element items) ∧
      setting.evaluate [] term =
        .ok (.text (.made (setting.place []) 0) (concatenation items)) := by
  unfold forwardsArray at forwards
  split at forwards
  · cases forwards
  · rename_i method argument _
    by_cases concat : method.owner = .string ∧ method.name = concatName
    · rw [if_pos concat] at forwards
      split at forwards
      · rename_i origin element items evaluated
        refine ⟨method, argument, origin, element, items, rfl, evaluated, ?_⟩
        simp only [evaluate, evaluateAll, evaluated, root.body_eq concatenates rfl concat]
        rfl
      · cases forwards
    · rw [if_neg concat] at forwards
      cases forwards
  · cases forwards

/-- The operands of a tree give what the tree contributes to a run that calls its places by the
names of theirs. -/
theorem contribution_moved {term : Term} {sites targets : List (List Nat)}
    (contributes : Contributes term sites) (length : targets.length = sites.length)
    (setting : Setting) (spare : List Nat) :
    { setting with place := setting.place ∘ relocate spare (sites.zip targets) }.contribution term =
      (do
        let values ← setting.evaluateEach ((concatOperands term).zip targets)
        return concatenation values) := by
  have firsts : (sites.zip targets).map Prod.fst = sites := List.map_fst_zip length.ge
  rw [contributes.contribution, evaluateEach_of_agrees _ length.symm]
  intro move member
  refine ⟨rfl, rfl, ?_⟩
  intro path
  change setting.place (relocate spare (sites.zip targets) (path ++ move.1)) = _
  rw [relocate_mem (by rw [firsts]; exact contributes.apart) member]

end Setting

namespace Scope

theorem concatTerm_of_term {scope : Scope} {left right : Expr} {first second tree : Term}
    (builtLeft : scope.term left = .ok first) (builtRight : scope.term right = .ok second)
    (textual : (first.type.isString || second.type.isString) = true)
    (built : scope.term (.binary "+" left right) = .ok tree) :
    scope.catalog.concatTerm first second = .ok tree := by
  rwa [term_sum builtLeft builtRight textual] at built

/-- The value of `left + right` where one of the two is a text: first the left operand and then
the right one contribute their texts, and the first fault among them is the fault of the whole.
Only an operand that forwards an array contributes another text than that of its own value. The
run has names of its own for the places in either operand, all of them different. -/
theorem evaluate_concatenation {surroundings : Surroundings} {scope : Scope}
    (standard : scope.catalog = Catalog.standard surroundings) {left right : Expr}
    {first second tree : Term} (builtLeft : scope.term left = .ok first)
    (builtRight : scope.term right = .ok second)
    (textual : (first.type.isString || second.type.isString) = true)
    (built : scope.term (.binary "+" left right) = .ok tree) (setting : Setting)
    (sameCatalog : setting.catalog = scope.catalog) (site : List Nat) :
    ∃ ofLeft ofRight : List Nat → List Nat,
      Function.Injective ofLeft ∧ Function.Injective ofRight ∧
      (∀ path other, ofLeft path ≠ ofRight other) ∧
      setting.evaluate site tree = (do
        let before ← { setting with place := setting.place ∘ ofLeft }.contribution first
        let after ← { setting with place := setting.place ∘ ofRight }.contribution second
        return .text (.made (setting.place site) 0) (before ++ after)) := by
  have concatenates := standard_concatenates surroundings
  rw [← standard] at concatenates
  have rootLeft := term_root left builtLeft
  have rootRight := term_root right builtRight
  have several := two_le_operands (rootLeft.concatOperands_ne_nil concatenates)
    (rootRight.concatOperands_ne_nil concatenates)
  obtain ⟨sitesLeft, contributesLeft⟩ := Setting.contributes_of_root concatenates rootLeft
  obtain ⟨sitesRight, contributesRight⟩ := Setting.contributes_of_root concatenates rootRight
  have concatenated := concatTerm_of_term builtLeft builtRight textual built
  rw [← sameCatalog] at concatenates concatenated
  obtain ⟨targets, length, apart, evaluated⟩ :=
    Setting.evaluate_concatTerm concatenates several concatenated site
  obtain ⟨targetsLeft, targetsRight, rfl, lengthLeft, lengthRight⟩ :
      ∃ targetsLeft targetsRight, targets = targetsLeft ++ targetsRight ∧
        targetsLeft.length = (concatOperands first).length ∧
        targetsRight.length = (concatOperands second).length := by
    rw [List.length_append] at length
    refine ⟨_, _, (List.take_append_drop (concatOperands first).length targets).symm, ?_, ?_⟩
    · rw [List.length_take]
      omega
    · rw [List.length_drop]
      omega
  rw [List.zip_append lengthLeft.symm, Setting.evaluateEach_append] at evaluated
  rw [← contributesLeft.length] at lengthLeft
  rw [← contributesRight.length] at lengthRight
  have endsLeft : (sitesLeft.zip targetsLeft).map Prod.snd = targetsLeft :=
    List.map_snd_zip lengthLeft.le
  have endsRight : (sitesRight.zip targetsRight).map Prod.snd = targetsRight :=
    List.map_snd_zip lengthRight.le
  have room := Apart.pairwise_split apart
  have halves := List.pairwise_append.mp room
  refine ⟨relocate (0 :: 0 :: site) (sitesLeft.zip targetsLeft),
    relocate (1 :: 0 :: site) (sitesRight.zip targetsRight),
    relocate_injective ?_, relocate_injective ?_, relocate_ne ?_, ?_⟩
  · rw [endsLeft]
    exact halves.1
  · rw [endsRight]
    exact halves.2.1
  · rw [endsLeft, endsRight]
    exact room
  · rw [evaluated, Setting.contribution_moved contributesLeft lengthLeft,
      Setting.contribution_moved contributesRight lengthRight]
    cases setting.evaluateEach ((concatOperands first).zip targetsLeft) with
    | error fault => rfl
    | ok values =>
        cases setting.evaluateEach ((concatOperands second).zip targetsRight) with
        | error fault => rfl
        | ok others =>
            have joined := concatenation_append values others
            exact congrArg (fun text => Except.ok (Value.text (.made (setting.place site) 0) text))
              joined

def quiet : Surroundings :=
  { now := ⟨0, 0, 0, .universal⟩, fresh := fun _ => .zero }

def onLibrary : Scope :=
  { catalog := .standard quiet }

def onLibrarySetting : Setting :=
  { catalog := onLibrary.catalog }

def joinedArray : Expr :=
  .call (.member (.reference "String") (.reference "Concat"))
    [.literal (.array (.given 0) .string [.text (.given 1) "a", .text (.given 2) "b"])]

def suffix : Expr :=
  .literal (.text (.given 3) "x")

def outcomeText (outcome : Outcome Value) : Option String :=
  (Value.toText <$> outcome).toOption

theorem joinedArray_differs :
    ∃ first tree, onLibrary.term joinedArray = .ok first ∧ first.type.isString = true ∧
      onLibrary.term (.binary "+" joinedArray suffix) = .ok tree ∧
      outcomeText (onLibrarySetting.evaluate [] first) = some "ab" ∧
      outcomeText (onLibrarySetting.evaluate [] tree) = some "System.Arrayx" := by
  have checked : (onLibrary.term joinedArray).toOption.any (fun first =>
      (onLibrary.term (.binary "+" joinedArray suffix)).toOption.any fun tree =>
        first.type.isString ∧ outcomeText (onLibrarySetting.evaluate [] first) = some "ab" ∧
          outcomeText (onLibrarySetting.evaluate [] tree) = some "System.Arrayx") = true := by
    decide +kernel
  obtain ⟨first, builtFirst, checked⟩ := ok_of_any checked
  obtain ⟨tree, builtTree, checked⟩ := ok_of_any checked
  obtain ⟨textual, alone, within⟩ := of_decide_eq_true checked
  exact ⟨first, tree, builtFirst, textual, builtTree, alone, within⟩

/-- The array is joined by itself, but within the longer concatenation it is a single operand. -/
theorem evaluate_concatenation_array :
    ∃ first tree, ∃ ofLeft ofRight : List Nat → List Nat,
      outcomeText (onLibrarySetting.evaluate [] first) = some "ab" ∧
      outcomeText (onLibrarySetting.evaluate [] tree) = some "System.Arrayx" ∧
      onLibrarySetting.evaluate [] tree = (do
        let before ← { onLibrarySetting with place := ofLeft }.contribution first
        let after ← { onLibrarySetting with place := ofRight }.contribution
          (.ofValue (.text (.given 3) "x"))
        return .text (.made [] 0) (before ++ after)) := by
  obtain ⟨first, tree, builtFirst, textual, builtTree, alone, within⟩ := joinedArray_differs
  have builtSuffix : onLibrary.term suffix = .ok (.ofValue (.text (.given 3) "x")) := by
    unfold suffix Scope.term
    rfl
  obtain ⟨ofLeft, ofRight, _, _, _, evaluated⟩ := evaluate_concatenation
    (show onLibrary.catalog = .standard quiet by simp only [onLibrary]) builtFirst builtSuffix
    (by rw [textual]; rfl) builtTree onLibrarySetting (by simp only [onLibrarySetting]) []
  exact ⟨first, tree, ofLeft, ofRight, alone, within, evaluated⟩

end Scope

end Formula
