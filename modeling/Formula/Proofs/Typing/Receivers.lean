import Formula.Proofs.Typing.Supply

/-!
Names with the receiver written out. A name that a scope resolves to a member or a method of its
receiver can be replaced by that member or method of a literal, and then the receiver is not needed
any more: the tree is the same, with a constant in the places of the receiver.
-/

namespace Formula

open Term (Supplied SuppliedTarget)

/-- A type, or trees of which the other has a value in the places of the receiver. -/
inductive Symbol.Supplied (value : Value) : Symbol → Symbol → Prop
  | type (type : DataType) : Supplied value (.type type) (.type type)
  | value {term other : Term} (supplied : term.Supplied value other) :
      Supplied value (.value term) (.value other)

theorem Symbol.Supplied.split {value : Value} {symbol other : Symbol}
    (alike : symbol.Supplied value other) :
    ∃ owner isStatic target read, symbol.split = (owner, isStatic, target) ∧
      other.split = (owner, isStatic, read) ∧ SuppliedTarget value target read := by
  cases alike with
  | type owner => exact ⟨owner, true, none, none, rfl, rfl, .none⟩
  | @value term other supplied =>
      refine ⟨term.type, false, some term, some other, rfl, ?_, .built supplied⟩
      change (other.type, false, some other) = _
      rw [supplied.type_eq]

theorem Term.type_readMember (target : Option Term) (member : Member) :
    (readMember target member).type = member.type ∨
      (readMember target member).type = .int32 := by
  unfold readMember
  split
  · exact .inl rfl
  · split
    · exact .inr rfl
    · exact .inl rfl

namespace Scope

def unbound (scope : Scope) : Scope :=
  { scope with receiver := none }

/-- Whether a bare name is that of a member of the receiver. -/
def namesOwn (scope : Scope) (name : String) : Bool :=
  (scope.typeNamed? name).isNone &&
    match scope.bindMember none name true with
    | .ok (some member) => !member.isStatic
    | _ => false

def callsOwn (scope : Scope) (name : String) (arguments : List DataType) : Bool :=
  match scope.symbol? name, scope.bindMethod none name arguments true with
  | .ok none, .ok (some method) => !method.isStatic
  | _, _ => false

def ofLiteral (value : Value) (name : String) : Expr :=
  .member (.literal value) (.reference name)

mutual

/-- The expression with a literal as the target of all that it names of the receiver. -/
def addressed (scope : Scope) (value : Value) : Expr → Expr
  | .reference name => if scope.namesOwn name then ofLiteral value name else .reference name
  | .literal content => .literal content
  | .binary token left right =>
      .binary token (addressed scope value left) (addressed scope value right)
  | .unary operator token operand => .unary operator token (addressed scope value operand)
  | .cast typeName operand => .cast typeName (addressed scope value operand)
  | .call callee arguments =>
      let types := match scope.terms arguments with
        | .ok terms => terms.map Term.type
        | .error _ => []
      let target := match callee with
        | .reference name =>
            if scope.namesOwn name || scope.callsOwn name types then ofLiteral value name
            else .reference name
        | callee => addressed scope value callee
      .call target (addressedAll scope value arguments)
  | .index target arguments =>
      .index (addressed scope value target) (addressedAll scope value arguments)
  -- the name after a point is looked up on what stands before it
  | .member target member => .member (addressed scope value target) member
  | .conditional test whenTrue whenFalse =>
      .conditional (addressed scope value test) (addressed scope value whenTrue)
        (addressed scope value whenFalse)
  | .parenthesized inner => .parenthesized (addressed scope value inner)

def addressedAll (scope : Scope) (value : Value) : List Expr → List Expr
  | [] => []
  | expr :: exprs => addressed scope value expr :: addressedAll scope value exprs

end

def StandsFor (scope : Scope) (value : Value) : Prop :=
  ∃ name, scope.receiver = some (.parameter name value.type)

variable {scope : Scope} {value : Value}

theorem typeNamed?_unbound (name : String) :
    scope.unbound.typeNamed? name = scope.typeNamed? name :=
  rfl

theorem bindMember_some (owner : DataType) (name : String) (isStatic : Bool) :
    scope.bindMember (some owner) name isStatic = scope.memberOf (some owner) name isStatic := by
  unfold bindMember receiverType?
  rfl

theorem bindMember_bound (bound : scope.StandsFor value) {name : String}
    {found : Option Member} (asked : scope.bindMember none name true = .ok found) :
    (∃ member, found = some member ∧ member.isStatic = false ∧
        scope.memberOf (some value.type) name false = .ok (some member)) ∨
      scope.memberOf (some value.type) name false = .ok none ∧
        scope.unbound.bindMember none name true = .ok found ∧
        ∀ member, found = some member → member.isStatic = true := by
  obtain ⟨receiver, isReceiver⟩ := bound
  unfold bindMember receiverType? at asked
  simp only [isReceiver, Option.isNone_none, Bool.and_self, if_true, Option.map_some,
    bind_eq_ok] at asked
  obtain ⟨own, isOwn, rest⟩ := asked
  cases own with
  | some member =>
      cases rest
      obtain ⟨type, _, declares, _⟩ := declares_of_memberOf isOwn
      exact .inl ⟨member, rfl, declares.1, isOwn⟩
  | none =>
      refine .inr ⟨isOwn, rest, ?_⟩
      rintro member rfl
      obtain ⟨type, _, declares, _⟩ := declares_of_memberOf rest
      exact declares.1

theorem bindMethod_bound (bound : scope.StandsFor value) {name : String}
    {arguments : List DataType} {method : Method}
    (asked : scope.bindMethod none name arguments true = .ok (some method)) :
    method.isStatic = false ∧
        scope.methodOf (some value.type) name arguments false = .ok (some method) ∨
      method.isStatic = true ∧
        scope.unbound.bindMethod none name arguments true = .ok (some method) := by
  obtain ⟨receiver, isReceiver⟩ := bound
  rcases bindMethod_none asked with ⟨target, isTarget, selected⟩ | selected
  · rw [isReceiver] at isTarget
    cases isTarget
    obtain ⟨type, _, declares⟩ := declares_of_methodOf selected
    exact .inl ⟨declares.1, selected⟩
  · obtain ⟨type, _, declares⟩ := declares_of_methodOf selected
    exact .inr ⟨declares.1, selected⟩

theorem receiverFor_bound (bound : scope.StandsFor value) (name : String) :
    ∃ target, scope.receiverFor false name = .ok target ∧
      SuppliedTarget value target (some (.ofValue value)) := by
  obtain ⟨receiver, isReceiver⟩ := bound
  unfold receiverFor
  rw [isReceiver]
  exact ⟨_, rfl, .receiver receiver value.type⟩

theorem symbol?_bound (bound : scope.StandsFor value) {name : String} {found : Option Symbol}
    (isFound : scope.symbol? name = .ok found) :
    (scope.namesOwn name = true ∧ ∃ member target,
        found = some (.value (.readMember target member)) ∧
        scope.memberOf (some value.type) name false = .ok (some member) ∧
        SuppliedTarget value target (some (.ofValue value))) ∨
      scope.namesOwn name = false ∧ ∃ other, scope.unbound.symbol? name = .ok other ∧
        Option.Rel (Symbol.Supplied value) found other ∧
        (found = none → scope.memberOf (some value.type) name false = .ok none) := by
  unfold symbol? at isFound ⊢
  unfold namesOwn
  rw [typeNamed?_unbound]
  cases named : scope.typeNamed? name with
  | some type =>
      rw [named] at isFound
      cases isFound
      refine .inr ⟨rfl, _, rfl, .some (.type type), fun impossible => ?_⟩
      cases impossible
  | none =>
      rw [named] at isFound
      simp only [bind_eq_ok] at isFound
      obtain ⟨member?, asked, isFound⟩ := isFound
      rcases bindMember_bound bound asked with ⟨member, rfl, instanceOf, own⟩ |
        ⟨notOwn, outside, static⟩
      · obtain ⟨target, isTarget, read⟩ := receiverFor_bound bound name
        dsimp only at isFound
        rw [instanceOf, isTarget] at isFound
        cases isFound
        refine .inl ⟨?_, member, target, rfl, own, read⟩
        simp only [asked, instanceOf]
        rfl
      · cases member? with
        | none =>
            cases isFound
            refine .inr ⟨by simp only [asked]; rfl, none, ?_, .none, fun _ => notOwn⟩
            rw [outside]
            rfl
        | some member =>
            have isStatic := static member rfl
            dsimp only at isFound
            rw [isStatic] at isFound
            cases isFound
            refine .inr ⟨by simp only [asked, isStatic]; rfl,
              some (.value (.staticMember member)), ?_, .some (.value (.staticMember member)),
              fun impossible => by cases impossible⟩
            rw [outside]
            change (scope.unbound.receiverFor member.isStatic name >>= _) = _
            rw [isStatic]
            rfl

theorem memberTerm_supplied {symbol other : Symbol} (alike : symbol.Supplied value other)
    (name : String) :
    Follows (Supplied value) (scope.memberTerm symbol name)
      (scope.unbound.memberTerm other name) := by
  obtain ⟨owner, isStatic, target, read, isSymbol, isOther, reads⟩ := alike.split
  unfold memberTerm
  rw [isSymbol, isOther]
  refine .bind_same fun found => ?_
  cases found with
  | none => exact .error
  | some member => exact .ok (reads.readMember member)

theorem finishCall_supplied {target other : Option Term}
    (read : SuppliedTarget value target other) (method : Method) {arguments others : List Term}
    (passed : List.Forall₂ (Supplied value) arguments others) :
    Follows (Supplied value) (scope.finishCall target method arguments)
      (scope.unbound.finishCall other method others) := by
  unfold finishCall
  refine .bind (Catalog.adaptArguments_supplied method.parameters passed) fun all rest same => ?_
  exact .ok (read.callMethod method same)

theorem invoke_supplied (callee text : String) {function other : Term}
    {arguments others : List Term} (supplied : Supplied value function other)
    (passed : List.Forall₂ (Supplied value) arguments others) :
    Follows (Supplied value) (scope.invoke callee function arguments)
      (scope.unbound.invoke text other others) := by
  unfold invoke
  rw [supplied.type_eq, Term.types_supplied passed]
  refine .bind_same fun found => ?_
  cases found with
  | none => exact .error
  | some method => exact finishCall_supplied (.built supplied) method passed

theorem callOn_supplied (callee text : String) {symbol other : Symbol}
    (alike : symbol.Supplied value other) (name : String) {arguments others : List Term}
    (passed : List.Forall₂ (Supplied value) arguments others) :
    Follows (Supplied value) (scope.callOn callee symbol name arguments)
      (scope.unbound.callOn text other name others) := by
  obtain ⟨owner, isStatic, target, read, isSymbol, isOther, reads⟩ := alike.split
  unfold callOn
  rw [isSymbol, isOther]
  refine .bind_same fun found => ?_
  cases found with
  | some member =>
      dsimp only
      split
      · rename_i delegates
        change Follows _ _ (if scope.catalog.isDelegate member.type then _ else _)
        rw [if_pos delegates]
        exact invoke_supplied callee text (reads.readMember member) passed
      · exact .error
  | none =>
      rw [Term.types_supplied passed]
      refine .bind_same fun method? => ?_
      cases method? with
      | none => exact .error
      | some method => exact finishCall_supplied reads method passed

theorem callNamed_supplied (bound : scope.StandsFor value) {name : String}
    {arguments others : List Term} (notMember : scope.namesOwn name = false)
    (notMethod : scope.callsOwn name (arguments.map Term.type) = false)
    (passed : List.Forall₂ (Supplied value) arguments others) :
    Follows (Supplied value) (scope.callNamed name arguments)
      (scope.unbound.callNamed name others) := by
  intro term found
  unfold callNamed at found ⊢
  rw [bind_eq_ok] at found
  obtain ⟨symbol?, isSymbol, found⟩ := found
  rcases symbol?_bound bound isSymbol with ⟨own, _⟩ | ⟨_, other, isOther, alike, _⟩
  · rw [own] at notMember
    cases notMember
  · rw [isOther]
    cases alike with
    | some alike =>
        cases alike with
        | type type => cases found
        | value supplied =>
            dsimp only at found
            split at found
            · rename_i delegates
              have called := invoke_supplied name name supplied passed term found
              rw [← supplied.type_eq] at delegates
              change ∃ other, (if scope.catalog.isDelegate _ then _ else _) = _ ∧ _
              rwa [if_pos delegates]
            · cases found
    | none =>
        rw [bind_eq_ok] at found
        obtain ⟨method?, asked, found⟩ := found
        cases method? with
        | none => cases found
        | some method =>
            rcases bindMethod_bound bound asked with ⟨instanceOf, _⟩ | ⟨isStatic, outside⟩
            · unfold callsOwn at notMethod
              simp only [isSymbol, asked, instanceOf] at notMethod
              cases notMethod
            · dsimp only at found
              rw [isStatic] at found
              rw [← Term.types_supplied passed] at outside
              change ∃ other, (scope.unbound.bindMethod none name (others.map Term.type) true >>=
                _) = _ ∧ _
              rw [outside]
              change ∃ other, (scope.unbound.receiverFor method.isStatic name >>= _) = _ ∧ _
              rw [isStatic]
              exact finishCall_supplied .none method passed term found

theorem callNamed_own (noDelegate : scope.catalog.isDelegate .int32 = false)
    (bound : scope.StandsFor value) (text : String) {name : String} {arguments others : List Term}
    (own : (scope.namesOwn name || scope.callsOwn name (arguments.map Term.type)) = true)
    (passed : List.Forall₂ (Supplied value) arguments others) :
    Follows (Supplied value) (scope.callNamed name arguments)
      (scope.unbound.callOn text (.value (.ofValue value)) name others) := by
  intro term found
  unfold callNamed at found
  unfold callOn
  rw [bind_eq_ok] at found
  obtain ⟨symbol?, isSymbol, found⟩ := found
  change ∃ other, (scope.unbound.bindMember (some value.type) name false >>= _) = _ ∧ _
  rw [bindMember_some]
  rcases symbol?_bound bound isSymbol with ⟨_, member, target, rfl, isMember, read⟩ |
    ⟨notMember, other, _, alike, noMember⟩
  · have delegates : scope.catalog.isDelegate (Term.readMember target member).type = true := by
      by_contra refused
      dsimp only at found
      rw [if_neg refused] at found
      cases found
    -- only the length of an array is of another type than its member
    have sameType : (Term.readMember target member).type = member.type := by
      rcases Term.type_readMember target member with same | length
      · exact same
      · rw [length, noDelegate] at delegates
        cases delegates
    dsimp only at found
    rw [if_pos delegates] at found
    have outside : scope.unbound.memberOf (some value.type) name false = .ok (some member) :=
      isMember
    rw [outside]
    change ∃ other, (if scope.catalog.isDelegate member.type then _ else _) = _ ∧ _
    rw [if_pos (sameType ▸ delegates)]
    exact invoke_supplied name text (read.readMember member) passed term found
  · have called : scope.callsOwn name (arguments.map Term.type) = true := by
      rwa [notMember, Bool.false_or] at own
    unfold callsOwn at called
    split at called
    · rename_i method isNone asked
      rw [isNone] at isSymbol
      cases isSymbol
      have outside : scope.unbound.memberOf (some value.type) name false = .ok none :=
        noMember rfl
      rw [outside]
      rw [asked] at found
      rcases bindMethod_bound bound asked with ⟨instanceOf, selected⟩ | ⟨isStatic, _⟩
      · obtain ⟨target, isTarget, read⟩ := receiverFor_bound bound name
        change (scope.receiverFor method.isStatic name >>= _) = _ at found
        rw [instanceOf, isTarget] at found
        have outsideMethod : scope.unbound.bindMethod (some value.type) name
            (others.map Term.type) false = .ok (some method) := by
          rw [bindMethod_some, Term.types_supplied passed]
          exact selected
        change ∃ other, (scope.unbound.bindMethod (some value.type) name (others.map Term.type)
          false >>= _) = _ ∧ _
        rw [outsideMethod]
        exact finishCall_supplied read method passed term found
      · rw [isStatic] at called
        cases called
    · cases called

theorem term_ofLiteral (name : String) :
    scope.unbound.term (ofLiteral value name) =
      scope.unbound.memberTerm (.value (.ofValue value)) name := by
  unfold ofLiteral
  rw [term_member]
  rfl

theorem term_ofLiteral_own {name : String} {member : Member}
    (own : scope.memberOf (some value.type) name false = .ok (some member)) :
    scope.unbound.term (ofLiteral value name) =
      .ok (.readMember (some (.ofValue value)) member) := by
  rw [term_ofLiteral]
  unfold memberTerm
  change (scope.unbound.bindMember (some value.type) name false >>= _) = _
  rw [bindMember_some, show scope.unbound.memberOf (some value.type) name false = _ from own]
  rfl

theorem term_call_ofLiteral (name : String) (arguments : List Expr) :
    scope.unbound.term (.call (ofLiteral value name) arguments) = (do
      let arguments ← scope.unbound.terms arguments
      scope.unbound.callOn (ofLiteral value name).toText (.value (.ofValue value)) name
        arguments) := by
  unfold ofLiteral
  rw [term_call_member]
  rfl

theorem targetSymbol_addressed (bound : scope.StandsFor value) {target : Expr}
    (follows : Follows (Supplied value) (scope.term target)
      (scope.unbound.term (scope.addressed value target))) :
    Follows (Symbol.Supplied value) (scope.targetSymbol target)
      (scope.unbound.targetSymbol (scope.addressed value target)) := by
  cases target with
  | reference name =>
      intro symbol found
      unfold targetSymbol Scope.symbol at found
      rw [bind_eq_ok] at found
      obtain ⟨symbol?, isSymbol, found⟩ := found
      unfold addressed
      rcases symbol?_bound bound isSymbol with ⟨own, member, target, rfl, isMember, read⟩ |
        ⟨other, named, isOther, alike, _⟩
      · cases found
        rw [if_pos own]
        refine ⟨_, ?_, .value (read.readMember member)⟩
        change (Symbol.value <$> scope.unbound.term (ofLiteral value name)) = _
        rw [term_ofLiteral_own isMember]
        rfl
      · rw [if_neg (ne_true_of_eq_false other)]
        cases alike with
        | none => cases found
        | @some _ replaced alike =>
            cases found
            refine ⟨replaced, ?_, alike⟩
            change scope.unbound.symbol name = _
            unfold Scope.symbol
            rw [isOther]
            rfl
  | _ =>
      unfold addressed at follows ⊢
      exact follows.map fun _ _ supplied => .value supplied

theorem referenceTerm_addressed (bound : scope.StandsFor value) (name : String) :
    Follows (Supplied value) (scope.term (.reference name))
      (scope.unbound.term (scope.addressed value (.reference name))) := by
  intro term found
  unfold Scope.term referenceTerm Scope.symbol at found
  simp only [bind_eq_ok] at found
  obtain ⟨symbol, ⟨symbol?, isSymbol, isFound⟩, found⟩ := found
  unfold addressed
  rcases symbol?_bound bound isSymbol with ⟨own, member, target, rfl, isMember, read⟩ |
    ⟨other, named, isOther, alike, _⟩
  · cases isFound
    cases found
    rw [if_pos own]
    exact ⟨_, term_ofLiteral_own isMember, read.readMember member⟩
  · rw [if_neg (ne_true_of_eq_false other)]
    cases alike with
    | none => cases isFound
    | some alike =>
        cases isFound
        cases alike with
        | type type => cases found
        | @value _ replaced supplied =>
            cases found
            refine ⟨replaced, ?_, supplied⟩
            unfold Scope.term referenceTerm Scope.symbol
            rw [isOther]
            rfl

mutual

/-- With the receiver written out an expression builds without it. -/
theorem term_addressed (noDelegate : scope.catalog.isDelegate .int32 = false)
    (bound : scope.StandsFor value) : (expr : Expr) →
    Follows (Supplied value) (scope.term expr) (scope.unbound.term (scope.addressed value expr))
  | .reference name => referenceTerm_addressed bound name
  | .literal content => by
      unfold addressed Scope.term
      exact .ok (.constant content content.type)
  | .binary token left right => by
      unfold addressed Scope.term
      refine .bind (term_addressed noDelegate bound left) fun first other one => ?_
      refine .bind (term_addressed noDelegate bound right) fun second another two => ?_
      cases BinaryOperator.ofToken? token with
      | none => exact .error
      | some operator => exact Catalog.binaryTerm_supplied operator one two
  | .unary operator token operand => by
      unfold addressed Scope.term
      refine .bind (term_addressed noDelegate bound operand) fun term other inner => ?_
      exact Catalog.unaryTerm_supplied operator token inner
  | .cast typeName operand => by
      unfold addressed Scope.term
      refine .bind (term_addressed noDelegate bound operand) fun term other inner => ?_
      rw [typeNamed?_unbound]
      cases scope.typeNamed? typeName with
      | none => exact .error
      | some target => exact Catalog.castTerm_supplied typeName target inner
  | .call callee arguments => by
      have passed := terms_addressed noDelegate bound arguments
      cases callee with
      | reference name =>
          intro term found
          unfold Scope.term at found
          rw [bind_eq_ok] at found
          obtain ⟨built, isBuilt, found⟩ := found
          obtain ⟨others, areOthers, supplied⟩ := passed built isBuilt
          unfold addressed
          simp only [isBuilt]
          by_cases own : (scope.namesOwn name ||
              scope.callsOwn name (built.map Term.type)) = true
          · rw [if_pos own, term_call_ofLiteral, areOthers]
            exact callNamed_own noDelegate bound _ own supplied term found
          · rw [if_neg own]
            rw [Bool.not_eq_true, Bool.or_eq_false_iff] at own
            unfold Scope.term
            rw [areOthers]
            exact callNamed_supplied bound own.1 own.2 supplied term found
      | member target member =>
          have named := targetSymbol_addressed bound (term_addressed noDelegate bound target)
          unfold addressed
          simp only
          conv => arg 3; unfold addressed
          rw [term_call_member, term_call_member]
          refine .bind passed fun built others supplied => ?_
          refine .bind named fun symbol other alike => ?_
          cases member with
          | reference name => exact callOn_supplied _ _ alike name supplied
          | _ => exact .error
      | _ =>
          intro term impossible
          unfold Scope.term at impossible
          rw [bind_eq_ok] at impossible
          obtain ⟨_, _, impossible⟩ := impossible
          cases impossible
  | .index target arguments => by
      unfold addressed Scope.term
      refine .bind (term_addressed noDelegate bound target) fun term other read => ?_
      refine .bind (terms_addressed noDelegate bound arguments) fun built others passed => ?_
      exact Catalog.indexTerm_supplied read passed
  | .member target member => by
      have named := targetSymbol_addressed bound (term_addressed noDelegate bound target)
      unfold addressed
      rw [term_member, term_member]
      refine .bind named fun symbol other alike => ?_
      cases member with
      | reference name => exact memberTerm_supplied alike name
      | _ => exact .error
  | .conditional test whenTrue whenFalse => by
      unfold addressed Scope.term
      refine .bind (term_addressed noDelegate bound test) fun _ _ tested => ?_
      refine .bind (term_addressed noDelegate bound whenTrue) fun _ _ first => ?_
      refine .bind (term_addressed noDelegate bound whenFalse) fun _ _ second => ?_
      exact Catalog.conditionalTerm_supplied tested first second
  | .parenthesized inner => by
      unfold addressed Scope.term
      exact term_addressed noDelegate bound inner

theorem terms_addressed (noDelegate : scope.catalog.isDelegate .int32 = false)
    (bound : scope.StandsFor value) : (exprs : List Expr) →
    Follows (List.Forall₂ (Supplied value)) (scope.terms exprs)
      (scope.unbound.terms (scope.addressedAll value exprs))
  | [] => by
      unfold addressedAll Scope.terms
      exact .ok .nil
  | expr :: exprs => by
      unfold addressedAll Scope.terms
      refine .bind (term_addressed noDelegate bound expr) fun _ _ first => ?_
      refine .bind (terms_addressed noDelegate bound exprs) fun _ _ rest => ?_
      exact .ok (.cons first rest)

end

end Scope

end Formula
