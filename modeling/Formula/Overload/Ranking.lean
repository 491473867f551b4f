import Formula.Overload.Applicability

/-!
Which of two applicable candidates is the more specific one, and the choice of the one that
beats all others. The normal form beats the expanded one. Else every argument votes for the
nearer parameter type, and one argument for which neither is nearer leaves the pair undecided.
Without a vote the longer list of parameters wins, and between equal lists the candidate from
further down the hierarchy.
-/

namespace Formula

inductive Preference where
  | first
  | second
  | neither
deriving DecidableEq

namespace Preference

def ofNats (first second : Nat) : Preference :=
  if second < first then .first else if first < second then .second else .neither

end Preference

/-- What can be called: a list of parameters and the type that declares it. -/
structure Signature where
  parameters : List Parameter
  owner : TypeId

def Method.signature (method : Method) : Signature :=
  ⟨method.parameters, method.owner⟩

def Member.signature (member : Member) : Signature :=
  ⟨member.parameters, member.owner⟩

/-- A candidate that takes the arguments, with its place in the list of candidates. -/
structure Applicable where
  index : Nat
  signature : Signature
  form : CallForm

namespace Applicable

def typeAt (candidate : Applicable) (position : Nat) : DataType :=
  let parameters := candidate.signature.parameters
  let declared := (parameters[position]?.map Parameter.type).getD .object
  match candidate.form with
  | .normal => declared
  | .expanded element => if parameters.length - 1 ≤ position then element else declared

end Applicable

inductive Resolution where
  | chosen (index : Nat) (form : CallForm)
  | noMatch
  | ambiguous (indices : List Nat)
deriving DecidableEq

namespace Catalog

def isTableScalar (type : DataType) : Bool :=
  type.scalar?.any (· != .decimal)

def nearerType (catalog : Catalog) (first second argument : DataType) : Preference :=
  if first == second then .neither
  else if first == argument then .first
  else if second == argument then .second
  else
    let (firstWider, secondWider) :=
      if isTableScalar first && isTableScalar second then
        (second.widensTo first, first.widensTo second)
      else (catalog.isAssignable first second, catalog.isAssignable second first)
    match firstWider, secondWider with
    | true, false => .second
    | false, true => .first
    | _, _ => .neither

/-- The vote of one argument; `none` where it has no say. -/
def vote? (catalog : Catalog) (first second : Applicable) (position : Nat)
    (argument : DataType) : Option Preference :=
  if first.typeAt position == second.typeAt position then none
  else some (catalog.nearerType (first.typeAt position) (second.typeAt position) argument)

def compareParameters (catalog : Catalog) (first second : Applicable)
    (arguments : List DataType) : Preference :=
  match first.form.isExpanded, second.form.isExpanded with
  | true, false => .second
  | false, true => .first
  | _, _ =>
      let votes := arguments.zipIdx.filterMap fun (argument, position) =>
        catalog.vote? first second position argument
      if votes.contains .neither then .neither
      else
        match votes.contains .first, votes.contains .second with
        | true, false => .first
        | false, true => .second
        | true, true => .neither
        | false, false =>
            .ofNats first.signature.parameters.length second.signature.parameters.length

def compareCandidates (catalog : Catalog) (first second : Applicable)
    (arguments : List DataType) : Preference :=
  match catalog.compareParameters first second arguments with
  | .neither =>
      if parameterTypes first.signature.parameters ==
          parameterTypes second.signature.parameters then
        .ofNats (catalog.depth (.plain first.signature.owner))
          (catalog.depth (.plain second.signature.owner))
      else .neither
  | preference => preference

def applicable (catalog : Catalog) (candidates : List Signature)
    (arguments : List DataType) : List Applicable :=
  candidates.zipIdx.filterMap fun (signature, index) =>
    (catalog.applicableForm? signature.parameters arguments).map fun form =>
      ⟨index, signature, form⟩

def beats (catalog : Catalog) (arguments : List DataType) (first second : Applicable) :
    Bool :=
  catalog.compareCandidates first second arguments == .first

/-- The candidate left over when each in turn has met the best one before it. -/
def champion (catalog : Catalog) (arguments : List DataType) (first : Applicable)
    (rest : List Applicable) : Applicable :=
  rest.foldl (fun best candidate =>
    if catalog.beats arguments candidate best then candidate else best) first

def rivals (applicable : List Applicable) (candidate : Applicable) : List Applicable :=
  applicable.filter (·.index != candidate.index)

/-- The candidates that no other beats, or all of them where each is beaten. -/
def tied (catalog : Catalog) (arguments : List DataType) (applicable : List Applicable) :
    List Applicable :=
  let unbeaten := applicable.filter fun candidate =>
    !(rivals applicable candidate).any (catalog.beats arguments · candidate)
  if unbeaten.isEmpty then applicable else unbeaten

/-- Chooses the candidate that beats all others. One pass finds the only one that may, and a
second one makes sure of it. -/
def resolve (catalog : Catalog) (candidates : List Signature) (arguments : List DataType) :
    Resolution :=
  match catalog.applicable candidates arguments with
  | [] => .noMatch
  | [only] => .chosen only.index only.form
  | first :: rest =>
      let best := catalog.champion arguments first rest
      if (rivals (first :: rest) best).all (catalog.beats arguments best) then
        .chosen best.index best.form
      else .ambiguous ((catalog.tied arguments (first :: rest)).map Applicable.index)

end Catalog

end Formula
