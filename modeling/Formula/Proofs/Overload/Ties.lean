import Mathlib.Data.Fintype.Card
import Mathlib.Data.Set.Finite.Basic
import Formula.Proofs.Overload.Nearness
import Formula.Proofs.Overload.Selection

/-!
Where the hierarchy is graded, preference among the candidates that take the arguments is a strict
order. Then some candidate is unbeaten, and if only one is, it prevails; so a choice that stays
open is one between two candidates at least.
-/

namespace Formula

namespace Catalog

variable {catalog : Catalog} {candidates : List Signature} {arguments : List DataType}

/-- Wherever the two candidates are passed different types, those of the first one are nearer. -/
def AsNear (catalog : Catalog) (arguments : List DataType) (first second : Applicable) : Prop :=
  ∀ position argument, arguments[position]? = some argument →
    first.typeAt position = second.typeAt position ∨
      catalog.Nearer argument (first.typeAt position) (second.typeAt position)

def SameTypes (arguments : List DataType) (first second : Applicable) : Prop :=
  ∀ position argument, arguments[position]? = some argument →
    first.typeAt position = second.typeAt position

/-- What decides between candidates that are passed the same types. -/
def Ahead (catalog : Catalog) (first second : Signature) : Prop :=
  second.parameters.length < first.parameters.length ∨
    (parameterTypes first.parameters = parameterTypes second.parameters ∧
      catalog.depth (.plain second.owner) < catalog.depth (.plain first.owner))

inductive Outranks (catalog : Catalog) (arguments : List DataType) (first second : Applicable) :
    Prop
  | form (isNormal : first.form.isExpanded = false) (isExpanded : second.form.isExpanded = true)
  | types (sameForm : first.form.isExpanded = second.form.isExpanded)
      (near : catalog.AsNear arguments first second)
      (ahead : SameTypes arguments first second → catalog.Ahead first.signature second.signature)

theorem length_of_parameterTypes {one other : List Parameter}
    (same : parameterTypes one = parameterTypes other) : one.length = other.length := by
  have lengths := congrArg List.length same
  unfold parameterTypes at lengths
  rwa [List.length_map, List.length_map] at lengths

theorem Ahead.trans {first second third : Signature} (lower : catalog.Ahead first second)
    (upper : catalog.Ahead second third) : catalog.Ahead first third := by
  rcases lower with longer | ⟨same, deeper⟩
  · rcases upper with further | ⟨same, _⟩
    · exact .inl (further.trans longer)
    · rw [length_of_parameterTypes same] at longer
      exact .inl longer
  · rcases upper with longer | ⟨further, deeperStill⟩
    · rw [← length_of_parameterTypes same] at longer
      exact .inl longer
    · exact .inr ⟨same.trans further, deeperStill.trans deeper⟩

/-- Two candidates at least, each of which takes the arguments and is beaten by no other one that
does. -/
structure IsTie (catalog : Catalog) (candidates : List Signature) (arguments : List DataType)
    (indices : List Nat) : Prop where
  several : 2 ≤ indices.length
  distinct : indices.Nodup
  unbeaten : ∀ index ∈ indices, ∃ candidate, candidate.index = index ∧
    catalog.Applies candidates arguments candidate ∧
    catalog.Unbeaten candidates arguments candidate

theorem mem_votes {first second : Applicable} {preference : Preference} :
    preference ∈ catalog.votes first second arguments ↔
      ∃ position argument, arguments[position]? = some argument ∧
        first.typeAt position ≠ second.typeAt position ∧
        catalog.nearerType (first.typeAt position) (second.typeAt position) argument =
          preference := by
  unfold votes vote?
  rw [List.mem_filterMap]
  constructor
  · rintro ⟨⟨argument, position⟩, member, votes⟩
    refine ⟨position, argument, List.mk_mem_zipIdx_iff_getElem?.mp member, ?_⟩
    by_cases same : first.typeAt position = second.typeAt position
    · simp only [same, beq_self_eq_true, if_true, reduceCtorEq] at votes
    · simp only [beq_iff_eq, same, if_false, Option.some.injEq] at votes
      exact ⟨same, votes⟩
  · rintro ⟨position, argument, found, different, nearer⟩
    refine ⟨(argument, position), List.mk_mem_zipIdx_iff_getElem?.mpr found, ?_⟩
    simp only [beq_iff_eq, different, if_false, nearer]

theorem votes_eq_nil_iff {first second : Applicable} :
    catalog.votes first second arguments = [] ↔ SameTypes arguments first second := by
  rw [List.eq_nil_iff_forall_not_mem]
  constructor
  · intro nobody position argument found
    by_contra different
    exact nobody _ (mem_votes.mpr ⟨position, argument, found, different, rfl⟩)
  · intro same preference member
    obtain ⟨position, argument, found, different, _⟩ := mem_votes.mp member
    exact different (same position argument found)

theorem votes_first_iff {first second : Applicable} :
    (∀ vote ∈ catalog.votes first second arguments, vote = .first) ↔
      catalog.AsNear arguments first second := by
  constructor
  · intro all position argument found
    by_cases same : first.typeAt position = second.typeAt position
    · exact .inl same
    · exact .inr (all _ (mem_votes.mpr ⟨position, argument, found, same, rfl⟩))
  · intro near vote member
    obtain ⟨position, argument, found, different, rfl⟩ := mem_votes.mp member
    rcases near position argument found with same | nearer
    · exact absurd same different
    · exact nearer

theorem countVotes_eq_first_iff {votes : List Preference} {lengths : Preference} :
    countVotes votes lengths = .first ↔
      (∀ vote ∈ votes, vote = .first) ∧ (votes = [] → lengths = .first) := by
  unfold countVotes
  by_cases all : ∀ vote ∈ votes, vote = Preference.first
  · have noneNeither : votes.contains .neither = false := by
      rw [List.contains_eq_mem, decide_eq_false_iff_not]
      intro member
      cases all _ member
    have noneSecond : votes.contains .second = false := by
      rw [List.contains_eq_mem, decide_eq_false_iff_not]
      intro member
      cases all _ member
    rw [noneNeither, noneSecond, if_neg Bool.false_ne_true]
    cases votes with
    | nil => simp
    | cons vote votes =>
        rw [all vote (List.mem_cons_self ..), List.contains_cons]
        simpa [all] using fun other member => all other (List.mem_cons_of_mem _ member)
  · refine iff_of_false ?_ fun holds => all holds.1
    push Not at all
    obtain ⟨vote, member, notFirst⟩ := all
    rw [← List.contains_iff_mem] at member
    cases vote with
    | first => exact absurd rfl notFirst
    | neither =>
        rw [if_pos member]
        exact Preference.noConfusion
    | second =>
        split
        · exact Preference.noConfusion
        · rw [member]
          cases votes.contains Preference.first <;> exact Preference.noConfusion

theorem ofNats_eq_first_iff {first second : Nat} :
    Preference.ofNats first second = .first ↔ second < first := by
  unfold Preference.ofNats
  split
  · exact iff_of_true rfl ‹_›
  · split
    · exact iff_of_false Preference.noConfusion ‹_›
    · exact iff_of_false Preference.noConfusion ‹_›

theorem Applies.isCompatible {candidate : Applicable} {position : Nat} {argument : DataType}
    (applies : catalog.Applies candidates arguments candidate)
    (found : arguments[position]? = some argument) :
    catalog.isCompatible (candidate.typeAt position) argument = true := by
  obtain ⟨inRange, _⟩ := List.getElem?_eq_some_iff.mp found
  obtain ⟨index, ⟨parameters, owner⟩, form⟩ := candidate
  have takes := applies.2
  cases form with
  | normal =>
      rcases typeAt_of_applies applies inRange with ⟨_, impossible, _⟩ | ⟨bound, isType⟩
      · cases impossible
      · rw [isType]
        exact areCompatible_iff.mp (areCompatible_of_normal takes) position _ argument
          (List.getElem?_eq_getElem bound) found
  | expanded element =>
      by_cases collected : parameters.length - 1 ≤ position
      · have isType : (Applicable.mk index ⟨parameters, owner⟩ (.expanded element)).typeAt
            position = element := if_pos collected
        rw [isType]
        refine isCompatible_of_expanded takes argument (List.mem_iff_getElem?.mpr
          ⟨position - (parameters.length - 1), ?_⟩)
        rw [List.getElem?_drop, Nat.add_sub_cancel' collected]
        exact found
      · have isFixed : position < parameters.length - 1 := Nat.lt_of_not_le collected
        have bound : position < parameters.length := by omega
        have isType : (Applicable.mk index ⟨parameters, owner⟩ (.expanded element)).typeAt
            position = parameters[position].type := by
          unfold Applicable.typeAt
          simp only [if_neg collected, List.getElem?_eq_getElem bound]
          rfl
        rw [isType]
        refine areCompatible_iff.mp (areCompatible_of_expanded takes) position _ argument ?_ found
        rw [List.getElem?_take_of_lt isFixed]
        exact List.getElem?_eq_getElem bound

theorem sameTypes_of_parameterTypes {first second : Applicable}
    (appliesFirst : catalog.Applies candidates arguments first)
    (appliesSecond : catalog.Applies candidates arguments second)
    (sameForm : first.form.isExpanded = second.form.isExpanded)
    (same : parameterTypes first.signature.parameters =
      parameterTypes second.signature.parameters) :
    SameTypes arguments first second := by
  intro position argument _
  obtain ⟨index, ⟨parameters, owner⟩, form⟩ := first
  obtain ⟨otherIndex, ⟨otherParameters, otherOwner⟩, otherForm⟩ := second
  have takes := appliesFirst.2
  have takesOther := appliesSecond.2
  have lengths := length_of_parameterTypes same
  have declared : parameters[position]?.map Parameter.type =
      otherParameters[position]?.map Parameter.type := by
    rw [← List.getElem?_map, ← List.getElem?_map]
    exact congrArg (·[position]?) same
  cases form with
  | normal =>
      cases otherForm with
      | expanded element => cases sameForm
      | normal =>
          unfold Applicable.typeAt
          simp only [declared]
  | expanded element =>
      cases otherForm with
      | normal => cases sameForm
      | expanded otherElement =>
          obtain ⟨last, isLast, collects⟩ := last_of_expanded takes
          obtain ⟨otherLast, isOtherLast, collectsOther⟩ := last_of_expanded takesOther
          have lastTypes : last.type = otherLast.type := by
            have types := congrArg List.getLast? same
            simp only [parameterTypes, List.getLast?_map, isLast, isOtherLast, Option.map_some,
              Option.some.injEq] at types
            exact types
          have sameElement : element = otherElement := by
            have isElement := collects.element_eq
            rw [lastTypes, collectsOther.element_eq] at isElement
            exact (Option.some.inj isElement).symm
          unfold Applicable.typeAt
          simp only [declared, lengths, sameElement]

theorem compareParameters_of_sameForm {first second : Applicable}
    (sameForm : first.form.isExpanded = second.form.isExpanded) :
    catalog.compareParameters first second arguments =
      countVotes (catalog.votes first second arguments)
        (.ofNats first.signature.parameters.length second.signature.parameters.length) := by
  rw [compareParameters_eq, sameForm]
  cases second.form.isExpanded <;> rfl

theorem compareParameters_eq_first_iff {first second : Applicable}
    (sameForm : first.form.isExpanded = second.form.isExpanded) :
    catalog.compareParameters first second arguments = .first ↔
      catalog.AsNear arguments first second ∧ (SameTypes arguments first second →
        second.signature.parameters.length < first.signature.parameters.length) := by
  rw [compareParameters_of_sameForm sameForm, countVotes_eq_first_iff, votes_first_iff,
    votes_eq_nil_iff, ofNats_eq_first_iff]

theorem compareParameters_eq_neither {first second : Applicable}
    (sameForm : first.form.isExpanded = second.form.isExpanded)
    (same : SameTypes arguments first second)
    (sameLength : first.signature.parameters.length = second.signature.parameters.length) :
    catalog.compareParameters first second arguments = .neither := by
  rw [compareParameters_of_sameForm sameForm, votes_eq_nil_iff.mpr same, sameLength]
  change Preference.ofNats _ _ = _
  unfold Preference.ofNats
  rw [if_neg (Nat.lt_irrefl _), if_neg (Nat.lt_irrefl _)]

theorem compareCandidates_eq_first_iff {first second : Applicable} :
    catalog.compareCandidates first second arguments = .first ↔
      catalog.compareParameters first second arguments = .first ∨
        (catalog.compareParameters first second arguments = .neither ∧
          parameterTypes first.signature.parameters =
            parameterTypes second.signature.parameters ∧
          catalog.depth (.plain second.signature.owner) <
            catalog.depth (.plain first.signature.owner)) := by
  unfold compareCandidates
  cases catalog.compareParameters first second arguments with
  | first => simp
  | second => simp
  | neither =>
      by_cases same : parameterTypes first.signature.parameters =
          parameterTypes second.signature.parameters
      · simp [same, ofNats_eq_first_iff]
      · simp [same]

theorem outranks_iff {first second : Applicable}
    (appliesFirst : catalog.Applies candidates arguments first)
    (appliesSecond : catalog.Applies candidates arguments second) :
    catalog.compareCandidates first second arguments = .first ↔
      catalog.Outranks arguments first second := by
  rw [compareCandidates_eq_first_iff]
  by_cases sameForm : first.form.isExpanded = second.form.isExpanded
  · rw [compareParameters_eq_first_iff sameForm]
    constructor
    · rintro (⟨near, longer⟩ | ⟨_, same, deeper⟩)
      · exact .types sameForm near fun same => .inl (longer same)
      · have sameTypes := sameTypes_of_parameterTypes appliesFirst appliesSecond sameForm same
        exact .types sameForm (fun position argument found => .inl (sameTypes position argument
          found)) fun _ => .inr ⟨same, deeper⟩
    · rintro (⟨isNormal, isExpanded⟩ | ⟨_, near, ahead⟩)
      · rw [isNormal, isExpanded] at sameForm
        cases sameForm
      · by_cases same : SameTypes arguments first second
        · rcases ahead same with longer | ⟨sameParameters, deeper⟩
          · exact .inl ⟨near, fun _ => longer⟩
          · exact .inr ⟨compareParameters_eq_neither sameForm same
              (length_of_parameterTypes sameParameters), sameParameters, deeper⟩
        · exact .inl ⟨near, fun none => absurd none same⟩
  · -- Candidates in different forms are compared by these alone.
    rw [compareParameters_eq]
    cases isFirst : first.form.isExpanded <;> cases isSecond : second.form.isExpanded
    · rw [isFirst, isSecond] at sameForm
      exact absurd rfl sameForm
    · exact iff_of_true (.inl rfl) (.form isFirst isSecond)
    · refine iff_of_false ?_ ?_
      · rintro (impossible | ⟨impossible, _⟩)
        · cases impossible
        · cases impossible
      · rintro (⟨isNormal, _⟩ | ⟨same, _, _⟩)
        · rw [isFirst] at isNormal
          cases isNormal
        · exact sameForm same
    · rw [isFirst, isSecond] at sameForm
      exact absurd rfl sameForm

theorem Outranks.irrefl {candidate : Applicable} :
    ¬catalog.Outranks arguments candidate candidate := by
  rintro (⟨isNormal, isExpanded⟩ | ⟨_, _, ahead⟩)
  · rw [isNormal] at isExpanded
    cases isExpanded
  · rcases ahead fun _ _ _ => rfl with longer | ⟨_, deeper⟩
    · exact Nat.lt_irrefl _ longer
    · exact Nat.lt_irrefl _ deeper

/-- Candidates that come back to the same types have had them all the way. -/
theorem AsNear.sameTypes {first second third : Applicable}
    (lower : catalog.AsNear arguments first second)
    (upper : catalog.AsNear arguments second third) (same : SameTypes arguments first third) :
    SameTypes arguments first second := by
  intro position argument found
  rcases lower position argument found with equal | nearer
  · exact equal
  · have back := same position argument found
    rcases upper position argument found with equal | further
    · exact back.trans equal.symm
    · rw [← back] at further
      exact absurd further nearer.asymm

section Order

variable (graded : catalog.Graded)

include graded

theorem AsNear.trans {first second third : Applicable}
    (appliesFirst : catalog.Applies candidates arguments first)
    (appliesSecond : catalog.Applies candidates arguments second)
    (appliesThird : catalog.Applies candidates arguments third)
    (lower : catalog.AsNear arguments first second)
    (upper : catalog.AsNear arguments second third) : catalog.AsNear arguments first third := by
  intro position argument found
  rcases lower position argument found with same | nearer
  · rw [same]
    exact upper position argument found
  · rcases upper position argument found with same | further
    · rw [← same]
      exact .inr nearer
    · exact .inr (graded.nearer_trans (appliesFirst.isCompatible found)
        (appliesSecond.isCompatible found) (appliesThird.isCompatible found) nearer further)

theorem Outranks.trans {first second third : Applicable}
    (appliesFirst : catalog.Applies candidates arguments first)
    (appliesSecond : catalog.Applies candidates arguments second)
    (appliesThird : catalog.Applies candidates arguments third)
    (lower : catalog.Outranks arguments first second)
    (upper : catalog.Outranks arguments second third) :
    catalog.Outranks arguments first third := by
  cases lower with
  | form isNormal isExpanded =>
      cases upper with
      | form secondNormal _ =>
          rw [isExpanded] at secondNormal
          cases secondNormal
      | types sameForm _ _ => exact .form isNormal (sameForm ▸ isExpanded)
  | types sameForm near ahead =>
      cases upper with
      | form isNormal isExpanded => exact .form (sameForm ▸ isNormal) isExpanded
      | types furtherForm further furtherAhead =>
          refine .types (sameForm.trans furtherForm)
            (near.trans graded appliesFirst appliesSecond appliesThird further) fun same => ?_
          have sameFirst := near.sameTypes further same
          refine (ahead sameFirst).trans (furtherAhead fun position argument found => ?_)
          rw [← sameFirst position argument found]
          exact same position argument found

/-- At or above every candidate that takes the arguments is one that is unbeaten. -/
theorem exists_unbeaten {candidate : Applicable}
    (applies : catalog.Applies candidates arguments candidate) :
    ∃ best, catalog.Applies candidates arguments best ∧
      catalog.Unbeaten candidates arguments best ∧
      (best = candidate ∨ catalog.Outranks arguments best candidate) := by
  let Listed := {listed // listed ∈ catalog.applicable candidates arguments}
  let above : Listed → Listed → Prop := fun one other => catalog.Outranks arguments one.1 other.1
  have finite : Finite Listed := (List.finite_toSet _).to_subtype
  have transitive : IsTrans Listed above := ⟨fun one other last lower upper =>
    lower.trans graded (mem_applicable.mp one.2) (mem_applicable.mp other.2)
      (mem_applicable.mp last.2) upper⟩
  have irreflexive : Std.Irrefl above := ⟨fun _ => Outranks.irrefl⟩
  have wellFounded : WellFounded above := Finite.wellFounded_of_trans_of_irrefl above
  obtain ⟨⟨best, listed⟩, isAbove, isTop⟩ := wellFounded.has_min
    {listed | listed.1 = candidate ∨ catalog.Outranks arguments listed.1 candidate}
    ⟨⟨candidate, mem_applicable.mpr applies⟩, .inl rfl⟩
  have appliesBest := mem_applicable.mp listed
  refine ⟨best, appliesBest, ?_, isAbove⟩
  intro rival appliesRival _ preferred
  rw [outranks_iff appliesRival appliesBest] at preferred
  refine isTop ⟨rival, mem_applicable.mpr appliesRival⟩ (.inr ?_) preferred
  rcases isAbove with rfl | outranks
  · exact preferred
  · exact preferred.trans graded appliesRival appliesBest applies outranks

theorem prevails_of_unbeaten {best : Applicable}
    (applies : catalog.Applies candidates arguments best)
    (only : ∀ other, catalog.Applies candidates arguments other →
      catalog.Unbeaten candidates arguments other → other = best) :
    catalog.Prevails candidates arguments best.index best.form := by
  refine ⟨best.signature, applies, fun rival appliesRival different => ?_⟩
  obtain ⟨top, appliesTop, unbeaten, above⟩ := exists_unbeaten graded appliesRival
  cases only top appliesTop unbeaten
  rcases above with rfl | outranks
  · exact absurd rfl different
  · exact (outranks_iff applies appliesRival).mpr outranks

theorem Graded.isTie {indices : List Nat}
    (outcome : catalog.resolve candidates arguments = .ambiguous indices) :
    catalog.IsTie candidates arguments indices := by
  obtain ⟨⟨someone, applies⟩, nobody, increasing, members⟩ := resolve_ambiguous_iff.mp outcome
  obtain ⟨best, appliesBest, unbeaten, _⟩ := exists_unbeaten graded applies
  have another : ∃ other, catalog.Applies candidates arguments other ∧
      catalog.Unbeaten candidates arguments other ∧ other ≠ best := by
    by_contra none
    push Not at none
    exact nobody best.index best.form (prevails_of_unbeaten graded appliesBest none)
  obtain ⟨other, appliesOther, unbeatenOther, different⟩ := another
  have isListed : best.index ∈ indices :=
    (members _).mpr ⟨best, appliesBest, rfl, .inl unbeaten⟩
  have otherListed : other.index ∈ indices :=
    (members _).mpr ⟨other, appliesOther, rfl, .inl unbeatenOther⟩
  refine ⟨?_, increasing.imp Nat.ne_of_lt, fun index listed => ?_⟩
  · have apart : other.index ≠ best.index := fun same =>
      different (appliesOther.eq_of_index appliesBest same)
    have pair : [best.index, other.index].Nodup := by simpa using apart.symm
    exact (List.subperm_of_subset pair (by simp [isListed, otherListed])).length_le
  · obtain ⟨candidate, appliesCandidate, place, open_ | none⟩ := (members index).mp listed
    · exact ⟨candidate, place, appliesCandidate, open_⟩
    · exact absurd unbeaten (none best appliesBest)

end Order

end Catalog

end Formula
