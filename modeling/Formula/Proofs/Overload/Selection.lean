import Mathlib.Data.List.Sort
import Mathlib.Logic.Equiv.Defs
import Formula.Proofs.Overload.Applicability
import Formula.Proofs.Overload.Preference

/-!
What the choice of an overload means without reference to the order in which the candidates are
met. The comparison is not transitive, so the pass that keeps the better of two proves nothing
about the candidates it has dropped; but it cannot drop one that beats all others, because of
two candidates at most one beats the other.
-/

namespace Formula

namespace Catalog

variable (catalog : Catalog) (candidates : List Signature) (arguments : List DataType)

def Applies (candidate : Applicable) : Prop :=
  candidates[candidate.index]? = some candidate.signature ∧
    catalog.applicableForm? candidate.signature.parameters arguments = some candidate.form

/-- The candidate at a place takes the arguments in a form and is preferred over every other
candidate that takes them. -/
def Prevails (index : Nat) (form : CallForm) : Prop :=
  ∃ signature, catalog.Applies candidates arguments ⟨index, signature, form⟩ ∧
    ∀ rival, catalog.Applies candidates arguments rival → rival.index ≠ index →
      catalog.compareCandidates ⟨index, signature, form⟩ rival arguments = .first

def Unbeaten (candidate : Applicable) : Prop :=
  ∀ rival, catalog.Applies candidates arguments rival → rival.index ≠ candidate.index →
    catalog.compareCandidates rival candidate arguments ≠ .first

/-- The candidate at a place is one of those between which the choice stays open: those that are
unbeaten, and all of them where nobody is. -/
def Tied (index : Nat) : Prop :=
  ∃ candidate, catalog.Applies candidates arguments candidate ∧ candidate.index = index ∧
    (catalog.Unbeaten candidates arguments candidate ∨
      ∀ other, catalog.Applies candidates arguments other →
        ¬catalog.Unbeaten candidates arguments other)

section Filtering

variable {catalog candidates arguments}

theorem mem_applicable {candidate : Applicable} :
    candidate ∈ catalog.applicable candidates arguments ↔
      catalog.Applies candidates arguments candidate := by
  unfold applicable Applies
  rw [List.mem_filterMap]
  constructor
  · rintro ⟨⟨signature, index⟩, member, found⟩
    rw [Option.map_eq_some_iff] at found
    obtain ⟨form, takes, rfl⟩ := found
    exact ⟨List.mk_mem_zipIdx_iff_getElem?.mp member, takes⟩
  · rintro ⟨found, takes⟩
    refine ⟨(candidate.signature, candidate.index),
      List.mk_mem_zipIdx_iff_getElem?.mpr found, ?_⟩
    exact Option.map_eq_some_iff.mpr ⟨candidate.form, takes, rfl⟩

theorem applicable_increasing :
    (catalog.applicable candidates arguments).Pairwise (·.index < ·.index) := by
  have places : (candidates.zipIdx.map Prod.snd).Pairwise (· < ·) := by
    rw [List.zipIdx_map_snd]
    exact List.pairwise_lt_range'
  rw [List.pairwise_map] at places
  unfold applicable
  refine places.filterMap _ ?_
  rintro ⟨_, place⟩ ⟨_, later⟩ before first foundFirst second foundSecond
  rw [Option.map_eq_some_iff] at foundFirst foundSecond
  obtain ⟨_, _, rfl⟩ := foundFirst
  obtain ⟨_, _, rfl⟩ := foundSecond
  exact before

theorem Applies.eq_of_index {first second : Applicable}
    (appliesFirst : catalog.Applies candidates arguments first)
    (appliesSecond : catalog.Applies candidates arguments second)
    (same : first.index = second.index) : first = second := by
  obtain ⟨index, signature, form⟩ := first
  obtain ⟨place, other, otherForm⟩ := second
  obtain ⟨found, takes⟩ := appliesFirst
  obtain ⟨foundOther, takesOther⟩ := appliesSecond
  subst same
  simp only [found, Option.some.injEq] at foundOther
  subst foundOther
  simp only [takes, Option.some.injEq] at takesOther
  subst takesOther
  rfl

theorem mem_rivals {candidate rival : Applicable} :
    rival ∈ rivals (catalog.applicable candidates arguments) candidate ↔
      catalog.Applies candidates arguments rival ∧ rival.index ≠ candidate.index := by
  unfold rivals
  rw [List.mem_filter, mem_applicable, bne_iff_ne]

end Filtering

section Pass

variable {catalog arguments}

theorem champion_mem (first : Applicable) (rest : List Applicable) :
    catalog.champion arguments first rest ∈ first :: rest := by
  unfold champion
  induction rest generalizing first with
  | nil => exact List.mem_singleton_self first
  | cons candidate rest ih =>
      rw [List.foldl_cons]
      have member := ih (if catalog.beats arguments candidate first then candidate else first)
      rw [List.mem_cons] at member
      rcases member with kept | later
      · rw [kept]
        split
        · exact List.mem_cons_of_mem _ (List.mem_cons_self ..)
        · exact List.mem_cons_self ..
      · exact List.mem_cons_of_mem _ (List.mem_cons_of_mem _ later)

/-- The pass ends at a candidate that beats every other one, if there is one. -/
theorem champion_of_beats {best first : Applicable} {rest : List Applicable}
    (member : best ∈ first :: rest)
    (wins : ∀ other ∈ first :: rest, other ≠ best → catalog.beats arguments best other = true) :
    catalog.champion arguments first rest = best := by
  unfold champion
  induction rest generalizing first with
  | nil => exact (List.mem_singleton.mp member).symm
  | cons candidate rest ih =>
      rw [List.foldl_cons]
      -- The better of the first two is `best` if `best` is one of them.
      have kept : best = first ∨ best = candidate →
          (if catalog.beats arguments candidate first then candidate else first) = best := by
        rintro (rfl | rfl)
        · by_cases same : candidate = best
          · rw [same, ite_self]
          · have beaten := catalog.beats_asymmetric
              (wins candidate (List.mem_cons_of_mem _ (List.mem_cons_self ..)) same)
            rw [beaten, if_neg Bool.false_ne_true]
        · by_cases same : first = best
          · rw [same, ite_self]
          · rw [wins first (List.mem_cons_self ..) same, if_pos rfl]
      apply ih
      · rw [List.mem_cons, List.mem_cons] at member
        rcases member with isFirst | isSecond | later
        · rw [kept (.inl isFirst)]
          exact List.mem_cons_self ..
        · rw [kept (.inr isSecond)]
          exact List.mem_cons_self ..
        · exact List.mem_cons_of_mem _ later
      · intro other otherMember
        apply wins
        rw [List.mem_cons] at otherMember
        rcases otherMember with rfl | later
        · split
          · exact List.mem_cons_of_mem _ (List.mem_cons_self ..)
          · exact List.mem_cons_self ..
        · exact List.mem_cons_of_mem _ (List.mem_cons_of_mem _ later)

theorem resolve_of_applicable {first : Applicable} {rest : List Applicable}
    {candidates : List Signature}
    (found : catalog.applicable candidates arguments = first :: rest) :
    catalog.resolve candidates arguments =
      if (rivals (first :: rest) (catalog.champion arguments first rest)).all
          (catalog.beats arguments (catalog.champion arguments first rest)) then
        .chosen (catalog.champion arguments first rest).index
          (catalog.champion arguments first rest).form
      else .ambiguous ((catalog.tied arguments (first :: rest)).map Applicable.index) := by
  unfold resolve
  rw [found]
  cases rest with
  | nil => simp [champion, rivals]
  | cons second rest => rfl

end Pass

section Outcome

variable {catalog candidates arguments}

theorem resolve_noMatch_iff :
    catalog.resolve candidates arguments = .noMatch ↔
      ∀ candidate, ¬catalog.Applies candidates arguments candidate := by
  cases found : catalog.applicable candidates arguments with
  | nil =>
      have none : ∀ candidate, ¬catalog.Applies candidates arguments candidate := by
        intro candidate applies
        rw [← mem_applicable, found] at applies
        exact List.not_mem_nil applies
      exact iff_of_true (by unfold resolve; rw [found]) none
  | cons first rest =>
      have applies : catalog.Applies candidates arguments first := by
        rw [← mem_applicable, found]
        exact List.mem_cons_self ..
      refine iff_of_false ?_ (fun none => none first applies)
      rw [resolve_of_applicable found]
      split <;> exact Resolution.noConfusion

theorem prevails_unique {index other : Nat} {form otherForm : CallForm}
    (first : catalog.Prevails candidates arguments index form)
    (second : catalog.Prevails candidates arguments other otherForm) :
    index = other ∧ form = otherForm := by
  obtain ⟨signature, applies, preferred⟩ := first
  obtain ⟨otherSignature, otherApplies, otherPreferred⟩ := second
  by_cases same : index = other
  · have equal := applies.eq_of_index otherApplies same
    exact ⟨same, congrArg Applicable.form equal⟩
  · have forward := preferred _ otherApplies (Ne.symm same)
    have backward := otherPreferred _ applies same
    rw [catalog.compareCandidates_swap, forward] at backward
    exact Preference.noConfusion backward

/-- The pass and the check after it choose exactly the candidate that prevails. -/
theorem resolve_chosen_iff {index : Nat} {form : CallForm} :
    catalog.resolve candidates arguments = .chosen index form ↔
      catalog.Prevails candidates arguments index form := by
  cases found : catalog.applicable candidates arguments with
  | nil =>
      refine iff_of_false ?_ ?_
      · unfold resolve
        rw [found]
        exact Resolution.noConfusion
      · rintro ⟨signature, applies, _⟩
        rw [← mem_applicable, found] at applies
        exact List.not_mem_nil applies
  | cons first rest =>
      rw [resolve_of_applicable found]
      constructor
      · intro outcome
        split at outcome
        · rename_i beatsAll
          rw [Resolution.chosen.injEq] at outcome
          obtain ⟨rfl, rfl⟩ := outcome
          have member : catalog.champion arguments first rest ∈ first :: rest :=
            champion_mem first rest
          rw [← found, mem_applicable] at member
          refine ⟨_, member, ?_⟩
          intro rival applies different
          rw [List.all_eq_true] at beatsAll
          have beaten := beatsAll rival (by
            rw [← found, mem_rivals]
            exact ⟨applies, different⟩)
          exact eq_of_beq beaten
        · exact Resolution.noConfusion outcome
      · rintro ⟨signature, applies, preferred⟩
        have isChampion : catalog.champion arguments first rest = ⟨index, signature, form⟩ := by
          apply champion_of_beats
          · rw [← found, mem_applicable]
            exact applies
          · intro other member different
            rw [← found, mem_applicable] at member
            have apart : other.index ≠ index := fun same =>
              different (member.eq_of_index applies same)
            exact beq_iff_eq.mpr (preferred other member apart)
        rw [isChampion, if_pos]
        rw [List.all_eq_true]
        intro rival member
        rw [← found, mem_rivals] at member
        exact beq_iff_eq.mpr (preferred rival member.1 member.2)

theorem resolve_ambiguous_eq {indices : List Nat}
    (outcome : catalog.resolve candidates arguments = .ambiguous indices) :
    indices = (catalog.tied arguments (catalog.applicable candidates arguments)).map
      Applicable.index := by
  cases found : catalog.applicable candidates arguments with
  | nil =>
      unfold resolve at outcome
      rw [found] at outcome
      exact Resolution.noConfusion outcome
  | cons first rest =>
      rw [resolve_of_applicable found] at outcome
      split at outcome
      · exact Resolution.noConfusion outcome
      · exact (Resolution.ambiguous.inj outcome).symm

theorem any_rivals_eq_false_iff {candidate : Applicable} :
    (!(rivals (catalog.applicable candidates arguments) candidate).any
        (catalog.beats arguments · candidate)) = true ↔
      catalog.Unbeaten candidates arguments candidate := by
  rw [Bool.not_eq_true', List.any_eq_false]
  unfold Unbeaten
  constructor
  · intro none rival applies different wins
    exact none rival (mem_rivals.mpr ⟨applies, different⟩) (beq_iff_eq.mpr wins)
  · intro unbeaten rival member wins
    rw [mem_rivals] at member
    exact unbeaten rival member.1 member.2 (beq_iff_eq.mp wins)

theorem mem_tied {candidate : Applicable} :
    candidate ∈ catalog.tied arguments (catalog.applicable candidates arguments) ↔
      catalog.Applies candidates arguments candidate ∧
        (catalog.Unbeaten candidates arguments candidate ∨
          ∀ other, catalog.Applies candidates arguments other →
            ¬catalog.Unbeaten candidates arguments other) := by
  have kept : ∀ other : Applicable,
      other ∈ (catalog.applicable candidates arguments).filter (fun other =>
        !(rivals (catalog.applicable candidates arguments) other).any
          (catalog.beats arguments · other)) ↔
      catalog.Applies candidates arguments other ∧
        catalog.Unbeaten candidates arguments other := by
    intro other
    rw [List.mem_filter, mem_applicable, any_rivals_eq_false_iff]
  unfold tied
  by_cases nobody : ∀ other, catalog.Applies candidates arguments other →
      ¬catalog.Unbeaten candidates arguments other
  · have empty : (catalog.applicable candidates arguments).filter (fun other =>
        !(rivals (catalog.applicable candidates arguments) other).any
          (catalog.beats arguments · other)) = [] := by
      rw [List.eq_nil_iff_forall_not_mem]
      intro other member
      rw [kept] at member
      exact nobody other member.1 member.2
    rw [empty]
    simp only [List.isEmpty_nil, if_true, mem_applicable]
    exact ⟨fun applies => ⟨applies, .inr nobody⟩, And.left⟩
  · have somebody : ∃ other, catalog.Applies candidates arguments other ∧
        catalog.Unbeaten candidates arguments other := by
      by_contra none
      exact nobody fun other applies unbeaten => none ⟨other, applies, unbeaten⟩
    obtain ⟨other, applies, unbeaten⟩ := somebody
    have member := (kept other).mpr ⟨applies, unbeaten⟩
    have notEmpty := List.isEmpty_eq_false_iff.mpr (List.ne_nil_of_mem member)
    simp only [notEmpty, Bool.false_eq_true, if_false]
    rw [kept]
    refine and_congr_right fun _ => ⟨.inl, ?_⟩
    rintro (unbeaten | none)
    · exact unbeaten
    · exact absurd none nobody

theorem mem_tied_index {index : Nat} :
    index ∈ (catalog.tied arguments (catalog.applicable candidates arguments)).map
        Applicable.index ↔
      catalog.Tied candidates arguments index := by
  rw [List.mem_map]
  unfold Tied
  constructor
  · rintro ⟨candidate, member, place⟩
    rw [mem_tied] at member
    exact ⟨candidate, member.1, place, member.2⟩
  · rintro ⟨candidate, applies, place, open_⟩
    exact ⟨candidate, mem_tied.mpr ⟨applies, open_⟩, place⟩

theorem tied_increasing :
    ((catalog.tied arguments (catalog.applicable candidates arguments)).map
      Applicable.index).Pairwise (· < ·) := by
  rw [List.pairwise_map]
  unfold tied
  dsimp only
  split
  · exact applicable_increasing
  · exact applicable_increasing.filter _

/-- The choice stays open exactly when someone takes the arguments and nobody prevails; the
report then lists the tied candidates, each once and in the order of the list. -/
theorem resolve_ambiguous_iff {indices : List Nat} :
    catalog.resolve candidates arguments = .ambiguous indices ↔
      (∃ candidate, catalog.Applies candidates arguments candidate) ∧
        (∀ index form, ¬catalog.Prevails candidates arguments index form) ∧
        indices.Pairwise (· < ·) ∧
        ∀ index, index ∈ indices ↔ catalog.Tied candidates arguments index := by
  constructor
  · intro outcome
    have listed := resolve_ambiguous_eq outcome
    refine ⟨?_, ?_, ?_, ?_⟩
    · by_contra none
      have noMatch := resolve_noMatch_iff.mpr fun candidate applies => none ⟨candidate, applies⟩
      rw [outcome] at noMatch
      exact Resolution.noConfusion noMatch
    · intro index form prevails
      have chosen := resolve_chosen_iff.mpr prevails
      rw [outcome] at chosen
      exact Resolution.noConfusion chosen
    · rw [listed]
      exact tied_increasing
    · intro index
      rw [listed, mem_tied_index]
  · rintro ⟨⟨candidate, applies⟩, nobody, increasing, members⟩
    cases outcome : catalog.resolve candidates arguments with
    | noMatch => exact absurd applies (resolve_noMatch_iff.mp outcome candidate)
    | chosen index form => exact absurd (resolve_chosen_iff.mp outcome) (nobody index form)
    | ambiguous listed =>
        have same := resolve_ambiguous_eq outcome
        congr 1
        apply List.Pairwise.eq_of_mem_iff (r := (· < ·)) _ increasing
        · intro index
          rw [members, same, mem_tied_index]
        · rw [same]
          exact tied_increasing

end Outcome

section Order

/-- The candidates in another order: at each place stands the one from the place it is sent to. -/
def reordered (candidates : List Signature) (order : Equiv.Perm (Fin candidates.length)) :
    List Signature :=
  List.ofFn fun place => candidates.get (order place)

variable {catalog candidates arguments}

theorem Applies.index_lt {candidate : Applicable}
    (applies : catalog.Applies candidates arguments candidate) :
    candidate.index < candidates.length :=
  (List.getElem?_eq_some_iff.mp applies.1).1

variable (order : Equiv.Perm (Fin candidates.length))

theorem applies_reordered (place : Fin candidates.length) (signature : Signature)
    (form : CallForm) :
    catalog.Applies (reordered candidates order) arguments ⟨place, signature, form⟩ ↔
      catalog.Applies candidates arguments ⟨order place, signature, form⟩ := by
  have moved : (reordered candidates order)[place.val]? = candidates[(order place).val]? := by
    unfold reordered
    rw [List.getElem?_ofFn, dif_pos place.isLt, List.getElem?_eq_getElem (order place).isLt]
    rfl
  unfold Applies
  rw [moved]

theorem forall_applies_reordered (holds : Applicable → Prop) :
    (∀ candidate, catalog.Applies (reordered candidates order) arguments candidate →
        holds candidate) ↔
      ∀ (place : Fin candidates.length) signature form,
        catalog.Applies candidates arguments ⟨order place, signature, form⟩ →
          holds ⟨place, signature, form⟩ := by
  constructor
  · intro all place signature form applies
    exact all _ ((applies_reordered order place signature form).mpr applies)
  · rintro all ⟨index, signature, form⟩ applies
    have inRange : index < candidates.length := by
      have bound := applies.index_lt
      unfold reordered at bound
      rwa [List.length_ofFn] at bound
    exact all ⟨index, inRange⟩ signature form
      ((applies_reordered order ⟨index, inRange⟩ signature form).mp applies)

theorem forall_applies_places (holds : Applicable → Prop) :
    (∀ candidate, catalog.Applies candidates arguments candidate → holds candidate) ↔
      ∀ (place : Fin candidates.length) signature form,
        catalog.Applies candidates arguments ⟨order place, signature, form⟩ →
          holds ⟨order place, signature, form⟩ := by
  constructor
  · intro all place signature form applies
    exact all _ applies
  · rintro all ⟨index, signature, form⟩ applies
    have reached := all (order.symm ⟨index, applies.index_lt⟩) signature form
    rw [Equiv.apply_symm_apply] at reached
    exact reached applies

theorem place_ne_iff (place other : Fin candidates.length) :
    (order place).val ≠ (order other).val ↔ place.val ≠ other.val := by
  rw [ne_eq, ne_eq, not_iff_not, Fin.val_inj, Fin.val_inj, order.apply_eq_iff_eq]

theorem prevails_reordered (place : Fin candidates.length) (form : CallForm) :
    catalog.Prevails (reordered candidates order) arguments place form ↔
      catalog.Prevails candidates arguments (order place) form := by
  unfold Prevails
  refine exists_congr fun signature => and_congr (applies_reordered order place signature form) ?_
  rw [forall_applies_reordered order, forall_applies_places order]
  refine forall_congr' fun other => forall_congr' fun rival => forall_congr' fun rivalForm => ?_
  rw [place_ne_iff order]
  exact Iff.rfl

theorem unbeaten_reordered (place : Fin candidates.length) (signature : Signature)
    (form : CallForm) :
    catalog.Unbeaten (reordered candidates order) arguments ⟨place, signature, form⟩ ↔
      catalog.Unbeaten candidates arguments ⟨order place, signature, form⟩ := by
  unfold Unbeaten
  rw [forall_applies_reordered order, forall_applies_places order]
  refine forall_congr' fun other => forall_congr' fun rival => forall_congr' fun rivalForm => ?_
  rw [place_ne_iff order]
  exact Iff.rfl

theorem nobody_unbeaten_reordered :
    (∀ other, catalog.Applies (reordered candidates order) arguments other →
        ¬catalog.Unbeaten (reordered candidates order) arguments other) ↔
      ∀ other, catalog.Applies candidates arguments other →
        ¬catalog.Unbeaten candidates arguments other := by
  rw [forall_applies_reordered order, forall_applies_places order]
  refine forall_congr' fun other => forall_congr' fun rival => forall_congr' fun rivalForm => ?_
  rw [unbeaten_reordered order]

theorem tied_reordered (place : Fin candidates.length) :
    catalog.Tied (reordered candidates order) arguments place ↔
      catalog.Tied candidates arguments (order place) := by
  unfold Tied
  rw [nobody_unbeaten_reordered order]
  constructor
  · rintro ⟨⟨index, signature, form⟩, applies, rfl, left⟩
    rw [applies_reordered order] at applies
    rw [unbeaten_reordered order] at left
    exact ⟨⟨order place, signature, form⟩, applies, rfl, left⟩
  · rintro ⟨⟨index, signature, form⟩, applies, rfl, left⟩
    rw [← unbeaten_reordered order] at left
    exact ⟨⟨place, signature, form⟩, (applies_reordered order place signature form).mpr applies,
      rfl, left⟩

theorem resolve_reordered_noMatch :
    catalog.resolve (reordered candidates order) arguments = .noMatch ↔
      catalog.resolve candidates arguments = .noMatch := by
  rw [resolve_noMatch_iff, resolve_noMatch_iff]
  exact (forall_applies_reordered order fun _ => False).trans
    (forall_applies_places order fun _ => False).symm

theorem resolve_reordered_chosen (place : Fin candidates.length) (form : CallForm) :
    catalog.resolve (reordered candidates order) arguments = .chosen place form ↔
      catalog.resolve candidates arguments = .chosen (order place) form := by
  rw [resolve_chosen_iff, resolve_chosen_iff, prevails_reordered order]

theorem resolve_reordered_ambiguous {indices : List Nat}
    (outcome : catalog.resolve (reordered candidates order) arguments = .ambiguous indices) :
    ∃ tied, catalog.resolve candidates arguments = .ambiguous tied ∧
      ∀ place : Fin candidates.length, place.val ∈ indices ↔ (order place).val ∈ tied := by
  obtain ⟨_, nobody, _, members⟩ := resolve_ambiguous_iff.mp outcome
  cases original : catalog.resolve candidates arguments with
  | noMatch =>
      rw [← resolve_reordered_noMatch order, outcome] at original
      exact Resolution.noConfusion original
  | chosen index form =>
      rw [resolve_chosen_iff] at original
      obtain ⟨signature, applies, preferred⟩ := original
      have from_ : catalog.Prevails candidates arguments
          (order (order.symm ⟨index, applies.index_lt⟩)) form := by
        rw [Equiv.apply_symm_apply]
        exact ⟨signature, applies, preferred⟩
      rw [← prevails_reordered order] at from_
      exact absurd from_ (nobody _ form)
  | ambiguous tied =>
      refine ⟨tied, rfl, ?_⟩
      intro place
      rw [members, tied_reordered order, (resolve_ambiguous_iff.mp original).2.2.2]

end Order

section Bounds

variable {catalog candidates arguments}

/-- Every argument of an applicable candidate is passed for the collected elements or for a
parameter that the candidate has. -/
theorem typeAt_of_applies {candidate : Applicable} {position : Nat}
    (applies : catalog.Applies candidates arguments candidate)
    (inRange : position < arguments.length) :
    (∃ element, candidate.form = .expanded element ∧
        candidate.signature.parameters.length ≤ position + 1 ∧
        candidate.typeAt position = element) ∨
      ∃ bound : position < candidate.signature.parameters.length,
        candidate.typeAt position = candidate.signature.parameters[position].type := by
  obtain ⟨index, ⟨parameters, owner⟩, form⟩ := candidate
  have takes := applies.2
  have declared : ∀ bound : position < parameters.length,
      (parameters[position]?.map Parameter.type).getD .object = parameters[position].type := by
    intro bound
    rw [List.getElem?_eq_getElem bound]
    rfl
  cases form with
  | normal =>
      have bound := Nat.lt_of_lt_of_le inRange (length_le_of_normal takes)
      exact .inr ⟨bound, declared bound⟩
  | expanded element =>
      by_cases collected : parameters.length - 1 ≤ position
      · refine .inl ⟨element, rfl, by simp only; omega, ?_⟩
        unfold Applicable.typeAt
        simp only [if_pos collected]
      · have bound : position < parameters.length := by omega
        refine .inr ⟨bound, ?_⟩
        unfold Applicable.typeAt
        simp only [if_neg collected]
        exact declared bound

end Bounds

/-- The choice of an overload by the candidates alone: who takes the arguments, and who is
preferred over whom. The order of the list only names the candidates, and the comparison reads
no parameter that a candidate does not have. -/
theorem resolve_orderFree :
    (catalog.resolve candidates arguments = .noMatch ↔
      ∀ candidate, ¬catalog.Applies candidates arguments candidate) ∧
    (∀ index form, catalog.resolve candidates arguments = .chosen index form ↔
      catalog.Prevails candidates arguments index form) ∧
    (∀ index form other otherForm, catalog.Prevails candidates arguments index form →
      catalog.Prevails candidates arguments other otherForm →
      index = other ∧ form = otherForm) ∧
    (∀ indices, catalog.resolve candidates arguments = .ambiguous indices ↔
      (∃ candidate, catalog.Applies candidates arguments candidate) ∧
        (∀ index form, ¬catalog.Prevails candidates arguments index form) ∧
        indices.Pairwise (· < ·) ∧
        ∀ index, index ∈ indices ↔ catalog.Tied candidates arguments index) ∧
    (∀ order : Equiv.Perm (Fin candidates.length),
      (catalog.resolve (reordered candidates order) arguments = .noMatch ↔
        catalog.resolve candidates arguments = .noMatch) ∧
      (∀ place form,
        catalog.resolve (reordered candidates order) arguments = .chosen (place : Fin _) form ↔
          catalog.resolve candidates arguments = .chosen (order place) form) ∧
      ∀ indices,
        catalog.resolve (reordered candidates order) arguments = .ambiguous indices →
        ∃ tied, catalog.resolve candidates arguments = .ambiguous tied ∧
          ∀ place : Fin candidates.length, place.val ∈ indices ↔ (order place).val ∈ tied) ∧
    (∀ candidate position, catalog.Applies candidates arguments candidate →
      position < arguments.length →
      (∃ element, candidate.form = .expanded element ∧
          candidate.signature.parameters.length ≤ position + 1 ∧
          candidate.typeAt position = element) ∨
        ∃ bound : position < candidate.signature.parameters.length,
          candidate.typeAt position = candidate.signature.parameters[position].type) := by
  refine ⟨resolve_noMatch_iff, fun _ _ => resolve_chosen_iff, fun _ _ _ _ => prevails_unique,
    fun _ => resolve_ambiguous_iff, ?_, fun _ _ => typeAt_of_applies⟩
  intro order
  refine ⟨resolve_reordered_noMatch order, resolve_reordered_chosen order, ?_⟩
  intro indices outcome
  exact resolve_reordered_ambiguous order outcome

end Catalog

end Formula
