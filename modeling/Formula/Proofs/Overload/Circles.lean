import Mathlib.Algebra.Order.BigOperators.Group.List
import Mathlib.Data.Prod.Lex
import Mathlib.Data.Set.Finite.Lemmas
import Formula.Proofs.Catalog.Heights
import Formula.Proofs.Overload.Ties

/-!
Circles of preference. Nearness is no order in every hierarchy, but where links run in no circle,
nothing is above the root and no entry has a scalar above it, every type has a worth by which what
is nearer to an argument is worth more. Then no circle of candidates beat each other in turn, and
of those that take the arguments someone is unbeaten.
-/

namespace Formula

theorem Scalar.length_widenings_lt {narrow wide : Scalar} (widens : wide ∈ narrow.widenings)
    (different : wide ≠ narrow) :
    wide ≠ .decimal ∧ narrow ≠ .decimal ∧ wide.widenings.length < narrow.widenings.length := by
  revert wide
  cases narrow with
  | integer kind => cases kind <;> decide
  | _ => decide

namespace Catalog

def scalarHeight (level : TypeId → Nat) : Nat :=
  (Scalar.all.map fun kind => level (.ofScalar kind) + 1).sum

/-- The worth of a type: the number of kinds it widens to on top of all scalars' heights, or else
its height. -/
def worth (level : TypeId → Nat) (type : DataType) : Nat :=
  if isTableScalar type then
    scalarHeight level + (type.scalar?.elim 0 fun kind => kind.widenings.length)
  else height level type

/-- What a type is worth to an argument, which finds its own type worth most. -/
def worthTo (level : TypeId → Nat) (argument type : DataType) : Nat :=
  if type = argument then worth level argument + 1 else worth level type

variable {catalog : Catalog} {level : TypeId → Nat} {argument first second : DataType}

theorem isTableScalar_ofScalar {kind : Scalar} : isTableScalar (.ofScalar kind) = true ↔
    kind ≠ .decimal := by
  unfold isTableScalar
  rw [DataType.scalar?_ofScalar, Option.any_some, bne_iff_ne]

theorem worth_ofScalar {kind : Scalar} (notDecimal : kind ≠ .decimal) :
    worth level (.ofScalar kind) = scalarHeight level + kind.widenings.length := by
  unfold worth
  rw [if_pos (isTableScalar_ofScalar.mpr notDecimal), DataType.scalar?_ofScalar]
  rfl

theorem height_le_worth (type : DataType) : height level type ≤ worth level type := by
  unfold worth
  split
  · rename_i isTable
    obtain ⟨kind, rfl⟩ := exists_scalar_of_isTableScalar isTable
    have listed : level (.ofScalar kind) + 1 ∈
        Scalar.all.map fun kind => level (.ofScalar kind) + 1 :=
      List.mem_map_of_mem kind.mem_all
    calc height level (.ofScalar kind) ≤ level (.ofScalar kind) + 1 := height_plain_le level _
      _ ≤ scalarHeight level := List.le_sum_of_mem listed
      _ ≤ _ := Nat.le_add_right _ _
  · exact Nat.le_refl _

theorem worth_of_not_table {type : DataType} (notTable : isTableScalar type = false) :
    worth level type = height level type := by
  unfold worth
  rw [notTable, if_neg Bool.false_ne_true]

theorem worth_of_widensTo (widens : first.widensTo second = true) :
    second = first ∨ worth level second < worth level first := by
  rcases DataType.widensTo_cases widens with ⟨narrow, wide, rfl, rfl, listed⟩ | ⟨rfl, rfl⟩
  · by_cases same : wide = narrow
    · exact .inl (congrArg DataType.ofScalar same)
    · obtain ⟨notWide, notNarrow, fewer⟩ := Scalar.length_widenings_lt listed same
      rw [worth_ofScalar notWide, worth_ofScalar notNarrow]
      exact .inr (Nat.add_lt_add_left fewer _)
  · exact .inl rfl

theorem Capped.eq_of_isAssignable_table (capped : catalog.Capped) {source target : DataType}
    (isTable : isTableScalar target = true)
    (assignable : catalog.isAssignable target source = true) : source = target := by
  obtain ⟨kind, rfl⟩ := exists_scalar_of_isTableScalar isTable
  refine eq_of_isAssignable_unlisted (fun entry listed above => ?_) assignable
  have notTable := capped.scalars entry listed _ above
  rw [show DataType.plain (.ofScalar kind) = .ofScalar kind from rfl, isTable] at notTable
  cases notTable

section Order

variable (capped : catalog.Capped) (descending : catalog.Descending level)

include capped descending

theorem worth_of_isAssignable (unmarked : second.nullable = false)
    (notTable : isTableScalar second = false)
    (assignable : catalog.isAssignable second first = true) :
    second = first ∨ worth level second < worth level first ∨
      (first = .orNull .object ∧ second = .object) := by
  rw [worth_of_not_table notTable]
  exact (height_lt_of_isAssignable capped descending unmarked assignable).imp_right
    (.imp_left fun lower => Nat.lt_of_lt_of_le lower (height_le_worth first))

/-- Without a mark for null, what a type leads to one way is worth less. -/
theorem worth_lt_of_leads (unmarked : second.nullable = false)
    (leads : catalog.Leads first second = true) (oneWay : catalog.Leads second first = false) :
    worth level second < worth level first := by
  have different : second ≠ first := by
    rintro rfl
    rw [leads] at oneWay
    cases oneWay
  unfold Leads at leads
  split at leads
  · exact (worth_of_widensTo leads).resolve_left different
  · rename_i notBoth
    cases isTable : isTableScalar second with
    | true => exact absurd (capped.eq_of_isAssignable_table isTable leads).symm different
    | false =>
        rcases worth_of_isAssignable capped descending unmarked isTable leads with
          same | lower | ⟨rfl, rfl⟩
        · exact absurd same different
        · exact lower
        · -- The root and the root marked for null can be used as each other.
          have back : catalog.Leads .object (.orNull .object) = true :=
            isAssignable_marked rfl
          rw [back] at oneWay
          cases oneWay

/-- What an argument can be passed for is worth no more than its own type. -/
theorem worth_le_of_isCompatible (compatible : catalog.isCompatible second argument = true) :
    worth level second ≤ worth level argument := by
  cases isScalar : second.scalar? with
  | some kind =>
      unfold isCompatible at compatible
      rw [isScalar, Bool.or_eq_true, Bool.or_eq_true, beq_iff_eq] at compatible
      rcases compatible with (rfl | root) | widens
      · exact Nat.le_refl _
      · cases eq_of_beq root
        cases isScalar
      · rcases worth_of_widensTo widens with rfl | lower
        · exact Nat.le_refl _
        · exact Nat.le_of_lt lower
  | none =>
      have assignable := isAssignable_of_isCompatible compatible isScalar
      have notTable : isTableScalar second = false := by
        unfold isTableScalar
        rw [isScalar]
        rfl
      cases marked : second.nullable with
      | true =>
          rcases eq_of_isAssignable_nullable marked assignable with rfl | rfl
          · exact Nat.le_refl _
          · rw [worth_of_not_table notTable]
            exact height_le_worth { second with nullable := false }
      | false =>
          rcases worth_of_isAssignable capped descending marked notTable assignable with
            rfl | lower | ⟨_, rfl⟩
          · exact Nat.le_refl _
          · exact Nat.le_of_lt lower
          · rw [worth_of_not_table notTable, height_object]
            exact Nat.zero_le _

theorem worthTo_lt_of_nearer (fits : catalog.isCompatible second argument = true)
    (nearer : catalog.Nearer argument first second) :
    worthTo level argument second < worthTo level argument first := by
  obtain ⟨different, near⟩ := nearer_iff.mp nearer
  by_cases own : first = argument
  · subst own
    unfold worthTo
    rw [if_neg different.symm, if_pos rfl]
    exact Nat.lt_succ_of_le (worth_le_of_isCompatible capped descending fits)
  · obtain ⟨notOwn, leads, oneWay⟩ := near.resolve_left own
    unfold worthTo
    rw [if_neg notOwn, if_neg own]
    refine worth_lt_of_leads capped descending ?_ leads oneWay
    -- Only the argument itself leads to its own type marked for null.
    by_contra marked
    rw [Bool.not_eq_false] at marked
    unfold Leads at leads
    rw [isTableScalar_of_nullable marked, Bool.and_false, if_neg Bool.false_ne_true] at leads
    rcases eq_of_isAssignable_nullable marked leads with same | isFirst
    · exact different same.symm
    · rcases eq_of_isAssignable_nullable marked
        (isAssignable_of_isCompatible fits (scalar?_of_nullable marked)) with same | isArgument
      · exact notOwn same
      · exact own (isFirst.trans isArgument.symm)

end Order

variable {candidates : List Signature} {arguments : List DataType}

/-- What the types that a candidate is passed are worth to the arguments, taken together. -/
def totalWorth (level : TypeId → Nat) (arguments : List DataType) (candidate : Applicable) : Nat :=
  (arguments.zipIdx.map fun (argument, position) =>
    worthTo level argument (candidate.typeAt position)).sum

/-- The normal form first, then the types, then the number of parameters and the depth. -/
def standing (catalog : Catalog) (level : TypeId → Nat) (arguments : List DataType)
    (candidate : Applicable) : Nat ×ₗ Nat ×ₗ Nat ×ₗ Nat :=
  toLex (if candidate.form.isExpanded then 0 else 1, toLex (totalWorth level arguments candidate,
    toLex (candidate.signature.parameters.length,
      catalog.depth (.plain candidate.signature.owner))))

section Order

variable (capped : catalog.Capped) (descending : catalog.Descending level)

include capped descending

/-- Types that are as near are worth as much in total, and more unless they are the same. -/
theorem totalWorth_of_asNear {lower upper : Applicable}
    (applies : catalog.Applies candidates arguments upper)
    (near : catalog.AsNear arguments lower upper) :
    totalWorth level arguments upper = totalWorth level arguments lower ∧
        SameTypes arguments lower upper ∨
      totalWorth level arguments upper < totalWorth level arguments lower := by
  by_cases same : SameTypes arguments lower upper
  · refine .inl ⟨congrArg List.sum
      (List.map_congr_left fun (argument, position) member => ?_), same⟩
    exact congrArg (worthTo level argument)
      (same position argument (List.mk_mem_zipIdx_iff_getElem?.mp member)).symm
  · right
    have strict : ∀ position argument, arguments[position]? = some argument →
        lower.typeAt position ≠ upper.typeAt position →
        worthTo level argument (upper.typeAt position) <
          worthTo level argument (lower.typeAt position) := by
      intro position argument found different
      exact worthTo_lt_of_nearer capped descending (applies.isCompatible found)
        ((near position argument found).resolve_left different)
    unfold SameTypes at same
    push Not at same
    obtain ⟨place, passed, isPassed, apart⟩ := same
    refine List.sum_lt_sum _ _ ?_ ⟨(passed, place), List.mk_mem_zipIdx_iff_getElem?.mpr isPassed,
      strict place passed isPassed apart⟩
    rintro ⟨argument, position⟩ member
    have found := List.mk_mem_zipIdx_iff_getElem?.mp member
    by_cases equal : lower.typeAt position = upper.typeAt position
    · exact Nat.le_of_eq (congrArg (worthTo level argument) equal.symm)
    · exact Nat.le_of_lt (strict position argument found equal)

theorem standing_lt_of_outranks {lower upper : Applicable}
    (applies : catalog.Applies candidates arguments upper)
    (outranks : catalog.Outranks arguments lower upper) :
    standing catalog level arguments upper < standing catalog level arguments lower := by
  unfold standing
  cases outranks with
  | form isNormal isExpanded =>
      rw [isNormal, isExpanded]
      exact Prod.Lex.toLex_lt_toLex.mpr (.inl Nat.zero_lt_one)
  | types sameForm near ahead =>
      rw [sameForm]
      refine Prod.Lex.toLex_lt_toLex.mpr (.inr ⟨rfl, Prod.Lex.toLex_lt_toLex.mpr ?_⟩)
      rcases totalWorth_of_asNear capped descending applies near with ⟨total, same⟩ | less
      · refine .inr ⟨total, Prod.Lex.toLex_lt_toLex.mpr ?_⟩
        rcases ahead same with longer | ⟨parameters, deeper⟩
        · exact .inl longer
        · exact .inr ⟨(length_of_parameterTypes parameters).symm, deeper⟩
      · exact .inl less

end Order

/-- Where links run in no circle, nothing is above the root and no entry has a scalar above it,
one of the candidates that take the arguments is unbeaten. -/
theorem Capped.exists_unbeaten (capped : catalog.Capped) (acyclic : catalog.Acyclic)
    {candidate : Applicable} (applies : catalog.Applies candidates arguments candidate) :
    ∃ best, catalog.Applies candidates arguments best ∧
      catalog.Unbeaten candidates arguments best := by
  obtain ⟨level, descending⟩ := acyclic
  obtain ⟨best, listed, top⟩ := Set.exists_max_image
    {listed | listed ∈ catalog.applicable candidates arguments}
    (standing catalog level arguments) (List.finite_toSet _) ⟨candidate, mem_applicable.mpr applies⟩
  have appliesBest := mem_applicable.mp listed
  refine ⟨best, appliesBest, fun rival appliesRival _ preferred => ?_⟩
  have above := standing_lt_of_outranks capped descending appliesBest
    ((outranks_iff appliesRival appliesBest).mp preferred)
  exact absurd above (not_lt_of_ge (top rival (mem_applicable.mpr appliesRival)))

end Catalog

end Formula
