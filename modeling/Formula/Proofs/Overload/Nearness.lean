import Formula.Proofs.Overload.Preference
import Formula.Proofs.Soundness.Conversions

/-!
Nearness among the types that an argument can be passed for is a strict order where the hierarchy
is graded: what a type reaches it reaches through every type in between, and scalars that widen to
each other fit into that. Of types that no argument can be passed for alike this does not hold.
-/

namespace Formula

theorem Scalar.mem_all (kind : Scalar) : kind ∈ all := by
  cases kind with
  | integer kind => cases kind <;> decide
  | _ => decide

theorem Scalar.widenings_trans {narrow middle : Scalar} (lower : middle ∈ narrow.widenings) :
    ∀ wide ∈ middle.widenings, wide ∈ narrow.widenings := by
  revert middle
  cases narrow with
  | integer kind => cases kind <;> decide
  | _ => decide

theorem DataType.widensTo_trans {source middle target : DataType}
    (lower : source.widensTo middle = true) (upper : middle.widensTo target = true) :
    source.widensTo target = true := by
  rcases widensTo_cases lower with ⟨narrow, kind, rfl, rfl, widens⟩ | ⟨rfl, rfl⟩
  · rcases widensTo_cases upper with ⟨other, wide, same, rfl, further⟩ | ⟨impossible, _⟩
    · cases ofScalar_injective same
      unfold widensTo
      simp only [scalar?_ofScalar, List.contains_iff_mem]
      exact Scalar.widenings_trans widens wide further
    · have scalar := scalar?_ofScalar kind
      rw [impossible] at scalar
      cases scalar
  · exact upper

namespace Catalog

variable {catalog : Catalog}

theorem eq_of_isAssignable_nullable {source target : DataType} (marked : target.nullable = true)
    (assignable : catalog.isAssignable target source = true) :
    target = source ∨ source = { target with nullable := false } := by
  suffices ofRank : ∀ rank source target, target.rank = rank → target.nullable = true →
      catalog.isAssignable target source = true →
      target = source ∨ source = { target with nullable := false } from
    ofRank target.rank source target rfl marked assignable
  clear marked assignable
  intro rank
  induction rank with
  | zero =>
      intro source target isRank marked assignable
      rcases isAssignable_cases assignable with same | rfl | ⟨isNullable, same⟩ |
        ⟨element, _, isElement, _, _⟩ | ⟨plain, _⟩
      · exact .inl same
      · cases marked
      · right
        rw [← same, DataType.underlying, if_pos isNullable, isRank]
        rfl
      · rw [DataType.eq_arrayOf isElement] at isRank
        cases isRank
      · rw [plain] at marked
        cases marked
  | succ rank ih =>
      intro source target isRank marked assignable
      have isArray : target.isArray = true := by
        unfold DataType.isArray
        rw [isRank]
        exact decide_eq_true (Nat.succ_pos rank)
      rcases isAssignable_isArray assignable isArray with
        same | ⟨element, own, isElement, isOwn, step⟩
      · exact .inl same
      · have isTarget := DataType.eq_arrayOf isElement
        have isSource := DataType.eq_arrayOf isOwn
        subst isTarget isSource
        rcases ih own element (Nat.succ.inj isRank) marked step.2 with same | same
        · exact .inl (congrArg DataType.arrayOf same)
        · exact .inr (congrArg DataType.arrayOf same)

/-- In an orderly catalog, what can be used as a type can be used as whatever that type can be
used as, unless this adds a mark for null. -/
theorem Orderly.isAssignable_trans (orderly : catalog.Orderly) {source middle target : DataType}
    (unmarked : target.nullable = false) (lower : catalog.isAssignable middle source = true)
    (upper : catalog.isAssignable target middle = true) :
    catalog.isAssignable target source = true := by
  suffices ofRank : ∀ rank source middle target, target.rank = rank → target.nullable = false →
      catalog.isAssignable middle source = true → catalog.isAssignable target middle = true →
      catalog.isAssignable target source = true from
    ofRank target.rank source middle target rfl unmarked lower upper
  clear unmarked lower upper
  intro rank
  induction rank with
  | zero =>
      intro source middle target isRank unmarked lower upper
      rcases isAssignable_cases upper with rfl | rfl | ⟨isNullable, _⟩ |
        ⟨element, _, isElement, _, _⟩ | ⟨plain, reached⟩
      · exact lower
      · exact isAssignable_object source
      · unfold DataType.isNullable at isNullable
        rw [unmarked, Bool.and_false] at isNullable
        cases isNullable
      · rw [DataType.eq_arrayOf isElement] at isRank
        cases isRank
      · rcases isAssignable_cases lower with rfl | rfl | ⟨isNullable, rfl⟩ |
          ⟨element, own, isElement, isOwn, _⟩ | ⟨middlePlain, below⟩
        · exact upper
        · rw [orderly.eq_object_of_reaches reached]
          exact isAssignable_object source
        · by_cases same : middle = target
          · rw [← same]
            exact lower
          · -- The interfaces of a marked type are those of the type without the mark.
            rcases reaches_of_marked isNullable same reached with above | isInterface
            · rw [orderly.eq_object_of_reaches above]
              exact isAssignable_object _
            · refine isAssignable_of_reaches plain
                (reaches_of_mem (mem_baseChain_self _) ?_)
              rw [DataType.underlying, if_pos isNullable]
              exact .inr ⟨rfl, isInterface⟩
        · exact isAssignable_of_reaches plain (reaches_of_isArray
            (isArray_of_element? isElement) (isArray_of_element? isOwn) plain reached)
        · exact isAssignable_of_reaches plain (orderly.reaches_trans middlePlain below reached)
  | succ rank ih =>
      intro source middle target isRank unmarked lower upper
      have isArray : target.isArray = true := by
        unfold DataType.isArray
        rw [isRank]
        exact decide_eq_true (Nat.succ_pos rank)
      rcases isAssignable_isArray upper isArray with
        rfl | ⟨element, own, isElement, isOwn, step⟩
      · exact lower
      · have isTarget := DataType.eq_arrayOf isElement
        have isMiddle := DataType.eq_arrayOf isOwn
        subst isTarget isMiddle
        rcases isAssignable_isArray lower (isArray_of_element? isOwn) with
          rfl | ⟨_, first, same, isFirst, below⟩
        · exact upper
        · cases same
          rw [DataType.eq_arrayOf isFirst]
          exact isAssignable_arrayOf
            ⟨below.1, ih first own element (Nat.succ.inj isRank) unmarked below.2 step.2⟩

/-- The hierarchy is orderly, and scalars fit into it: no entry has one above it, and where one
widens to another, it reaches all that is above the wider one. -/
structure Graded (catalog : Catalog) : Prop where
  orderly : catalog.Orderly
  scalars : ∀ entry ∈ catalog.entries, ∀ parent, entry.Above parent → parent.scalar? = none
  widened : ∀ narrow wide, wide ∈ Scalar.widenings narrow → ∀ id,
    catalog.reaches (.plain id) (.ofScalar wide) = true →
      id = .ofScalar wide ∨ catalog.reaches (.plain id) (.ofScalar narrow) = true

/-- One type turns into another without a cast, between scalars by widening. -/
def Leads (catalog : Catalog) (narrow wide : DataType) : Bool :=
  if isTableScalar narrow && isTableScalar wide then narrow.widensTo wide
  else catalog.isAssignable wide narrow

/-- The first of two types is nearer to the type of an argument. -/
def Nearer (catalog : Catalog) (argument first second : DataType) : Prop :=
  catalog.nearerType first second argument = .first

theorem nearer_iff {argument first second : DataType} :
    catalog.Nearer argument first second ↔ first ≠ second ∧ (first = argument ∨
      (second ≠ argument ∧ catalog.Leads first second = true ∧
        catalog.Leads second first = false)) := by
  have pair : (if isTableScalar first && isTableScalar second then
        (second.widensTo first, first.widensTo second)
      else (catalog.isAssignable first second, catalog.isAssignable second first)) =
      (catalog.Leads second first, catalog.Leads first second) := by
    unfold Leads
    rw [Bool.and_comm (isTableScalar second)]
    split <;> rfl
  unfold Nearer nearerType
  rw [pair]
  by_cases same : first = second
  · simp [same]
  · by_cases atFirst : first = argument
    · subst atFirst
      simp [same]
    · by_cases atSecond : second = argument
      · subst atSecond
        simp [same]
      · simp only [beq_iff_eq, same, atFirst, atSecond, if_false]
        cases catalog.Leads second first <;> cases catalog.Leads first second <;>
          simp [same, atSecond]

theorem Nearer.asymm {argument first second : DataType}
    (nearer : catalog.Nearer argument first second) :
    ¬catalog.Nearer argument second first := by
  unfold Nearer at nearer ⊢
  rw [catalog.nearerType_swap first second, nearer]
  exact Preference.noConfusion

theorem isAssignable_of_isCompatible {parameter argument : DataType}
    (compatible : catalog.isCompatible parameter argument = true)
    (notScalar : parameter.scalar? = none) :
    catalog.isAssignable parameter argument = true := by
  unfold isCompatible at compatible
  rw [notScalar, Bool.or_eq_true, Bool.or_eq_true, beq_iff_eq] at compatible
  rcases compatible with (same | root) | assignable
  · rw [same]
    exact isAssignable_refl argument
  · rw [eq_of_beq root]
    exact isAssignable_object argument
  · exact assignable

theorem exists_scalar_of_isTableScalar {type : DataType} (isTable : isTableScalar type = true) :
    ∃ kind, type = .ofScalar kind := by
  unfold isTableScalar at isTable
  rw [Option.any_eq_true_iff_get] at isTable
  obtain ⟨isSome, _⟩ := isTable
  obtain ⟨kind, isKind⟩ := Option.isSome_iff_exists.mp isSome
  exact ⟨kind, DataType.eq_ofScalar isKind⟩

theorem eq_of_isAssignable_unlisted {source : DataType} {kind : Scalar}
    (unlisted : ∀ entry ∈ catalog.entries, ¬entry.Above (.ofScalar kind))
    (assignable : catalog.isAssignable (.ofScalar kind) source = true) :
    source = .ofScalar kind := by
  have isScalar := DataType.scalar?_ofScalar kind
  rcases isAssignable_cases assignable with same | root | ⟨isNullable, _⟩ |
    ⟨_, _, isElement, _⟩ | ⟨plain, reached⟩
  · exact same.symm
  · rw [root] at isScalar
    cases isScalar
  · cases isNullable
  · cases isElement
  · rcases reaches_cases plain reached with same | ⟨_, arrays⟩ | root |
      ⟨id, entry, parent, found, above, isParent⟩
    · exact same.symm
    · rw [arrays] at isScalar
      cases isScalar
    · rw [root] at isScalar
      cases isScalar
    · cases congrArg DataType.id isParent
      exact absurd above (unlisted entry (find?_mem found).1)

theorem scalar?_of_nullable {type : DataType} (marked : type.nullable = true) :
    type.scalar? = none := by
  unfold DataType.scalar?
  rw [marked, if_neg]
  rintro ⟨_, impossible⟩
  cases impossible

theorem isTableScalar_of_nullable {type : DataType} (marked : type.nullable = true) :
    isTableScalar type = false := by
  unfold isTableScalar
  rw [scalar?_of_nullable marked]
  rfl

/-- It is enough that scalars have nothing but the root above them and nothing below. -/
theorem Graded.of_bare (orderly : catalog.Orderly)
    (scalars : ∀ entry ∈ catalog.entries, ∀ parent ∈ entry.base.toList ++ entry.interfaces,
      parent.scalar? = none)
    (bare : ∀ kind ∈ Scalar.all, catalog.base? (.ofScalar kind) = some .object ∧
      catalog.directInterfaces (.ofScalar kind) = []) : catalog.Graded where
  orderly := orderly
  scalars entry listed parent above := by
    refine scalars entry listed parent ?_
    rw [List.mem_append]
    rcases above with isBase | isInterface
    · exact .inl (Option.mem_toList.mpr isBase)
    · exact .inr isInterface
  widened narrow wide _ id reached := by
    obtain ⟨base, nothing⟩ := bare wide wide.mem_all
    obtain ⟨type, member, arrives⟩ := reaches_iff.mp reached
    rw [baseChain_of_base base, List.mem_cons] at member
    rcases member with rfl | member
    · rcases arrives with same | ⟨_, implements⟩
      · exact .inl (congrArg DataType.id same).symm
      · exact absurd implements (not_implements_of_none nothing _)
    · right
      have longer := catalog.baseChain_prefix (Nat.sub_le chainLimit 1) .object
      have isRoot := orderly.eq_object_of_reaches (reaches_of_mem (longer.subset member) arrives)
      have isTop : DataType.object ∈ catalog.baseChain (chainLimit - 1) .object := by
        rw [show chainLimit - 1 = 62 + 1 from rfl, baseChain]
        split <;> exact List.mem_cons_self ..
      have isAbove : DataType.object ∈ catalog.baseChain chainLimit (.ofScalar narrow) := by
        rw [baseChain_of_base (bare narrow narrow.mem_all).1]
        exact List.mem_cons_of_mem _ isTop
      rw [isRoot]
      exact reaches_of_mem isAbove (.inl rfl)

namespace Graded

variable (graded : catalog.Graded)

include graded

theorem eq_of_isAssignable_scalar {source : DataType} {kind : Scalar}
    (assignable : catalog.isAssignable (.ofScalar kind) source = true) :
    source = .ofScalar kind := by
  refine eq_of_isAssignable_unlisted (fun entry listed above => ?_) assignable
  have none := graded.scalars entry listed _ above
  rw [TypeId.scalar?_ofScalar] at none
  cases none

/-- What a scalar can be used as, the scalars that widen to it can be used as. -/
theorem isAssignable_of_widens {narrow wide : Scalar} {target : DataType}
    (widens : wide ∈ narrow.widenings) (unmarked : target.nullable = false)
    (different : target ≠ .ofScalar wide)
    (assignable : catalog.isAssignable target (.ofScalar wide) = true) :
    catalog.isAssignable target (.ofScalar narrow) = true := by
  rcases isAssignable_cases assignable with same | rfl | ⟨isNullable, _⟩ |
    ⟨_, _, _, isOwn, _⟩ | ⟨plain, reached⟩
  · exact absurd same different
  · exact isAssignable_object _
  · unfold DataType.isNullable at isNullable
    rw [unmarked, Bool.and_false] at isNullable
    cases isNullable
  · cases isOwn
  · rw [plain] at reached
    rcases graded.widened narrow wide widens target.id reached with same | reached
    · rw [plain, same] at different
      exact absurd rfl different
    · rw [← plain] at reached
      exact isAssignable_of_reaches plain reached

theorem leads_trans_unmarked {first second third : DataType} (unmarked : third.nullable = false)
    (lower : catalog.Leads first second = true) (upper : catalog.Leads second third = true) :
    catalog.Leads first third = true := by
  have eq_of_table : ∀ {source target : DataType}, isTableScalar target = true →
      catalog.isAssignable target source = true → source = target := by
    intro source target isTable assignable
    obtain ⟨kind, rfl⟩ := exists_scalar_of_isTableScalar isTable
    exact graded.eq_of_isAssignable_scalar assignable
  unfold Leads at lower upper ⊢
  by_cases isSecond : isTableScalar second = true
  · by_cases isFirst : isTableScalar first = true
    · rw [isFirst, isSecond] at lower
      by_cases isThird : isTableScalar third = true
      · rw [isSecond, isThird] at upper
        rw [isFirst, isThird]
        exact DataType.widensTo_trans lower upper
      · rw [Bool.not_eq_true] at isThird
        simp only [isThird, Bool.and_false, Bool.false_eq_true, if_false] at upper ⊢
        rcases DataType.widensTo_cases lower with ⟨narrow, wide, rfl, rfl, widens⟩ | ⟨rfl, rfl⟩
        · refine graded.isAssignable_of_widens widens unmarked ?_ upper
          rintro rfl
          rw [isSecond] at isThird
          cases isThird
        · exact upper
    · rw [Bool.not_eq_true] at isFirst
      simp only [isFirst, Bool.false_and, Bool.false_eq_true, if_false] at lower
      rw [eq_of_table isSecond lower, isSecond] at isFirst
      cases isFirst
  · rw [Bool.not_eq_true] at isSecond
    simp only [isSecond, Bool.and_false, Bool.false_and, Bool.false_eq_true, if_false]
      at lower upper
    by_cases isThird : isTableScalar third = true
    · rw [eq_of_table isThird upper, isThird] at isSecond
      cases isSecond
    · rw [Bool.not_eq_true] at isThird
      simp only [isThird, Bool.and_false, Bool.false_eq_true, if_false]
      exact graded.orderly.isAssignable_trans unmarked lower upper

/-- Among the types that an argument can be passed for and that are not its own. -/
theorem leads_trans {argument first second third : DataType}
    (fits : catalog.isCompatible third argument = true) (notSecond : second ≠ argument)
    (notThird : third ≠ argument) (lower : catalog.Leads first second = true)
    (upper : catalog.Leads second third = true) : catalog.Leads first third = true := by
  cases marked : third.nullable with
  | false => exact graded.leads_trans_unmarked marked lower upper
  | true =>
      -- A marked type takes the argument only if that is the type without the mark.
      unfold Leads at upper
      rw [isTableScalar_of_nullable marked, Bool.and_false, if_neg Bool.false_ne_true] at upper
      rcases eq_of_isAssignable_nullable marked upper with rfl | isSecond
      · exact lower
      · rcases eq_of_isAssignable_nullable marked
          (isAssignable_of_isCompatible fits (scalar?_of_nullable marked)) with same | isArgument
        · exact absurd same notThird
        · exact absurd (isSecond.trans isArgument.symm) notSecond

theorem nearer_trans {argument first second third : DataType}
    (fitsFirst : catalog.isCompatible first argument = true)
    (fitsSecond : catalog.isCompatible second argument = true)
    (fitsThird : catalog.isCompatible third argument = true)
    (lower : catalog.Nearer argument first second)
    (upper : catalog.Nearer argument second third) : catalog.Nearer argument first third := by
  rw [nearer_iff] at lower upper ⊢
  obtain ⟨different, nearer⟩ := lower
  obtain ⟨further, upper⟩ := upper
  rcases upper with rfl | ⟨notThird, leadsUp, noWayDown⟩
  · rcases nearer with same | ⟨notSecond, _⟩
    · exact absurd same different
    · exact absurd rfl notSecond
  · rcases nearer with rfl | ⟨notSecond, leads, _⟩
    · exact ⟨fun same => notThird same.symm, .inl rfl⟩
    · by_cases notFirst : first = argument
      · exact ⟨fun same => notThird (same ▸ notFirst), .inl notFirst⟩
      · have wayBack : catalog.Leads third first = false := by
          rw [← Bool.not_eq_true]
          intro back
          have cycle := graded.leads_trans fitsSecond notFirst notSecond back leads
          rw [noWayDown] at cycle
          cases cycle
        refine ⟨?_, .inr ⟨notThird, graded.leads_trans fitsThird notSecond notThird leads leadsUp,
          wayBack⟩⟩
        rintro rfl
        rw [leads] at noWayDown
        cases noWayDown

end Graded

end Catalog

end Formula
