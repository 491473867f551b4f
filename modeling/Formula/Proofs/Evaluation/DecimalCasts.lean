import Formula.Proofs.Decimal.Truncation
import Formula.Proofs.Evaluation.IntegerCasts

/-!
Casts between decimal numbers and integers or characters. A cast to an integer kind or to a
character cuts off the places and gives the value of the kind for the integer that is left, or
overflows: nothing that was wrapped and nothing that stands in for something else is given.
Characters count as numbers of 16 bits here, so that those beyond are out of reach.
-/

namespace Formula

namespace Value

/-- The values of a kind that a cast of a decimal number may give, as what the cast does: it gives
the one that stands for the number without its places, and overflows if there is none. -/
structure CastsExactly (kind : Scalar) (admitted : Value → Prop) (number : Decimal) : Prop where
  gives_iff (value : Value) : toKind (.decimal number) kind = .ok value ↔
    value.Denotes kind (towardZero number.value) ∧ admitted value
  overflows_iff : toKind (.decimal number) kind = .error .overflow ↔
    ¬∃ value : Value, value.Denotes kind (towardZero number.value) ∧ admitted value

variable {kind : Scalar} {number : Int} {value : Value}

theorem castInt_exact_iff (integral : kind.isIntegral = true) :
    castInt number kind = .ok value ∧ value.toInt? = some number ↔
      value.Denotes kind number ∧ ¬value.IsSupplementary := by
  rcases Scalar.eq_of_isIntegral integral with rfl | ⟨own, rfl⟩
  · constructor
    · rintro ⟨gives, isNumber⟩
      have fits : (characterOfUnit (number % 65536).toNat).toNat < 65536 :=
        toNat_characterOfUnit_lt (by omega)
      cases gives
      exact ⟨⟨rfl, isNumber⟩, fun beyond => absurd (isSupplementary_character.mp beyond) (by omega)⟩
    · rintro ⟨⟨isScalar, isNumber⟩, plain⟩
      cases value with
      | character char =>
          cases isNumber
          rw [isSupplementary_character, Nat.not_le] at plain
          exact ⟨(castInt_character_eq_iff rfl).mpr plain, rfl⟩
      | _ => cases isScalar
  · constructor
    · rintro ⟨gives, isNumber⟩
      cases gives
      exact ⟨⟨rfl, isNumber⟩, not_isSupplementary_integer _⟩
    · rintro ⟨⟨isScalar, isNumber⟩, -⟩
      cases value with
      | integer integer =>
          cases isScalar
          cases isNumber
          have gives : castInt integer.value (.integer integer.kind) =
              .ok (.integer (.wrap integer.kind integer.value)) := rfl
          rw [gives, integer.wrap_value]
          exact ⟨rfl, rfl⟩
      | _ => cases isScalar

theorem decimal_castsExactly (integral : kind.isIntegral = true) (decimal : Decimal) :
    CastsExactly kind (fun value => ¬value.IsSupplementary) decimal := by
  have notTruth : kind ≠ .boolean := by
    rintro rfl
    cases integral
  have notDecimal : kind ≠ .decimal := by
    rintro rfl
    cases integral
  obtain ⟨result, gives, -⟩ := castInt_ok decimal.toInt notTruth notDecimal
  have cast : toKind (.decimal decimal) kind =
      if result.toInt? = some decimal.toInt then .ok result else .error .overflow := by
    have checked : toKind (.decimal decimal) kind = castInt decimal.toInt kind >>= fun result =>
        if result.toInt? = some decimal.toInt then .ok result else .error .overflow := by
      rcases Scalar.eq_of_isIntegral integral with rfl | ⟨own, rfl⟩ <;> rfl
    rw [checked, gives]
    rfl
  have kept_iff (value : Value) : toKind (.decimal decimal) kind = .ok value ↔
      castInt decimal.toInt kind = .ok value ∧ value.toInt? = some decimal.toInt := by
    rw [cast, gives, Except.ok.injEq]
    by_cases kept : result.toInt? = some decimal.toInt
    · rw [if_pos kept, Except.ok.injEq]
      exact ⟨fun same => ⟨same, same ▸ kept⟩, And.left⟩
    · rw [if_neg kept]
      refine iff_of_false nofun ?_
      rintro ⟨rfl, isKept⟩
      exact kept isKept
  have gives_iff (value : Value) : toKind (.decimal decimal) kind = .ok value ↔
      value.Denotes kind (towardZero decimal.value) ∧ ¬value.IsSupplementary := by
    rw [kept_iff, castInt_exact_iff integral, decimal.toInt_eq_towardZero]
  refine ⟨gives_iff, ?_⟩
  simp only [← gives_iff]
  rw [cast]
  split
  · exact iff_of_false nofun fun none => none ⟨_, rfl⟩
  · exact iff_of_true rfl nofun

theorem natAbs_lt_of_denotes (integral : kind.isIntegral = true)
    (denotes : value.Denotes kind number) : number.natAbs < 2 ^ 64 := by
  rcases Scalar.eq_of_isIntegral integral with rfl | ⟨own, rfl⟩
  · have covers : IntegerKind.int32.covers .character = true := by decide
    exact IntegerKind.natAbs_lt_of_holds (IntegerKind.holds_of_denotes covers denotes)
  · exact IntegerKind.natAbs_lt_of_holds (IntegerKind.holds_of_denotes own.covers_self denotes)

theorem castInt_decimal (fits : number.natAbs < 2 ^ 64) :
    ∃ decimal : Decimal, castInt number .decimal = .ok (.decimal decimal) ∧
      decimal.value = number := by
  have inside : number.natAbs < 1 <<< 96 := fits.trans (by decide)
  obtain ⟨decimal, made, isNumber⟩ := Decimal.ofInt?_of_natAbs_lt inside
  refine ⟨decimal, ?_, isNumber⟩
  unfold castInt
  rw [made]
  rfl

/-- A cast to an integer or a character gives the number without its places, if the kind has it
within its bits, and overflows otherwise; and just the values within these bits come back from a
cast to decimal numbers. -/
theorem decimalCasts_exact (integral : kind.isIntegral = true) :
    (∀ decimal, CastsExactly kind (fun value => ¬value.IsSupplementary) decimal) ∧
      ∀ value : Value, value.scalar? = some kind →
        ((value.toKind .decimal >>= fun between => between.toKind kind) = .ok value ↔
          ¬value.IsSupplementary) := by
  refine ⟨decimal_castsExactly integral, fun value isScalar => ?_⟩
  obtain ⟨number, denotes⟩ := exists_denotes integral isScalar
  obtain ⟨decimal, made, isDecimal⟩ := castInt_decimal (natAbs_lt_of_denotes integral denotes)
  have into : value.toKind .decimal = .ok (.decimal decimal) := by
    have different : value.scalar? ≠ some .decimal := by
      rw [isScalar]
      rintro ⟨⟩
      cases integral
    unfold toKind
    rw [if_neg different, denotes.toInt_eq]
    exact made
  rw [into]
  change toKind (.decimal decimal) kind = .ok value ↔ _
  rw [(decimal_castsExactly integral decimal).gives_iff, isDecimal, towardZero_intCast]
  exact and_iff_right denotes

theorem decimalCasts_exact_least :
    (Scalar.integer .int8).isIntegral = true ∧
      toKind (.decimal ⟨true, 1289, 1, by decide, by decide⟩) (.integer .int8) =
        .ok (.integer (.least .int8)) := by
  refine ⟨rfl, (((decimalCasts_exact rfl).1 _).gives_iff _).mpr ⟨⟨rfl, ?_⟩, ?_⟩⟩
  · rw [← Decimal.toInt_eq_towardZero]
    rfl
  · exact not_isSupplementary_integer _

/-- A character beyond 16 bits is the one that stands for its number, and is not given. -/
theorem not_castsExactly_supplementary :
    ¬CastsExactly .character (fun _ => True) (.whole false 0x1f600 (by decide)) := by
  intro casts
  have denotes : (Value.character (Char.ofNat 0x1f600)).Denotes .character
      (towardZero (Decimal.whole false 0x1f600 (by decide)).value) := by
    rw [← Decimal.toInt_eq_towardZero]
    exact ⟨rfl, rfl⟩
  have given := (casts.gives_iff _).mpr ⟨denotes, trivial⟩
  have overflows : toKind (.decimal (.whole false 0x1f600 (by decide))) .character =
      .error .overflow := rfl
  rw [overflows] at given
  cases given

end Value

end Formula
