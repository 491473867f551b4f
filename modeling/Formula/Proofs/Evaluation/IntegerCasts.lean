import Formula.Proofs.Soundness.Conversions

/-!
Casts between integers and characters. A cast to an integer kind keeps the residue, so that a
detour through a kind at least as wide changes nothing. Widening, which takes no cast, keeps the
number itself, but for characters beyond the 16 bits that a character has as a number.
-/

namespace Formula

namespace Scalar

theorem isIntegral_of_widenings {narrow wide : Scalar} (widens : wide ∈ narrow.widenings)
    (integral : wide.isIntegral = true) : narrow.isIntegral = true := by
  revert wide
  cases narrow with
  | integer | character => exact fun _ _ => rfl
  | boolean | single | double | decimal => decide

/-- An integer kind holds all that widens to it, but for characters in 16 bits. -/
theorem covers_of_widenings {narrow : Scalar} {kind : IntegerKind}
    (widens : .integer kind ∈ narrow.widenings)
    (roomy : ¬(narrow = .character ∧ kind = .uint16)) : kind.covers narrow = true := by
  revert widens roomy
  cases narrow with
  | integer own => cases own <;> cases kind <;> decide
  | boolean | character | single | double | decimal => cases kind <;> decide

theorem width_of_widenings {kind : IntegerKind}
    (widens : .integer kind ∈ character.widenings) : 16 ≤ kind.width := by
  revert widens
  cases kind <;> decide

theorem eq_uint8_of_widenings {own : IntegerKind}
    (widens : character ∈ (integer own).widenings) : own = .uint8 := by
  revert widens
  cases own <;> decide

end Scalar

namespace Value

theorem exists_denotes {value : Value} {kind : Scalar} (integral : kind.isIntegral = true)
    (isScalar : value.scalar? = some kind) : ∃ number, value.Denotes kind number := by
  have hasWidth : kind.width?.isSome = true := by
    rcases Scalar.eq_of_isIntegral integral with rfl | ⟨own, rfl⟩ <;> rfl
  obtain ⟨number, isNumber⟩ := toInt?_of_width isScalar hasWidth
  exact ⟨number, isScalar, isNumber⟩

theorem toKind_ofInteger (number : Integer) (kind : IntegerKind) :
    toKind (.integer number) (.integer kind) = .ok (.integer (.wrap kind number.value)) := by
  have denotes : (Value.integer number).Denotes (.integer number.kind) number.value := ⟨rfl, rfl⟩
  exact toKind_integer denotes kind

/-- A cast of an integer gives the only integer of the kind with its residue, and an intermediate
cast to a kind at least as wide does not matter. -/
theorem toKind_modular (number : Integer) (kind : IntegerKind) :
    (∃ result : Integer, toKind (.integer number) (.integer kind) = .ok (.integer result) ∧
      ∀ other : Integer, other = result ↔
        other.kind = kind ∧ other.value ≡ number.value [ZMOD 2 ^ kind.width]) ∧
    ∀ middle : IntegerKind, kind.width ≤ middle.width →
      (toKind (.integer number) (.integer middle) >>= fun between =>
          between.toKind (.integer kind)) =
        toKind (.integer number) (.integer kind) := by
  constructor
  · refine ⟨_, toKind_ofInteger number kind, fun other => ?_⟩
    constructor
    · rintro rfl
      exact ⟨rfl, kind.wrap_modEq number.value⟩
    · rintro ⟨rfl, congruent⟩
      rw [← Integer.wrap_congr congruent, other.wrap_value]
  · intro middle fits
    rw [toKind_ofInteger, toKind_ofInteger]
    change toKind (.integer (.wrap middle number.value)) (.integer kind) = _
    have residue : middle.wrap number.value ≡ number.value [ZMOD 2 ^ kind.width] :=
      (middle.wrap_modEq number.value).of_dvd (pow_dvd_pow 2 fits)
    rw [toKind_ofInteger, ← Integer.wrap_congr residue]
    rfl

theorem toKind_modular_least :
    IntegerKind.int16.width ≤ IntegerKind.uint64.width ∧
      (toKind (.integer (.least .int64)) (.integer .uint64) >>= fun between =>
          between.toKind (.integer .int16)) =
        toKind (.integer (.least .int64)) (.integer .int16) :=
  ⟨by decide, (toKind_modular (.least .int64) .int16).2 .uint64 (by decide)⟩

def IsSupplementary (value : Value) : Prop :=
  ∃ char : Char, value = .character char ∧ 65536 ≤ char.toNat

theorem isSupplementary_character {char : Char} :
    IsSupplementary (.character char) ↔ 65536 ≤ char.toNat := by
  constructor
  · rintro ⟨_, same, beyond⟩
    cases same
    exact beyond
  · exact fun beyond => ⟨char, rfl, beyond⟩

theorem not_isSupplementary_integer (number : Integer) :
    ¬IsSupplementary (.integer number) := by
  rintro ⟨_, impossible, _⟩
  cases impossible

theorem toNat_characterOfUnit {unit : Nat} (valid : unit.isValidChar) :
    (characterOfUnit unit).toNat = unit := by
  unfold characterOfUnit Char.ofNat
  rw [if_pos valid, dif_pos valid]
  rfl

theorem characterOfUnit_toNat (char : Char) : characterOfUnit char.toNat = char := by
  have valid : char.toNat.isValidChar := char.valid
  unfold characterOfUnit
  rw [if_pos valid, Char.ofNat_toNat]

theorem toNat_characterOfUnit_lt {unit : Nat} (fits : unit < 65536) :
    (characterOfUnit unit).toNat < 65536 := by
  by_cases valid : unit.isValidChar
  · rwa [toNat_characterOfUnit valid]
  · unfold characterOfUnit
    rw [if_neg valid]
    decide

theorem castInt_character_eq_iff {number : Int} {char : Char}
    (congruent : number ≡ char.toNat [ZMOD 65536]) :
    castInt number .character = .ok (.character char) ↔ char.toNat < 65536 := by
  have unit : (number % 65536).toNat = char.toNat % 65536 := by
    rw [congruent]
    rfl
  have cast : castInt number .character =
      .ok (.character (characterOfUnit (char.toNat % 65536))) := by
    rw [← unit]
    rfl
  rw [cast, Except.ok.injEq, character.injEq]
  constructor
  · intro same
    rw [← same]
    exact toNat_characterOfUnit_lt (Nat.mod_lt _ (by decide))
  · intro fits
    rw [Nat.mod_eq_of_lt fits, characterOfUnit_toNat]

/-- What becomes of a value that stands for a number when its kind is widened: the number and,
after a cast back, the value are kept, but for characters beyond 16 bits. -/
structure WidensTo (value : Value) (narrow wide : Scalar) (number : Int) (result : Value) :
    Prop where
  cast : value.toKind wide = .ok result
  scalar_eq : result.scalar? = some wide
  toInt_eq_iff :
    result.toInt? = some number ↔ ¬(value.IsSupplementary ∧ wide = .integer .uint16)
  castBack_iff :
    result.toKind narrow = .ok value ↔ ¬(value.IsSupplementary ∧ wide ≠ .character)

variable {value : Value} {number : Int}

theorem widensTo_of_kept {narrow wide : Scalar} {result : Value}
    (cast : value.toKind wide = .ok result) (denotes : result.Denotes wide number)
    (back : result.toKind narrow = .ok value)
    (plain : value.IsSupplementary → wide = .character) :
    value.WidensTo narrow wide number result where
  cast := cast
  scalar_eq := denotes.scalar_eq
  toInt_eq_iff := iff_of_true denotes.toInt_eq fun beyond => by
    cases (plain beyond.1).symm.trans beyond.2
  castBack_iff := iff_of_true back fun beyond => beyond.2 (plain beyond.1)

theorem widensTo_self {kind : Scalar} (denotes : value.Denotes kind number) :
    value.WidensTo kind kind number value := by
  have same := toKind_same denotes.scalar_eq
  refine widensTo_of_kept same denotes same ?_
  rintro ⟨char, rfl, _⟩
  exact (Option.some.inj denotes.scalar_eq).symm

theorem widensTo_integer {own : Integer} {kind : IntegerKind}
    (covers : kind.covers (.integer own.kind) = true) :
    WidensTo (.integer own) (.integer own.kind) (.integer kind) own.value
      (.integer (.wrap kind own.value)) := by
  have denotes : (Value.integer own).Denotes (.integer own.kind) own.value := ⟨rfl, rfl⟩
  have holds := IntegerKind.holds_of_denotes covers denotes
  refine widensTo_of_kept (toKind_ofInteger own kind) (denotes_wrap holds) ?_ fun beyond =>
    absurd beyond (not_isSupplementary_integer own)
  rw [toKind_integer (denotes_wrap holds), own.wrap_value]

theorem widensTo_character {own : Integer} (isByte : own.kind = .uint8) :
    WidensTo (.integer own) (.integer own.kind) .character own.value
      (.character (characterOfUnit (own.value % 65536).toNat)) := by
  have bounds : IntegerKind.uint8.Holds own.value := isByte ▸ own.holds
  obtain ⟨nonneg, below⟩ : 0 ≤ own.value ∧ own.value ≤ 255 := bounds
  have cast : toKind (.integer own) .character =
      .ok (.character (characterOfUnit (own.value % 65536).toNat)) := rfl
  generalize isUnit : (own.value % 65536).toNat = unit at cast ⊢
  have kept : (unit : Int) = own.value := by omega
  have asUnit : (characterOfUnit unit).toNat = unit := toNat_characterOfUnit (.inl (by omega))
  have denotes : (Value.character (characterOfUnit unit)).Denotes .character own.value :=
    ⟨rfl, congrArg some ((congrArg Nat.cast asUnit).trans kept)⟩
  refine widensTo_of_kept cast denotes ?_ fun _ => rfl
  rw [toKind_integer denotes, own.wrap_value]

/-- 16 bits are too few for some characters, and all that a cast back looks at. -/
theorem widensTo_ofCharacter {char : Char} {kind : IntegerKind}
    (widens : .integer kind ∈ Scalar.character.widenings) :
    WidensTo (.character char) .character (.integer kind) char.toNat
      (.integer (.wrap kind char.toNat)) := by
  have denotes : (Value.character char).Denotes .character char.toNat := ⟨rfl, rfl⟩
  refine ⟨toKind_integer denotes kind, rfl, ?_, ?_⟩
  · rw [isSupplementary_character]
    by_cases narrow : kind = .uint16
    · subst narrow
      have kept : some ((char.toNat : Int) % 65536) = some (char.toNat : Int) ↔
          ¬(65536 ≤ char.toNat ∧ Scalar.integer .uint16 = .integer .uint16) := by
        rw [Option.some.injEq, and_iff_left rfl]
        omega
      exact kept
    · have covers := Scalar.covers_of_widenings widens fun roomless => narrow roomless.2
      have kept := IntegerKind.wrap_of_holds (IntegerKind.holds_of_denotes covers denotes)
      exact iff_of_true (congrArg some kept) fun beyond => narrow (Scalar.integer.inj beyond.2)
  · have residue : kind.wrap char.toNat ≡ char.toNat [ZMOD 65536] :=
      (kind.wrap_modEq char.toNat).of_dvd (pow_dvd_pow 2 (Scalar.width_of_widenings widens))
    have cast : toKind (.integer (.wrap kind char.toNat)) .character =
        castInt (kind.wrap char.toNat) .character := rfl
    rw [isSupplementary_character, cast, castInt_character_eq_iff residue]
    simp only [ne_eq, reduceCtorEq, not_false_eq_true, and_true, Nat.not_le]

/-- Widening to an integer or a character keeps the number behind a value and can be taken back,
with one exception: a character beyond 16 bits is cut down to them where it widens to unsigned
integers of 16 bits, and where any integer is cast back to a character. -/
theorem widening_preserves_iff {narrow wide : Scalar}
    (widens : (DataType.ofScalar narrow).widensTo (.ofScalar wide) = true)
    (integral : wide.isIntegral = true) (isScalar : value.scalar? = some narrow) :
    ∃ number result, value.toInt? = some number ∧ value.WidensTo narrow wide number result := by
  have listed : wide ∈ narrow.widenings := by
    unfold DataType.widensTo at widens
    rwa [DataType.scalar?_ofScalar, DataType.scalar?_ofScalar, List.contains_iff_mem] at widens
  have integralNarrow := Scalar.isIntegral_of_widenings listed integral
  by_cases same : narrow = wide
  · subst same
    obtain ⟨number, denotes⟩ := exists_denotes integral isScalar
    exact ⟨number, value, denotes.toInt_eq, widensTo_self denotes⟩
  · cases value with
    | integer own =>
        cases isScalar
        rcases Scalar.eq_of_isIntegral integral with rfl | ⟨kind, rfl⟩
        · exact ⟨_, _, rfl, widensTo_character (Scalar.eq_uint8_of_widenings listed)⟩
        · exact ⟨_, _, rfl, widensTo_integer (Scalar.covers_of_widenings listed nofun)⟩
    | character char =>
        cases isScalar
        rcases Scalar.eq_of_isIntegral integral with rfl | ⟨kind, rfl⟩
        · exact absurd rfl same
        · exact ⟨_, _, rfl, widensTo_ofCharacter listed⟩
    | boolean | single | double | decimal =>
        cases isScalar
        cases integralNarrow
    | null | text | enumeration | array | object | function => cases isScalar

theorem widening_preserves_iff_beyond :
    (DataType.ofScalar .character).widensTo (.ofScalar (.integer .uint16)) = true ∧
      (DataType.ofScalar .character).widensTo (.ofScalar (.integer .int32)) = true ∧
      IsSupplementary (.character (Char.ofNat 0x1f600)) ∧
      (∃ result, toKind (.character (Char.ofNat 0x1f600)) (.integer .uint16) = .ok result ∧
        result.toInt? ≠ some 0x1f600) ∧
      ∃ result, toKind (.character (Char.ofNat 0x1f600)) (.integer .int32) = .ok result ∧
        result.toInt? = some 0x1f600 ∧
        result.toKind .character ≠ .ok (.character (Char.ofNat 0x1f600)) := by
  have beyond : IsSupplementary (.character (Char.ofNat 0x1f600)) := ⟨_, rfl, by decide⟩
  refine ⟨by decide, by decide, beyond, ?_, ?_⟩
  · obtain ⟨number, result, isNumber, widens⟩ := widening_preserves_iff
      (show (DataType.ofScalar .character).widensTo (.ofScalar (.integer .uint16)) = true by decide)
      rfl (show (Value.character (Char.ofNat 0x1f600)).scalar? = some .character from rfl)
    cases isNumber
    exact ⟨result, widens.cast, fun kept => widens.toInt_eq_iff.mp kept ⟨beyond, rfl⟩⟩
  · obtain ⟨number, result, isNumber, widens⟩ := widening_preserves_iff
      (show (DataType.ofScalar .character).widensTo (.ofScalar (.integer .int32)) = true by decide)
      rfl (show (Value.character (Char.ofNat 0x1f600)).scalar? = some .character from rfl)
    cases isNumber
    refine ⟨result, widens.cast, widens.toInt_eq_iff.mpr nofun, fun back => ?_⟩
    exact widens.castBack_iff.mp back ⟨beyond, nofun⟩

end Value

end Formula
