import Formula.Number.Numeral
import Mathlib.Algebra.Ring.Nat
import Mathlib.Data.List.Induction

/-!
Reading digits back: a list of digits, with zeros in front or without, is read as the number it
was written for, and nothing else is read but digits, with a sign where one is allowed.
-/

namespace Formula.Numeral

def IsDigits (chars : List Char) : Prop :=
  chars ≠ [] ∧ ∀ char ∈ chars, char.isDigit = true

def Plain (chars : List Char) (value : Int) : Prop :=
  IsDigits chars ∧ value = ofDigits chars

/-- The text is a number with a sign or without. -/
inductive Signed : List Char → Int → Prop
  | plain {chars : List Char} {value : Int} (isPlain : Plain chars value) : Signed chars value
  | plus {chars : List Char} {value : Int} (isPlain : Plain chars value) :
      Signed ('+' :: chars) value
  | minus {chars : List Char} {value : Int} (isPlain : Plain chars value) :
      Signed ('-' :: chars) (-value)

variable {digits : List Char}

theorem ofDigits_eq (digits : List Char) : ofDigits digits = Nat.ofDigitChars 10 digits 0 := by
  simp only [ofDigits, Nat.ofDigitChars_eq_foldl, Nat.mul_comm]

theorem digit_lt {char : Char} (digit : char.isDigit = true) : char.toNat - '0'.toNat < 10 := by
  have bounds : 48 ≤ char.toNat ∧ char.toNat ≤ 57 := by
    simpa [Char.isDigit, Char.le_def, UInt32.le_iff_toNat_le] using digit
  change char.toNat - 48 < 10
  omega

theorem ofDigits_lt (areDigits : ∀ char ∈ digits, char.isDigit) :
    ofDigits digits < 10 ^ digits.length := by
  induction digits using List.reverseRecOn with
  | nil => exact Nat.one_pos
  | append_singleton digits last ih =>
      have start := ih fun char member => areDigits char (List.mem_append_left _ member)
      have unit := digit_lt (areDigits last List.mem_concat_self)
      have grown : ofDigits (digits ++ [last]) =
          ofDigits digits * 10 + (last.toNat - '0'.toNat) :=
        List.foldl_append
      rw [grown, List.length_append, List.length_singleton, Nat.pow_succ]
      omega

theorem isDigits_zeros_append (zeros number : Nat) :
    IsDigits (List.replicate zeros '0' ++ Nat.toDigits 10 number) := by
  refine ⟨List.append_ne_nil_of_right_ne_nil _ Nat.toDigits_ne_nil, fun char member => ?_⟩
  rcases List.mem_append.mp member with zero | digit
  · rw [List.eq_of_mem_replicate zero]
    rfl
  · exact Nat.isDigit_of_mem_toDigits (by decide) (by decide) digit

theorem ofDigits_zeros_append (zeros number : Nat) :
    ofDigits (List.replicate zeros '0' ++ Nat.toDigits 10 number) = number := by
  rw [ofDigits_eq, Nat.ofDigitChars_append, Nat.ofDigitChars_replicate_zero, Nat.mul_zero,
    Nat.ofDigitChars_ten_toDigits]

theorem natural?_of_digits (nonempty : digits ≠ []) (areDigits : ∀ char ∈ digits, char.isDigit) :
    natural? digits = some (ofDigits digits) := by
  have all : digits.all Char.isDigit = true := List.all_eq_true.mpr areDigits
  simp [natural?, nonempty, all]

theorem sign_of_digits (areDigits : ∀ char ∈ digits, char.isDigit) :
    sign digits = (false, digits) := by
  unfold sign
  split
  · exact absurd (areDigits '-' (List.mem_cons_self ..)) (by decide)
  · exact absurd (areDigits '+' (List.mem_cons_self ..)) (by decide)
  · rfl

theorem integerOf?_of_digits {kind : IntegerKind} (signed : kind.isSigned = true)
    (nonempty : digits ≠ []) (areDigits : ∀ char ∈ digits, char.isDigit)
    (holds : kind.Holds (ofDigits digits)) :
    integerOf? kind digits = some ⟨kind, ofDigits digits, holds⟩ := by
  simp [integerOf?, signed, integer?, sign_of_digits areDigits,
    natural?_of_digits nonempty areDigits, Integer.ofInt?, holds]

variable {chars : List Char} {char : Char} {value : Int}

theorem ofDigits_zeros (digits : List Char) (count : Nat) :
    ofDigits (digits ++ List.replicate count '0') = ofDigits digits * 10 ^ count := by
  rw [ofDigits_eq, ofDigits_eq, Nat.ofDigitChars_append, Nat.ofDigitChars_replicate_zero,
    Nat.mul_comm]

theorem natural?_eq_some_iff {number : Nat} :
    natural? chars = some number ↔ IsDigits chars ∧ number = ofDigits chars := by
  unfold natural? IsDigits
  rw [Option.ite_none_right_eq_some, Bool.and_eq_true, Bool.not_eq_true', List.isEmpty_eq_false_iff,
    List.all_eq_true, Option.some.injEq, eq_comm (a := number)]

theorem Plain.nonneg (isPlain : Plain chars value) : 0 ≤ value := by
  rw [isPlain.2]
  exact Int.natCast_nonneg _

theorem Signed.of_mem (isSigned : Signed chars value) (member : char ∈ chars) :
    char.isDigit = true ∨ char = '+' ∨ char = '-' := by
  cases isSigned with
  | plain isPlain => exact .inl (isPlain.1.2 char member)
  | plus isPlain =>
      rcases List.mem_cons.mp member with sign | digit
      · exact .inr (.inl sign)
      · exact .inl (isPlain.1.2 char digit)
  | minus isPlain =>
      rcases List.mem_cons.mp member with sign | digit
      · exact .inr (.inr sign)
      · exact .inl (isPlain.1.2 char digit)

theorem Signed.isPlain (isSigned : Signed chars value) (noPlus : '+' ∉ chars)
    (noMinus : '-' ∉ chars) : Plain chars value := by
  cases isSigned with
  | plain isPlain => exact isPlain
  | plus => exact absurd (List.mem_cons_self ..) noPlus
  | minus => exact absurd (List.mem_cons_self ..) noMinus

theorem sign_cases (chars : List Char) :
    (∃ rest, chars = '-' :: rest ∧ sign chars = (true, rest)) ∨
      (∃ rest, chars = '+' :: rest ∧ sign chars = (false, rest)) ∨ sign chars = (false, chars) := by
  unfold sign
  split
  · exact .inl ⟨_, rfl, rfl⟩
  · exact .inr (.inl ⟨_, rfl, rfl⟩)
  · exact .inr (.inr rfl)

theorem integer?_of_sign {negative : Bool} {rest : List Char}
    (split : sign chars = (negative, rest)) :
    integer? chars =
      (natural? rest).map fun number : Nat => if negative then -(number : Int) else number := by
  unfold integer?
  rw [split]
  dsimp only
  cases natural? rest <;> rfl

theorem integer?_eq_some_iff : integer? chars = some value ↔ Signed chars value := by
  constructor
  · intro read
    rcases sign_cases chars with ⟨rest, rfl, split⟩ | ⟨rest, rfl, split⟩ | split
    all_goals
      rw [integer?_of_sign split] at read
      obtain ⟨number, isNumber, rfl⟩ := Option.map_eq_some_iff.mp read
      obtain ⟨digits, rfl⟩ := natural?_eq_some_iff.mp isNumber
    · exact .minus ⟨digits, rfl⟩
    · exact .plus ⟨digits, rfl⟩
    · exact .plain ⟨digits, rfl⟩
  · intro isSigned
    cases isSigned with
    | plain isPlain =>
        rw [integer?_of_sign (sign_of_digits isPlain.1.2),
          natural?_eq_some_iff.mpr ⟨isPlain.1, rfl⟩, isPlain.2]
        rfl
    | @plus chars _ isPlain =>
        have split : sign ('+' :: chars) = (false, chars) := rfl
        rw [integer?_of_sign split, natural?_eq_some_iff.mpr ⟨isPlain.1, rfl⟩, isPlain.2]
        rfl
    | @minus chars _ isPlain =>
        have split : sign ('-' :: chars) = (true, chars) := rfl
        rw [integer?_of_sign split, natural?_eq_some_iff.mpr ⟨isPlain.1, rfl⟩, isPlain.2]
        rfl

end Formula.Numeral
