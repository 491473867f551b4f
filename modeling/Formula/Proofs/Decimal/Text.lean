import Formula.Decimal.Text
import Formula.Proofs.Number.Numeral

/-!
The text of a decimal number tells all of the number: a sign in front, the digits of the
coefficient, and the point, behind which stand as many digits as the scale says.
-/

namespace Formula.Decimal

def digits (number : Decimal) : List Char :=
  let shown := Nat.toDigits 10 number.coefficient
  List.replicate (number.scale + 1 - shown.length) '0' ++ shown

def digitsBefore (number : Decimal) : List Char :=
  number.digits.take (number.digits.length - number.scale)

def digitsAfter (number : Decimal) : List Char :=
  number.digits.drop (number.digits.length - number.scale)

def unsignedChars (number : Decimal) : List Char :=
  if number.digitsAfter.isEmpty then number.digitsBefore
  else number.digitsBefore ++ '.' :: number.digitsAfter

variable {number left right : Decimal}

theorem toChars_eq (number : Decimal) :
    number.toChars =
      if number.negative then '-' :: number.unsignedChars else number.unsignedChars :=
  rfl

theorem digitsBefore_append_digitsAfter (number : Decimal) :
    number.digitsBefore ++ number.digitsAfter = number.digits :=
  List.take_append_drop ..

theorem isDigit_of_mem_digits {char : Char} (member : char ∈ number.digits) :
    char.isDigit = true :=
  (Numeral.isDigits_zeros_append _ number.coefficient).2 char member

theorem scale_lt_length_digits (number : Decimal) : number.scale < number.digits.length := by
  unfold digits
  simp only [List.length_append, List.length_replicate]
  omega

theorem length_digitsAfter (number : Decimal) : number.digitsAfter.length = number.scale := by
  have enough := scale_lt_length_digits number
  unfold digitsAfter
  rw [List.length_drop]
  omega

theorem ofDigitChars_digits (number : Decimal) :
    Nat.ofDigitChars 10 number.digits 0 = number.coefficient := by
  rw [← Numeral.ofDigits_eq]
  exact Numeral.ofDigits_zeros_append _ number.coefficient

theorem mem_digits_of_mem_digitsBefore {char : Char} (member : char ∈ number.digitsBefore) :
    char ∈ number.digits :=
  List.mem_of_mem_take member

theorem ne_point_of_mem_digitsBefore {char : Char} (member : char ∈ number.digitsBefore) :
    (char != '.') = true := by
  have digit := isDigit_of_mem_digits (mem_digits_of_mem_digitsBefore member)
  rw [bne_iff_ne]
  rintro rfl
  cases digit

theorem unsignedChars_eq (number : Decimal) :
    number.unsignedChars = number.digitsBefore ++
      if number.digitsAfter.isEmpty then [] else '.' :: number.digitsAfter := by
  unfold unsignedChars
  split
  · rw [List.append_nil]
  · rfl

theorem takeWhile_unsignedChars (number : Decimal) :
    number.unsignedChars.takeWhile (· != '.') = number.digitsBefore := by
  rw [unsignedChars_eq, List.takeWhile_append_of_pos fun _ => ne_point_of_mem_digitsBefore]
  split
  · exact List.append_nil _
  · exact List.append_nil _

theorem dropWhile_unsignedChars (number : Decimal) :
    (number.unsignedChars.dropWhile (· != '.')).tail = number.digitsAfter := by
  rw [unsignedChars_eq, List.dropWhile_append_of_pos fun _ => ne_point_of_mem_digitsBefore]
  split
  · next none => exact (List.isEmpty_iff.mp none).symm
  · rfl

theorem minus_not_mem_unsignedChars (number : Decimal) : '-' ∉ number.unsignedChars := by
  have notDigit : '-' ∉ number.digits := fun member => by cases isDigit_of_mem_digits member
  rw [← digitsBefore_append_digitsAfter, List.mem_append, not_or] at notDigit
  rw [unsignedChars_eq, List.mem_append]
  rintro (before | behind)
  · exact notDigit.1 before
  · split at behind
    · cases behind
    · rcases List.mem_cons.mp behind with point | after
      · cases point
      · exact notDigit.2 after

theorem eq_of_parts (sameSign : left.negative = right.negative)
    (sameText : left.unsignedChars = right.unsignedChars) : left = right := by
  have before : left.digitsBefore = right.digitsBefore := by
    rw [← takeWhile_unsignedChars, sameText, takeWhile_unsignedChars]
  have after : left.digitsAfter = right.digitsAfter := by
    rw [← dropWhile_unsignedChars, sameText, dropWhile_unsignedChars]
  have sameScale : left.scale = right.scale := by
    rw [← length_digitsAfter, after, length_digitsAfter]
  have sameDigits : left.digits = right.digits := by
    rw [← digitsBefore_append_digitsAfter, before, after, digitsBefore_append_digitsAfter]
  have sameCoefficient : left.coefficient = right.coefficient := by
    rw [← ofDigitChars_digits, sameDigits, ofDigitChars_digits]
  cases left
  cases right
  congr

theorem toChars_injective (same : left.toChars = right.toChars) : left = right := by
  rw [toChars_eq, toChars_eq] at same
  cases leftSign : left.negative <;> cases rightSign : right.negative <;>
    simp only [leftSign, rightSign, if_true, if_false, Bool.false_eq_true] at same
  · exact eq_of_parts (leftSign.trans rightSign.symm) same
  · have member : '-' ∈ left.unsignedChars := same ▸ List.mem_cons_self
    exact absurd member (minus_not_mem_unsignedChars left)
  · have member : '-' ∈ right.unsignedChars := same ▸ List.mem_cons_self
    exact absurd member (minus_not_mem_unsignedChars right)
  · exact eq_of_parts (leftSign.trans rightSign.symm) (List.cons.inj same).2

theorem toText_injective (same : left.toText = right.toText) : left = right :=
  toChars_injective (String.ofList_inj.mp same)

theorem eq_of_same (same : left.same right = true) (sameScale : left.scale = right.scale)
    (sameSign : left.negative = right.negative) : left = right := by
  have signed : left.signed = right.signed := by
    have aligned := Int.compare_eq_eq.mp (beq_iff_eq.mp same)
    unfold alignedTo at aligned
    rw [sameScale, Nat.max_self, Nat.sub_self] at aligned
    change left.signed * 1 = right.signed * 1 at aligned
    rwa [Int.mul_one, Int.mul_one] at aligned
  have sameCoefficient : left.coefficient = right.coefficient := by
    unfold Decimal.signed at signed
    rw [sameSign] at signed
    split at signed <;> omega
  cases left
  cases right
  congr

/-- Equal numbers have different texts when one shows more places or a sign that the other does
not show. -/
theorem toText_eq_iff_of_same (same : left.same right = true) :
    left.toText = right.toText ↔ left.scale = right.scale ∧ left.negative = right.negative := by
  constructor
  · intro sameText
    rw [toText_injective sameText]
    exact ⟨rfl, rfl⟩
  · rintro ⟨sameScale, sameSign⟩
    rw [eq_of_same same sameScale sameSign]

end Formula.Decimal
