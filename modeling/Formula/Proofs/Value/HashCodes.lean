import Formula.Proofs.Decimal.Text
import Formula.Proofs.Number.Binary
import Formula.Value.Text

/-!
Texts and hash codes of equal values. A hash code is taken from the text of a value, so equal
values have one hash code as long as they have one text. They have, but for numbers that can be
written in several ways, and for types of the host that find values equal and print them apart.
-/

namespace Formula

open Float.Model.UnpackedFloat (Sign packedZero)

namespace Number

def zeroText : Sign → String
  | .negative => "-0"
  | .positive => "0"

theorem plainText_zero (format : BinaryFormat) (sign : Sign) (exponent : Int) :
    format.plainText (.finite (sign == .negative) 0 exponent) = zeroText sign := by
  cases sign <;> rfl

theorem zeroText_inj {left right : Sign} : zeroText left = zeroText right ↔ left = right := by
  constructor
  · intro same
    cases left <;> cases right
    · rfl
    · exact absurd same (by decide)
    · exact absurd same (by decide)
    · rfl
  · exact congrArg _

end Number

/-- The type prints in one way what it finds equal. -/
def HostType.Faithful (type : HostType) : Prop :=
  ∀ left right, type.equals left right = true → type.text left = type.text right

theorem HostType.faithful_texts : texts.Faithful :=
  fun _ _ same => beq_iff_eq.mp same

namespace Content

/-- Equal contents of a host type that are printed in two ways. -/
def writtenApart : Content → Content → Bool
  | label left, label right => left.toText != right.toText
  | _, _ => false

theorem writtenApart_self (content : Content) : content.writtenApart content = false := by
  cases content with
  | label payload => exact bne_self_eq_false payload.toText
  | _ => rfl

theorem writtenApart_eq_false {left right : Payload}
    (oneType : left.type.number = right.type.number → left.type = right.type)
    (faithful : left.type.Faithful) (same : (label left).same (label right) = true) :
    (label left).writtenApart (label right) = false := by
  obtain ⟨number, items⟩ := Bool.and_eq_true_iff.mp same
  have texts := faithful left.item right.item items
  rw [writtenApart, bne_eq_false_iff_eq, Payload.toText, Payload.toText,
    ← oneType (beq_iff_eq.mp number), texts]

theorem writtenApart_texts {left right : String} (same : (label left).same (label right) = true) :
    (label left).writtenApart (label right) = false :=
  writtenApart_eq_false (fun _ => rfl) HostType.faithful_texts same

theorem toText_eq_iff_of_same {left right : Content} (same : left.same right = true) :
    left.toText = right.toText ↔ left.writtenApart right = false := by
  cases left <;> cases right <;> try cases same
  case label.label left right => exact bne_eq_false_iff_eq.symm
  case span.span left right =>
    have ticks : left.ticks = right.ticks := beq_iff_eq.mp same
    cases left
    cases right
    cases ticks
    exact iff_of_true rfl rfl
  case moment.moment left right =>
    have order := beq_iff_eq.mp same
    unfold DateTime.order at order
    rw [Ordering.then_eq_eq, Ordering.then_eq_eq, Int.compare_eq_eq, Nat.compare_eq_eq,
      Nat.compare_eq_eq] at order
    obtain ⟨day, second, nanosecond⟩ := order
    cases left
    cases right
    cases day
    cases second
    cases nanosecond
    exact iff_of_true rfl rfl
  case guid.guid left right =>
    have value : left.value = right.value := beq_iff_eq.mp same
    cases left
    cases right
    cases value
    exact iff_of_true rfl rfl

end Content

namespace Value

/-- Equal values of which one shows more than the other: zeros of different signs, decimal numbers
of different signs or scales, and what a host type prints in two ways. -/
def writtenApart : Value → Value → Bool
  | single left, single right => left.toBits != right.toBits
  | double left, double right => left.toBits != right.toBits
  | decimal left, decimal right =>
      left.scale != right.scale || left.negative != right.negative
  | object _ _ left, object _ _ right => left.writtenApart right
  | _, _ => false

/-- Objects of one origin hold one content. -/
def Coherent : Value → Value → Prop
  | object leftOrigin _ leftContent, object rightOrigin _ rightContent =>
      leftOrigin = rightOrigin → leftContent = rightContent
  | _, _ => True

theorem single_toText_eq_iff {left right : Float32} (same : (left == right) = true) :
    (single left).toText = (single right).toText ↔ left.toBits = right.toBits := by
  rcases Number.single_eq_of_beq same with rfl | ⟨leftSign, rightSign, leftZero, rightZero⟩
  · exact ⟨fun _ => rfl, fun _ => rfl⟩
  have leftText : (single left).toText = Number.zeroText leftSign := by
    rw [toText, Number.singleDatum_zero leftZero, Number.plainText_zero]
  have rightText : (single right).toText = Number.zeroText rightSign := by
    rw [toText, Number.singleDatum_zero rightZero, Number.plainText_zero]
  rw [leftText, rightText, Number.zeroText_inj, ← UInt32.toBitVec_inj, leftZero, rightZero,
    Number.packedZero_inj]

theorem double_toText_eq_iff {left right : Float} (same : (left == right) = true) :
    (double left).toText = (double right).toText ↔ left.toBits = right.toBits := by
  rcases Number.double_eq_of_beq same with rfl | ⟨leftSign, rightSign, leftZero, rightZero⟩
  · exact ⟨fun _ => rfl, fun _ => rfl⟩
  have leftText : (double left).toText = Number.zeroText leftSign := by
    rw [toText, Number.doubleDatum_zero leftZero, Number.plainText_zero]
  have rightText : (double right).toText = Number.zeroText rightSign := by
    rw [toText, Number.doubleDatum_zero rightZero, Number.plainText_zero]
  rw [leftText, rightText, Number.zeroText_inj, ← UInt64.toBitVec_inj, leftZero, rightZero,
    Number.packedZero_inj]

theorem object_toText_eq_iff_of_same {leftOrigin rightOrigin : Origin}
    {leftType rightType : TypeId} {leftContent rightContent : Content}
    (coherent : leftOrigin = rightOrigin → leftContent = rightContent)
    (same : (object leftOrigin leftType leftContent).same
      (object rightOrigin rightType rightContent) = true) :
    leftContent.toText = rightContent.toText ↔ leftContent.writtenApart rightContent = false := by
  rw [Value.same] at same
  split at same
  · exact Content.toText_eq_iff_of_same same
  · rw [coherent (beq_iff_eq.mp same)]
    exact iff_of_true rfl rightContent.writtenApart_self

/-- Equal values have one text exactly when they are not written apart. -/
theorem toText_eq_iff_of_same {left right : Value} (coherent : left.Coherent right)
    (same : left.same right = true) :
    left.toText = right.toText ↔ left.writtenApart right = false := by
  -- But for fractional numbers and objects, equality compares all that the text shows.
  cases left <;> cases right <;> try cases same
  case null.null => exact iff_of_true rfl rfl
  case boolean.boolean left right =>
    have values : left = right := beq_iff_eq.mp same
    rw [values]
    exact iff_of_true rfl rfl
  case character.character left right =>
    have values : left = right := beq_iff_eq.mp same
    rw [values]
    exact iff_of_true rfl rfl
  case integer.integer left right =>
    have values := beq_iff_eq.mp (Bool.and_eq_true_iff.mp same).2
    exact iff_of_true (congrArg toString values) rfl
  case single.single left right =>
    rw [single_toText_eq_iff same, writtenApart, bne_eq_false_iff_eq]
  case double.double left right =>
    rw [double_toText_eq_iff same, writtenApart, bne_eq_false_iff_eq]
  case decimal.decimal left right =>
    rw [writtenApart, Bool.or_eq_false_iff, bne_eq_false_iff_eq, bne_eq_false_iff_eq]
    exact Decimal.toText_eq_iff_of_same same
  case text.text left _ right =>
    have values : left = right := beq_iff_eq.mp same
    exact iff_of_true values rfl
  case enumeration.enumeration _ left _ right =>
    have bits := beq_iff_eq.mp (Bool.and_eq_true_iff.mp same).2
    exact iff_of_true (congrArg (fun bits : Int64 => toString bits.toInt) bits) rfl
  case array.array => exact iff_of_true rfl rfl
  case object.object => exact object_toText_eq_iff_of_same coherent same
  case function.function => exact iff_of_true rfl rfl

end Value

end Formula
