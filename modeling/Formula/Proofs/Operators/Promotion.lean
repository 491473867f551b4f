import Formula.Proofs.Catalog.Primitives
import Formula.Typing.Binary

/-!
Where two integral operands meet: in the first of four kinds that holds every value of both.
There is none for the widest unsigned integers next to signed ones.
-/

namespace Formula

namespace Scalar

def isIntegral (kind : Scalar) : Bool :=
  kind.isInteger || kind == .character

/-- The widest unsigned integers on one side and signed integers on the other. -/
def Clash (left right : Scalar) : Prop :=
  (left = .integer .uint64 ∧ right.isSignedInteger = true) ∨
    (right = .integer .uint64 ∧ left.isSignedInteger = true)

instance (left right : Scalar) : Decidable (Clash left right) :=
  inferInstanceAs (Decidable (_ ∨ _))

end Scalar

namespace IntegerKind

/-- Whether the kind holds every integer that a scalar of another kind may stand for. -/
def covers (kind : IntegerKind) : Scalar → Bool
  | .integer other => kind.least ≤ other.least && other.greatest ≤ kind.greatest
  | .character => kind.least ≤ 0 && 0x10ffff ≤ kind.greatest
  | _ => false

/-- The kinds that arithmetic is done in, from the one that is tried first. -/
def working : List IntegerKind :=
  [int32, uint32, int64, uint64]

/-- The first working kind that holds all values of two scalar kinds. -/
def meeting? (left right : Scalar) : Option IntegerKind :=
  working.find? fun kind => kind.covers left && kind.covers right

theorem meeting?_covers {left right : Scalar} {kind : IntegerKind}
    (met : meeting? left right = some kind) :
    kind.covers left = true ∧ kind.covers right = true := by
  have both := List.find?_some met
  rwa [Bool.and_eq_true] at both

end IntegerKind

namespace Value

structure Denotes (value : Value) (kind : Scalar) (number : Int) : Prop where
  scalar_eq : value.scalar? = some kind
  toInt_eq : value.toInt? = some number

theorem isNull_of_scalar? {value : Value} {kind : Scalar} (isScalar : value.scalar? = some kind) :
    value.isNull = false := by
  cases value with
  | null => cases isScalar
  | _ => rfl

end Value

theorem IntegerKind.holds_of_denotes {kind : IntegerKind} {operand : Scalar} {value : Value}
    {number : Int} (covers : kind.covers operand = true)
    (denotes : value.Denotes operand number) : kind.Holds number := by
  obtain ⟨isScalar, isInt⟩ := denotes
  cases value <;> simp only [Value.scalar?, Value.toInt?, Option.some.injEq, reduceCtorEq] at *
  case character code =>
    subst isScalar isInt
    simp only [IntegerKind.covers, Bool.and_eq_true, decide_eq_true_eq] at covers
    have bound : code.toNat ≤ 0x10ffff := by
      have valid := code.valid
      unfold UInt32.isValidChar Nat.isValidChar at valid
      unfold Char.toNat
      omega
    exact ⟨by omega, by omega⟩
  case integer integer =>
    subst isScalar isInt
    simp only [IntegerKind.covers, Bool.and_eq_true, decide_eq_true_eq] at covers
    have holds := integer.holds
    exact ⟨Int.le_trans covers.1 holds.1, Int.le_trans holds.2 covers.2⟩

namespace Scalar

theorem eq_of_isIntegral {kind : Scalar} (integral : kind.isIntegral = true) :
    kind = .character ∨ ∃ integer, kind = .integer integer := by
  cases kind with
  | character => exact .inl rfl
  | integer integer => exact .inr ⟨integer, rfl⟩
  | boolean | single | double | decimal => exact absurd integral (by decide)

theorem promoted?_integral {left right : Scalar} (integralLeft : left.isIntegral = true)
    (integralRight : right.isIntegral = true) :
    left.promoted? right = (IntegerKind.meeting? left right).map .integer := by
  rcases eq_of_isIntegral integralLeft with rfl | ⟨leftKind, rfl⟩ <;>
    rcases eq_of_isIntegral integralRight with rfl | ⟨rightKind, rfl⟩
  · decide
  · cases rightKind <;> decide
  · cases leftKind <;> decide
  · cases leftKind <;> cases rightKind <;> decide

theorem meeting?_eq_none_iff {left right : Scalar} (integralLeft : left.isIntegral = true)
    (integralRight : right.isIntegral = true) :
    IntegerKind.meeting? left right = none ↔ Clash left right := by
  rcases eq_of_isIntegral integralLeft with rfl | ⟨leftKind, rfl⟩ <;>
    rcases eq_of_isIntegral integralRight with rfl | ⟨rightKind, rfl⟩
  · decide
  · cases rightKind <;> decide
  · cases leftKind <;> decide
  · cases leftKind <;> cases rightKind <;> decide

end Scalar

namespace IntegerKind

def widened (kind : IntegerKind) : IntegerKind :=
  if kind.isSmall then .int32 else kind

theorem meeting?_self (kind : IntegerKind) :
    meeting? (.integer kind) (.integer kind) = some kind.widened := by
  cases kind <;> decide

theorem covers_widened (kind : IntegerKind) : kind.widened.covers (.integer kind) = true := by
  cases kind <;> decide

theorem width_widened (kind : IntegerKind) : kind.width ≤ kind.widened.width := by
  cases kind <;> decide

end IntegerKind

end Formula
