import Formula.Number.Binary

/-!
Decimal numbers: a sign, a coefficient of 96 bits and a scale of at most 28 decimal places. Two
numbers of different scales may have one value; the scale only shows in the text. Zero may carry
a sign.
-/

namespace Formula

structure Decimal where
  negative : Bool
  coefficient : Nat
  scale : Nat
  coefficient_lt : coefficient < 1 <<< 96
  scale_le : scale ≤ 28
deriving DecidableEq

namespace Decimal

def maxScale : Nat := 28

def whole (negative : Bool) (coefficient : Nat) (fits : coefficient < 1 <<< 96) : Decimal :=
  ⟨negative, coefficient, 0, fits, Nat.zero_le _⟩

def zero : Decimal := whole false 0 (by decide)
def one : Decimal := whole false 1 (by decide)
def minusOne : Decimal := whole true 1 (by decide)
def greatest : Decimal := whole false (1 <<< 96 - 1) (by decide)
def least : Decimal := whole true (1 <<< 96 - 1) (by decide)

/-- A number with these parts, if they are in range; zero comes without a sign. -/
def ofParts? (negative : Bool) (coefficient scale : Nat) : Option Decimal :=
  if fits : coefficient < 1 <<< 96 ∧ scale ≤ 28 then
    some ⟨negative && coefficient != 0, coefficient, scale, fits.1, fits.2⟩
  else none

/-- Gives up as few places as it takes for the parts to fit, rounding once, a tie to the even
coefficient. Without a place left to give up there is no such number. -/
def fit? (negative : Bool) (coefficient scale : Nat) : Option Decimal :=
  (List.range (scale + 1)).findSome? fun dropped =>
    ofParts? negative (roundHalfEven coefficient (Nat.pow 10 dropped)) (scale - dropped)

def ofInt? (number : Int) : Option Decimal :=
  ofParts? (number < 0) number.natAbs 0

def isZero (number : Decimal) : Bool :=
  number.coefficient == 0

def signed (number : Decimal) : Int :=
  if number.negative then -(number.coefficient : Int) else number.coefficient

def alignedTo (scale : Nat) (number : Decimal) : Int :=
  number.signed * Nat.pow 10 (scale - number.scale)

def order (left right : Decimal) : Ordering :=
  let scale := max left.scale right.scale
  compare (left.alignedTo scale) (right.alignedTo scale)

def same (left right : Decimal) : Bool :=
  left.order right == .eq

def negate (number : Decimal) : Decimal :=
  { number with negative := !number.negative }

def magnitude (number : Decimal) : Decimal :=
  { number with negative := false }

/-- Cuts off the places after the point; the sign stays, also before zero. -/
def truncate (number : Decimal) : Decimal :=
  whole number.negative (number.coefficient / Nat.pow 10 number.scale)
    (Nat.lt_of_le_of_lt (Nat.div_le_self _ _) number.coefficient_lt)

def toInt (number : Decimal) : Int :=
  number.truncate.signed

def isIntegral (number : Decimal) : Bool :=
  number.coefficient % Nat.pow 10 number.scale == 0

end Decimal

end Formula
