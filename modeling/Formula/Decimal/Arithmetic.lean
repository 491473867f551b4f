import Formula.Decimal.Basic

/-!
Arithmetic on decimal numbers. A result is exact while it fits; else it is rounded to as many
places as fit, a tie to the even coefficient; a result too large for scale zero is missing.
-/

namespace Formula.Decimal

/-- The negation that a subtraction applies to its right side; zero keeps its sign. -/
private def subtrahend (number : Decimal) : Decimal :=
  if number.isZero then number else number.negate

/-- A side that is zero leaves the other as it is, scale included. -/
def add? (left right : Decimal) : Option Decimal :=
  if left.isZero then some right
  else if right.isZero then some left
  else
    let scale := max left.scale right.scale
    let sum := left.alignedTo scale + right.alignedTo scale
    fit? (sum < 0) sum.natAbs scale

def subtract? (left right : Decimal) : Option Decimal :=
  left.add? (subtrahend right)

/-- The scales add up. A product of two small coefficients that has lost all its digits is
plain zero. -/
def multiply? (left right : Decimal) : Option Decimal :=
  let scale := left.scale + right.scale
  let small := left.coefficient < 1 <<< 32 ∧ right.coefficient < 1 <<< 32
  if left.isZero || right.isZero || (small ∧ 47 < scale) then some zero
  else
    let dropped := scale - maxScale
    let negative := left.negative != right.negative
    let product := left.coefficient * right.coefficient
    (List.range (scale - dropped + 1)).findSome? fun more =>
      let lost := dropped + more
      ofParts? negative (roundHalfEven product (Nat.pow 10 lost)) (scale - lost)

private def dropZeros (count : Nat) (parts : Nat × Nat) : Nat × Nat :=
  let (coefficient, scale) := parts
  let power := Nat.pow 10 count
  if count ≤ scale ∧ coefficient % power = 0 then (coefficient / power, scale - count) else parts

/-- Drops zeros at the end of a coefficient: eight at a time while its lowest 32 bits are clear,
then four, two and one. -/
def trim (coefficient scale : Nat) : Nat × Nat :=
  let words := (List.range 3).foldl
    (fun parts _ => if parts.1 % 1 <<< 32 = 0 then dropZeros 8 parts else parts)
    (coefficient, scale)
  dropZeros 1 (dropZeros 2 (dropZeros 4 words))

/-- How many places a quotient can take on at once: at most nine, and no more than fit. -/
private def placesAtOnce (quotient : Nat) (scale : Int) : Nat :=
  ((List.range 9).map (9 - ·)).find? (fun (places : Nat) =>
    scale + places ≤ (maxScale : Int) ∧ quotient * Nat.pow 10 places < 1 <<< 96) |>.getD 0

/-- The scale at which the division of two coefficients ends, which starts at `start`: at the
first group of places that leaves no remainder, or where no other place fits. -/
private def quotientScale (dividend divisor : Nat) (start : Int) : Nat → Int → Int
  | 0, scale => scale
  | count + 1, scale =>
      let numerator := dividend * Nat.pow 10 (scale - start).toNat
      if numerator % divisor = 0 then max scale 0
      else
        match placesAtOnce (numerator / divisor) scale with
        | 0 => scale
        | places => quotientScale dividend divisor start count (scale + places)

/-- A quotient of the coefficients that comes out even keeps the difference of the scales;
else places are computed until nothing remains or no other place fits, the last one is rounded,
and zeros at the end are dropped. -/
def divide? (left right : Decimal) : Option Decimal :=
  if right.isZero then none
  else if left.isZero then some zero
  else
    let negative := left.negative != right.negative
    let start : Int := left.scale - right.scale
    let scale := quotientScale left.coefficient right.coefficient start (2 * maxScale + 1) start
    let even := left.coefficient % right.coefficient = 0
    [scale, scale - 1].findSome? fun scale =>
      let quotient :=
        roundHalfEven (left.coefficient * Nat.pow 10 (scale - start).toNat) right.coefficient
      if scale < 0 ∨ 1 <<< 96 ≤ quotient then none
      else
        let (coefficient, scale) :=
          if even then (quotient, scale.toNat) else trim quotient scale.toNat
        ofParts? negative coefficient scale

/-- What is left of the dividend when the quotient is cut off toward zero; it has the
dividend's sign. A dividend smaller than the divisor is left as it is. -/
def remainder? (left right : Decimal) : Option Decimal :=
  if right.isZero then none
  else if left.isZero then some zero
  else
    match left.magnitude.order right.magnitude with
    | .eq => some zero
    | .lt => some left
    | .gt =>
        let scale := max left.scale right.scale
        ofParts? left.negative
          ((left.alignedTo scale).natAbs % (right.alignedTo scale).natAbs) scale

def floor (number : Decimal) : Decimal :=
  if number.scale = 0 then number
  else if number.negative && !number.isIntegral then
    (number.truncate.subtract? one).getD number.truncate
  else number.truncate

def ceiling (number : Decimal) : Decimal :=
  if number.scale = 0 then number
  else if !number.negative && !number.isIntegral then
    (number.truncate.add? one).getD number.truncate
  else number.truncate

private theorem ten_le_power {places : Nat} (positive : 0 < places) : 10 ≤ Nat.pow 10 places :=
  Nat.pow_le_pow_right (n := 10) (by decide) positive

private theorem roundHalfEven_lt (coefficient power : Nat) (room : 10 ≤ power)
    (below : coefficient < 1 <<< 96) : roundHalfEven coefficient power < 1 <<< 96 := by
  have quotient : coefficient / power ≤ coefficient / 10 :=
    Nat.div_le_div_left room (by decide)
  have tenth : coefficient / 10 < 1 <<< 96 - 1 := by omega
  unfold roundHalfEven
  simp only
  split <;> omega

def round (number : Decimal) : Decimal :=
  if places : number.scale = 0 then number
  else
    whole number.negative (roundHalfEven number.coefficient (Nat.pow 10 number.scale))
      (roundHalfEven_lt _ _ (ten_le_power (Nat.pos_of_ne_zero places)) number.coefficient_lt)

end Formula.Decimal
