import Formula.Decimal.Basic

/-!
Between decimal numbers and binary floating point numbers. A binary number becomes the decimal
one with the fifteen or sixteen digits (seven or eight for the single format) that it is good
for; a decimal number becomes its whole part plus its fraction, rounded at the last place.
-/

namespace Formula.Decimal

/-- A number `mantissa * 5 ^ five * 10 ^ ten` on its way to `five = 0`. -/
structure Approach where
  mantissa : Nat
  ten : Int

namespace Approach

/-- Divides by powers of two: by halving while that is exact, else as five tenths, else by
halving with a loss. -/
def halve : Nat → Approach → Approach
  | 0, state => state
  | count + 1, state =>
      if state.mantissa % 2 = 0 then halve count ⟨state.mantissa / 2, state.ten + 1⟩
      else if state.mantissa * 5 < 1 <<< 96 then halve count ⟨state.mantissa * 5, state.ten⟩
      else halve count ⟨state.mantissa / 2, state.ten + 1⟩

/-- Multiplies by powers of two: by doubling a tenth while there is room, else by a fifth. -/
def double : Nat → Approach → Approach
  | 0, state => state
  | count + 1, state =>
      if state.mantissa < 1 <<< 95 then double count ⟨state.mantissa * 2, state.ten - 1⟩
      else double count ⟨state.mantissa / 5, state.ten⟩

def raise? : Nat → Approach → Option Approach
  | 0, state => some state
  | count + 1, state =>
      if state.mantissa * 10 < 1 <<< 96 then raise? count ⟨state.mantissa * 10, state.ten - 1⟩
      else none

/-- Drops the last digit, rounding by it alone. -/
def shorten (state : Approach) : Approach :=
  let rounded := state.mantissa / 10 + (if 5 ≤ state.mantissa % 10 then 1 else 0)
  ⟨rounded, state.ten + 1⟩

/-- Brings the places down to 28; what vanishes on the way is zero without places. -/
def limitPlaces : Nat → Approach → Approach
  | 0, state => state
  | count + 1, state =>
      if state.mantissa / 10 = 0 then ⟨0, 0⟩ else limitPlaces count state.shorten

def limitDigits (bound : Nat) : Nat → Approach → Approach
  | 0, state => state
  | count + 1, state =>
      if state.mantissa < bound then state else limitDigits bound count state.shorten

def dropZeros : Nat → Approach → Approach
  | 0, state => state
  | count + 1, state =>
      if state.mantissa % 10 = 0 then dropZeros count ⟨state.mantissa / 10, state.ten + 1⟩
      else state

end Approach

/-- The decimal form of `significand * 2 ^ exponent`, good up to `bound`. -/
def ofBinary? (bound : Nat) (negative : Bool) (significand : Nat) (exponent : Int) :
    Option Decimal :=
  if significand = 0 then some { zero with negative := negative }
  else
    let start : Approach := ⟨significand, exponent⟩
    let scaled :=
      if exponent < 0 then start.halve exponent.natAbs
      else start.double exponent.natAbs
    (scaled.raise? scaled.ten.toNat).bind fun raised =>
      let limited := raised.limitPlaces (-raised.ten - maxScale).toNat
      let short := limited.limitDigits bound (-limited.ten).toNat
      let final := short.dropZeros (-short.ten).toNat
      if fits : final.mantissa < 1 <<< 96 ∧ (-final.ten).toNat ≤ 28 then
        some ⟨negative, final.mantissa, (-final.ten).toNat, fits.1, fits.2⟩
      else none

def ofDouble? (number : Float) : Option Decimal :=
  match Number.doubleDatum number with
  | .finite negative significand exponent => ofBinary? (1 <<< 52) negative significand exponent
  | _ => none

def ofSingle? (number : Float32) : Option Decimal :=
  match Number.singleDatum number with
  | .finite negative significand exponent => ofBinary? (1 <<< 24) negative significand exponent
  | _ => none

private def withSign (negative : Bool) (number : Float) : Float :=
  if negative then -number else number

def toDouble (number : Decimal) : Float :=
  if number.scale = 0 then Number.doubleOfInt number.signed
  else
    let power := Nat.pow 10 number.scale
    let whole := Number.doubleOfInt (number.coefficient / power : Nat)
    let fraction :=
      Number.doubleOfInt (number.coefficient % power : Nat) / Number.doubleOfInt (power : Nat)
    if fraction == 0 then withSign number.negative whole
    else
      let places := Number.powerOfDouble 10 number.scale
      withSign number.negative (((whole + fraction) * places).round / places)

def toSingle (number : Decimal) : Float32 :=
  number.toDouble.toFloat32

end Formula.Decimal
