/-!
Binary floating point numbers as exact numbers: a datum is decoded from its bits without loss,
and a ratio of natural numbers is encoded to the nearest datum, a tie to the even one.
-/

namespace Formula

def roundHalfEven (numerator denominator : Nat) : Nat :=
  let quotient := numerator / denominator
  let twice := 2 * (numerator % denominator)
  if denominator < twice || (denominator == twice && quotient % 2 == 1) then quotient + 1
  else quotient

/-- An interchange format: the bits kept of a significand, the exponent of the least positive
number, and the bits of infinity. -/
structure BinaryFormat where
  fractionBits : Nat
  leastExponent : Int
  infinity : Nat

/-- What bits stand for; a finite number is `significand * 2 ^ exponent`. -/
inductive BinaryDatum where
  | notANumber
  | infinite (negative : Bool)
  | finite (negative : Bool) (significand : Nat) (exponent : Int)
deriving DecidableEq, Repr

namespace BinaryFormat

def single : BinaryFormat := ⟨23, -149, 0x7f800000⟩

def double : BinaryFormat := ⟨52, -1074, 0x7ff0000000000000⟩

def hiddenBit (format : BinaryFormat) : Nat :=
  1 <<< format.fractionBits

def signBit (format : BinaryFormat) : Nat :=
  format.infinity + format.hiddenBit

def decode (format : BinaryFormat) (bits : Nat) : BinaryDatum :=
  let negative := format.signBit ≤ bits
  let magnitude := bits % format.signBit
  if format.infinity < magnitude then .notANumber
  else if magnitude = format.infinity then .infinite negative
  else
    let biased := magnitude / format.hiddenBit
    let fraction := magnitude % format.hiddenBit
    if biased = 0 then .finite negative fraction format.leastExponent
    else .finite negative (format.hiddenBit + fraction) (format.leastExponent + (biased - 1))

private def scaled (numerator denominator : Nat) (exponent : Int) : Nat × Nat :=
  (numerator <<< (-exponent).toNat, denominator <<< exponent.toNat)

/-- The exponent at which the quotient fills a significand, as far as the format goes down. -/
def exponentFor (format : BinaryFormat) (numerator denominator : Nat) : Int :=
  let low : Int := (numerator.log2 : Int) - denominator.log2 - format.fractionBits - 1
  let (top, bottom) := scaled numerator denominator low
  max format.leastExponent (if top / bottom < 2 * format.hiddenBit then low else low + 1)

def encodeMagnitude (format : BinaryFormat) (numerator denominator : Nat) : Nat :=
  if numerator = 0 then 0
  else
    let exponent := format.exponentFor numerator denominator
    let (top, bottom) := scaled numerator denominator exponent
    let significand := roundHalfEven top bottom
    min format.infinity
      ((exponent - format.leastExponent).toNat * format.hiddenBit + significand)

def encode (format : BinaryFormat) (negative : Bool) (numerator denominator : Nat) : Nat :=
  let magnitude := format.encodeMagnitude numerator denominator
  if negative then format.signBit + magnitude else magnitude

def encodeDatum (format : BinaryFormat) : BinaryDatum → Nat
  | .notANumber => format.infinity + format.hiddenBit / 2
  | .infinite negative => if negative then format.signBit + format.infinity else format.infinity
  | .finite negative significand exponent =>
      format.encode negative (significand <<< exponent.toNat) (1 <<< (-exponent).toNat)

end BinaryFormat

namespace BinaryDatum

def truncate? : BinaryDatum → Option Int
  | .finite negative significand exponent =>
      let magnitude := (significand <<< exponent.toNat) >>> (-exponent).toNat
      some (if negative then -(magnitude : Int) else magnitude)
  | _ => none

/-- The remainder of a division whose quotient is cut off toward zero; it has the sign of the
dividend. -/
def remainder : BinaryDatum → BinaryDatum → BinaryDatum
  | .finite negative left leftExponent, .infinite _ => .finite negative left leftExponent
  | .finite negative left leftExponent, .finite _ right rightExponent =>
      if right = 0 then .notANumber
      else
        let exponent := min leftExponent rightExponent
        let dividend := left <<< (leftExponent - exponent).toNat
        let divisor := right <<< (rightExponent - exponent).toNat
        .finite negative (dividend % divisor) exponent
  | _, _ => .notANumber

end BinaryDatum

namespace Number

def doubleDatum (number : Float) : BinaryDatum :=
  BinaryFormat.double.decode number.toBits.toNat

def singleDatum (number : Float32) : BinaryDatum :=
  BinaryFormat.single.decode number.toBits.toNat

def doubleOfDatum (datum : BinaryDatum) : Float :=
  Float.ofBits (BinaryFormat.double.encodeDatum datum).toUInt64

def singleOfDatum (datum : BinaryDatum) : Float32 :=
  Float32.ofBits (BinaryFormat.single.encodeDatum datum).toUInt32

def doubleOfRatio (negative : Bool) (numerator denominator : Nat) : Float :=
  Float.ofBits (BinaryFormat.double.encode negative numerator denominator).toUInt64

def singleOfRatio (negative : Bool) (numerator denominator : Nat) : Float32 :=
  Float32.ofBits (BinaryFormat.single.encode negative numerator denominator).toUInt32

def doubleOfInt (number : Int) : Float :=
  doubleOfRatio (number < 0) number.natAbs 1

def singleOfInt (number : Int) : Float32 :=
  singleOfRatio (number < 0) number.natAbs 1

def doubleRemainder (left right : Float) : Float :=
  doubleOfDatum ((doubleDatum left).remainder (doubleDatum right))

def singleRemainder (left right : Float32) : Float32 :=
  singleOfDatum ((singleDatum left).remainder (singleDatum right))

def doubleOrder (left right : Float) : Option Ordering :=
  if left < right then some .lt
  else if left == right then some .eq
  else if right < left then some .gt
  else none

def singleOrder (left right : Float32) : Option Ordering :=
  if left < right then some .lt
  else if left == right then some .eq
  else if right < left then some .gt
  else none

def truncateDouble (number : Float) : Float :=
  if number < 0 then number.ceil else number.floor

def truncateSingle (number : Float32) : Float32 :=
  if number < 0 then number.ceil else number.floor

def roundDouble (number : Float) : Float :=
  if (number - truncateDouble number).abs == 0.5 then 2 * (number / 2).round else number.round

def roundSingle (number : Float32) : Float32 :=
  if (number - truncateSingle number).abs == 0.5 then 2 * (number / 2).round
  else number.round

private def powerLoop (fuel exponent : Nat) (base result : Float) : Float :=
  match fuel with
  | 0 => result
  | fuel + 1 =>
      let result := if exponent % 2 = 1 then result * base else result
      if exponent / 2 = 0 then result
      else powerLoop fuel (exponent / 2) (base * base) result

/-- Repeated squaring; a negative exponent takes the reciprocal at the end. -/
def powerOfDouble (base : Float) (exponent : Int) : Float :=
  let power := powerLoop (exponent.natAbs.log2 + 1) exponent.natAbs base 1
  if exponent < 0 then 1 / power else power

end Number

end Formula
