import Formula.Number.Binary

/-!
The fewest decimal digits that read back to a binary floating point number, and their two
layouts: plain positional text, and text that turns to an exponent for very large and very
small numbers.
-/

namespace Formula

structure DecimalDigits where
  digits : Nat
  exponent : Int
deriving DecidableEq, Repr

namespace Shortest

/-- The numbers that round to a datum, in units of a common denominator: those from `low` to
`high`, with both ends if `closed`. -/
structure Interval where
  value : Nat
  low : Nat
  high : Nat
  denominator : Nat
  closed : Bool

/-- Half of the gap to each neighbour; the gap below a power of two is half as wide. -/
def Interval.around (format : BinaryFormat) (significand : Nat) (exponent : Int) : Interval :=
  let unit := 1 <<< exponent.toNat
  let narrow := significand = format.hiddenBit ∧ format.leastExponent < exponent
  { value := 4 * significand * unit
    low := 4 * significand * unit - (if narrow then unit else 2 * unit)
    high := 4 * significand * unit + 2 * unit
    denominator := 4 <<< (-exponent).toNat
    closed := significand % 2 == 0 }

def Interval.contains (interval : Interval) (numerator : Nat) : Bool :=
  if interval.closed then interval.low ≤ numerator && numerator ≤ interval.high
  else interval.low < numerator && numerator < interval.high

def leadingExponent (value denominator : Nat) : Int :=
  let guess : Int := (((value.log2 : Int) - denominator.log2) * 1233) / 4096
  let reaches (exponent : Int) : Bool :=
    denominator * Nat.pow 10 exponent.toNat ≤ value * Nat.pow 10 (-exponent).toNat
  if reaches (guess + 1) then guess + 1 else if reaches guess then guess else guess - 1

/-- The nearer of the two neighbours on the grid of powers of ten that lies in the interval;
of two equally near the upper one. -/
def onGrid? (interval : Interval) (exponent : Int) : Option Nat :=
  let factor := Nat.pow 10 (-exponent).toNat
  let unit := interval.denominator * Nat.pow 10 exponent.toNat
  let scaled : Interval :=
    { interval with
      value := interval.value * factor
      low := interval.low * factor
      high := interval.high * factor }
  let below := scaled.value / unit
  let belowFits := scaled.contains (below * unit)
  let aboveFits := scaled.contains ((below + 1) * unit)
  let nearerBelow := 2 * (scaled.value - below * unit) < unit
  if belowFits && (nearerBelow || !aboveFits) then some below
  else if aboveFits then some (below + 1)
  else none

/-- Finer and finer grids, up to `more` digits beyond the first. -/
def search (interval : Interval) (exponent : Int) : Nat → DecimalDigits
  | 0 => ⟨(onGrid? interval exponent).getD 0, exponent⟩
  | more + 1 =>
      match onGrid? interval exponent with
      | some digits => ⟨digits, exponent⟩
      | none => search interval (exponent - 1) more

/-- The digits of a positive number; seventeen always suffice. -/
def digits (format : BinaryFormat) (significand : Nat) (exponent : Int) : DecimalDigits :=
  let interval := Interval.around format significand exponent
  search interval (leadingExponent interval.value interval.denominator) 17

end Shortest

namespace DecimalDigits

def trimmed (number : DecimalDigits) : DecimalDigits :=
  let kept := (Nat.toDigits 10 number.digits).reverse.dropWhile (· = '0') |>.reverse
  let dropped := (Nat.toDigits 10 number.digits).length - kept.length
  ⟨number.digits / Nat.pow 10 dropped, number.exponent + dropped⟩

private def zeros (count : Nat) : List Char :=
  List.replicate count '0'

def positional (number : DecimalDigits) (places : Nat) : List Char :=
  let digits := Nat.toDigits 10 number.digits
  let point : Int := digits.length + number.exponent
  let whole :=
    if point ≤ 0 then ['0'] else digits.take point.toNat ++ zeros number.exponent.toNat
  let fraction :=
    if point ≤ 0 then zeros (-point).toNat ++ digits else digits.drop point.toNat
  let padded := fraction ++ zeros (places - fraction.length)
  if padded.isEmpty then whole else whole ++ '.' :: padded

def scientific (number : DecimalDigits) : List Char :=
  match Nat.toDigits 10 number.digits with
  | [] => []
  | first :: rest =>
      let exponent : Int := rest.length + number.exponent
      let fraction := if rest.isEmpty then [] else '.' :: rest
      first :: fraction ++ 'e' :: (toString exponent).toList

def leading (number : DecimalDigits) : Int :=
  (Nat.toDigits 10 number.digits).length + number.exponent - 1

end DecimalDigits

namespace BinaryFormat

private def signed (negative : Bool) (text : List Char) : String :=
  String.ofList (if negative then '-' :: text else text)

def plainText (format : BinaryFormat) : BinaryDatum → String
  | .notANumber => "NaN"
  | .infinite negative => if negative then "-inf" else "inf"
  | .finite negative significand exponent =>
      if significand = 0 then signed negative ['0']
      else
        let digits := (Shortest.digits format significand exponent).trimmed
        signed negative (digits.positional 0)

/-- The text of a number as a diagnostic shows it: a fraction always follows the point, and an
exponent stands below `1e-4` and from `1e16` up. -/
def diagnosticText (format : BinaryFormat) : BinaryDatum → String
  | .notANumber => "NaN"
  | .infinite negative => if negative then "-inf" else "inf"
  | .finite negative significand exponent =>
      if significand = 0 then signed negative ['0', '.', '0']
      else
        let digits := (Shortest.digits format significand exponent).trimmed
        if digits.leading < -4 ∨ 16 ≤ digits.leading then signed negative digits.scientific
        else signed negative (digits.positional 1)

end BinaryFormat

end Formula
