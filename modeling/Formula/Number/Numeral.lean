import Formula.Number.Binary
import Formula.Number.Integer

/-!
Reading numbers: integers with an optional sign, and floating point numerals with an optional
point and exponent, rounded to the nearest number.
-/

namespace Formula

namespace Numeral

def digit? (char : Char) : Option Nat :=
  if char.isDigit then some (char.toNat - '0'.toNat) else none

def ofDigits (digits : List Char) : Nat :=
  digits.foldl (fun number char => number * 10 + (char.toNat - '0'.toNat)) 0

def natural? (text : List Char) : Option Nat :=
  if !text.isEmpty && text.all Char.isDigit then some (ofDigits text) else none

/-- Splits off a leading sign; the flag tells a minus. -/
def sign : List Char → Bool × List Char
  | '-' :: rest => (true, rest)
  | '+' :: rest => (false, rest)
  | text => (false, text)

def integer? (text : List Char) : Option Int :=
  let (negative, rest) := sign text
  (natural? rest).map fun magnitude => if negative then -(magnitude : Int) else magnitude

/-- An integer of a kind; the unsigned kinds take no minus, not even before zero. -/
def integerOf? (kind : IntegerKind) (text : List Char) : Option Integer :=
  if !kind.isSigned && text.head? = some '-' then none
  else (integer? text).bind (Integer.ofInt? kind)

/-- The digits of a numeral without its sign, and the power of ten they are taken to. -/
structure Mantissa where
  digits : List Char
  exponent : Int

private def exponent? : List Char → Option Int
  | [] => some 0
  | mark :: rest => if mark = 'e' ∨ mark = 'E' then integer? rest else none

/-- Digits with at most one point among them and at least one digit, then an exponent or
nothing. -/
def mantissa? (text : List Char) : Option Mantissa :=
  let whole := text.takeWhile Char.isDigit
  let (fraction, rest) :=
    match text.dropWhile Char.isDigit with
    | '.' :: rest => (rest.takeWhile Char.isDigit, rest.dropWhile Char.isDigit)
    | rest => ([], rest)
  if whole.isEmpty && fraction.isEmpty then none
  else (exponent? rest).map fun exponent => ⟨whole ++ fraction, exponent - fraction.length⟩

/-- The bits of the number nearest to a numeral. Beyond four hundred places on either side of
the point every format has only infinity and zero. -/
def Mantissa.encode (format : BinaryFormat) (negative : Bool) (mantissa : Mantissa) : Nat :=
  let digits := mantissa.digits.dropWhile (· = '0')
  let leading : Int := digits.length + mantissa.exponent
  if digits.isEmpty ∨ leading < -400 then format.encode negative 0 1
  else if 400 < leading then format.encodeDatum (.infinite negative)
  else
    format.encode negative (ofDigits digits * Nat.pow 10 mantissa.exponent.toNat)
      (Nat.pow 10 (-mantissa.exponent).toNat)

private def sameLetters (left right : List Char) : Bool :=
  left.map Char.toLower == right

/-- A numeral, or the name of an infinity or of what is not a number, in letters of any case. -/
def bits? (format : BinaryFormat) (text : List Char) : Option Nat :=
  let (negative, rest) := sign text
  if sameLetters rest ['n', 'a', 'n'] then some (format.encodeDatum .notANumber)
  else if sameLetters rest ['i', 'n', 'f'] ||
      sameLetters rest ['i', 'n', 'f', 'i', 'n', 'i', 't', 'y'] then
    some (format.encodeDatum (.infinite negative))
  else (mantissa? rest).map (·.encode format negative)

def double? (text : List Char) : Option Float :=
  (bits? .double text).map fun bits => Float.ofBits bits.toUInt64

def single? (text : List Char) : Option Float32 :=
  (bits? .single text).map fun bits => Float32.ofBits bits.toUInt32

end Numeral

end Formula
