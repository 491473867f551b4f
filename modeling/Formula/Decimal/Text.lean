import Formula.Decimal.Basic
import Formula.Number.Numeral

/-!
The text of a decimal number, all places of its scale shown, and reading one. Reading takes
digits with at most one point; underscores may stand between digits. It stops at the first digit
that no longer fits after the point, rounds by that digit, and looks at nothing behind it.
-/

namespace Formula.Decimal

def toChars (number : Decimal) : List Char :=
  let digits := Nat.toDigits 10 number.coefficient
  let padded := List.replicate (number.scale + 1 - digits.length) '0' ++ digits
  let whole := padded.take (padded.length - number.scale)
  let fraction := padded.drop (padded.length - number.scale)
  let text := if fraction.isEmpty then whole else whole ++ '.' :: fraction
  if number.negative then '-' :: text else text

def toText (number : Decimal) : String :=
  String.ofList number.toChars

namespace Reading

/-- What has been read: the coefficient, the places after the point, and whether there was a
point and any digit. -/
structure State where
  negative : Bool
  coefficient : Nat
  scale : Nat
  pointed : Bool
  started : Bool

def State.finish (state : State) : Option Decimal :=
  if state.started then ofParts? state.negative state.coefficient state.scale else none

/-- Rounds by the digit that does not fit; half a unit rounds up. A coefficient that then is
too large loses its last place. -/
def State.roundBy (state : State) (char : Char) : Option Decimal :=
  let finish (digit : Nat) : Option Decimal :=
    if digit < 5 then ofParts? state.negative state.coefficient state.scale
    else if state.coefficient + 1 < 1 <<< 96 then
      ofParts? state.negative (state.coefficient + 1) state.scale
    else if state.scale = 0 then none
    else ofParts? state.negative ((state.coefficient + 5) / 10) (state.scale - 1)
  match Numeral.digit? char with
  | some digit => finish digit
  | none => if char = '_' ∨ (char = '.' ∧ state.pointed) then finish 0 else none

/-- `long` texts stop at 28 places; a short one cannot have so many. -/
def State.read (long : Bool) (state : State) : List Char → Option Decimal
  | [] => state.finish
  | char :: rest =>
      if long && state.pointed && 28 ≤ state.scale then state.roundBy char
      else
        match Numeral.digit? char with
        | some digit =>
            let coefficient := state.coefficient * 10 + digit
            if coefficient < 1 <<< 96 then
              State.read long
                { state with
                  coefficient := coefficient
                  scale := if state.pointed then state.scale + 1 else 0
                  started := true }
                rest
            else if state.pointed then state.roundBy char
            else none
        | none =>
            if char = '.' ∧ !state.pointed then
              State.read long { state with pointed := true } rest
            else if char = '_' ∧ state.started then State.read long state rest
            else none

end Reading

def ofText? (text : List Char) : Option Decimal :=
  let (negative, digits) := Numeral.sign text
  let long := 18 ≤ (String.ofList text).utf8ByteSize
  (Reading.State.mk negative 0 0 false false).read long digits

end Formula.Decimal
