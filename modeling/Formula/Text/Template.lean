import Formula.Number.Numeral

/-!
Templates: texts with numbered places to fill in. A number in braces is a place, a doubled brace
is a brace, and a brace that stands alone is a mistake.
-/

namespace Formula.Text

/-- Fills the rest of a template. Inside a place the digits read so far are at hand. -/
def fillFrom (arguments : List (List Char)) :
    Option (List Char) → List Char → Option (List Char)
  | none, [] => some []
  | none, '\x7b' :: '\x7b' :: rest => (fillFrom arguments none rest).map ('\x7b' :: ·)
  | none, '\x7d' :: '\x7d' :: rest => (fillFrom arguments none rest).map ('\x7d' :: ·)
  | none, '\x7b' :: rest => fillFrom arguments (some []) rest
  | none, '\x7d' :: _ => none
  | none, char :: rest => (fillFrom arguments none rest).map (char :: ·)
  | some _, [] => none
  | some digits, '\x7d' :: rest => do
      let argument ← arguments[← Numeral.natural? digits]?
      return argument ++ (← fillFrom arguments none rest)
  | some digits, char :: rest =>
      if char.isDigit then fillFrom arguments (some (digits ++ [char])) rest else none

def fill? (arguments : List (List Char)) (template : List Char) : Option (List Char) :=
  fillFrom arguments none template

end Formula.Text
