import Formula.Guid
import Formula.Number.Numeral
import Formula.Pattern.Flags
import Formula.Pattern.Property

/-!
What stands after a backslash: a character, a class or a condition.
-/

namespace Formula.Pattern

inductive Atom where
  /-- A character; it may have been given as a byte. -/
  | literal (char : Char) (isByte : Bool)
  | chars (holds : CharClass)
  | assertion (condition : Assertion)

def metaCharacters : List Char :=
  "\\.+*?()|[]\x7b\x7d^$#&-~".toList

def escape (text : List Char) : List Char :=
  text.flatMap fun char => if char ∈ metaCharacters then ['\\', char] else [char]

namespace Escape

/-- Anything in ASCII but letters, digits and angle brackets may be escaped. -/
def isEscapable (char : Char) : Bool :=
  char.toNat < 128 && !char.isAlphanum && char != '<' && char != '>'

private def controls : List (Char × Nat) :=
  [('a', 7), ('f', 12), ('t', 9), ('n', 10), ('r', 13), ('v', 11)]

private def edges : List (String × Edge) :=
  [ ("start", .opening), ("end", .closing), ("start-half", .halfOpening),
    ("end-half", .halfClosing) ]

private def scalar? (digits : List Char) : Option Char := do
  let values ← digits.mapM Guid.hexDigit?
  let point := values.foldl (fun value digit => value * 16 + digit) 0
  if !digits.isEmpty && point.isValidChar then some (Char.ofNat point) else none

private def take? (flags : Flags) : Nat → List Char → Option (List Char × List Char)
  | 0, text => some ([], text)
  | count + 1, text =>
      match flags.skip text with
      | char :: rest => (take? flags count rest).map fun (taken, rest) => (char :: taken, rest)
      | [] => none

private def hexadecimal? (flags : Flags) (width : Nat) (text : List Char) :
    Option (Atom × List Char) :=
  match flags.skip text with
  | '\x7b' :: rest => do
      let (digits, rest) ← flags.readUntil? '\x7d' false rest
      return (.literal (← scalar? digits) false, rest)
  | text => do
      let (digits, rest) ← take? flags width text
      return (.literal (← scalar? digits) (width == 2), rest)

private def property? (flags : Flags) (negated : Bool) (text : List Char) :
    Option (Atom × List Char) := do
  let (name, rest) ←
    match flags.skip text with
    | '\x7b' :: rest => flags.readUntil? '\x7d' false rest
    | char :: rest => if char = '\\' then none else some ([char], rest)
    | [] => none
  let holds ← if flags.unicode then Property.ofText? name else none
  return (.chars (← flags.finish? negated holds), rest)

/-- A word edge. Its kind may stand in braces; a number in braces is a repetition. -/
private def edge? (flags : Flags) (text : List Char) : Option (Atom × List Char) :=
  let plain : Option (Atom × List Char) :=
    some (.assertion (.wordEdge .either flags.unicode), text)
  match text with
  | '\x7b' :: rest =>
      match flags.skip rest with
      | [] => none
      | char :: _ =>
          if char.isAlpha || char == '-' then do
            let (name, rest) ← flags.readUntil? '\x7d' false rest
            let edge ← edges.lookup (String.ofList name)
            return (.assertion (.wordEdge edge flags.unicode), rest)
          else plain
  | _ => plain

def read? (flags : Flags) : List Char → Option (Atom × List Char)
  | [] => none
  | char :: rest =>
      let edge (edge : Edge) : Option (Atom × List Char) :=
        some (.assertion (.wordEdge edge flags.unicode), rest)
      match char with
      | 'x' => hexadecimal? flags 2 rest
      | 'u' => hexadecimal? flags 4 rest
      | 'U' => hexadecimal? flags 8 rest
      | 'p' => property? flags false rest
      | 'P' => property? flags true rest
      | 'A' => some (.assertion .textStart, rest)
      | 'z' => some (.assertion .textEnd, rest)
      | 'b' => edge? flags rest
      | 'B' => edge .neither
      | '<' => edge .opening
      | '>' => edge .closing
      | char =>
          match controls.lookup char, CharClass.lettered? flags.unicode char.toLower with
          | some point, _ => some (.literal (Char.ofNat point) false, rest)
          | none, some holds =>
              if char.isLower then some (.chars holds, rest)
              else if flags.unicode then some (.chars holds.complement, rest)
              else none
          | none, none => if isEscapable char then some (.literal char false, rest) else none

end Escape

end Formula.Pattern
