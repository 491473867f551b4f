import Formula.Pattern.Reading
import Formula.Pattern.Search

/-!
What is done with the matches of a pattern: splitting at them and replacing them. A replacement
names groups by a dollar sign and a number or a name, in braces or as long as it can be.
-/

namespace Formula.Pattern

private def slice (text : List Char) (start stop : Nat) : List Char :=
  (text.drop start).take (stop - start)

private def isNameChar (char : Char) : Bool :=
  char.isAlphanum || char == '_'

/-- The text of a group that the reference stands for; a group that is not there is empty. -/
private def groupText (pattern : Pattern) (text : List Char) (found : Match)
    (reference : List Char) : List Char :=
  let number :=
    match Numeral.natural? (if reference.head? = some '+' then reference.tail else reference) with
    | some number => some number
    | none => pattern.names.lookup (String.ofList reference)
  match number.bind found.group? with
  | some (start, stop) => slice text start stop
  | none => []

/-- Writes a replacement for a match, with `skip` characters of a reference still to pass. -/
private def expandFrom (pattern : Pattern) (text : List Char) (found : Match) :
    Nat → List Char → List Char
  | _, [] => []
  | skip + 1, _ :: rest => expandFrom pattern text found skip rest
  | 0, '$' :: rest =>
      let after (reference : List Char) (length : Nat) : List Char :=
        groupText pattern text found reference ++ expandFrom pattern text found length rest
      match rest with
      | '$' :: _ => '$' :: expandFrom pattern text found 1 rest
      | '\x7b' :: braced =>
          let reference := braced.takeWhile (· != '\x7d')
          if reference.length < braced.length then after reference (reference.length + 2)
          else '$' :: expandFrom pattern text found 0 rest
      | rest' =>
          let reference := rest'.takeWhile isNameChar
          if reference.isEmpty then '$' :: expandFrom pattern text found 0 rest
          else after reference reference.length
  | 0, char :: rest => char :: expandFrom pattern text found 0 rest

def expand (pattern : Pattern) (text : List Char) (found : Match) (replacement : List Char) :
    List Char :=
  expandFrom pattern text found 0 replacement

def findAll (pattern : Pattern) (text : List Char) : List Match :=
  pattern.program.findAll text.toArray

def isMatch (pattern : Pattern) (text : List Char) : Bool :=
  (pattern.program.find? text.toArray 0).isSome

private def partsFrom (text : List Char) (start : Nat) : List Match → List (List Char)
  | [] => [text.drop start]
  | found :: later => slice text start found.start :: partsFrom text found.stop later

def split (pattern : Pattern) (text : List Char) : List (List Char) :=
  partsFrom text 0 (pattern.findAll text)

private def replaceFrom (pattern : Pattern) (text replacement : List Char) (start : Nat) :
    List Match → List Char
  | [] => text.drop start
  | found :: later =>
      slice text start found.start ++ pattern.expand text found replacement ++
        replaceFrom pattern text replacement found.stop later

def replaceAll (pattern : Pattern) (text replacement : List Char) : List Char :=
  replaceFrom pattern text replacement 0 (pattern.findAll text)

end Formula.Pattern
