import Formula.Pattern.Regex

/-!
The flags under which a pattern is read, and what they make of its simplest parts. In a verbose
pattern white space and comments do not count.
-/

namespace Formula.Pattern

structure Flags where
  ignoresCase : Bool := false
  multiLine : Bool := false
  dotMatchesAll : Bool := false
  swapsGreed : Bool := false
  unicode : Bool := true
  pairedLineEnds : Bool := false
  isVerbose : Bool := false
deriving DecidableEq, Repr

namespace Flags

def set? (flags : Flags) (letter : Char) (value : Bool) : Option Flags :=
  match letter with
  | 'i' => some { flags with ignoresCase := value }
  | 'm' => some { flags with multiLine := value }
  | 's' => some { flags with dotMatchesAll := value }
  | 'U' => some { flags with swapsGreed := value }
  | 'u' => some { flags with unicode := value }
  | 'R' => some { flags with pairedLineEnds := value }
  | 'x' => some { flags with isVerbose := value }
  | _ => none

/-- Reads flags up to the character that ends them, which stays. No letter may come twice, and a
minus, which turns off what follows it, has to be followed by something. -/
def read? (seen : List Char) (value : Bool) (flags : Flags) :
    List Char → Option (Flags × List Char)
  | [] => none
  | char :: rest =>
      if char = ':' ∨ char = ')' then
        if seen.head? = some '-' then none else some (flags, char :: rest)
      else if char ∈ seen then none
      else if char = '-' then read? (char :: seen) false flags rest
      else
        match flags.set? char value with
        | some flags => read? (char :: seen) value flags rest
        | none => none

def charClass (flags : Flags) (char : Char) : CharClass :=
  if !flags.ignoresCase then .only char.toNat
  else if flags.unicode then
    fun point => Text.foldPoint point == Text.foldPoint char.toNat
  else (CharClass.only char.toNat).foldedAscii

/-- The class of a dot, which is every character but the end of a line. Without Unicode it
would match half a character. -/
def dot? (flags : Flags) : Option CharClass :=
  if !flags.unicode then none
  else if flags.dotMatchesAll then some .everything
  else if flags.pairedLineEnds then some fun point => point != 10 && point != 13
  else some fun point => point != 10

def caret (flags : Flags) : Assertion :=
  if flags.multiLine then .lineStart flags.pairedLineEnds else .textStart

def dollar (flags : Flags) : Assertion :=
  if flags.multiLine then .lineEnd flags.pairedLineEnds else .textEnd

def closed (flags : Flags) (holds : CharClass) : CharClass :=
  if !flags.ignoresCase then holds
  else if flags.unicode then holds.folded
  else holds.foldedAscii

/-- A closed class, or its complement if it is negated. Without Unicode only ASCII characters
may be left in it. -/
def finish? (flags : Flags) (negated : Bool) (holds : CharClass) : Option CharClass :=
  let result := if negated then (flags.closed holds).complement else flags.closed holds
  if flags.unicode then some result
  else if result.isAscii then some result.ascii
  else none

end Flags

/-- The text after white space and comments, which run to the end of the line. -/
def skipFiller : Bool → List Char → List Char
  | _, [] => []
  | true, char :: rest => skipFiller (char != '\n') rest
  | false, char :: rest =>
      if Text.isBlank char then skipFiller false rest
      else if char = '#' then skipFiller true rest
      else char :: rest

namespace Flags

def skip (flags : Flags) (text : List Char) : List Char :=
  if flags.isVerbose then skipFiller false text else text

/-- Reads up to a closing character and leaves out what does not count. -/
def readUntil? (flags : Flags) (close : Char) : Bool → List Char → Option (List Char × List Char)
  | _, [] => none
  | true, char :: rest => readUntil? flags close (char != '\n') rest
  | false, char :: rest =>
      if flags.isVerbose && Text.isBlank char then readUntil? flags close false rest
      else if flags.isVerbose && char == '#' then readUntil? flags close true rest
      else if char = close then some ([], rest)
      else (readUntil? flags close false rest).map fun (inside, rest) => (char :: inside, rest)

end Flags

end Formula.Pattern
