import Formula.Pattern.Bracket
import Formula.Pattern.Program

/-!
Reading patterns. Groups that are open are kept on a stack with what stands in front of them;
flags set inside a group end with it.
-/

namespace Formula.Pattern

structure Piece where
  regex : Regex
  height : Nat := 0
  /-- A mere change of flags cannot be repeated. -/
  isRepeatable : Bool := true

namespace Piece

private def join (combine : List Regex → Regex) : List Piece → Piece
  | [] => { regex := .empty }
  | [piece] => { piece with isRepeatable := true }
  | pieces =>
      { regex := combine (pieces.reverse.map Piece.regex)
        height := (pieces.map Piece.height).foldl max 0 + 1 }

def sequence (pieces : List Piece) : Piece :=
  join Regex.sequenceOf pieces

def alternative (branches : List Piece) : Piece :=
  join Regex.alternativeOf branches

end Piece

structure OpenGroup where
  number : Option Nat
  flags : Flags
  branches : List Piece
  pieces : List Piece

/-- Where reading stands: the finished branches of the innermost group and the parts of the
branch being read, each with the last one first. -/
structure Progress where
  flags : Flags
  groups : Nat := 0
  names : List (String × Nat) := []
  branches : List Piece := []
  pieces : List Piece := []
  enclosing : List OpenGroup := []

namespace Progress

def add (progress : Progress) (piece : Piece) : Progress :=
  { progress with pieces := piece :: progress.pieces }

def addBranch (progress : Progress) : Progress :=
  { progress with branches := .sequence progress.pieces :: progress.branches, pieces := [] }

def content (progress : Progress) : Piece :=
  .alternative progress.addBranch.branches

def openGroup (progress : Progress) (number : Option Nat) (flags : Flags) : Progress :=
  { progress with
    flags := flags
    branches := []
    pieces := []
    enclosing :=
      { number := number, flags := progress.flags, branches := progress.branches,
        pieces := progress.pieces } :: progress.enclosing }

def openNumbered (progress : Progress) : Progress :=
  let number := progress.groups + 1
  { progress.openGroup (some number) progress.flags with groups := number }

def openNamed? (progress : Progress) (name : String) : Option Progress :=
  if progress.names.any fun (other, _) => other == name then none
  else
    some { progress.openNumbered with
      names := progress.names ++ [(name, progress.groups + 1)] }

def closeGroup? (progress : Progress) : Option Progress :=
  match progress.enclosing with
  | [] => none
  | group :: enclosing =>
      let inner := progress.content
      let piece : Piece :=
        { regex := match group.number with
            | some number => .group number inner.regex
            | none => inner.regex
          height := inner.height + 1 }
      some { progress with
        flags := group.flags
        branches := group.branches
        pieces := piece :: group.pieces
        enclosing := enclosing }

def repeatLast? (progress : Progress) (least : Nat) (most : Option Nat) (isLazy : Bool) :
    Option Progress :=
  match progress.pieces with
  | piece :: pieces =>
      if piece.isRepeatable then
        let isGreedy := isLazy == progress.flags.swapsGreed
        some { progress with
          pieces :=
            { regex := .repetition piece.regex least most isGreedy
              height := piece.height + 1 } :: pieces }
      else none
  | [] => none

end Progress

namespace Reading

private def name? (text : List Char) : Option (String × List Char) :=
  let name := text.takeWhile (· != '>')
  let allowed (char : Char) : Bool :=
    char == '_' || char == '.' || char == '[' || char == ']' || Text.isLetterOrNumber char
  match name, text.dropWhile (· != '>') with
  | first :: _, '>' :: rest =>
      if (first == '_' || Text.isLetter first) && name.all allowed then
        some (String.ofList name, rest)
      else none
  | _, _ => none

private def group? (progress : Progress) (text : List Char) : Option (Progress × List Char) :=
  let named (rest : List Char) : Option (Progress × List Char) := do
    let (name, rest) ← name? rest
    return (← progress.openNamed? name, rest)
  match progress.flags.skip text with
  | '?' :: '=' :: _ | '?' :: '!' :: _ | '?' :: '<' :: '=' :: _ | '?' :: '<' :: '!' :: _ => none
  | '?' :: 'P' :: '<' :: rest | '?' :: '<' :: rest => named rest
  | '?' :: ')' :: _ => none
  | '?' :: rest => do
      let (flags, rest) ← Flags.read? [] true progress.flags rest
      match rest with
      | ':' :: rest => return (progress.openGroup none flags, rest)
      | _ :: rest =>
          return ({ progress.add { regex := .empty, isRepeatable := false } with flags := flags },
            rest)
      | [] => none
  | text => some (progress.openNumbered, text)

/-- Digits, with white space around them. In a verbose pattern nothing else in between counts
either. -/
private def digits (flags : Flags) : Bool → List Char → List Char × List Char
  | _, [] => ([], [])
  | true, char :: rest => digits flags (char != '\n') rest
  | false, char :: rest =>
      if char.isDigit then
        let (later, rest) := digits flags false rest
        (char :: later, rest)
      else if flags.isVerbose && Text.isBlank char then digits flags false rest
      else if flags.isVerbose && char == '#' then digits flags true rest
      else ([], char :: rest)

/-- A number below two to the 32nd, and none where there are no digits. -/
private def count? (flags : Flags) (text : List Char) : Option (Option Nat × List Char) :=
  let (digits, rest) := digits flags false (text.dropWhile Text.isBlank)
  let number := Numeral.ofDigits digits
  if digits.isEmpty then some (none, rest.dropWhile Text.isBlank)
  else if number < 1 <<< 32 then some (some number, rest.dropWhile Text.isBlank)
  else none

private def bounds? (flags : Flags) (text : List Char) :
    Option (Nat × Option Nat × List Char) := do
  let (first, rest) ← count? flags (flags.skip text)
  let least ← first
  match rest with
  | ',' :: rest =>
      match flags.skip rest with
      | '\x7d' :: rest => return (least, none, rest)
      | rest =>
          let (second, rest) ← count? flags rest
          let most ← second
          match rest with
          | '\x7d' :: rest => if least ≤ most then return (least, some most, rest) else none
          | _ => none
  | '\x7d' :: rest => return (least, some least, rest)
  | _ => none

private def simple? (progress : Progress) (least : Nat) (most : Option Nat)
    (text : List Char) : Option (Progress × List Char) :=
  match text with
  | '?' :: rest => (progress.repeatLast? least most true).map (·, rest)
  | rest => (progress.repeatLast? least most false).map (·, rest)

private def atomPiece? (flags : Flags) (atom : Atom) : Option Piece :=
  match atom with
  | .literal char isByte =>
      if isByte && !flags.unicode && 128 ≤ char.toNat then none
      else some { regex := .char (flags.charClass char) }
  | .chars holds => some { regex := .char holds }
  | .assertion condition => some { regex := .assertion condition }

/-- One step: takes at least one character. -/
private def step? (progress : Progress) : List Char → Option (Progress × List Char)
  | [] => none
  | char :: rest =>
      let flags := progress.flags
      match char with
      | '(' => group? progress rest
      | ')' => progress.closeGroup?.map (·, rest)
      | '|' => some (progress.addBranch, rest)
      | '[' => do
          let (set, rest) ← Bracket.read? flags rest
          return (progress.add { regex := .char set.holds, height := set.height }, rest)
      | '?' => simple? progress 0 (some 1) rest
      | '*' => simple? progress 0 none rest
      | '+' => simple? progress 1 none rest
      | '\x7b' => do
          let (least, most, rest) ← bounds? flags rest
          simple? progress least most (flags.skip rest)
      | '\\' => do
          let (atom, rest) ← Escape.read? flags rest
          return (progress.add (← atomPiece? flags atom), rest)
      | '.' => do return (progress.add { regex := .char (← flags.dot?) }, rest)
      | '^' => some (progress.add { regex := .assertion flags.caret }, rest)
      | '$' => some (progress.add { regex := .assertion flags.dollar }, rest)
      | char => some (progress.add { regex := .char (flags.charClass char) }, rest)

private def readFrom : Nat → Progress → List Char → Option Progress
  | 0, _, _ => none
  | fuel + 1, progress, text =>
      match progress.flags.skip text with
      | [] => some progress
      | text => do
          let (progress, rest) ← step? progress text
          readFrom fuel progress rest

end Reading

end Formula.Pattern

namespace Formula

structure Pattern where
  program : Pattern.Program
  names : List (String × Nat)

namespace Pattern

def heightLimit : Nat := 250

def sizeLimit : Nat := 327680

inductive Rejection where
  | malformed
  | tooLarge
deriving DecidableEq, Repr

/-- Reads a pattern. There are no more steps than characters. -/
def ofText (flags : Flags) (text : List Char) : Except Rejection Pattern :=
  match Reading.readFrom (text.length + 1) { flags } text with
  | none => .error .malformed
  | some progress =>
      let piece := progress.content
      if !progress.enclosing.isEmpty || heightLimit < piece.height then .error .malformed
      else if sizeLimit < piece.regex.size then .error .tooLarge
      else .ok { program := .ofRegex piece.regex, names := progress.names }

end Pattern

end Formula
