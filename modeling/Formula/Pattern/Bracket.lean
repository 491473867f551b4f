import Formula.Pattern.Escape

/-!
Classes in brackets: characters, ranges, other classes, and the set operations between them,
which are taken from left to right.
-/

namespace Formula.Pattern

/-- A class with the height of the tree it was written as. -/
structure CharSet where
  holds : CharClass
  height : Nat := 0

inductive SetOperation where
  | intersection
  | difference
  | symmetricDifference
deriving DecidableEq, Repr

namespace SetOperation

def apply : SetOperation → CharClass → CharClass → CharClass
  | intersection, left, right => fun point => left point && right point
  | difference, left, right => fun point => left point && !right point
  | symmetricDifference, left, right => fun point => left point != right point

def ofSign? : Char → Option SetOperation
  | '&' => some intersection
  | '-' => some difference
  | '~' => some symmetricDifference
  | _ => none

end SetOperation

namespace Bracket

structure Items where
  holds : CharClass := .nothing
  height : Nat := 0
  count : Nat := 0

namespace Items

def add (items : Items) (set : CharSet) : Items :=
  { holds := items.holds.union set.holds
    height := max items.height set.height
    count := items.count + 1 }

def addChar (items : Items) (char : Char) : Items :=
  items.add { holds := .only char.toNat }

def set (items : Items) : CharSet :=
  { holds := items.holds, height := if items.count ≤ 1 then items.height else items.height + 1 }

end Items

/-- What is open around the items being read: a bracket with the items in front of it, or the
left side of an operation. -/
inductive Frame where
  | bracket (negated : Bool) (outer : Items)
  | operation (operation : SetOperation) (left : CharSet)

private def operate (flags : Flags) (right : CharSet) :
    List Frame → CharSet × List Frame
  | .operation operation left :: frames =>
      ({ holds := operation.apply (flags.closed left.holds) (flags.closed right.holds)
         height := max left.height right.height + 1 }, frames)
  | frames => (right, frames)

/-- Minus signs at the start stand for themselves. -/
private def leadingSigns (flags : Flags) : Bool → Items → List Char → Items × List Char
  | _, items, [] => (items, [])
  | true, items, char :: rest => leadingSigns flags (char != '\n') items rest
  | false, items, char :: rest =>
      if flags.isVerbose && Text.isBlank char then leadingSigns flags false items rest
      else if flags.isVerbose && char == '#' then leadingSigns flags true items rest
      else if char = '-' then leadingSigns flags false (items.addChar '-') rest
      else (items, char :: rest)

/-- Reads the start of a bracket, after its sign. A closing bracket that comes first stands for
itself. -/
private def open? (flags : Flags) (text : List Char) : Option (Bool × Items × List Char) :=
  let text := flags.skip text
  let (negated, text) :=
    match text with
    | '^' :: rest => (true, flags.skip rest)
    | text => (false, text)
  match leadingSigns flags false {} text with
  | (_, []) => none
  | (items, ']' :: rest) =>
      if items.count = 0 then some (negated, items.addChar ']', rest)
      else some (negated, items, ']' :: rest)
  | (items, text) => some (negated, items, text)

private def named? (text : List Char) : Option (CharClass × List Char) :=
  match text with
  | ':' :: text =>
      let (negated, text) :=
        match text with
        | '^' :: rest => (true, rest)
        | text => (false, text)
      match CharClass.named.lookup (String.ofList (text.takeWhile (· != ':'))),
          text.dropWhile (· != ':') with
      | some holds, ':' :: ']' :: rest =>
          some (if negated then holds.complement else holds, rest)
      | _, _ => none
  | _ => none

private def atom? (flags : Flags) : List Char → Option (Atom × List Char)
  | [] => none
  | '\\' :: rest => Escape.read? flags rest
  | char :: rest => some (.literal char false, rest)

/-- Without Unicode only ASCII characters may stand in brackets. -/
private def literal? (flags : Flags) : Atom → Option Char
  | .literal char _ => if flags.unicode || char.toNat < 128 then some char else none
  | _ => none

private def single? (flags : Flags) (atom : Atom) : Option CharClass :=
  match atom with
  | .chars holds => some holds
  | atom => (literal? flags atom).map fun char => .only char.toNat

/-- The character after the next one that counts: white space is passed over, and one mark of a
comment with it. -/
private def peek (flags : Flags) (rest : List Char) : Option Char :=
  if !flags.isVerbose then rest.head?
  else
    let visible :=
      match rest.dropWhile Text.isBlank with
      | '#' :: after => after.dropWhile Text.isBlank
      | after => after
    (visible.head?).or rest.head?

/-- A character or class, or a range of characters. A minus before the end or before another
one is no range. -/
private def range? (flags : Flags) (text : List Char) : Option (CharClass × List Char) := do
  let (first, rest) ← atom? flags text
  match flags.skip rest with
  | [] => none
  | '-' :: after =>
      if peek flags after = some ']' ∨ peek flags after = some '-' then
        return (← single? flags first, '-' :: after)
      else
        let (last, rest) ← atom? flags (flags.skip after)
        let low ← literal? flags first
        let high ← literal? flags last
        if low.toNat ≤ high.toNat then some (.range low.toNat high.toNat, rest) else none
  | rest => return (← single? flags first, rest)

private def readFrom (flags : Flags) :
    Nat → List Frame → Items → List Char → Option (CharSet × List Char)
  | 0, _, _, _ => none
  | fuel + 1, frames, items, text =>
      match flags.skip text with
      | [] => none
      | '[' :: rest =>
          match named? rest with
          | some (holds, rest) => readFrom flags fuel frames (items.add { holds }) rest
          | none => do
              let (negated, inner, rest) ← open? flags rest
              readFrom flags fuel (.bracket negated items :: frames) inner rest
      | ']' :: rest =>
          let (set, frames) := operate flags items.set frames
          match frames with
          | .bracket negated outer :: frames => do
              let holds ← flags.finish? negated set.holds
              let set : CharSet := { holds, height := set.height + 1 }
              if frames.isEmpty then return (set, rest)
              else readFrom flags fuel frames (outer.add set) rest
          | _ => none
      | first :: second :: rest =>
          match SetOperation.ofSign? first with
          | some operation =>
              if first = second then
                let (left, frames) := operate flags items.set frames
                readFrom flags fuel (.operation operation left :: frames) {} rest
              else do
                let (holds, rest) ← range? flags (first :: second :: rest)
                readFrom flags fuel frames (items.add { holds }) rest
          | none => do
              let (holds, rest) ← range? flags (first :: second :: rest)
              readFrom flags fuel frames (items.add { holds }) rest
      | [_] => none

/-- Reads a class after its opening bracket. Every step takes a character, so that there are no
more steps than characters. -/
def read? (flags : Flags) (text : List Char) : Option (CharSet × List Char) := do
  let (negated, items, rest) ← open? flags text
  readFrom flags (rest.length + 1) [.bracket negated {}] items rest

end Bracket

end Formula.Pattern
