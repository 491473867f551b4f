import Formula.Pattern.CharClass

/-!
Patterns as trees. Of several ways to match, the one that comes first in the tree is taken; a
repetition tries one more round first, or stopping first.
-/

namespace Formula.Pattern

/-- Where two neighbours differ in being part of a word. The half edges look to one side. -/
inductive Edge where
  | either
  | neither
  | opening
  | closing
  | halfOpening
  | halfClosing
deriving DecidableEq, Repr

inductive Assertion where
  | textStart
  | textEnd
  /-- Lines end at a line feed, or at a pair with a carriage return in front. -/
  | lineStart (pairs : Bool)
  | lineEnd (pairs : Bool)
  | wordEdge (edge : Edge) (unicode : Bool)
deriving DecidableEq, Repr

inductive Regex where
  | empty
  | char (holds : CharClass)
  | assertion (condition : Assertion)
  | group (number : Nat) (inner : Regex)
  | sequence (first second : Regex)
  | alternative (first second : Regex)
  | repetition (inner : Regex) (least : Nat) (most : Option Nat) (isGreedy : Bool)

namespace Regex

def sequenceOf : List Regex → Regex
  | [] => empty
  | [only] => only
  | first :: rest => sequence first (sequenceOf rest)

def alternativeOf : List Regex → Regex
  | [] => empty
  | [only] => only
  | first :: rest => alternative first (alternativeOf rest)

def size : Regex → Nat
  | empty => 0
  | char _ | assertion _ => 1
  | group _ inner => inner.size + 2
  | sequence first second => first.size + second.size
  | alternative first second => first.size + second.size + 1
  | repetition inner least most _ =>
      match most with
      | some most => most * inner.size + (most - least)
      | none => max least 1 * inner.size + 2

end Regex

namespace Edge

def holds : Edge → Bool → Bool → Bool
  | either, before, after => before != after
  | neither, before, after => before == after
  | opening, before, after => !before && after
  | closing, before, after => before && !after
  | halfOpening, before, _ => !before
  | halfClosing, _, after => !after

end Edge

namespace Assertion

def holds (condition : Assertion) (before after : Option Char) : Bool :=
  match condition with
  | textStart => before.isNone
  | textEnd => after.isNone
  | lineStart pairs =>
      before.isNone || before == some '\n' ||
        (pairs && before == some '\r' && after != some '\n')
  | lineEnd pairs =>
      after.isNone || (pairs && after == some '\r') ||
        (after == some '\n' && !(pairs && before == some '\r'))
  | wordEdge edge unicode =>
      let isWord (char : Char) : Bool :=
        if unicode then CharClass.word char.toNat else CharClass.asciiWord char.toNat
      edge.holds (before.any isWord) (after.any isWord)

end Assertion

end Formula.Pattern
