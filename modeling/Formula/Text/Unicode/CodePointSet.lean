/-!
Sets of code points given by the positions at which membership changes, with membership by
binary search.
-/

namespace Formula.Text

/-- The changes increase; the set starts outside. -/
structure CodePointSet where
  changes : Array Nat

namespace CodePointSet

private def hexDigit (char : Char) : Nat :=
  if char.isDigit then char.toNat - '0'.toNat else char.toNat - 'a'.toNat + 10

private def readDifference (read : Array Nat × Nat × Nat) (char : Char) : Array Nat × Nat × Nat :=
  let (changes, last, pending) := read
  if char = ' ' then (changes.push (last + pending), last + pending, 0)
  else (changes, last, pending * 16 + hexDigit char)

/-- Reads the changes from lines of hexadecimal differences, each followed by a blank or the end
of its line. -/
def ofDifferences (lines : List String) : CodePointSet :=
  let text := " ".intercalate lines
  let (changes, last, pending) := text.toList.foldl readDifference (#[], 0, 0)
  ⟨changes.push (last + pending)⟩

/-- How many of the changes in `low ..< high` are at most `point`, counted from zero. -/
private def rank (set : CodePointSet) (point low high : Nat) : Nat :=
  if low < high then
    let middle := (low + high) / 2
    if (set.changes[middle]?).any (· ≤ point) then rank set point (middle + 1) high
    else rank set point low middle
  else low
termination_by high - low

def contains (set : CodePointSet) (point : Nat) : Bool :=
  rank set point 0 set.changes.size % 2 == 1

def containsChar (set : CodePointSet) (char : Char) : Bool :=
  set.contains char.toNat

end CodePointSet

end Formula.Text
