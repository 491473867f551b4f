import Formula.Pattern.Program

/-!
Searching for a pattern. The ways through a program are tried in the order of preference from
every place in turn, and the first that arrives is the match. Being at one instruction and one
place a second time leads nowhere new, so no such state is entered twice.
-/

namespace Formula.Pattern

/-- A way through the program so far: where it stands, and the places it remembers, the latest
first. -/
structure Thread where
  instruction : Nat
  position : Nat
  saved : List (Nat × Nat) := []

structure Match where
  start : Nat
  stop : Nat
  saved : List (Nat × Nat)

namespace Match

def isEmpty (found : Match) : Bool :=
  found.start == found.stop

/-- Where a group matched last; group zero is the whole match. -/
def group? (found : Match) (number : Nat) : Option (Nat × Nat) :=
  if number = 0 then some (found.start, found.stop)
  else do
    let start ← found.saved.lookup (2 * number)
    let stop ← found.saved.lookup (2 * number + 1)
    return (start, stop)

end Match

namespace Thread

/-- The threads that go on from one, the preferred first. -/
def next (text : Array Char) (thread : Thread) : Instruction → List Thread
  | .accept => []
  | .char holds next =>
      match text[thread.position]? with
      | some char =>
          if holds char.toNat then
            [{ thread with instruction := next, position := thread.position + 1 }]
          else []
      | none => []
  | .assertion condition next =>
      let before := if thread.position = 0 then none else text[thread.position - 1]?
      if condition.holds before text[thread.position]? then
        [{ thread with instruction := next }]
      else []
  | .save slot next =>
      [{ thread with instruction := next, saved := (slot, thread.position) :: thread.saved }]
  | .fork first second =>
      [{ thread with instruction := first }, { thread with instruction := second }]

end Thread

namespace Program

private def cell (program : Program) (thread : Thread) : Nat :=
  thread.position * program.instructions.size + thread.instruction

/-- Follows the threads on a stack until one arrives. A state is entered once and leaves at most
two threads behind, which bounds the number of steps. -/
def explore (program : Program) (text : Array Char) :
    Nat → Array Bool → List Thread → Option Thread × Array Bool
  | 0, visited, _ => (none, visited)
  | _, visited, [] => (none, visited)
  | steps + 1, visited, thread :: stack =>
      let cell := program.cell thread
      if visited.getD cell true then explore program text steps visited stack
      else
        match program.instructions[thread.instruction]? with
        | none => (none, visited)
        | some .accept => (some thread, visited)
        | some instruction =>
            explore program text steps (visited.setIfInBounds cell true)
              (thread.next text instruction ++ stack)

/-- Tries so many places in turn. States that led nowhere from an earlier place still do. -/
private def searchFrom (program : Program) (text : Array Char) :
    Nat → Nat → Array Bool → Option Match
  | 0, _, _ => none
  | places + 1, start, visited =>
      match explore program text (2 * visited.size + 2) visited [⟨program.start, start, []⟩] with
      | (some thread, _) => some ⟨start, thread.position, thread.saved⟩
      | (none, visited) => searchFrom program text places (start + 1) visited

def find? (program : Program) (text : Array Char) (start : Nat) : Option Match :=
  let states := program.instructions.size * (text.size + 1)
  searchFrom program text (text.size + 1 - start) start (Array.replicate states false)

/-- The matches from a place on, given where the last one ended: an empty match right there does
not count. -/
private def matchesFrom (program : Program) (text : Array Char) :
    Nat → Nat → Option Nat → List Match
  | 0, _, _ => []
  | rounds + 1, start, last =>
      let found :=
        match program.find? text start with
        | some found =>
            if found.isEmpty && last == some found.stop then program.find? text (start + 1)
            else some found
        | none => none
      match found with
      | some found => found :: matchesFrom program text rounds found.stop (some found.stop)
      | none => []

def findAll (program : Program) (text : Array Char) : List Match :=
  matchesFrom program text (2 * text.size + 2) 0 none

end Program

end Formula.Pattern
