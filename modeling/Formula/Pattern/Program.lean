import Formula.Pattern.Regex

/-!
Patterns as programs. Every instruction knows where to go on, and a fork tries its first way
before its second. A repetition is copies of its inner pattern, the last of which may be a loop.
-/

namespace Formula.Pattern

inductive Instruction where
  | accept
  | char (holds : CharClass) (next : Nat)
  | assertion (condition : Assertion) (next : Nat)
  | save (slot next : Nat)
  | fork (first second : Nat)

structure Program where
  instructions : Array Instruction
  start : Nat

namespace Program

def adding (program : Program) (instruction : Instruction) : Program :=
  ⟨program.instructions.push instruction, program.instructions.size⟩

def forkTo (isGreedy : Bool) (again out : Nat) : Instruction :=
  if isGreedy then .fork again out else .fork out again

def copies (emit : Program → Program) : Nat → Program → Program
  | 0, program => program
  | count + 1, program => emit (copies emit count program)

/-- At most so many copies, each of which may be where the repetition ends. -/
def options (emit : Program → Program) (isGreedy : Bool) (out : Nat) :
    Nat → Program → Program
  | 0, program => program
  | count + 1, program =>
      let copy := emit (options emit isGreedy out count program)
      copy.adding (forkTo isGreedy copy.start out)

def loop (emit : Program → Program) (isGreedy : Bool) (program : Program) : Program :=
  let turn := program.instructions.size
  let copy := emit (program.adding .accept)
  ⟨copy.instructions.setIfInBounds turn (forkTo isGreedy copy.start program.start), copy.start⟩

def repetition (emit : Program → Program) (least : Nat) (most : Option Nat)
    (isGreedy : Bool) (program : Program) : Program :=
  match most with
  | some most =>
      copies emit least (options emit isGreedy program.start (most - least) program)
  | none =>
      let looped := loop emit isGreedy program
      if least = 0 then looped.adding (forkTo isGreedy looped.start program.start)
      else copies emit (least - 1) looped

def before : Regex → Program → Program
  | .empty, program => program
  | .char holds, program => program.adding (.char holds program.start)
  | .assertion condition, program => program.adding (.assertion condition program.start)
  | .group number inner, program =>
      let body := before inner (program.adding (.save (2 * number + 1) program.start))
      body.adding (.save (2 * number) body.start)
  | .sequence first second, program => before first (before second program)
  | .alternative first second, program =>
      let other := before second program
      let one := before first ⟨other.instructions, program.start⟩
      one.adding (.fork one.start other.start)
  | .repetition inner least most isGreedy, program =>
      repetition (before inner) least most isGreedy program

def ofRegex (regex : Regex) : Program :=
  before regex ⟨#[.accept], 0⟩

end Program

end Formula.Pattern
