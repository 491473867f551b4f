import Formula.Library.Shape

/-!
Library members declared by the shapes of what they take and give. The receiver is read before
the arguments, and those from left to right; the first that does not fit is the fault.
-/

namespace Formula

structure Slot (α : Type) where
  name : String
  shape : Shape α
  default : Option Value := none

namespace Shape

def named {α : Type} (shape : Shape α) (name : String) : Slot α :=
  { name, shape }

end Shape

namespace Slot

def orElse {α : Type} (slot : Slot α) (default : Value) : Slot α :=
  { slot with default := some default }

def parameter {α : Type} (slot : Slot α) : Parameter :=
  { name := slot.name, type := slot.shape.type, default := slot.default }

end Slot

namespace Library

variable {α β γ δ : Type}

def function1 (name : String) (first : Slot α) (result : Shape β)
    (apply : α → Outcome β) : Method :=
  .onType name [first.parameter] result.type fun call => do
    return result.write call.site (← apply (← call.argument 0 first.shape))

def function2 (name : String) (first : Slot α) (second : Slot β) (result : Shape γ)
    (apply : α → β → Outcome γ) : Method :=
  .onType name [first.parameter, second.parameter] result.type fun call => do
    let left ← call.argument 0 first.shape
    let right ← call.argument 1 second.shape
    return result.write call.site (← apply left right)

def function3 (name : String) (first : Slot α) (second : Slot β) (third : Slot γ)
    (result : Shape δ) (apply : α → β → γ → Outcome δ) : Method :=
  .onType name [first.parameter, second.parameter, third.parameter] result.type fun call => do
    let one ← call.argument 0 first.shape
    let two ← call.argument 1 second.shape
    let three ← call.argument 2 third.shape
    return result.write call.site (← apply one two three)

private def bodyOf (self : Shape α) (result : Shape β) (apply : α → Outcome β) : Body :=
  fun call => do
    return result.write call.site (← apply (← call.self self))

def method0 (name : String) (self : Shape α) (result : Shape β)
    (apply : α → Outcome β) : Method :=
  .onInstance name [] result.type (bodyOf self result apply)

def method1 (name : String) (self : Shape α) (first : Slot β) (result : Shape γ)
    (apply : α → β → Outcome γ) : Method :=
  .onInstance name [first.parameter] result.type fun call => do
    let receiver ← call.self self
    let argument ← call.argument 0 first.shape
    return result.write call.site (← apply receiver argument)

def method2 (name : String) (self : Shape α) (first : Slot β) (second : Slot γ)
    (result : Shape δ) (apply : α → β → γ → Outcome δ) : Method :=
  .onInstance name [first.parameter, second.parameter] result.type fun call => do
    let receiver ← call.self self
    let one ← call.argument 0 first.shape
    let two ← call.argument 1 second.shape
    return result.write call.site (← apply receiver one two)

def property (name : String) (self : Shape α) (result : Shape β) (read : α → β) : Member :=
  .property name result.type (bodyOf self result fun value => .ok (read value))

def signOf : Ordering → Int
  | .lt => -1
  | .eq => 0
  | .gt => 1

/-- A method that compares the receiver to another of its kind; no order counts as equal. -/
def compareTo (shape : Shape α) (order : α → α → Option Ordering) : Method :=
  method1 "CompareTo" shape (shape.named "value") .int32 fun left right =>
    .ok ((order left right).elim 0 signOf)

private def relation (shape : Shape α) (order : α → α → Ordering) (name : String)
    (holds : Ordering → Bool) : Method :=
  function2 name (shape.named "left") (shape.named "right") .boolean fun left right =>
    .ok (holds (order left right))

def equalities (shape : Shape α) (order : α → α → Ordering) : List Method :=
  [ relation shape order "op_Equality" (· == .eq),
    relation shape order "op_Inequality" (· != .eq) ]

def inequalities (shape : Shape α) (order : α → α → Ordering) : List Method :=
  [ relation shape order "op_LessThan" (· == .lt),
    relation shape order "op_LessThanOrEqual" (· != .gt),
    relation shape order "op_GreaterThan" (· == .gt),
    relation shape order "op_GreaterThanOrEqual" (· != .lt) ]

end Library

end Formula
