import Formula.Evaluation.Arithmetic
import Formula.Evaluation.Cast
import Formula.Term.Basic

/-!
The value of a typed tree. Operands are evaluated from left to right and the first fault is the
answer; the logical operators, the choice after a null and conditionals evaluate only what they
need. Every node has a path, and what it makes has its origin there.
-/

namespace Formula

structure Setting where
  catalog : Catalog
  receiver : Option Value := none
  place : List Nat → List Nat := id

namespace Setting

def requireInstance : Value → Outcome Value
  | .null => .error .nullReference
  | value => .ok value

def requireTruth : Value → Outcome Bool
  | .boolean value => .ok value
  | .null => .error .nullWithoutValue
  | value => .error (.invalidTree (.truthValueExpected value.kindName))

def requireItems : Value → Outcome (List Value)
  | .array _ _ items => .ok items
  | .null => .error .nullReference
  | value => .error (.invalidTree (.arrayExpected value.kindName))

def elementOf (array position : Value) : Outcome Value := do
  let items ← requireItems array
  match position.toInt? with
  | none => throw (.invalidTree .indexKind)
  | some position =>
      if 0 ≤ position then
        match items[position.toNat]? with
        | some item => return item
        | none => throw .indexOutOfRange
      else throw .indexOutOfRange

mutual

def evaluate (setting : Setting) (site : List Nat) : Term → Outcome Value
  | .constant value _ => .ok value
  | .parameter name _ =>
      match setting.receiver with
      | some value => .ok value
      | none => .error (.invalidTree (.unboundReceiver name))
  | .staticMember member => member.body ⟨setting.place site, none, []⟩
  | .instanceMember receiver member => do
      let receiver ← requireInstance (← evaluate setting (0 :: site) receiver)
      member.body ⟨setting.place site, some receiver, []⟩
  | .index receiver indexer arguments => do
      let receiver ← requireInstance (← evaluate setting (0 :: site) receiver)
      let arguments ← evaluateAll setting site 1 arguments
      indexer.body ⟨setting.place site, some receiver, arguments⟩
  | .staticCall method arguments => do
      let arguments ← evaluateAll setting site 1 arguments
      method.body ⟨setting.place site, none, arguments⟩
  | .instanceCall receiver method arguments => do
      let receiver ← requireInstance (← evaluate setting (0 :: site) receiver)
      let arguments ← evaluateAll setting site 1 arguments
      method.body ⟨setting.place site, some receiver, arguments⟩
  | .convert operand target => do
      let value ← evaluate setting (0 :: site) operand
      setting.catalog.cast value operand.type target
  | .convertBy method operand _ => do
      let value ← evaluate setting (0 :: site) operand
      method.body ⟨setting.place site, none, [value]⟩
  | .unary operator operand _ => do
      let value ← evaluate setting (0 :: site) operand
      if value.isNull then return .null else operator.apply value
  | .unaryBy method _ operand => do
      let value ← evaluate setting (0 :: site) operand
      method.body ⟨setting.place site, none, [value]⟩
  | .binary .andAlso left right _ => do
      if ← requireTruth (← evaluate setting (0 :: site) left) then
        return .boolean (← requireTruth (← evaluate setting (1 :: site) right))
      else return .boolean false
  | .binary .orElse left right _ => do
      if ← requireTruth (← evaluate setting (0 :: site) left) then return .boolean true
      else return .boolean (← requireTruth (← evaluate setting (1 :: site) right))
  | .binary operator left right _ => do
      let left ← evaluate setting (0 :: site) left
      let right ← evaluate setting (1 :: site) right
      if left.isNull || right.isNull then return operator.applyNull left right
      else operator.apply left right
  | .binaryBy method _ left right => do
      let left ← evaluate setting (0 :: site) left
      let right ← evaluate setting (1 :: site) right
      method.body ⟨setting.place site, none, [left, right]⟩
  | .coalesce left right => do
      let value ← evaluate setting (0 :: site) left
      if value.isNull then evaluate setting (1 :: site) right else return value
  | .conditional test whenTrue whenFalse => do
      if ← requireTruth (← evaluate setting (0 :: site) test) then
        evaluate setting (1 :: site) whenTrue
      else evaluate setting (2 :: site) whenFalse
  | .elementAt array position => do
      let array ← evaluate setting (0 :: site) array
      let position ← evaluate setting (1 :: site) position
      elementOf array position
  | .lengthOf array => do
      let items ← requireItems (← evaluate setting (0 :: site) array)
      return .int32 items.length
  | .newArray itemType items => do
      let items ← evaluateAll setting site 0 items
      return .array (.made (setting.place site) 0) itemType items

def evaluateAll (setting : Setting) (site : List Nat) (child : Nat) :
    List Term → Outcome (List Value)
  | [] => .ok []
  | term :: terms => do
      let value ← evaluate setting (child :: site) term
      return value :: (← evaluateAll setting site (child + 1) terms)

end

end Setting

end Formula
