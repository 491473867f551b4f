import Formula.Fault
import Formula.Text.Blank
import Formula.Text.Quoted

/-!
Identifiers of 128 bits and their text layouts: 32 hexadecimal digits, the same with hyphens,
and the hyphenated form in braces or parentheses.
-/

namespace Formula

structure Guid where
  value : Nat
  value_lt : value < 1 <<< 128
deriving DecidableEq

namespace Guid

def zero : Guid := ⟨0, by decide⟩

def order (left right : Guid) : Ordering :=
  compare left.value right.value

def digits (guid : Guid) : List Char :=
  let shown := Text.hexadecimal guid.value
  List.replicate (32 - shown.length) '0' ++ shown

def groups : List Nat := [8, 4, 4, 4, 12]

def grouped : List Nat → List Char → List Char
  | [], text => text
  | [length], text => text.take length
  | length :: lengths, text =>
      text.take length ++ '-' :: grouped lengths (text.drop length)

def hyphenated (guid : Guid) : List Char :=
  grouped groups guid.digits

def toText (guid : Guid) : String :=
  String.ofList guid.hyphenated

/-- The text in a layout named by a letter; without one it is hyphenated. -/
def format (guid : Guid) (layout : String) : Outcome String :=
  if layout ∈ ["", "D", "d"] then .ok guid.toText
  else if layout ∈ ["N", "n"] then .ok (String.ofList guid.digits)
  else if layout ∈ ["B", "b"] then .ok (String.ofList ('\x7b' :: guid.hyphenated ++ ['\x7d']))
  else if layout ∈ ["P", "p"] then .ok (String.ofList ('(' :: guid.hyphenated ++ [')']))
  else .error (.malformed (.guidLayout layout))

def hexDigit? (char : Char) : Option Nat :=
  if char.isDigit then some (char.toNat - '0'.toNat)
  else if 'a' ≤ char ∧ char ≤ 'f' then some (char.toNat - 'a'.toNat + 10)
  else if 'A' ≤ char ∧ char ≤ 'F' then some (char.toNat - 'A'.toNat + 10)
  else none

def ofDigits? (text : List Char) : Option Guid := do
  let digits ← text.mapM hexDigit?
  let value := digits.foldl (fun value digit => value * 16 + digit) 0
  if fits : value < 1 <<< 128 ∧ digits.length = 32 then some ⟨value, fits.1⟩ else none

def ungrouped? : List Nat → List Char → Option (List Char)
  | [], text => if text.isEmpty then some [] else none
  | [length], text => if text.length = length then some text else none
  | length :: lengths, text =>
      match text.drop length with
      | '-' :: rest => (ungrouped? lengths rest).map (text.take length ++ ·)
      | _ => none

def unwrap (text : List Char) : List Char :=
  match text.head?, text.getLast? with
  | some first, some last =>
      if (first = '\x7b' ∧ last = '\x7d') ∨ (first = '(' ∧ last = ')') then text.tail.dropLast
      else text
  | _, _ => text

def ofText? (text : List Char) : Option Guid :=
  let inner := unwrap (Text.trim text)
  if inner.length = 32 then ofDigits? inner
  else if inner.length = 36 then (ungrouped? groups inner).bind ofDigits?
  else none

def ofText (text : String) : Outcome Guid :=
  match ofText? text.toList with
  | some guid => .ok guid
  | none => .error (.malformed .guidText)

end Guid

end Formula
