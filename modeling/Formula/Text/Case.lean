import Formula.Text.Unicode.CaseTable
import Formula.Text.Unicode.Property

/-!
Upper and lower case of characters and of texts, and names that are the same when case is
ignored.
-/

namespace Formula.Text

private def shifted (runs : List CaseRun) (point : Nat) : Option Nat :=
  (runs.find? (·.covers point)).map (fun run => ((point : Int) + run.offset).toNat)

private def mapped (runs : List CaseRun) (sequences : List (Nat × List Nat)) (char : Char) :
    List Char :=
  match shifted runs char.toNat with
  | some point => [Char.ofNat point]
  | none =>
      match sequences.lookup char.toNat with
      | some points => points.map Char.ofNat
      | none => [char]

/-- The lower case form of one character, which has two for a capital I with a dot. -/
def lowerChar (char : Char) : List Char :=
  if char.toNat < 128 then [char.toLower]
  else mapped Unicode.lowerRuns Unicode.lowerSequences char

def upperChar (char : Char) : List Char :=
  if char.toNat < 128 then [char.toUpper]
  else mapped Unicode.upperRuns Unicode.upperSequences char

def lowerChars (chars : List Char) : List Char :=
  chars.flatMap lowerChar

def upper (text : String) : String :=
  String.ofList (text.toList.flatMap upperChar)

def isCapitalSigma (char : Char) : Bool :=
  char.toNat == 0x3a3

def smallSigma : Char := Char.ofNat 0x3c3

def finalSigma : Char := Char.ofNat 0x3c2

/-- A cased character comes first once those that case rules look through are passed over. -/
def meetsCased (chars : List Char) : Bool :=
  match chars.dropWhile Unicode.caseIgnorable.containsChar with
  | [] => false
  | char :: _ => Unicode.cased.containsChar char

/-- Lower case with a sigma that ends a word in its final form; `before` is what has been read,
the last character first. -/
def lowerFrom (before : List Char) : List Char → List Char
  | [] => []
  | char :: rest =>
      let form :=
        if isCapitalSigma char then
          if meetsCased before && !meetsCased rest then [finalSigma] else [smallSigma]
        else lowerChar char
      form ++ lowerFrom (char :: before) rest

def lower (text : String) : String :=
  String.ofList (lowerFrom [] text.toList)

def sameName (left right : String) : Bool :=
  left == right || lowerChars left.toList == lowerChars right.toList

/-- The least character equal to this one when case is ignored. -/
def foldPoint (point : Nat) : Nat :=
  (shifted Unicode.foldRuns point).getD point

def caseVariants (point : Nat) : List Nat :=
  let least := foldPoint point
  let others := Unicode.foldRuns.filterMap fun run =>
    let candidate := (least : Int) - run.offset
    if 0 ≤ candidate && run.covers candidate.toNat then some candidate.toNat else none
  least :: others

end Formula.Text
