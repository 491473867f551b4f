/-!
Finding, splitting and replacing in lists of characters, always from left to right and without
overlap.
-/

namespace Formula.Text

def stripLeading? : List Char → List Char → Option (List Char)
  | [], text => some text
  | _ :: _, [] => none
  | wanted :: pattern, char :: text =>
      if wanted = char then stripLeading? pattern text else none

def startsWith (pattern text : List Char) : Bool :=
  (stripLeading? pattern text).isSome

def endsWith (pattern text : List Char) : Bool :=
  startsWith pattern.reverse text.reverse

def position? (pattern : List Char) : List Char → Option Nat
  | [] => if pattern.isEmpty then some 0 else none
  | char :: text =>
      if startsWith pattern (char :: text) then some 0
      else (position? pattern text).map (· + 1)

def cutAt? (pattern : List Char) : List Char → Option (List Char × List Char)
  | [] => if pattern.isEmpty then some ([], []) else none
  | char :: text =>
      match stripLeading? pattern (char :: text) with
      | some rest => some ([], rest)
      | none => (cutAt? pattern text).map (fun (before, after) => (char :: before, after))

/-- The first part and the later ones, after `skip` characters of a separator. -/
def splitFrom (separator : List Char) :
    Nat → List Char → List Char × List (List Char)
  | _, [] => ([], [])
  | skip + 1, _ :: text => splitFrom separator skip text
  | 0, char :: text =>
      if startsWith separator (char :: text) then
        let (part, parts) := splitFrom separator (separator.length - 1) text
        ([], part :: parts)
      else
        let (part, parts) := splitFrom separator 0 text
        (char :: part, parts)

def splitOn (separator text : List Char) : List (List Char) :=
  let (part, parts) := splitFrom separator 0 text
  part :: parts

private def splitParts (isSeparator : Char → Bool) :
    List Char → List Char × List (List Char)
  | [] => ([], [])
  | char :: text =>
      let (part, parts) := splitParts isSeparator text
      if isSeparator char then ([], part :: parts) else (char :: part, parts)

def splitWhere (isSeparator : Char → Bool) (text : List Char) : List (List Char) :=
  let (part, parts) := splitParts isSeparator text
  part :: parts

theorem splitWhere_cons (isSeparator : Char → Bool) (char : Char) (text : List Char) :
    splitWhere isSeparator (char :: text) =
      if isSeparator char then [] :: splitWhere isSeparator text
      else (splitWhere isSeparator text).modifyHead (char :: ·) := by
  cases here : isSeparator char <;> simp [splitWhere, splitParts, here]

def join (separator : List Char) (parts : List (List Char)) : List Char :=
  separator.intercalate parts

def replace (pattern replacement text : List Char) : List Char :=
  join replacement (splitOn pattern text)

end Formula.Text
