import Formula.Text.Blank
import Formula.Text.Case
import Formula.Text.Letters
import Formula.Guid

/-!
Classes of characters as tests on code points: the classes with a letter of their own, the
named ASCII classes, and closing a class under a change of case.
-/

namespace Formula.Pattern

abbrev CharClass := Nat → Bool

namespace CharClass

def only (point : Nat) : CharClass :=
  fun other => other == point

def range (low high : Nat) : CharClass :=
  fun point => low ≤ point && point ≤ high

def everything : CharClass :=
  fun _ => true

def nothing : CharClass :=
  fun _ => false

def ofTest (test : Char → Bool) : CharClass :=
  fun point => test (Char.ofNat point)

def complement (inner : CharClass) : CharClass :=
  fun point => !inner point

def union (left right : CharClass) : CharClass :=
  fun point => left point || right point

def folded (inner : CharClass) : CharClass :=
  fun point => (Text.caseVariants point).any inner

def foldedAscii (inner : CharClass) : CharClass :=
  fun point =>
    inner point ||
      (point < 128 &&
        (inner (Char.ofNat point).toUpper.toNat || inner (Char.ofNat point).toLower.toNat))

def ascii (inner : CharClass) : CharClass :=
  fun point => point < 128 && inner point

def isAscii (inner : CharClass) : Bool :=
  (List.range 128).all fun offset => !inner (128 + offset)

def inCategories (names : List String) : CharClass :=
  fun point => names.any fun name => Text.Unicode.inCategory name point

/-- Letters, marks, digits, connectors and what joins letters. -/
def word : CharClass :=
  fun point =>
    Text.Unicode.alphabetic.contains point ||
      inCategories ["Mn", "Mc", "Me", "Nd", "Pc"] point || point == 0x200c || point == 0x200d

def digit : CharClass :=
  inCategories ["Nd"]

def blank : CharClass :=
  ofTest Text.isBlank

def asciiWord : CharClass :=
  ascii (ofTest fun char => char.isAlphanum || char == '_')

def asciiDigit : CharClass :=
  range '0'.toNat '9'.toNat

def asciiBlank : CharClass :=
  fun point => (9 ≤ point && point ≤ 13) || point == 32

def lettered? (unicode : Bool) : Char → Option CharClass
  | 'w' => some (if unicode then word else asciiWord)
  | 'd' => some (if unicode then digit else asciiDigit)
  | 's' => some (if unicode then blank else asciiBlank)
  | _ => none

def named : List (String × CharClass) :=
  let test (holds : Char → Bool) : CharClass := ascii (ofTest holds)
  [ ("alnum", test Char.isAlphanum), ("alpha", test Char.isAlpha),
    ("ascii", range 0 127), ("blank", fun point => point == 9 || point == 32),
    ("cntrl", fun point => point < 32 || point == 127), ("digit", asciiDigit),
    ("graph", range 33 126), ("lower", test Char.isLower), ("print", range 32 126),
    ("punct", test Text.isPunctuation), ("space", asciiBlank), ("upper", test Char.isUpper),
    ("word", asciiWord), ("xdigit", test fun char => (Guid.hexDigit? char).isSome) ]

end CharClass

end Formula.Pattern
