import Formula.Text.Unicode.Category
import Formula.Text.Unicode.Property

/-!
Kinds of characters. Digits and punctuation are those of ASCII alone; letters and numbers are
those of any script.
-/

namespace Formula.Text

def isLetter (char : Char) : Bool :=
  Unicode.alphabetic.containsChar char

def isNumber (char : Char) : Bool :=
  ["Nd", "Nl", "No"].any fun name => Unicode.inCategory name char.toNat

def isLetterOrNumber (char : Char) : Bool :=
  isLetter char || isNumber char

def isUpper (char : Char) : Bool :=
  Unicode.uppercase.containsChar char

def isLower (char : Char) : Bool :=
  Unicode.lowercase.containsChar char

def isPunctuation (char : Char) : Bool :=
  '!' ≤ char && char ≤ '~' && !char.isAlphanum

end Formula.Text
