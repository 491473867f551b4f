import Formula.Text.Unicode.Category
import Formula.Text.Unicode.Property

/-!
Quoted texts and characters: between quotes, with escapes for the quote itself, for the
backslash, and for whatever would not show.
-/

namespace Formula.Text

def hexadecimal (number : Nat) : List Char :=
  Nat.toDigits 16 number

def paddedHexadecimal (width number : Nat) : String :=
  let digits := hexadecimal number
  String.ofList (List.replicate (width - digits.length) '0' ++ digits)

/-- Spaces other than the plain one, controls and unassigned code points do not show. -/
def isShown (char : Char) : Bool :=
  char = ' ' || (Unicode.categories.any fun (name, members) =>
    !name.startsWith "Z" && !name.startsWith "C" && members.containsChar char)

def escapeChar (quote char : Char) : List Char :=
  if char = Char.ofNat 0 then ['\\', '0']
  else if char = '\t' then ['\\', 't']
  else if char = '\r' then ['\\', 'r']
  else if char = '\n' then ['\\', 'n']
  else if char = quote || char = '\\' then ['\\', char]
  else if isShown char && !Unicode.graphemeExtending.containsChar char then [char]
  else ['\\', 'u', '\x7b'] ++ hexadecimal char.toNat ++ ['\x7d']

def quoteWith (quote : Char) (chars : List Char) : String :=
  String.ofList (quote :: chars.flatMap (escapeChar quote) ++ [quote])

def quoteText (text : String) : String :=
  quoteWith '"' text.toList

def quoteChar (char : Char) : String :=
  quoteWith '\'' [char]

end Formula.Text
