import Formula.Pattern.CharClass
import Formula.Text.Search
import Formula.Text.Unicode.NamedProperty
import Formula.Text.Unicode.Script

/-!
Classes named by a Unicode property: general categories, scripts and the yes-or-no properties.
Case, blanks, hyphens, underscores and a leading "is" do not matter in a name.
-/

namespace Formula.Pattern.Property

private def simplified (name : List Char) : List Char :=
  (name.filter fun char =>
    char.toNat < 128 && char != ' ' && char != '_' && char != '-').map Char.toLower

/-- What a name is looked up by. One name, for comments of a standard, keeps its "is". -/
def key (name : List Char) : String :=
  match name with
  | first :: second :: rest =>
      if first.toLower = 'i' ∧ second.toLower = 's' then
        let short := simplified rest
        if short = ['c'] then "isc" else String.ofList short
      else String.ofList (simplified name)
  | name => String.ofList (simplified name)

def categoryNames : List (List String × List String) :=
  [ (["lu", "uppercaseletter"], ["Lu"]), (["ll", "lowercaseletter"], ["Ll"]),
    (["lt", "titlecaseletter"], ["Lt"]), (["lc", "casedletter"], ["Lu", "Ll", "Lt"]),
    (["lm", "modifierletter"], ["Lm"]), (["lo", "otherletter"], ["Lo"]),
    (["l", "letter"], ["Lu", "Ll", "Lt", "Lm", "Lo"]),
    (["mn", "nonspacingmark"], ["Mn"]), (["mc", "spacingmark"], ["Mc"]),
    (["me", "enclosingmark"], ["Me"]),
    (["m", "mark", "combiningmark"], ["Mn", "Mc", "Me"]),
    (["nd", "decimalnumber", "digit"], ["Nd"]), (["nl", "letternumber"], ["Nl"]),
    (["no", "othernumber"], ["No"]), (["n", "number"], ["Nd", "Nl", "No"]),
    (["pc", "connectorpunctuation"], ["Pc"]), (["pd", "dashpunctuation"], ["Pd"]),
    (["ps", "openpunctuation"], ["Ps"]), (["pe", "closepunctuation"], ["Pe"]),
    (["pi", "initialpunctuation"], ["Pi"]), (["pf", "finalpunctuation"], ["Pf"]),
    (["po", "otherpunctuation"], ["Po"]),
    (["p", "punctuation", "punct"], ["Pc", "Pd", "Ps", "Pe", "Pi", "Pf", "Po"]),
    (["sm", "mathsymbol"], ["Sm"]), (["sc", "currencysymbol"], ["Sc"]),
    (["sk", "modifiersymbol"], ["Sk"]), (["so", "othersymbol"], ["So"]),
    (["s", "symbol"], ["Sm", "Sc", "Sk", "So"]),
    (["zs", "spaceseparator"], ["Zs"]), (["zl", "lineseparator"], ["Zl"]),
    (["zp", "paragraphseparator"], ["Zp"]), (["z", "separator"], ["Zs", "Zl", "Zp"]),
    (["cc", "control", "cntrl"], ["Cc"]), (["cf", "format"], ["Cf"]),
    (["co", "privateuse"], ["Co"]) ]

/-- Code points in no category are unassigned; halves of a pair are not characters. -/
def unassigned : CharClass :=
  fun point => !(Text.Unicode.categories.any fun (_, set) => set.contains point)

private def other : CharClass :=
  fun point => CharClass.inCategories ["Cc", "Cf", "Co"] point || unassigned point

def category? (name : String) : Option CharClass :=
  match name with
  | "any" => some .everything
  | "ascii" => some (.range 0 127)
  | "assigned" => some unassigned.complement
  | "cn" | "unassigned" => some unassigned
  | "c" | "other" => some other
  | name =>
      (categoryNames.find? fun (names, _) => names.contains name).map fun (_, codes) =>
        .inCategories codes

def binaryNames : List (List String × CharClass) :=
  [ (["alphabetic", "alpha"], Text.Unicode.alphabetic.contains),
    (["uppercase", "upper"], Text.Unicode.uppercase.contains),
    (["lowercase", "lower"], Text.Unicode.lowercase.contains),
    (["cased"], Text.Unicode.cased.contains),
    (["caseignorable", "ci"], Text.Unicode.caseIgnorable.contains),
    (["graphemeextend", "grext"], Text.Unicode.graphemeExtending.contains),
    (["whitespace", "wspace", "space"], CharClass.blank),
    (["joincontrol", "joinc"], .range 0x200c 0x200d) ]

private def listed? (sets : List (List String × Text.CodePointSet)) (name : String) :
    Option CharClass :=
  (sets.find? fun (names, _) => names.contains name).map fun (_, set) => set.contains

def binary? (name : String) : Option CharClass :=
  ((binaryNames.find? fun (names, _) => names.contains name).map Prod.snd).or
    (listed? Text.Unicode.namedProperties name)

def script? (name : String) : Option CharClass :=
  listed? Text.Unicode.scripts name

/-- A name alone is looked up among the yes-or-no properties, the general categories and the
scripts, in this order. -/
private def named? (name : String) : Option CharClass :=
  (binary? name).or ((category? name).or (script? name))

private def valued? (property value : String) : Option CharClass :=
  if ["gc", "generalcategory", "category"].contains property then category? value
  else if ["sc", "script"].contains property then script? value
  else none

private def partsAt? (sign text : List Char) : Option (List Char × List Char) :=
  Text.cutAt? sign text

def ofText? (text : List Char) : Option CharClass :=
  match (partsAt? ['!', '='] text).or ((partsAt? [':'] text).or (partsAt? ['='] text)) with
  | some (property, value) => valued? (key property) (key value)
  | none => named? (key text)

end Formula.Pattern.Property
