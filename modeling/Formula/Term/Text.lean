import Formula.Catalog.Names
import Formula.Term.Basic
import Formula.Value.Text

/-!
Typed trees as text: one line that shows the structure, and an outline with a line for every
node.
-/

namespace Formula

namespace Catalog

def constantText (catalog : Catalog) : Value → String
  | .null => "null"
  | .text _ value => "\"" ++ value ++ "\""
  | .character value => "'" ++ value.toString ++ "'"
  | .enumeration type bits =>
      (((catalog.find? type).bind fun entry => entry.valueName? bits)).getD
        (toString bits.toInt)
  | value => value.toText

end Catalog

namespace Term

private def applied (name : String) (arguments : List String) : String :=
  name ++ "(" ++ ", ".intercalate arguments ++ ")"

mutual

def toText (catalog : Catalog) : Term → String
  | constant value _ => catalog.constantText value
  | parameter name _ => name
  | staticMember member => catalog.shortName (.plain member.owner) ++ "." ++ member.name
  | instanceMember receiver member => receiver.toText catalog ++ "." ++ member.name
  | index receiver _ arguments =>
      receiver.toText catalog ++ "[" ++ ", ".intercalate (toTexts catalog arguments) ++ "]"
  | staticCall method arguments => applied method.name (toTexts catalog arguments)
  | instanceCall receiver method arguments =>
      receiver.toText catalog ++ "." ++ applied method.name (toTexts catalog arguments)
  | convert operand target =>
      applied "Convert" [operand.toText catalog, catalog.shortName target]
  | convertBy _ operand target =>
      applied "Convert" [operand.toText catalog, catalog.shortName target]
  | unary operator operand _ => unaryText operator (operand.toText catalog)
  | unaryBy _ operator operand => unaryText operator (operand.toText catalog)
  | binary operator left right _ =>
      binaryText operator.label (left.toText catalog) (right.toText catalog)
  | binaryBy _ operator left right =>
      binaryText operator.label (left.toText catalog) (right.toText catalog)
  | coalesce left right => binaryText "??" (left.toText catalog) (right.toText catalog)
  | conditional test whenTrue whenFalse =>
      applied "IIF" [test.toText catalog, whenTrue.toText catalog, whenFalse.toText catalog]
  | elementAt array position => array.toText catalog ++ "[" ++ position.toText catalog ++ "]"
  | lengthOf array => applied "ArrayLength" [array.toText catalog]
  | newArray _ items =>
      "new [] \x7b" ++ ", ".intercalate (toTexts catalog items) ++ "\x7d"
where
  unaryText (operator : UnaryOperator) (operand : String) : String :=
    match operator with
    | .not => applied "Not" [operand]
    | operator => operator.token ++ operand
  binaryText (label left right : String) : String :=
    "(" ++ left ++ " " ++ label ++ " " ++ right ++ ")"

def toTexts (catalog : Catalog) : List Term → List String
  | [] => []
  | term :: terms => term.toText catalog :: toTexts catalog terms

end

private def heading (catalog : Catalog) : Term → String × Option String
  | constant _ _ => ("Constant", none)
  | parameter _ _ => ("Parameter", none)
  | staticMember member => ("Member", some (catalog.memberLine member))
  | instanceMember _ member => ("Member", some (catalog.memberLine member))
  | index _ indexer _ => ("Index", some (catalog.memberLine indexer))
  | staticCall method _ => ("Call", some (catalog.methodLine method))
  | instanceCall _ method _ => ("Call", some (catalog.methodLine method))
  | convert _ _ => ("Convert", none)
  | convertBy method _ _ => ("Convert", some (catalog.methodLine method))
  | unary _ _ _ => ("Unary", none)
  | unaryBy method _ _ => ("Unary", some (catalog.methodLine method))
  | binary _ _ _ _ => ("Binary", none)
  | binaryBy method _ _ _ => ("Binary", some (catalog.methodLine method))
  | coalesce _ _ => ("Coalesce", none)
  | conditional _ _ _ => ("Conditional", none)
  | elementAt _ _ => ("ArrayIndex", none)
  | lengthOf _ => ("ArrayLength", none)
  | newArray _ _ => ("NewArray", none)

private def headingLine (catalog : Catalog) (term : Term) : String :=
  let (kind, line) := term.heading catalog
  let plain := kind ++ " " ++ catalog.shortName term.type
  match line with
  | some line => plain ++ " | " ++ line
  | none => plain

mutual

def outline (catalog : Catalog) (term : Term) : List String :=
  term.headingLine catalog ::
    match term with
    | constant _ _ | parameter _ _ | staticMember _ => []
    | instanceMember receiver _ => outline catalog receiver
    | index receiver _ arguments => outline catalog receiver ++ outlines catalog arguments
    | staticCall _ arguments => outlines catalog arguments
    | instanceCall receiver _ arguments =>
        outline catalog receiver ++ outlines catalog arguments
    | convert operand _ => outline catalog operand
    | convertBy _ operand _ => outline catalog operand
    | unary _ operand _ => outline catalog operand
    | unaryBy _ _ operand => outline catalog operand
    | binary _ left right _ => outline catalog left ++ outline catalog right
    | binaryBy _ _ left right => outline catalog left ++ outline catalog right
    | coalesce left right => outline catalog left ++ outline catalog right
    | conditional test whenTrue whenFalse =>
        outline catalog test ++ outline catalog whenTrue ++ outline catalog whenFalse
    | elementAt array position => outline catalog array ++ outline catalog position
    | lengthOf array => outline catalog array
    | newArray _ items => outlines catalog items

def outlines (catalog : Catalog) : List Term → List String
  | [] => []
  | term :: terms => outline catalog term ++ outlines catalog terms

end

end Term

end Formula
