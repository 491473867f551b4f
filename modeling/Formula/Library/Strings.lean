import Formula.Library.Installation
import Formula.Library.Signature
import Formula.Text.Search
import Formula.Text.Template
import Formula.Value.Text

/-!
The members of texts. Lengths and positions count characters.
-/

namespace Formula.Library

def substring (text : List Char) (start : Int) (length : Option Int) :
    Outcome (List Char) :=
  let size : Int := text.length
  if start < 0 ∨ size < start then .error (.malformed (.argumentRange "startIndex"))
  else
    match length with
    | none => .ok (text.drop start.toNat)
    | some length =>
        if length < 0 ∨ size < start + length then
          .error (.malformed (.argumentRange "length"))
        else .ok ((text.drop start.toNat).take length.toNat)

def indexOf (pattern text : List Char) : Int :=
  match Text.position? pattern text with
  | some position => position
  | none => -1

def charAt (text : String) (index : Int) : Outcome Char :=
  if 0 ≤ index then
    match text.toList[index.toNat]? with
    | some char => .ok char
    | none => .error .indexOutOfRange
  else .error .indexOutOfRange

/-- How the parts of a split text are treated. -/
structure SplitOptions where
  removesEmpty : Bool
  trims : Bool

namespace SplitOptions

def ofBits (bits : Int) : SplitOptions :=
  { removesEmpty := bits % 2 = 1, trims := bits / 2 % 2 = 1 }

/-- Trims first, so that what was blank counts as empty. -/
def apply (options : SplitOptions) (parts : List (List Char)) : List (List Char) :=
  (parts.map fun part => if options.trims then Text.trim part else part).filter fun part =>
    !(options.removesEmpty && part.isEmpty)

end SplitOptions

/-- The parts between separators that are not empty; without one the text is one part. -/
def splitText (separator text : List Char) : List (List Char) :=
  if separator.isEmpty then [text] else Text.splitOn separator text

/-- The parts between any of some characters, or between blanks if there are none. -/
def splitAtAny (separators text : List Char) : List (List Char) :=
  if separators.isEmpty then Text.splitWhere Text.isBlank text
  else Text.splitWhere separators.contains text

/-- An odd kind of comparison ignores case. -/
def equalTexts (kind : Int) (left right : String) : Bool :=
  if kind.tmod 2 = 1 then Text.sameName left right else left == right

def padding (width : Int) (char : Char) (text : List Char) : List Char :=
  List.replicate (width.toNat - text.length) char

/-- Null comes before every text, and texts are compared character by character. -/
def compareTexts : Option String → Option String → Ordering
  | none, none => .eq
  | none, some _ => .lt
  | some _, none => .gt
  | some left, some right => compare left.toList right.toList

/-- The values that a variadic argument stands for: the items of a single array, or else all
arguments. -/
def spread : List Value → List Value
  | [.array _ _ items] => items
  | values => values

def concatenation (values : List Value) : String :=
  String.join (values.map Value.toText)

private def strings (parts : List (List Char)) : List String :=
  parts.map String.ofList

/-- Every overload of a concatenation does this, however its parameters are declared. -/
def concatBody : Body := fun call =>
  .ok (Shape.text.write call.site (concatenation (spread call.arguments)))

def concatOf (label : String) (type : DataType) (count : Nat) : Method :=
  .onType "Concat"
    ((List.range count).map fun index => .of (label ++ toString index) type) .string concatBody

def concatAll (name : String) (type : DataType) : Method :=
  .onType "Concat" [.variadic name type] .string concatBody

def concats : List Method :=
  [2, 3, 4].map (concatOf "str" .string) ++ [concatAll "values" .string] ++
    [1, 2, 3].map (concatOf "arg" .object) ++ [concatAll "args" .object]

def formatText (template : String) (values : List Value) : Outcome String :=
  match Text.fill? (values.map fun value => value.toText.toList) template.toList with
  | some text => .ok (String.ofList text)
  | none => .error (.malformed .template)

private def format : Method :=
  .onType "Format" [.of "format" .string, .variadic "args" .object] .string fun call => do
    let template ← call.argument 0 .text
    let text ← formatText template (spread (call.arguments.drop 1))
    return Shape.text.write call.site text

private def joinOf (type : DataType) : Method :=
  .onType "Join" [.of "separator" .string, .variadic "values" type] .string fun call => do
    let separator ← call.argument 0 (.orNull .text)
    let parts := (spread (call.arguments.drop 1)).map fun value => value.toText.toList
    let joined := Text.join ((separator.getD "").toList) parts
    return Shape.text.write call.site (String.ofList joined)

private def nullable : Shape (Option String) := .orNull .text

private def tests : List Method :=
  [ function1 "IsNullOrEmpty" (nullable.named "value") .boolean fun text =>
      .ok (text.all String.isEmpty),
    function1 "IsNullOrWhiteSpace" (nullable.named "value") .boolean fun text =>
      .ok (text.all fun text => text.toList.all Text.isBlank),
    function2 "Compare" (nullable.named "strA") (nullable.named "strB") .int32
      fun left right => .ok (signOf (compareTexts left right)),
    function2 "Equals" (nullable.named "a") (nullable.named "b") .boolean
      fun left right => .ok (left == right),
    method1 "Equals" .text (nullable.named "value") .boolean fun text other =>
      .ok (other == some text),
    method2 "Equals" .text (nullable.named "value")
      ((Shape.flags .stringComparison).named "comparisonType") .boolean
      fun text other kind => .ok (other.any (equalTexts kind text)) ]

private def onChars (change : List Char → List Char) (text : String) : String :=
  String.ofList (change text.toList)

private def forms : List Method :=
  [ ("ToUpper", Text.upper), ("ToLower", Text.lower), ("Trim", onChars Text.trim),
    ("TrimStart", onChars Text.trimStart), ("TrimEnd", onChars Text.trimEnd) ].map
    fun (name, change) => method0 name .text .text fun text => .ok (change text)

private def search (name : String) (holds : List Char → List Char → Bool) : Method :=
  method1 name .text (Shape.text.named "value") .boolean fun text pattern =>
    .ok (holds pattern.toList text.toList)

private def searches : List Method :=
  [ search "Contains" fun pattern text => (Text.position? pattern text).isSome,
    search "StartsWith" Text.startsWith,
    search "EndsWith" Text.endsWith,
    method1 "IndexOf" .text (Shape.text.named "value") .int32 fun text pattern =>
      .ok (indexOf pattern.toList text.toList),
    method1 "IndexOf" .text (Shape.character.named "value") .int32 fun text char =>
      .ok (indexOf [char] text.toList) ]

private def cuts : List Method :=
  [ method1 "Substring" .text (Shape.int32.named "startIndex") .text fun text start =>
      String.ofList <$> substring text.toList start none,
    method2 "Substring" .text (Shape.int32.named "startIndex") (Shape.int32.named "length")
      .text fun text start length =>
      String.ofList <$> substring text.toList start (some length),
    method2 "Replace" .text (Shape.text.named "oldValue") (nullable.named "newValue") .text
      fun text old new =>
      if old.isEmpty then .ok text
      else .ok (onChars (Text.replace old.toList (new.getD "").toList) text) ]

private def width : Slot Int := Shape.int32.named "totalWidth"

private def filler : Slot Char :=
  (Shape.character.named "paddingChar").orElse (.character ' ')

private def pads : List Method :=
  [ method2 "PadLeft" .text width filler .text fun text width char =>
      .ok (onChars (fun chars => padding width char chars ++ chars) text),
    method2 "PadRight" .text width filler .text fun text width char =>
      .ok (onChars (fun chars => chars ++ padding width char chars) text) ]

private def options : Slot Int :=
  (Shape.flags .stringSplitOptions).named "options"

private def splits : List Method :=
  [ .onInstance "Split" [.variadic "separator" (.ofScalar .character)] Shape.texts.type
      fun call => do
        let text ← call.self .text
        let separators := (spread call.arguments).filterMap Shape.character.read?
        return Shape.texts.write call.site (strings (splitAtAny separators text.toList)),
    method2 "Split" .text (Shape.character.named "separator") options .texts
      fun text separator bits =>
      .ok (strings ((SplitOptions.ofBits bits).apply
        (Text.splitWhere (· == separator) text.toList))),
    method2 "Split" .text (nullable.named "separator")
      (options.orElse (.enumeration .stringSplitOptions 0)) .texts fun text separator bits =>
      .ok (strings ((SplitOptions.ofBits bits).apply
        (splitText (separator.getD "").toList text.toList))) ]

/-- All methods of texts but their concatenation. -/
def textMethods : List Method :=
  [format, joinOf .string, joinOf .object] ++ tests ++ forms ++ searches ++ cuts ++ pads ++
    splits

def texts : List InstallationStep :=
  [ .extend .string
      [ .constant "Empty" (.text (.shared "String.Empty") ""),
        property "Length" .text .int32 fun text => text.toList.length,
        .indexer "Chars" [.of "index" .int32] (.ofScalar .character) fun call => do
          let text ← call.self .text
          let index ← call.argument 0 .int32
          return .character (← charAt text index) ]
      (concats ++ textMethods) ]

end Formula.Library
