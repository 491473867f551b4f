import Formula.Library.Enumerations
import Formula.Library.Signature
import Formula.Pattern.Replacement

/-!
Static members for matching texts against patterns.
-/

namespace Formula.Library

/-- Of the options only four change what a pattern matches. -/
def patternFlags (bits : Int) : Pattern.Flags :=
  let isSet (bit : Int) : Bool := bits / bit % 2 = 1
  { ignoresCase := isSet 1, multiLine := isSet 2, dotMatchesAll := isSet 16,
    isVerbose := isSet 32 }

def readPattern (bits : Int) (text : String) : Outcome Pattern :=
  match Pattern.ofText (patternFlags bits) text.toList with
  | .ok pattern => .ok pattern
  | .error .malformed => .error (.malformed (.pattern text))
  | .error .tooLarge => .error (.malformed (.patternSize text))

/-- The text to search, and the pattern under the options that follow the other arguments. -/
private def inputs (call : Invocation) (optionsIndex : Nat) :
    Outcome (List Char × Pattern) := do
  let input ← call.argument 0 .text
  let pattern ← call.argument 1 .text
  let options ← call.argument optionsIndex (.flags .regexOptions)
  return (input.toList, ← readPattern options pattern)

private def parameters (names : List String) (isExtended : Bool) : List Parameter :=
  names.map (fun name => .of name .string) ++
    if isExtended then [.of "options" (.plain .regexOptions)] else []

private def matching {α : Type} (name : String) (result : Shape α)
    (answer : Pattern → List Char → α) (isExtended : Bool) : Method :=
  .onType name (parameters ["input", "pattern"] isExtended) result.type fun call => do
    let (input, pattern) ← inputs call 2
    return result.write call.site (answer pattern input)

private def replacing (isExtended : Bool) : Method :=
  .onType "Replace" (parameters ["input", "pattern", "replacement"] isExtended) .string
    fun call => do
      let (input, pattern) ← inputs call 3
      let replacement ← call.argument 2 .text
      return Shape.text.write call.site
        (String.ofList (pattern.replaceAll input replacement.toList))

private def patternMethods (isExtended : Bool) : List Method :=
  [ matching "IsMatch" .boolean Pattern.isMatch isExtended,
    matching "Count" .int32 (fun pattern input => (pattern.findAll input).length) isExtended,
    matching "Split" .texts (fun pattern input => (pattern.split input).map String.ofList)
      isExtended,
    replacing isExtended ]

def regexEntry : TypeEntry :=
  (TypeEntry.declare "System.Text.RegularExpressions" "Regex" .classType).addMethods
    (patternMethods false ++ patternMethods true ++
      [ function1 "Escape" (Shape.text.named "str") .text fun text =>
          .ok (String.ofList (Pattern.escape text.toList)) ])

def patterns : List InstallationStep :=
  [.register regexOptions, .register regexEntry]

end Formula.Library
