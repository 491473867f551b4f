import Formula.Library.Installation

/-!
Enumerations that other parts of the library use.
-/

namespace Formula.Library

private def int32 (namespaceName name : String) (values : List (String × Int64)) :
    TypeEntry :=
  .enumeration namespaceName name .int32 values

def dayOfWeek : TypeEntry :=
  int32 "System" "DayOfWeek"
    [ ("Sunday", 0), ("Monday", 1), ("Tuesday", 2), ("Wednesday", 3), ("Thursday", 4),
      ("Friday", 5), ("Saturday", 6) ]

/-- The odd kinds of comparison ignore case. -/
def stringComparison : TypeEntry :=
  int32 "System" "StringComparison"
    [ ("CurrentCulture", 0), ("CurrentCultureIgnoreCase", 1), ("InvariantCulture", 2),
      ("InvariantCultureIgnoreCase", 3), ("Ordinal", 4), ("OrdinalIgnoreCase", 5) ]

def stringSplitOptions : TypeEntry :=
  int32 "System" "StringSplitOptions"
    [("None", 0), ("RemoveEmptyEntries", 1), ("TrimEntries", 2)]

def dateTimeKind : TypeEntry :=
  int32 "System" "DateTimeKind" [("Unspecified", 0), ("Utc", 1), ("Local", 2)]

def regexOptions : TypeEntry :=
  int32 "System.Text.RegularExpressions" "RegexOptions"
    [ ("None", 0), ("IgnoreCase", 1), ("Multiline", 2), ("ExplicitCapture", 4),
      ("Compiled", 8), ("Singleline", 16), ("IgnorePatternWhitespace", 32),
      ("RightToLeft", 64), ("ECMAScript", 256), ("CultureInvariant", 512),
      ("NonBacktracking", 1024) ]

def enumerations : List InstallationStep :=
  [.register dayOfWeek, .register stringComparison, .register stringSplitOptions]

end Formula.Library
