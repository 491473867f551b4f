import Formula.Hash.Xxh64
import Formula.Number.Scalar
import Formula.Text.Quoted

/-!
Identities of types. A type is known by a digest of its qualified name, so that an id exists
before anything is declared under it. The ids that the language itself depends on are constants
here, and each is the digest of its name.
-/

namespace Formula

structure TypeId where
  digest : UInt64
deriving DecidableEq

namespace TypeId

/-- Keeps the digests of type names apart from digests of other things. -/
def domain : UInt64 := 0x2fac10b63a6cc57c

def ofName (name : String) : TypeId :=
  ⟨domain ^^^ Hash.xxh64 0 name.toUTF8.toList⟩

def none : TypeId := ⟨0⟩

def toText (id : TypeId) : String :=
  "0x" ++ Text.paddedHexadecimal 16 id.digest.toNat

def diagnosticText (id : TypeId) : String :=
  "TypeHash(" ++ id.toText ++ ")"

def void : TypeId := ⟨0xa80d008aa872dea0⟩
def boolean : TypeId := ⟨0x5a07921615ab8800⟩
def character : TypeId := ⟨0xec95c7157cdf9e92⟩
def int8 : TypeId := ⟨0xba3154cf3bb723fe⟩
def uint8 : TypeId := ⟨0xd04b10d7d1e3f119⟩
def int16 : TypeId := ⟨0xb938c6149833b13c⟩
def uint16 : TypeId := ⟨0xb09ea2ffaabbceb5⟩
def int32 : TypeId := ⟨0xcab82eb828d4c922⟩
def uint32 : TypeId := ⟨0xbdde17320323ac6c⟩
def int64 : TypeId := ⟨0xbe460422b0a59fd7⟩
def uint64 : TypeId := ⟨0xcf1f3cbaf352d119⟩
def single : TypeId := ⟨0x57ed2b95007c64c7⟩
def double : TypeId := ⟨0xe3c5d220578cc04e⟩
def decimal : TypeId := ⟨0xa3f8260160fa5d9a⟩
def string : TypeId := ⟨0xa3d60b3dfcf1b3bc⟩
def object : TypeId := ⟨0xf5674b4e0a184a96⟩
def array : TypeId := ⟨0x36c9d089c3b14411⟩
def nullable : TypeId := ⟨0x374d96b8618f8d28⟩
def math : TypeId := ⟨0xdc2cbe42f33364c4⟩
def singleMath : TypeId := ⟨0x42492dad5a71a09b⟩
def convert : TypeId := ⟨0x4d1dcd6749f20df3⟩
def dayOfWeek : TypeId := ⟨0xcf6f8d7fe3da09a7⟩
def stringComparison : TypeId := ⟨0x43d361e16e7243fa⟩
def stringSplitOptions : TypeId := ⟨0x66327854c3d4b069⟩
def timeSpan : TypeId := ⟨0xd3685283b71aeb9b⟩
def dateTime : TypeId := ⟨0xc21e2715dfa20667⟩
def dateTimeKind : TypeId := ⟨0x0e93cd52dd892f73⟩
def guid : TypeId := ⟨0x29291f23d1b72009⟩
def regex : TypeId := ⟨0x5176d62a892e3060⟩
def regexOptions : TypeId := ⟨0x3c6542c76fb18569⟩

def wellKnown : List (String × TypeId) :=
  [ ("System.Void", void), ("System.Boolean", boolean), ("System.Char", character),
    ("System.SByte", int8), ("System.Byte", uint8), ("System.Int16", int16),
    ("System.UInt16", uint16), ("System.Int32", int32), ("System.UInt32", uint32),
    ("System.Int64", int64), ("System.UInt64", uint64), ("System.Single", single),
    ("System.Double", double), ("System.Decimal", decimal), ("System.String", string),
    ("System.Object", object), ("System.Array", array), ("System.Nullable", nullable),
    ("System.Math", math), ("System.MathF", singleMath), ("System.Convert", convert),
    ("System.DayOfWeek", dayOfWeek), ("System.StringComparison", stringComparison),
    ("System.StringSplitOptions", stringSplitOptions), ("System.TimeSpan", timeSpan),
    ("System.DateTime", dateTime), ("System.DateTimeKind", dateTimeKind),
    ("System.Guid", guid), ("System.Text.RegularExpressions.Regex", regex),
    ("System.Text.RegularExpressions.RegexOptions", regexOptions) ]

theorem ofName_wellKnown : ∀ entry ∈ wellKnown, ofName entry.1 = entry.2 := by
  decide +kernel

def ofScalar : Scalar → TypeId
  | .boolean => boolean
  | .character => character
  | .integer .int8 => int8
  | .integer .uint8 => uint8
  | .integer .int16 => int16
  | .integer .uint16 => uint16
  | .integer .int32 => int32
  | .integer .uint32 => uint32
  | .integer .int64 => int64
  | .integer .uint64 => uint64
  | .single => single
  | .double => double
  | .decimal => decimal

def scalar? (id : TypeId) : Option Scalar :=
  Scalar.all.find? fun kind => ofScalar kind = id

theorem scalar?_ofScalar (kind : Scalar) : scalar? (ofScalar kind) = some kind := by
  cases kind with
  | integer kind => cases kind <;> decide
  | _ => decide

end TypeId

end Formula
