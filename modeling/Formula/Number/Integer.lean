/-!
Integers of a fixed width. Every kind holds the integers of one interval, and any integer wraps
into it: the wrapped value is the only one of the kind congruent to the integer modulo two to
the width.
-/

namespace Formula

inductive IntegerKind where
  | int8
  | uint8
  | int16
  | uint16
  | int32
  | uint32
  | int64
  | uint64
deriving DecidableEq, Repr

namespace IntegerKind

def all : List IntegerKind :=
  [int8, uint8, int16, uint16, int32, uint32, int64, uint64]

def isSigned : IntegerKind → Bool
  | int8 | int16 | int32 | int64 => true
  | uint8 | uint16 | uint32 | uint64 => false

def width : IntegerKind → Nat
  | int8 | uint8 => 8
  | int16 | uint16 => 16
  | int32 | uint32 => 32
  | int64 | uint64 => 64

def isSmall (kind : IntegerKind) : Bool :=
  kind.width < 32

def modulus (kind : IntegerKind) : Nat :=
  1 <<< kind.width

def least (kind : IntegerKind) : Int :=
  if kind.isSigned then -(kind.modulus / 2 : Nat) else 0

def greatest (kind : IntegerKind) : Int :=
  if kind.isSigned then (kind.modulus / 2 : Nat) - 1 else kind.modulus - 1

def Holds (kind : IntegerKind) (value : Int) : Prop :=
  kind.least ≤ value ∧ value ≤ kind.greatest

instance (kind : IntegerKind) (value : Int) : Decidable (kind.Holds value) :=
  inferInstanceAs (Decidable (_ ∧ _))

def wrap (kind : IntegerKind) (value : Int) : Int :=
  if kind.isSigned then value.bmod kind.modulus else value % kind.modulus

theorem holds_wrap (kind : IntegerKind) (value : Int) : kind.Holds (kind.wrap value) := by
  cases kind <;>
    simp only [Holds, wrap, least, greatest, modulus, isSigned, width, Int.bmod] <;>
    constructor <;> simp <;> omega

theorem holds_least (kind : IntegerKind) : kind.Holds kind.least := by
  cases kind <;> decide

theorem holds_greatest (kind : IntegerKind) : kind.Holds kind.greatest := by
  cases kind <;> decide

end IntegerKind

structure Integer where
  kind : IntegerKind
  value : Int
  holds : kind.Holds value
deriving DecidableEq

namespace Integer

def least (kind : IntegerKind) : Integer :=
  ⟨kind, kind.least, kind.holds_least⟩

def greatest (kind : IntegerKind) : Integer :=
  ⟨kind, kind.greatest, kind.holds_greatest⟩

def wrap (kind : IntegerKind) (value : Int) : Integer :=
  ⟨kind, kind.wrap value, kind.holds_wrap value⟩

def ofInt? (kind : IntegerKind) (value : Int) : Option Integer :=
  if holds : kind.Holds value then some ⟨kind, value, holds⟩ else none

def clamp (kind : IntegerKind) (value : Int) : Integer :=
  if holds : kind.Holds value then ⟨kind, value, holds⟩
  else if value < 0 then least kind
  else greatest kind

def bits (integer : Integer) : Nat :=
  (integer.value % integer.kind.modulus).toNat

end Integer

end Formula
