import Formula.Library.Conversions
import Formula.Library.Guids
import Formula.Library.Mathematics
import Formula.Library.Moments
import Formula.Library.Objects
import Formula.Library.Patterns
import Formula.Library.Strings

/-!
The library as a whole, and the catalog that has all of it.
-/

namespace Formula

/-- What the library takes from outside: the universal time, the zone of the local clock, and a
fresh identifier for each place in a tree. -/
structure Surroundings where
  now : DateTime
  zone : TimeZone := .universal
  fresh : List Nat → Guid

namespace Library

inductive Part where
  | objects
  | scalars
  | texts
  | arrays
  | enumerations
  | mathematics
  | conversions
  | times
  | guids
  | patterns
deriving DecidableEq, Repr

def Part.all : List Part :=
  [ objects, scalars, texts, arrays, enumerations, mathematics, conversions, times, guids,
    patterns ]

def Part.steps (surroundings : Surroundings) : Part → List InstallationStep
  | objects => Library.objects
  | scalars => Library.scalars
  | texts => Library.texts
  | arrays => Library.arrays
  | enumerations => Library.enumerations
  | mathematics => Library.mathematics
  | conversions => Library.conversions
  | times => Library.times surroundings.zone surroundings.now
  | guids => Library.guids surroundings.fresh
  | patterns => Library.patterns

def steps (surroundings : Surroundings) : List InstallationStep :=
  Part.all.flatMap (Part.steps surroundings)

end Library

def Catalog.standard (surroundings : Surroundings) : Catalog :=
  (Catalog.primitives.install (Library.steps surroundings)).1

end Formula
