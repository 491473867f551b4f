import Formula.Catalog.Basic

/-!
Installing parts of the library in a catalog. A part is a list of steps taken in turn; a step
that fails ends the work and leaves what was done before it.
-/

namespace Formula

inductive InstallationStep where
  | extend (id : TypeId) (members : List Member) (methods : List Method)
  | register (entry : TypeEntry)

namespace Catalog

def perform (catalog : Catalog) : InstallationStep → Except RegistrationError Catalog
  | .extend id members methods =>
      catalog.update id fun entry => (entry.addMembers members).addMethods methods
  | .register entry => catalog.register entry

/-- The catalog after the steps up to the first that fails, and its error. -/
def install (catalog : Catalog) : List InstallationStep → Catalog × Option RegistrationError
  | [] => (catalog, none)
  | step :: steps =>
      match catalog.perform step with
      | .ok extended => install extended steps
      | .error cause => (catalog, some cause)

end Catalog

end Formula
