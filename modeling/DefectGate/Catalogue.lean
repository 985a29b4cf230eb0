import DefectGate.Analysis

/-!
# Catalogues

The markers known for each analyzer by its short name. A later entry for a name replaces an earlier
one; markers that an analysis brings along come first, and the standard markers serve any analyzer
that is not listed.
-/
namespace DefectGate

/-- Entries by name, the newest first. -/
structure Catalogue where
  entries : List (String × Markers)
  deriving DecidableEq, Repr

namespace Catalogue

def empty : Catalogue := ⟨[]⟩

def insert (c : Catalogue) (name : String) (m : Markers) : Catalogue :=
  ⟨(name, m) :: c.entries.filter (·.1 ≠ name)⟩

/-- The catalogue that knows the default analyzer. -/
def standard : Catalogue := empty.insert "valgrind" Markers.standard

def find? (c : Catalogue) (name : String) : Option Markers :=
  (c.entries.find? (·.1 = name)).map (·.2)

def contains (c : Catalogue) (name : String) : Bool := (c.find? name).isSome

/-- The markers that apply to an analysis. -/
def markersFor (c : Catalogue) (a : Analysis) : Markers :=
  a.markers.getD ((c.find? a.shortName).getD Markers.standard)

def read (c : Catalogue) (a : Analysis) (t : Transcript) : Except Failure Count :=
  (c.markersFor a).read a.shortName t

end Catalogue
end DefectGate
