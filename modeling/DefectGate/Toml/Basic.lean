import DefectGate.Number.Shortest

/-!
# TOML values

The values of a TOML 1.0 document. A table lists its entries in the order in which a reader meets
them.
-/
namespace DefectGate

inductive Toml where
  | string (s : String)
  | integer (n : Int)
  | real (x : Number.Binary64)
  | boolean (b : Bool)
  | datetime (text : String)
  | array (elements : List Toml)
  | table (entries : List (String × Toml))
  deriving Repr

namespace Toml

abbrev Entries := List (String × Toml)

/-- Floating-point numbers are always written out in full. -/
def realLayout : DefectGate.Number.Layout := ⟨fun _ => true⟩

end Toml
end DefectGate
