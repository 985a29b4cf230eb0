import DefectGate.Number.Shortest

/-!
# JSON values

A number is an integer of 64 bits, signed or unsigned, or a binary floating-point number. The fields
of an object keep the order in which they were written.
-/
namespace DefectGate

inductive Json.Number where
  | integer (n : Int)
  | real (x : Number.Binary64)
  deriving DecidableEq, Repr

inductive Json where
  | null
  | bool (b : Bool)
  | number (n : Json.Number)
  | string (s : String)
  | array (elements : List Json)
  | object (fields : List (String × Json))
  deriving Repr

namespace Json

def nat (n : Nat) : Json := .number (.integer n)

/-- Numbers are written out in full where the point stands near the digits, up to sixteen places
before it. -/
def realLayout : DefectGate.Number.Layout := ⟨fun point => -5 < point && point ≤ 16⟩

def Number.text : Number → String
  | .integer n => toString n
  | .real x => realLayout.text x

/-- Puts a field in its place by name; it replaces a field of the same name. -/
def insertField (name : String) (value : Json) : List (String × Json) → List (String × Json)
  | [] => [(name, value)]
  | (other, v) :: rest =>
    if name = other then (name, value) :: rest
    else if name < other then (name, value) :: (other, v) :: rest
    else (other, v) :: insertField name value rest

/-- The fields of an object in the order of their names, the last of several with one name. -/
def sortFields (fields : List (String × Json)) : List (String × Json) :=
  fields.foldl (fun sorted f => insertField f.1 f.2 sorted) []

def field? (j : Json) (name : String) : Option Json :=
  match j with
  | .object fields => (fields.find? (·.1 = name)).map (·.2)
  | _ => none

end Json
end DefectGate
