/-!
# Searching in text

The first place at which one list of characters occurs in another.
-/
namespace DefectGate.Text

/-- The first occurrence of `needle` in a text whose first character has the number `start`. -/
def indexFrom (needle : List Char) (start : Nat) : List Char → Option Nat
  | [] => if needle.isEmpty then some start else none
  | c :: cs =>
    if needle.isPrefixOf (c :: cs) then some start else indexFrom needle (start + 1) cs

/-- The number of characters before the first occurrence of `needle`. -/
def index? (needle text : List Char) : Option Nat := indexFrom needle 0 text

def occursIn (needle text : List Char) : Bool := (index? needle text).isSome

end DefectGate.Text
