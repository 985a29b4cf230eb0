import DefectGate.Text.Search

/-!
# Counts

A count is written in decimal digits, or in groups of three after a first group of at most three,
with commas between the groups. It must fit 64 bits.
-/
namespace DefectGate

abbrev Count := UInt64

namespace Count

/-- One or more decimal digits. -/
def isDigits (cs : List Char) : Bool := !cs.isEmpty && cs.all Char.isDigit

/-- Whether parts between commas make up one count. -/
def isGrouped : List (List Char) → Bool
  | [] => false
  | [digits] => isDigits digits
  | first :: groups =>
    isDigits first && first.length ≤ 3 && groups.all fun g => isDigits g && g.length = 3

/-- The number that decimal digits stand for. -/
def valueOf (digits : List Char) : Nat := Nat.ofDigitChars 10 digits 0

def ofNat? (n : Nat) : Option Count := if n < UInt64.size then some (UInt64.ofNat n) else none

def parse? (cs : List Char) : Option Count :=
  let groups := cs.splitOn ','
  if isGrouped groups then ofNat? (valueOf groups.flatten) else none

def text (n : Count) : String := toString n.toNat

end Count
end DefectGate
