/-!
# Bytes

File contents, captured output and path names are lists of bytes. Text is read out of them, never
assumed, so that everything the program sees can be stated exactly.
-/
namespace DefectGate

abbrev Bytes := List UInt8

namespace Bytes

/-- The two lower-case hexadecimal digits of a byte. -/
def hexPair (b : UInt8) : List Char :=
  [Nat.digitChar (b.toNat / 16), Nat.digitChar (b.toNat % 16)]

def toHex (bs : Bytes) : String := String.ofList (bs.flatMap hexPair)

def hexDigit? (c : Char) : Option Nat :=
  if '0' ≤ c ∧ c ≤ '9' then some (c.toNat - 48)
  else if 'a' ≤ c ∧ c ≤ 'f' then some (c.toNat - 87)
  else if 'A' ≤ c ∧ c ≤ 'F' then some (c.toNat - 55)
  else none

/-- Reads pairs of hexadecimal digits; an odd digit at the end or any other character is refused. -/
def ofHexChars? : List Char → Option Bytes
  | [] => some []
  | a :: b :: rest => do
    let high ← hexDigit? a
    let low ← hexDigit? b
    let more ← ofHexChars? rest
    return UInt8.ofNat (high * 16 + low) :: more
  | [_] => none

def ofHex? (s : String) : Option Bytes := ofHexChars? s.toList

end Bytes
end DefectGate
