/-!
# Durations

A length of time in whole nanoseconds, and its text: the largest unit that it fills, with the rest
as a decimal fraction without closing zeros.
-/
namespace DefectGate

structure Duration where
  nanoseconds : Nat
  deriving DecidableEq, Repr

namespace Duration

def ofSeconds (n : Nat) : Duration := ⟨n * 1000000000⟩
def ofMilliseconds (n : Nat) : Duration := ⟨n * 1000000⟩

/-- A unit of time: how many nanoseconds it has, how many digits its fraction has, its symbol. -/
structure Unit where
  size : Nat
  places : Nat
  symbol : String
  deriving DecidableEq, Repr

/-- The units, largest first; the last one has no fraction. -/
def units : List Unit := [⟨1000000000, 9, "s"⟩, ⟨1000000, 6, "ms"⟩, ⟨1000, 3, "µs"⟩, ⟨1, 0, "ns"⟩]

/-- The largest unit that `n` nanoseconds fill. -/
def unitFor (n : Nat) : Unit := (units.find? fun u => u.size ≤ n).getD ⟨1, 0, "ns"⟩

/-- `n` with leading zeros up to the given number of places. -/
def padded (places n : Nat) : List Char :=
  let digits := Nat.toDigits 10 n
  List.replicate (places - digits.length) '0' ++ digits

def dropClosingZeros (cs : List Char) : List Char := (cs.reverse.dropWhile (· == '0')).reverse

/-- The fraction `n / size` of a unit with the mark before it, or nothing for a whole number. -/
def fraction (u : Unit) (n : Nat) : List Char :=
  if n = 0 then [] else '.' :: dropClosingZeros (padded u.places n)

def text (d : Duration) : String :=
  let u := unitFor d.nanoseconds
  let rest := String.ofList (fraction u (d.nanoseconds % u.size))
  toString (d.nanoseconds / u.size) ++ rest ++ u.symbol

end Duration
end DefectGate
