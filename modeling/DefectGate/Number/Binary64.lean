/-!
# Binary floating point

Numbers of 64 bits with a 52-bit fraction, held as their bits, and the one nearest to a decimal. All
steps are exact arithmetic on naturals.
-/
namespace DefectGate.Number

structure Binary64 where
  bits : UInt64
  deriving DecidableEq, Repr

namespace Binary64

def signBit : Nat := Nat.pow 2 63
def infinityBits : Nat := 2047 * Nat.pow 2 52

def withSign (negative : Bool) (magnitude : Nat) : Binary64 :=
  ⟨UInt64.ofNat (if negative then signBit + magnitude else magnitude)⟩

def infinity (negative : Bool) : Binary64 := withSign negative infinityBits
def notANumber (negative : Bool) : Binary64 := withSign negative (infinityBits + Nat.pow 2 51)

def isNegative (x : Binary64) : Bool := signBit ≤ x.bits.toNat
def magnitude (x : Binary64) : Nat := x.bits.toNat % signBit
def isInfinite (x : Binary64) : Bool := x.magnitude = infinityBits
def isNotANumber (x : Binary64) : Bool := infinityBits < x.magnitude

/-- The natural nearest to a quotient; a tie goes to the even neighbour. -/
def divideToNearest (num den : Nat) : Nat :=
  let q := num / den
  let r := num % den
  if 2 * r < den then q
  else if den < 2 * r then q + 1
  else q + q % 2

/-- The largest `e` with `2 ^ e` at most `num / den`, for positive arguments. -/
def floorLog2 (num den : Nat) : Int :=
  let guess : Int := (Nat.log2 num : Int) - Nat.log2 den
  let fits :=
    if 0 ≤ guess then den * Nat.pow 2 guess.toNat ≤ num else den ≤ num * Nat.pow 2 (-guess).toNat
  if fits then guess else guess - 1

/-- The bits of the magnitude nearest to `num / den`. The last place is worth `2 ^ q`, where `q`
leaves 53 bits above it but is at least -1074; a carry out of the fraction moves the exponent up
by itself. -/
def roundedBits (num den : Nat) : Nat :=
  if num = 0 then 0
  else
    let q := max (floorLog2 num den - 52) (-1074)
    let m :=
      if 0 ≤ q then divideToNearest num (den * Nat.pow 2 q.toNat)
      else divideToNearest (num * Nat.pow 2 (-q).toNat) den
    let bits := (q + 1074).toNat * Nat.pow 2 52 + m
    min bits infinityBits

/-- The number nearest to `digits * 10 ^ exponent`. Exponents beyond any finite number or below
the smallest one are not expanded. -/
def ofDecimal (negative : Bool) (digits : Nat) (exponent : Int) : Binary64 :=
  let places : Int := (Nat.toDigits 10 digits).length
  if digits = 0 ∨ exponent + places < -400 then withSign negative 0
  else if 400 < exponent + places then infinity negative
  else if 0 ≤ exponent then withSign negative (roundedBits (digits * Nat.pow 10 exponent.toNat) 1)
  else withSign negative (roundedBits digits (Nat.pow 10 (-exponent).toNat))

/-- The magnitude of a finite number as `m * 2 ^ q`. -/
def parts (x : Binary64) : Nat × Int :=
  let exponent : Nat := x.magnitude / Nat.pow 2 52
  let fraction := x.magnitude % Nat.pow 2 52
  if exponent = 0 then (fraction, -1074) else (Nat.pow 2 52 + fraction, (exponent : Int) - 1075)

/-- The magnitude of a finite number as a quotient. -/
def quotient (x : Binary64) : Nat × Nat :=
  let (m, q) := x.parts
  if 0 ≤ q then (m * Nat.pow 2 q.toNat, 1) else (m, Nat.pow 2 (-q).toNat)

/-- The magnitude nearest to the product of two finite magnitudes. -/
def times (x y : Binary64) : Binary64 :=
  let (a, b) := x.quotient
  let (c, d) := y.quotient
  withSign false (roundedBits (a * c) (b * d))

/-- The magnitude nearest to the quotient of two finite magnitudes, the second of them not zero. -/
def dividedBy (x y : Binary64) : Binary64 :=
  let (a, b) := x.quotient
  let (c, d) := y.quotient
  withSign false (roundedBits (a * d) (b * c))

end Binary64
end DefectGate.Number
