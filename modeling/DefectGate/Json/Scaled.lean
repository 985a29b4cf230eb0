import DefectGate.Number.Binary64

/-!
# Scaled significands

How a number with a point or an exponent is read: as many of its digits as 64 bits hold make up a
significand, which is rounded and then scaled by a power of ten. As both steps round, the result may
be a neighbour of the nearest number.
-/
namespace DefectGate.Json

open DefectGate.Number (Binary64)

/-- `significand * 10 ^ exponent`. -/
structure Scaled where
  significand : Nat
  exponent : Int
  deriving DecidableEq, Repr

namespace Scaled

/-- Puts digits behind a significand as long as 64 bits hold it; the answer is also how many are
left over. -/
def push : (significand : Nat) → List Char → Nat × Nat
  | significand, [] => (significand, 0)
  | significand, c :: cs =>
    let longer := significand * 10 + (c.toNat - 48)
    if longer < UInt64.size then push longer cs else (significand, cs.length + 1)

/-- The digits before and after a point. Those left over before it count as zeros, those left over
after it are dropped. -/
def ofDigits (whole fraction : List Char) : Scaled :=
  let (before, zeros) := push 0 whole
  let (significand, dropped) := push before fraction
  ⟨significand, (zeros : Int) + dropped - fraction.length⟩

def times10 (x : Scaled) (exponent : Int) : Scaled := { x with exponent := x.exponent + exponent }

/-- The largest power of ten by which a number is scaled at once. -/
def largestStep : Nat := 308

def power (n : Nat) : Binary64 := .ofDecimal false 1 n

/-- A magnitude times a power of ten, if that is finite. A small power is reached in several steps,
each of which rounds. -/
def scale? (x : Binary64) (exponent : Int) : Option Binary64 :=
  if x.magnitude = 0 then some x
  else if largestStep < exponent then none
  else if 0 ≤ exponent then
    let y := x.times (power exponent.toNat)
    if y.isInfinite then none else some y
  else if -largestStep ≤ exponent then some (x.dividedBy (power (-exponent).toNat))
  else scale? (x.dividedBy (power largestStep)) (exponent + largestStep)
  termination_by (-exponent).toNat
  decreasing_by simp only [largestStep] at *; omega

def magnitude? (x : Scaled) : Option Binary64 :=
  scale? (.ofDecimal false x.significand 0) x.exponent

end Scaled
end DefectGate.Json
