import DefectGate.Number.Binary64

/-!
# Shortest decimals

The text of a binary floating-point number: the fewest digits that read back as the same number, and
among those the nearest. Where the point goes and when an exponent is written is up to a layout.
-/
namespace DefectGate.Number

/-- `digits * 10 ^ exponent`. -/
structure Decimal where
  digits : Nat
  exponent : Int
  deriving DecidableEq, Repr

namespace Decimal

/-- The number of places before the point, counted from the first digit. -/
def point (d : Decimal) : Int := (Nat.toDigits 10 d.digits).length + d.exponent

/-- Two neighbours on the grid of multiples of `10 ^ k`, at and above `num / den`. -/
def neighbours (num den : Nat) (k : Int) : List Decimal :=
  let low := if 0 ≤ k then num / (den * Nat.pow 10 k.toNat) else num * Nat.pow 10 (-k).toNat / den
  [⟨low, k⟩, ⟨low + 1, k⟩]

/-- Twice the distance of a grid point from `num / den`, scaled to a natural. -/
def distance (num den : Nat) (d : Decimal) : Nat :=
  let a := if 0 ≤ d.exponent then d.digits * Nat.pow 10 d.exponent.toNat * den else d.digits * den
  let b := if 0 ≤ d.exponent then num else num * Nat.pow 10 (-d.exponent).toNat
  (a - b) + (b - a)

def nearer (num den : Nat) : List Decimal → Option Decimal
  | [] => none
  | d :: rest =>
    match nearer num den rest with
    | none => some d
    | some e => some (if distance num den e < distance num den d then e else d)

/-- The nearest grid point that reads back, on the first of the grids that has one. -/
def firstGrid (x : Binary64) (num den : Nat) : List Int → Decimal
  | [] => ⟨0, 0⟩
  | k :: finer =>
    let hits := (neighbours num den k).filter fun d =>
      (Binary64.ofDecimal false d.digits d.exponent).magnitude = x.magnitude
    match nearer num den hits with
    | some d => d
    | none => firstGrid x num den finer

/-- Moves closing zeros of the digits into the exponent; `fuel` bounds their number. -/
def dropZeros : Nat → Decimal → Decimal
  | 0, d => d
  | fuel + 1, d =>
    if d.digits ≠ 0 ∧ d.digits % 10 = 0 then dropZeros fuel ⟨d.digits / 10, d.exponent + 1⟩ else d

/-- The shortest decimal of a finite number's magnitude. Seventeen digits are always enough. -/
def shortest (x : Binary64) : Decimal :=
  if x.magnitude = 0 then ⟨0, 0⟩
  else
    let (num, den) := x.quotient
    let whole : Int :=
      if den ≤ num then (Nat.toDigits 10 (num / den)).length
      else 1 - (Nat.toDigits 10 (den / num)).length
    let grids := (List.range 19).map fun n : Nat => whole + 1 - (n : Int)
    dropZeros 400 (firstGrid x num den grids)

end Decimal

/-- How a finite number is laid out: `positional p` tells whether a number whose point stands after
`p` places is written without an exponent. -/
structure Layout where
  positional : Int → Bool

namespace Layout

/-- Digits with the point in its place and at least one digit on each side of it. -/
def plain (digits : List Char) (point : Int) : List Char :=
  if point ≤ 0 then '0' :: '.' :: (List.replicate (-point).toNat '0' ++ digits)
  else
    let n := point.toNat
    let after := digits.drop n
    digits.take n ++ List.replicate (n - digits.length) '0' ++
      '.' :: (if after.isEmpty then ['0'] else after)

/-- One digit before the point and an exponent with its sign. -/
def scientific (digits : List Char) (point : Int) : List Char :=
  let after := digits.drop 1
  digits.take 1 ++ (if after.isEmpty then [] else '.' :: after) ++
    'e' :: (if point < 1 then '-' else '+') :: Nat.toDigits 10 (point - 1).natAbs

def text (l : Layout) (x : Binary64) : String :=
  let sign := if x.isNegative then "-" else ""
  if x.isNotANumber then "NaN"
  else if x.isInfinite then sign ++ "inf"
  else
    let d := Decimal.shortest x
    let digits := Nat.toDigits 10 d.digits
    let body := if l.positional d.point then plain digits d.point else scientific digits d.point
    sign ++ String.ofList body

end Layout
end DefectGate.Number
