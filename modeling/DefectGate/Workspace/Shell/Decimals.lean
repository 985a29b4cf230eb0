import DefectGate.Number.Binary64
import DefectGate.Workspace.Shell.Arithmetic

/-!
# Decimals of real numbers

Real numbers as a script writes and formats them: read as the nearest binary number, and laid out
with a given number of places, with an exponent, or as is shorter.
-/
namespace DefectGate.Workspace.Shell.Decimals

open DefectGate.Number (Binary64)

/-- A finite number without its sign as a quotient. -/
structure Magnitude where
  num : Nat
  den : Nat
  deriving DecidableEq, Repr

inductive Real where
  | finite (negative : Bool) (m : Magnitude)
  | infinite (negative : Bool)
  | notANumber
  deriving DecidableEq, Repr

/-- The value of an exponent at the start of a text, and what follows it. -/
def exponent (t : Text) : Int × Text :=
  match t with
  | e :: rest =>
    if e = 'e' ∨ e = 'E' then
      let (negative, rest) :=
        match rest with
        | '-' :: r => (true, r)
        | '+' :: r => (false, r)
        | r => (false, r)
      let (ds, rest) := Arithmetic.digits 10 rest
      let n : Int := Arithmetic.numberOf 10 ds
      if ds = [] then (0, t) else (if negative then -n else n, rest)
    else (0, t)
  | [] => (0, [])

/-- A decimal at the start of a text and what follows it. -/
def decimal? (negative : Bool) (t : Text) : Option (Real × Text) :=
  let (whole, rest) := Arithmetic.digits 10 t
  let (fraction, rest) :=
    match rest with
    | '.' :: r => Arithmetic.digits 10 r
    | r => ([], r)
  if whole = [] ∧ fraction = [] then none
  else
    let (e, rest) := exponent rest
    let x := Binary64.ofDecimal false (Arithmetic.numberOf 10 (whole ++ fraction))
      (e - fraction.length)
    let (num, den) := x.quotient
    some (if x.isInfinite then .infinite negative else .finite negative ⟨num, den⟩, rest)

/-- A real number at the start of a text and what follows it. -/
def real? (t : Text) : Option (Real × Text) :=
  let t := t.dropWhile Arithmetic.isSpace
  let (negative, t) :=
    match t with
    | '-' :: r => (true, r)
    | '+' :: r => (false, r)
    | r => (false, r)
  match (t.take 3).map Char.toLower with
  | ['i', 'n', 'f'] => some (.infinite negative, t.drop 3)
  | ['n', 'a', 'n'] => some (.notANumber, t.drop 3)
  | _ => decimal? negative t

/-- Digits with a point before the last `places` of them. -/
def pointed (places : Nat) (always : Bool) (n : Nat) : Text :=
  let ds := Nat.toDigits 10 n
  let ds := List.replicate (places + 1 - ds.length) '0' ++ ds
  let whole := ds.take (ds.length - places)
  if places = 0 then (if always then whole ++ ['.'] else whole)
  else whole ++ '.' :: ds.drop whole.length

namespace Magnitude

/-- A number with a fixed number of places. -/
def fixed (m : Magnitude) (places : Nat) (always : Bool) : Text :=
  pointed places always (Binary64.divideToNearest (m.num * Nat.pow 10 places) m.den)

/-- The nearest natural to the number times `10 ^ e`. -/
def scaled (m : Magnitude) (e : Int) : Nat :=
  if 0 ≤ e then Binary64.divideToNearest (m.num * Nat.pow 10 e.toNat) m.den
  else Binary64.divideToNearest m.num (m.den * Nat.pow 10 (-e).toNat)

/-- The place of the first digit of a number that is not zero. -/
def place (m : Magnitude) : Int :=
  if m.den ≤ m.num then ((Nat.toDigits 10 (m.num / m.den)).length : Int) - 1
  else
    let n : Int := (Nat.toDigits 10 (m.den / m.num)).length
    -- The quotient has `n` digits; a power of ten itself is one place higher.
    if m.num * Nat.pow 10 (n - 1).toNat ≥ m.den then 1 - n else -n

/-- The digits of a number, one more than `places`, and the place of the first of them. -/
def digits (m : Magnitude) (places : Nat) : Nat × Int :=
  if m.num = 0 then (0, 0)
  else
    let e := m.place
    let n := m.scaled (places - e)
    if Nat.pow 10 (places + 1) ≤ n then (n / 10, e + 1) else (n, e)

def exponentText (e : Int) : Text :=
  let ds := Nat.toDigits 10 e.natAbs
  'e' :: (if e < 0 then '-' else '+') :: List.replicate (2 - ds.length) '0' ++ ds

/-- One digit before the point, a fixed number of places and an exponent. -/
def scientific (m : Magnitude) (places : Nat) (always : Bool) : Text :=
  let (n, e) := m.digits places
  pointed places always n ++ exponentText e

/-- A number without closing zeros after its point. -/
def withoutZeros (t : Text) : Text :=
  if '.' ∈ t then
    let kept := (t.reverse.dropWhile (· = '0')).reverse
    if kept.getLast? = some '.' then kept.dropLast else kept
  else t

/-- A number of significant digits, with an exponent if the point is far from them. -/
def general (m : Magnitude) (precision : Nat) (always : Bool) : Text :=
  let p := max precision 1
  let (n, e) := m.digits (p - 1)
  let strip (t : Text) : Text := if always then t else withoutZeros t
  if -4 ≤ e ∧ e < p then strip (m.fixed ((p : Int) - 1 - e).toNat always)
  else strip (pointed (p - 1) always n) ++ exponentText e

end Magnitude
end DefectGate.Workspace.Shell.Decimals
