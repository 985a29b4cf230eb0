import DefectGate.Toml.Basic
import DefectGate.Bytes

/-!
# TOML scalars

Readers for numbers, truth values, dates and times. Each takes the longest scalar of its kind from
the head of a text and returns the rest.
-/
namespace DefectGate.Toml.Scalar

abbrev Reader (α : Type) := List Char → Option (α × List Char)

def isHexDigit (c : Char) : Bool := (Bytes.hexDigit? c).isSome
def isOctalDigit (c : Char) : Bool := '0' ≤ c && c ≤ '7'
def isBinaryDigit (c : Char) : Bool := c = '0' || c = '1'

/-- Digits in which an underscore may stand between two of them; `read` is newest first and not
empty. An underscore without a digit after it is refused. -/
def moreDigits (isDigit : Char → Bool) (read : List Char) : Reader (List Char)
  | [] => some (read.reverse, [])
  | '_' :: c :: rest => if isDigit c then moreDigits isDigit (c :: read) rest else none
  | '_' :: [] => none
  | c :: rest =>
    if isDigit c then moreDigits isDigit (c :: read) rest else some (read.reverse, c :: rest)

def digits (isDigit : Char → Bool) : Reader (List Char)
  | c :: rest => if isDigit c then moreDigits isDigit [c] rest else none
  | [] => none

/-- Whether there is a minus sign, and what follows a sign. -/
def sign : List Char → Bool × List Char
  | '-' :: rest => (true, rest)
  | '+' :: rest => (false, rest)
  | rest => (false, rest)

/-- Decimal digits that do not start with a zero, or a zero alone. -/
def wholeDigits : Reader (List Char)
  | '0' :: rest => some (['0'], rest)
  | cs => digits Char.isDigit cs

/-- The digits of a fraction, if a point starts one. -/
def fractionDigits : Reader (Option (List Char))
  | '.' :: rest => (digits Char.isDigit rest).map fun (ds, rest') => (some ds, rest')
  | rest => some (none, rest)

def exponentValue : Reader (Option Int)
  | [] => some (none, [])
  | c :: rest =>
    if c = 'e' ∨ c = 'E' then
      let (negative, rest') := sign rest
      (digits Char.isDigit rest').map fun (ds, rest'') =>
        let n : Int := Nat.ofDigitChars 10 ds 0
        (some (if negative then -n else n), rest'')
    else some (none, c :: rest)

/-- A number with a fraction or an exponent. One that is too large is refused, unless it is
negative. -/
def decimalReal : Reader Toml := fun cs => do
  let (negative, rest) := sign cs
  let (whole, rest) ← wholeDigits rest
  let (fraction, rest) ← fractionDigits rest
  let (exponent, rest) ← exponentValue rest
  if fraction.isNone ∧ exponent.isNone then none
  else
    let after := fraction.getD []
    let x := Number.Binary64.ofDecimal negative (Nat.ofDigitChars 10 (whole ++ after) 0)
      (exponent.getD 0 - after.length)
    if x.isInfinite ∧ !negative then none else some (.real x, rest)

def specialReal : Reader Toml := fun cs =>
  let (negative, rest) := sign cs
  match rest with
  | 'i' :: 'n' :: 'f' :: rest' => some (.real (.infinity negative), rest')
  | 'n' :: 'a' :: 'n' :: rest' => some (.real (.notANumber negative), rest')
  | _ => none

/-- Integers have 64 bits with a sign. -/
def integerOf? (n : Int) : Option Toml :=
  if Int64.minValue.toInt ≤ n ∧ n ≤ Int64.maxValue.toInt then some (.integer n) else none

/-- The value of digits in a base. -/
def valueIn (base : Nat) (ds : List Char) : Nat :=
  ds.foldl (fun n c => n * base + (Bytes.hexDigit? c).getD 0) 0

def integer : Reader Toml := fun cs => do
  match cs with
  | '0' :: 'x' :: rest =>
    let (ds, rest) ← digits isHexDigit rest
    return (← integerOf? (valueIn 16 ds), rest)
  | '0' :: 'o' :: rest =>
    let (ds, rest) ← digits isOctalDigit rest
    return (← integerOf? (valueIn 8 ds), rest)
  | '0' :: 'b' :: rest =>
    let (ds, rest) ← digits isBinaryDigit rest
    return (← integerOf? (valueIn 2 ds), rest)
  | _ =>
    let (negative, rest) := sign cs
    let (ds, rest) ← wholeDigits rest
    let n : Int := valueIn 10 ds
    return (← integerOf? (if negative then -n else n), rest)

/-- Exactly `count` decimal digits. -/
def fixedDigits (count : Nat) : Reader Nat := fun cs =>
  let ds := cs.take count
  if ds.length = count ∧ ds.all Char.isDigit then some (valueIn 10 ds, cs.drop count) else none

def fixedInRange (count low high : Nat) : Reader Nat := fun cs => do
  let (n, rest) ← fixedDigits count cs
  if low ≤ n ∧ n ≤ high then some (n, rest) else none

def expect (c : Char) : Reader Unit
  | d :: rest => if d = c then some ((), rest) else none
  | [] => none

def isLeapYear (year : Nat) : Bool := year % 4 = 0 && (year % 100 ≠ 0 || year % 400 = 0)

def daysIn (year month : Nat) : Nat :=
  if month = 2 then (if isLeapYear year then 29 else 28)
  else if month = 4 ∨ month = 6 ∨ month = 9 ∨ month = 11 then 30
  else 31

def date : Reader Unit := fun cs => do
  let (year, rest) ← fixedDigits 4 cs
  let (_, rest) ← expect '-' rest
  let (month, rest) ← fixedInRange 2 1 12 rest
  let (_, rest) ← expect '-' rest
  let (_, rest) ← fixedInRange 2 1 (daysIn year month) rest
  return ((), rest)

/-- Hours, minutes and seconds, of which a minute may have sixty-one, and a fraction. -/
def time : Reader Unit := fun cs => do
  let (_, rest) ← fixedInRange 2 0 23 cs
  let (_, rest) ← expect ':' rest
  let (_, rest) ← fixedInRange 2 0 59 rest
  let (_, rest) ← expect ':' rest
  let (_, rest) ← fixedInRange 2 0 60 rest
  match rest with
  | '.' :: rest' =>
    let ds := rest'.takeWhile Char.isDigit
    if ds.isEmpty then none else some ((), rest'.drop ds.length)
  | _ => some ((), rest)

/-- The distance from universal time, if it is given. -/
def offset : Reader Unit
  | [] => some ((), [])
  | c :: rest =>
    if c = 'Z' ∨ c = 'z' then some ((), rest)
    else if c = '+' ∨ c = '-' then do
      let (_, rest) ← fixedInRange 2 0 23 rest
      let (_, rest) ← expect ':' rest
      let (_, rest) ← fixedInRange 2 0 59 rest
      return ((), rest)
    else some ((), c :: rest)

/-- What may follow a date: a time, and after it an offset. -/
def timeOfDay : Reader Unit
  | [] => some ((), [])
  | c :: rest =>
    if c = 'T' ∨ c = 't' ∨ c = ' ' then
      match time rest with
      | some (_, rest') => offset rest'
      | none => some ((), c :: rest)
    else some ((), c :: rest)

def moment : Reader Unit := fun cs =>
  match date cs with
  | some (_, rest) => timeOfDay rest
  | none => time cs

def datetime : Reader Toml := fun cs => do
  let (_, rest) ← moment cs
  return (.datetime (String.ofList (cs.take (cs.length - rest.length))), rest)

def truth : Reader Toml
  | 't' :: 'r' :: 'u' :: 'e' :: rest => some (.boolean true, rest)
  | 'f' :: 'a' :: 'l' :: 's' :: 'e' :: rest => some (.boolean false, rest)
  | _ => none

/-- Any scalar but a string. -/
def unquoted : Reader Toml := fun cs =>
  truth cs <|> datetime cs <|> decimalReal cs <|> specialReal cs <|> integer cs

end DefectGate.Toml.Scalar
