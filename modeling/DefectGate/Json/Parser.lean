import DefectGate.Json.Basic
import DefectGate.Bytes
import DefectGate.Json.Scaled

/-!
# Reading JSON

A reader by recursive descent. Each step returns what it read and the rest of the text, whose length
serves as fuel. Arrays and objects that are nested too deeply are refused.
-/
namespace DefectGate.Json.Parser

def isSpace (c : Char) : Bool := c = ' ' || c = '\n' || c = '\r' || c = '\t'

def skipSpaces (cs : List Char) : List Char := cs.dropWhile isSpace

/-- The number that four hexadecimal digits stand for. -/
def quad? (a b c d : Char) : Option Nat := do
  let a ← Bytes.hexDigit? a
  let b ← Bytes.hexDigit? b
  let c ← Bytes.hexDigit? c
  let d ← Bytes.hexDigit? d
  return ((a * 16 + b) * 16 + c) * 16 + d

/-- The character that a backslash and one more character stand for. -/
def shortEscape? (c : Char) : Option Char :=
  if c = '"' ∨ c = '\\' ∨ c = '/' then some c
  else if c = 'b' then some '\x08'
  else if c = 'f' then some '\x0c'
  else if c = 'n' then some '\n'
  else if c = 'r' then some '\r'
  else if c = 't' then some '\t'
  else none

/-- The rest of a string after its opening quote; `read` holds what came before, newest first.
A character outside the first plane is given by two numbers, each half of it alone by none. -/
def stringBody (read : List Char) : List Char → Option (List Char × List Char)
  | [] => none
  | c :: rest =>
    if c = '"' then some (read.reverse, rest)
    else if c = '\\' then
      match rest with
      | 'u' :: a :: b :: c :: d :: rest =>
        match quad? a b c d with
        | none => none
        | some high =>
          if 0xD800 ≤ high ∧ high < 0xDC00 then
            match rest with
            | '\\' :: 'u' :: e :: f :: g :: h :: rest =>
              match quad? e f g h with
              | none => none
              | some low =>
                if 0xDC00 ≤ low ∧ low < 0xE000 then
                  stringBody
                    (Char.ofNat (0x10000 + (high - 0xD800) * 0x400 + (low - 0xDC00)) :: read) rest
                else none
            | _ => none
          else if 0xDC00 ≤ high ∧ high < 0xE000 then none
          else stringBody (Char.ofNat high :: read) rest
      | e :: rest =>
        match shortEscape? e with
        | none => none
        | some d => stringBody (d :: read) rest
      | [] => none
    else if c.toNat < 32 then none
    else stringBody (c :: read) rest

def string (cs : List Char) : Option (String × List Char) :=
  (stringBody [] cs).map fun (read, rest) => (String.ofList read, rest)

/-- The longest run of digits. -/
def digits (cs : List Char) : List Char × List Char :=
  (cs.takeWhile Char.isDigit, cs.dropWhile Char.isDigit)

/-- The digits after a point, if there is one; a point needs at least one digit. -/
def fractionPart : List Char → Option (Option (List Char) × List Char)
  | '.' :: rest =>
    let (ds, rest') := digits rest
    if ds.isEmpty then none else some (some ds, rest')
  | rest => some (none, rest)

/-- The value of an exponent, if there is one. -/
def exponentPart : List Char → Option (Option Int × List Char)
  | [] => some (none, [])
  | c :: rest =>
    if c = 'e' ∨ c = 'E' then
      let (negative, rest') :=
        match rest with
        | '-' :: r => (true, r)
        | '+' :: r => (false, r)
        | r => (false, r)
      let (ds, rest'') := digits rest'
      if ds.isEmpty then none
      else
        let n : Int := Nat.ofDigitChars 10 ds 0
        some (some (if negative then -n else n), rest'')
    else some (none, c :: rest)

/-- A number without point and exponent is an integer if 64 bits hold it, except for a negative
zero. There is none if it is larger than any finite one. -/
def numberOf? (negative : Bool) (whole : List Char) (fraction : Option (List Char))
    (exponent : Option Int) : Option Number :=
  let n := Nat.ofDigitChars 10 whole 0
  let isWhole := fraction.isNone && exponent.isNone
  if isWhole ∧ !negative ∧ n < UInt64.size then some (.integer n)
  else if isWhole ∧ negative ∧ 0 < n ∧ n ≤ UInt64.size / 2 then some (.integer (-n))
  else
    ((Scaled.ofDigits whole (fraction.getD [])).times10 (exponent.getD 0)).magnitude?.map fun x =>
      .real (.withSign negative x.magnitude)

def unsignedNumber (negative : Bool) (cs : List Char) : Option (Number × List Char) := do
  let (whole, rest) := digits cs
  if whole.isEmpty ∨ (1 < whole.length ∧ whole.head? = some '0') then none
  else
    let (fraction, rest) ← fractionPart rest
    let (exponent, rest) ← exponentPart rest
    return (← numberOf? negative whole fraction exponent, rest)

def number : List Char → Option (Number × List Char)
  | '-' :: rest => unsignedNumber true rest
  | cs => unsignedNumber false cs

/-- How many arrays and objects may stand within each other. -/
def maxLevels : Nat := 127

mutual

/-- A value at the head of the text, which starts with no space, of at most so many levels. -/
def value (levels : Nat) : Nat → List Char → Option (Json × List Char)
  | 0, _ => none
  | _ + 1, 'n' :: 'u' :: 'l' :: 'l' :: rest => some (.null, rest)
  | _ + 1, 't' :: 'r' :: 'u' :: 'e' :: rest => some (.bool true, rest)
  | _ + 1, 'f' :: 'a' :: 'l' :: 's' :: 'e' :: rest => some (.bool false, rest)
  | _ + 1, '"' :: rest => (string rest).map fun (s, rest') => (.string s, rest')
  | fuel + 1, '[' :: rest =>
    match levels with
    | 0 => none
    | below + 1 =>
      match skipSpaces rest with
      | ']' :: rest' => some (.array [], rest')
      | rest' => (elements below fuel rest').map fun (vs, rest'') => (.array vs, rest'')
  | fuel + 1, '\x7b' :: rest =>
    match levels with
    | 0 => none
    | below + 1 =>
      match skipSpaces rest with
      | '\x7d' :: rest' => some (.object [], rest')
      | rest' => (fields below fuel rest').map fun (fs, rest'') => (.object fs, rest'')
  | _ + 1, cs => (number cs).map fun (n, rest) => (.number n, rest)

/-- One or more elements and the end of an array. -/
def elements (levels : Nat) : Nat → List Char → Option (List Json × List Char)
  | 0, _ => none
  | fuel + 1, cs =>
    match value levels fuel cs with
    | none => none
    | some (v, rest) =>
      match skipSpaces rest with
      | ']' :: rest' => some ([v], rest')
      | ',' :: rest' =>
        (elements levels fuel (skipSpaces rest')).map fun (vs, end') => (v :: vs, end')
      | _ => none

/-- One or more fields and the end of an object. -/
def fields (levels : Nat) : Nat → List Char → Option (List (String × Json) × List Char)
  | 0, _ => none
  | fuel + 1, '"' :: cs =>
    match string cs with
    | none => none
    | some (name, rest) =>
      match skipSpaces rest with
      | ':' :: rest =>
        match value levels fuel (skipSpaces rest) with
        | none => none
        | some (v, rest) =>
          match skipSpaces rest with
          | '\x7d' :: rest' => some ([(name, v)], rest')
          | ',' :: rest' =>
            (fields levels fuel (skipSpaces rest')).map fun (fs, end') => ((name, v) :: fs, end')
          | _ => none
      | _ => none
  | _ + 1, _ => none

end

end DefectGate.Json.Parser

namespace DefectGate.Json

/-- Reads a whole text as one value; only spaces may stand around it. -/
def parseChars? (cs : List Char) : Option Json :=
  match Parser.value Parser.maxLevels (cs.length + 1) (Parser.skipSpaces cs) with
  | some (v, rest) => if (Parser.skipSpaces rest).isEmpty then some v else none
  | none => none

def parse? (s : String) : Option Json := parseChars? s.toList

end DefectGate.Json
