import DefectGate.Workspace.Shell.Characters

/-!
# Arithmetic of scripts

Expressions over whole numbers of 64 bits. A text is cut into signs and read as an expression, which
is then evaluated; names stand for the values of variables, and an expression may assign to them.
-/
namespace DefectGate.Workspace.Shell.Arithmetic

inductive Error where
  | expecting (what : String)
  | divisionByZero
  | noNumber (t : Text)
  deriving DecidableEq, Repr

inductive Expression where
  | number (n : Int)
  | variable (name : Text)
  | unary (operator : Char) (a : Expression)
  | binary (operator : String) (a b : Expression)
  | both (a b : Expression)
  | either (a b : Expression)
  | conditional (test yes no : Expression)
  /-- Assigns a value, or what an operator makes of the old value and a new one. -/
  | assignment (name : Text) (operator : Option String) (value : Expression)
  /-- What cannot be read as an expression. -/
  | missing (e : Error)
  /-- An expression with something after it that does not belong there. -/
  | strayed (a : Expression) (e : Error)
  deriving Repr

/-- What is said about an expression that has no value. -/
def Error.message (expression : Text) : Error → String
  | .expecting what =>
    s!"arithmetic expression: expecting {what}: \"" ++ String.ofList expression ++ "\""
  | .divisionByZero =>
    "arithmetic expression: division by zero: \"" ++ String.ofList expression ++ "\""
  | .noNumber t => "Illegal number: " ++ String.ofList t

/-! ## Numbers -/

def wrap (n : Int) : Int := n.bmod UInt64.size

def clamp (n : Int) : Int := min (max n Int64.minValue.toInt) Int64.maxValue.toInt

def truth (b : Bool) : Int := if b then 1 else 0

def isSpace (c : Char) : Bool := isBlank c || c ∈ ['\n', '\r', '\x0b', '\x0c']

/-- The value of a digit in bases up to sixteen. -/
def digit? (c : Char) : Option Nat :=
  if isDigit c then some (c.toNat - 48)
  else if 'a' ≤ c ∧ c ≤ 'f' then some (c.toNat - 87)
  else if 'A' ≤ c ∧ c ≤ 'F' then some (c.toNat - 55)
  else none

def isDigitOf (base : Nat) (c : Char) : Bool := (digit? c).any (· < base)

/-- The number that digits make in a base. -/
def numberOf (base : Nat) (digits : Text) : Nat :=
  digits.foldl (fun n c => n * base + (digit? c).getD 0) 0

/-- The digits at the start of a text and what follows them. -/
def digits (base : Nat) (t : Text) : Text × Text :=
  (t.takeWhile (isDigitOf base), t.dropWhile (isDigitOf base))

/-- A number without a sign at the start of a text, and what follows it: from `0x` in base sixteen,
from `0` in base eight. -/
def natural? (t : Text) : Option (Nat × Text) :=
  let inBase (base : Nat) (t : Text) : Nat × Text :=
    let (ds, rest) := digits base t
    (numberOf base ds, rest)
  match t with
  | '0' :: x :: c :: rest =>
    if (x = 'x' ∨ x = 'X') ∧ isDigitOf 16 c then some (inBase 16 (c :: rest))
    else some (inBase 8 t)
  | c :: _ => if isDigit c then some (inBase (if c = '0' then 8 else 10) t) else none
  | [] => none

/-- Spaces, a sign and a number at the start of a text, as a reader of numbers takes it; the sign
and the number, and what follows them. -/
def signed? (number? : Text → Option (Nat × Text)) (t : Text) : Option (Bool × Nat × Text) :=
  match t.dropWhile isSpace with
  | '-' :: rest => (number? rest).map fun (n, rest) => (true, n, rest)
  | '+' :: rest => (number? rest).map fun (n, rest) => (false, n, rest)
  | rest => (number? rest).map fun (n, rest) => (false, n, rest)

/-- The number that a whole text is. A text that is empty or blank counts as zero. -/
def valueOf? (t : Text) : Option Int :=
  match signed? natural? t with
  | some (negative, n, rest) =>
    let value : Int := if negative then -n else n
    if rest.all isSpace ∧ clamp value = value then some value else none
  | none => if t.all isSpace then some 0 else none

/-! ## Reading -/

inductive Sign where
  | number (n : Int)
  | name (t : Text)
  | operator (name : String)
  | unknown
  deriving DecidableEq, Repr

/-- The operators, those first that others begin with. -/
def operators : List String :=
  ["<<=", ">>=", "<<", ">>", "<=", ">=", "==", "!=", "&&", "||", "*=", "/=", "%=", "+=", "-=",
    "&=", "^=", "|=", "<", ">", "=", "!", "~", "&", "|", "^", "+", "-", "*", "/", "%", "(", ")",
    "?", ":"]

def signs : (fuel : Nat) → Text → List Sign
  | 0, _ => []
  | fuel + 1, t =>
    match t with
    | [] => []
    | c :: rest =>
      if isSpace c then signs fuel rest
      else if isNameStart c then
        .name (t.takeWhile isNameChar) :: signs fuel (t.dropWhile isNameChar)
      else
        match natural? t, operators.find? fun o => o.toList.isPrefixOf t with
        | some (n, rest), _ => .number (clamp n) :: signs fuel rest
        | none, some o => .operator o :: signs fuel (t.drop o.length)
        | none, none => [.unknown]

/-- Binary operators by rising precedence. -/
def levels : List (List String) :=
  [["|"], ["^"], ["&"], ["==", "!="], ["<=", ">=", "<", ">"], ["<<", ">>"], ["+", "-"],
    ["*", "/", "%"]]

def assignments : List (String × Option String) :=
  [("=", none), ("*=", some "*"), ("/=", some "/"), ("%=", some "%"), ("+=", some "+"),
    ("-=", some "-"), ("<<=", some "<<"), (">>=", some ">>"), ("&=", some "&"), ("^=", some "^"),
    ("|=", some "|")]

/-- Reads a part of an expression off the signs that are left. -/
abbrev Reading := StateM (List Sign)

def passes (o : String) : Reading Bool := do
  match ← get with
  | .operator other :: rest =>
    if other = o then
      set rest
      return true
    else return false
  | _ => return false

/-- Reads no further. -/
def stop (e : Expression) : Reading Expression := do
  set ([] : List Sign)
  return e

def noOperand : Reading Expression := stop (.missing (.expecting "primary"))

mutual

def assigned : (fuel : Nat) → Reading Expression
  | 0 => noOperand
  | fuel + 1 => do
    match ← get with
    | .name x :: .operator o :: rest =>
      match assignments.find? (·.1 = o) with
      | some (_, op) =>
        set rest
        return .assignment x op (← assigned fuel)
      | none => conditional fuel
    | _ => conditional fuel

def conditional : (fuel : Nat) → Reading Expression
  | 0 => noOperand
  | fuel + 1 => do
    let test ← either fuel
    if !(← passes "?") then return test
    let yes ← assigned fuel
    if !(← passes ":") then stop (.conditional test yes (.missing (.expecting "':'")))
    else return .conditional test yes (← conditional fuel)

def either : (fuel : Nat) → Reading Expression
  | 0 => noOperand
  | fuel + 1 => do
    let a ← both fuel
    if ← passes "||" then return .either a (← either fuel) else return a

def both : (fuel : Nat) → Reading Expression
  | 0 => noOperand
  | fuel + 1 => do
    let a ← level fuel levels
    if ← passes "&&" then return .both a (← both fuel) else return a

/-- An expression of the first of the levels given and those after it. -/
def level : (fuel : Nat) → List (List String) → Reading Expression
  | 0, _ => noOperand
  | fuel + 1, [] => operand fuel
  | fuel + 1, os :: ls => do chain fuel os ls (← level fuel ls)

/-- The operators of one level from left to right. -/
def chain : (fuel : Nat) → List String → List (List String) → Expression → Reading Expression
  | 0, _, _, _ => noOperand
  | fuel + 1, os, ls, a => do
    match ← get with
    | .operator o :: rest =>
      if o ∈ os then
        set rest
        chain fuel os ls (.binary o a (← level fuel ls))
      else return a
    | _ => return a

/-- A sign and another operand, a number, a name or an expression in brackets. -/
def operand : (fuel : Nat) → Reading Expression
  | 0 => noOperand
  | fuel + 1 => do
    match ← get with
    | .number n :: rest =>
      set rest
      return .number n
    | .name x :: rest =>
      set rest
      return .variable x
    | .operator "+" :: rest =>
      set rest
      operand fuel
    | .operator "-" :: rest =>
      set rest
      return .unary '-' (← operand fuel)
    | .operator "!" :: rest =>
      set rest
      return .unary '!' (← operand fuel)
    | .operator "~" :: rest =>
      set rest
      return .unary '~' (← operand fuel)
    | .operator "(" :: rest =>
      set rest
      let a ← assigned fuel
      if ← passes ")" then return a else stop (.strayed a (.expecting "')'"))
    | _ => noOperand

end

/-- The expression that a text is. A sign takes up to sixteen steps. -/
def parse (t : Text) : Expression :=
  let (e, rest) := (assigned (16 * (t.length + 2))).run (signs (t.length + 1) t)
  if rest = [] then e else .strayed e (.expecting "EOF")

/-! ## Evaluation -/

/-- The value of an operator between two values. -/
def apply (operator : String) (a b : Int) : Except Error Int :=
  match operator with
  | "|" => .ok (Int64.ofInt a ||| Int64.ofInt b).toInt
  | "^" => .ok (Int64.ofInt a ^^^ Int64.ofInt b).toInt
  | "&" => .ok (Int64.ofInt a &&& Int64.ofInt b).toInt
  | "==" => .ok (truth (a = b))
  | "!=" => .ok (truth (a ≠ b))
  | "<=" => .ok (truth (a ≤ b))
  | ">=" => .ok (truth (b ≤ a))
  | "<" => .ok (truth (a < b))
  | ">" => .ok (truth (b < a))
  | "<<" => .ok (Int64.ofInt a <<< Int64.ofInt b).toInt
  | ">>" => .ok (Int64.ofInt a >>> Int64.ofInt b).toInt
  | "+" => .ok (wrap (a + b))
  | "-" => .ok (wrap (a - b))
  | "*" => .ok (wrap (a * b))
  | "/" => if b = 0 then .error .divisionByZero else .ok (wrap (a.tdiv b))
  | _ => if b = 0 then .error .divisionByZero else .ok (wrap (a.tmod b))

/-- The variables that an expression has assigned to, the last one first. -/
abbrev Evaluation := StateT (List (Text × Int)) (Except Error)

/-- The value of a variable; one that is not set counts as zero. -/
def lookup (value? : Text → Option Text) (name : Text) : Evaluation Int := do
  match (← get).find? (·.1 = name) with
  | some (_, n) => return n
  | none =>
    let t := (value? name).getD []
    match valueOf? t with
    | some n => return n
    | none => throw (.noNumber t)

/-- The value of an expression. One that is not meant has the value zero and only what cannot be read
in it counts. -/
def Expression.evaluate (value? : Text → Option Text) : (meant : Bool) → Expression → Evaluation Int
  | meant, .number n => return if meant then n else 0
  | meant, .variable x => if meant then lookup value? x else return 0
  | meant, .unary o a => do
    let n ← a.evaluate value? meant
    return if o = '-' then wrap (-n) else if o = '!' then truth (n = 0) else -n - 1
  | meant, .binary o a b => do
    let m ← a.evaluate value? meant
    let n ← b.evaluate value? meant
    if meant then apply o m n else return 0
  | meant, .both a b => do
    let m ← a.evaluate value? meant
    let n ← b.evaluate value? (meant && m ≠ 0)
    return truth (m ≠ 0 ∧ n ≠ 0)
  | meant, .either a b => do
    let m ← a.evaluate value? meant
    let n ← b.evaluate value? (meant && m = 0)
    return truth (m ≠ 0 ∨ n ≠ 0)
  | meant, .conditional test yes no => do
    let m ← test.evaluate value? meant
    let a ← yes.evaluate value? (meant && m ≠ 0)
    let b ← no.evaluate value? (meant && m = 0)
    return if m ≠ 0 then a else b
  | meant, .assignment x o a => do
    let n ← a.evaluate value? meant
    if !meant then return 0
    let n ←
      match o with
      | none => pure n
      | some o => do
        let old ← lookup value? x
        apply o old n
    modify ((x, n) :: ·)
    return n
  | _, .missing e => throw e
  | meant, .strayed a e => do
    let _ ← a.evaluate value? meant
    throw e

/-- The value of a text that is an expression, and what it assigns, the first assignment first. -/
def evaluate (value? : Text → Option Text) (t : Text) : Except Error (Int × List (Text × Int)) := do
  let (n, assigned) ← ((parse t).evaluate value? true).run []
  return (n, assigned.reverse)

end DefectGate.Workspace.Shell.Arithmetic
