import DefectGate.Workspace.Tools.Basic
import DefectGate.Workspace.Tools.Regular

/-!
# Expressions

The tool `expr`: numbers, comparisons and parts of texts, each word of an expression an argument.
-/
namespace DefectGate.Workspace.Tool

open Shell (Text)

namespace Expressions

/-- Reads a part of an expression off the words that are left; the value is a text. -/
abbrev Reading := StateT (List Text) (Except (String × Nat))

def syntaxError (message : String) : Except (String × Nat) α :=
  .error ("syntax error: " ++ message, 2)

/-- A value that counts as nothing. -/
def isNull (t : Text) : Bool :=
  let digits := match t with | '-' :: ds => ds | ds => ds
  t = [] || (digits ≠ [] && digits.all (· = '0'))

def ofInt (n : Int) : Text := (toString n).toList

def integer? (t : Text) : Option Int :=
  match t with
  | '-' :: ds => (natural? ds).map fun n => -(n : Int)
  | ds => (natural? ds).map fun n => (n : Int)

def number (t : Text) : Except (String × Nat) Int :=
  match integer? t with
  | some n => .ok n
  | none => .error ("non-integer argument", 2)

/-- What a pattern matches at the start of a text: its first group, or the length of the match. -/
def matched (t pattern : Text) : Except (String × Nat) Text :=
  match Regular.ofText false pattern with
  | .error message => .error (message, 2)
  | .ok e =>
    let hasGroup := "\\(".toList.isPrefixOf pattern ∨ (Regular.size e ≠ 0 ∧ hasOpening pattern)
    match e.matchAt? false (e.fuelFor t) [] t with
    | some m =>
      if hasGroup then .ok ((m.groups.find? (·.1 = 1)).map (·.2) |>.getD [])
      else .ok (ofInt m.matched.length)
    | none => .ok (if hasGroup then [] else ['0'])
where
  hasOpening : Text → Bool
    | '\\' :: '(' :: _ => true
    | '\\' :: _ :: rest => hasOpening rest
    | _ :: rest => hasOpening rest
    | [] => false

def compareWith (operator : String) (a b : Text) : Bool :=
  let holds (o : Ordering) : Bool :=
    match operator with
    | "<" => o = .lt
    | "<=" => o ≠ .gt
    | "=" | "==" => o = .eq
    | "!=" => o ≠ .eq
    | ">=" => o ≠ .lt
    | _ => o = .gt
  match integer? a, integer? b with
  | some m, some n => holds (compare m n)
  | _, _ => holds (if a = b then .eq else if a < b then .lt else .gt)

def apply (operator : String) (a b : Text) : Except (String × Nat) Text := do
  let truth (b : Bool) : Text := if b then ['1'] else ['0']
  match operator with
  | "|" => return if isNull a then (if isNull b then ['0'] else b) else a
  | "&" => return if isNull a ∨ isNull b then ['0'] else a
  | ":" => matched a b
  | "+" => return ofInt ((← number a) + (← number b))
  | "-" => return ofInt ((← number a) - (← number b))
  | "*" => return ofInt ((← number a) * (← number b))
  | "/" =>
    let n ← number b
    if n = 0 then .error ("division by zero", 2) else return ofInt ((← number a).tdiv n)
  | "%" =>
    let n ← number b
    if n = 0 then .error ("division by zero", 2) else return ofInt ((← number a).tmod n)
  | o => return truth (compareWith o a b)

/-- The operators by rising precedence. -/
def levels : List (List String) :=
  [["|"], ["&"], ["<", "<=", "=", "==", "!=", ">=", ">"], ["+", "-"], ["*", "/", "%"], [":"]]

def word (before : Text) : Reading Text := do
  match ← get with
  | w :: rest =>
    set rest
    return w
  | [] => syntaxError s!"missing argument after '{shown before}'"

mutual

/-- An expression of the first of the levels given and those after it. -/
def level : (fuel : Nat) → (before : Text) → List (List String) → Reading Text
  | 0, _, _ => syntaxError "expression too deep"
  | fuel + 1, before, [] => operand fuel before
  | fuel + 1, before, os :: ls => do chain fuel os ls (← level fuel before ls)

/-- The operators of one level from left to right. -/
def chain : (fuel : Nat) → List String → List (List String) → Text → Reading Text
  | 0, _, _, _ => syntaxError "expression too deep"
  | fuel + 1, os, ls, a => do
    match ← get with
    | o :: rest =>
      if shown o ∈ os then
        set rest
        let b ← level fuel o ls
        chain fuel os ls (← apply (shown o) a b)
      else return a
    | [] => return a

/-- A word, an expression in brackets, or a function of words. -/
def operand : (fuel : Nat) → (before : Text) → Reading Text
  | 0, _ => syntaxError "expression too deep"
  | fuel + 1, before => do
    let w ← word before
    match shown w with
    | "(" =>
      let a ← level fuel w levels
      match ← get with
      | [')'] :: rest =>
        set rest
        return a
      | [] => syntaxError s!"expecting ')' after '{shown a}'"
      | other :: _ => syntaxError s!"expecting ')' instead of '{shown other}'"
    | ")" => syntaxError "unexpected ')'"
    | "+" => word w
    | "length" => return ofInt (← operand fuel w).length
    | "match" =>
      let a ← operand fuel w
      let b ← operand fuel a
      matched a b
    | "substr" =>
      let t ← operand fuel w
      let start ← operand fuel t
      let length ← operand fuel start
      match integer? start, integer? length with
      | some m, some n =>
        return if m ≤ 0 ∨ n ≤ 0 then [] else (t.drop (m.toNat - 1)).take n.toNat
      | _, _ => return []
    | "index" =>
      let t ← operand fuel w
      let set ← operand fuel t
      let place := t.findIdx (· ∈ set)
      return ofInt (if place < t.length then place + 1 else 0)
    | _ => return w

end

/-- The value of the words of an expression. -/
def evaluate (words : List Text) : Except (String × Nat) Text := do
  let (value, rest) ← (level (16 * words.length + 16) [] levels).run words
  match rest with
  | [] => return value
  | w :: _ => syntaxError s!"unexpected argument '{shown w}'"

end Expressions

def expr (words : List Text) (s : Session) : Session :=
  let words := match words with | ['-', '-'] :: rest => rest | ws => ws
  if words = [] then misused "expr" "missing operand" 2 s
  else
    match Expressions.evaluate words with
    | .error (message, status) => (say s!"expr: {message}" s).status status
    | .ok value => (out (value ++ ['\n']) s).status (if Expressions.isNull value then 1 else 0)

end DefectGate.Workspace.Tool
