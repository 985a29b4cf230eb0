import DefectGate.Workspace.Shell.Arithmetic
import DefectGate.Workspace.Tools.Basic

/-!
# Tests

Questions about texts, whole numbers and files, as `test` answers them. A question is read from left
to right; a word is an operator only where what stands around it leaves room for one.
-/
namespace DefectGate.Workspace.Tool

open Shell (Text)

/-- What a word of a question is. -/
inductive Sign where
  | finish
  | operand
  | unary
  | binary
  | negation
  | both
  | either
  | opening
  | closing
  deriving DecidableEq, Repr

def unaryOperators : List String :=
  ["-r", "-w", "-x", "-e", "-f", "-d", "-c", "-b", "-p", "-u", "-g", "-k", "-s", "-t", "-z", "-n",
    "-h", "-O", "-G", "-L", "-S"]

def binaryOperators : List String :=
  ["=", "!=", "<", ">", "-eq", "-ne", "-ge", "-gt", "-le", "-lt", "-nt", "-ot", "-ef"]

/-- What a word is by itself. -/
def Sign.ofWord (t : Text) : Sign :=
  match shown t with
  | "!" => .negation
  | "-a" => .both
  | "-o" => .either
  | "(" => .opening
  | ")" => .closing
  | w =>
    if w ∈ unaryOperators then .unary else if w ∈ binaryOperators then .binary else .operand

/-- What the first word is, given those after it. -/
def Sign.first : List Text → Sign
  | [] => .finish
  | t :: rest =>
    match ofWord t, rest with
    | .unary, [] => .operand
    | .unary, a :: _ :: _ => if ofWord a = .binary then .operand else .unary
    | .opening, [] => .operand
    | sign, _ => sign

/-- What is wrong with a question, about one of its words if not about all of it. -/
def complaint (word : Text) (message : String) : String :=
  if word = [] then message else s!"{shown word}: {message}"

def integer (t : Text) : Except String Int :=
  let number? (t : Text) : Option (Nat × Text) :=
    let (ds, rest) := Shell.Arithmetic.digits 10 t
    if ds = [] then none else some (Shell.Arithmetic.numberOf 10 ds, rest)
  match Shell.Arithmetic.signed? number? t with
  | some (negative, n, rest) =>
    let value : Int := if negative then -n else n
    if rest.all Shell.Arithmetic.isSpace ∧ Shell.Arithmetic.clamp value = value then .ok value
    else .error s!"Illegal number: {shown t}"
  | none => .error s!"Illegal number: {shown t}"

/-- The answer to a question about one operand. -/
def unary (s : Session) (operator operand : Text) : Except String Bool :=
  match shown operator with
  | "-n" => .ok (operand ≠ [])
  | "-z" => .ok (operand = [])
  | "-f" => .ok (nodeIs s operand Node.isRegular)
  | "-d" => .ok (nodeIs s operand Node.isDirectory)
  | "-c" => .ok (nodeIs s operand Node.isSink)
  | "-s" => .ok (nodeIs s operand fun n => !n.isEmpty)
  | "-x" => .ok (nodeIs s operand fun n => n.isExecutable || n.isDirectory)
  | "-h" | "-L" => .ok (isLink s operand)
  | "-t" => do
    let _ ← integer operand
    return false
  | "-b" | "-p" | "-u" | "-g" | "-k" | "-S" => .ok false
  | _ => .ok (nodeIs s operand fun _ => true)

def areSame (s : Session) (a b : Text) : Bool :=
  match s.files.find (pathOf a), s.files.find (pathOf b) with
  | .ok (l, _), .ok (m, _) => l = m
  | _, _ => false

/-- The answer to a question about two operands. -/
def binary (s : Session) (a operator b : Text) : Except String Bool :=
  let numbers (holds : Int → Int → Bool) : Except String Bool := do
    let m ← integer a
    let n ← integer b
    return holds m n
  match shown operator with
  | "=" => .ok (a = b)
  | "!=" => .ok (a ≠ b)
  | "<" => .ok (a < b)
  | ">" => .ok (b < a)
  | "-eq" => numbers fun m n => m = n
  | "-ne" => numbers fun m n => m ≠ n
  | "-lt" => numbers fun m n => m < n
  | "-le" => numbers fun m n => m ≤ n
  | "-gt" => numbers fun m n => n < m
  | "-ge" => numbers fun m n => n ≤ m
  | "-ef" => .ok (areSame s a b)
  | _ => .ok false

/-- An answer, and the words from the last one that was used for it. -/
abbrev Answer := Except String (Bool × List Text)

mutual

/-- Whether one of several parts holds. -/
def either (s : Session) : (fuel : Nat) → Sign → List Text → Answer
  | 0, _, ws => .ok (false, ws)
  | fuel + 1, sign, ws => do
    let (a, ws) ← both s fuel sign ws
    if Sign.first ws.tail ≠ .either then return (a, ws)
    let ws := ws.drop 2
    let (b, ws) ← either s fuel (.first ws) ws
    return (a || b, ws)

/-- Whether all of several parts hold. -/
def both (s : Session) : (fuel : Nat) → Sign → List Text → Answer
  | 0, _, ws => .ok (false, ws)
  | fuel + 1, sign, ws => do
    let (a, ws) ← negated s fuel sign ws
    if Sign.first ws.tail ≠ .both then return (a, ws)
    let ws := ws.drop 2
    let (b, ws) ← both s fuel (.first ws) ws
    return (a && b, ws)

def negated (s : Session) : (fuel : Nat) → Sign → List Text → Answer
  | 0, _, ws => .ok (false, ws)
  | fuel + 1, sign, ws => do
    if sign ≠ .negation then simple s fuel sign ws
    else
      let next := Sign.first ws.tail
      let (a, ws) ← negated s fuel next (if next = .finish then ws else ws.tail)
      return (!a, ws)

/-- A question about one or two operands, or one in brackets. -/
def simple (s : Session) : (fuel : Nat) → Sign → List Text → Answer
  | 0, _, ws => .ok (false, ws)
  | fuel + 1, sign, ws =>
    match sign, ws with
    | .finish, ws => .ok (false, ws)
    | .opening, _ :: ws => do
      if Sign.first ws = .closing then return (false, ws)
      let (a, ws) ← either s fuel (.first ws) ws
      if Sign.first ws.tail ≠ .closing then throw "closing paren expected"
      return (a, ws.tail)
    | .unary, operator :: operand :: rest => do
      return (← unary s operator operand, operand :: rest)
    | .unary, operator :: [] => .error (complaint operator "argument expected")
    | _, a :: rest => do
      if Sign.first rest ≠ .binary then return (a ≠ [], a :: rest)
      match rest with
      | operator :: b :: rest => return (← binary s a operator b, b :: rest)
      | _ => throw (complaint (rest.headD []) "argument expected")
    | _, [] => .ok (false, [])

end

/-- The answer to a whole question whose first word is known. -/
def whole (s : Session) (sign : Sign) (ws : List Text) : Except String Bool := do
  match ← either s (4 * ws.length + 8) sign ws with
  | (_, w :: _ :: _) => throw (complaint w "unexpected operator")
  | (a, _) => return a

/-- The answer to a question. Of three words the middle one comes first, and three or four may stand
in brackets or after a negation. -/
def holds (s : Session) : List Text → Except String Bool
  | [] => .ok false
  | a :: rest =>
    let ws := a :: rest
    let isBinary := rest.length = 2 ∧ (rest.head?.map Sign.ofWord) = some .binary
    let mayHaveMarks := rest.length = 2 ∨ rest.length = 3
    if isBinary then whole s .operand ws
    else if mayHaveMarks ∧ Sign.ofWord a = .opening ∧
        (rest.getLast?.map Sign.ofWord) = some .closing then
      whole s (.first rest.dropLast) rest.dropLast
    else if mayHaveMarks ∧ Sign.ofWord a = .negation then (holds s rest).map (!·)
    else whole s (.first ws) ws

end DefectGate.Workspace.Tool
