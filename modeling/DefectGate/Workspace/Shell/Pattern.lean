import DefectGate.Workspace.Shell.Arithmetic

/-!
# Patterns

Matching a text against a pattern in which a star means any text, a question mark any character and
square brackets one of several characters. Characters that are not active mean themselves.
-/
namespace DefectGate.Workspace.Shell

/-- A character of a pattern, and whether it may mean more than itself. -/
abbrev Mark := Char × Bool

namespace Pattern

def isLower (c : Char) : Bool := 'a' ≤ c ∧ c ≤ 'z'

def isUpper (c : Char) : Bool := 'A' ≤ c ∧ c ≤ 'Z'

def isVisible (c : Char) : Bool := '!' ≤ c ∧ c ≤ '~'

/-- The named classes of characters. -/
def classes : List (String × (Char → Bool)) :=
  [("alnum", fun c => isLower c || isUpper c || isDigit c),
    ("alpha", fun c => isLower c || isUpper c), ("blank", isBlank),
    ("cntrl", fun c => c < ' ' || c = '\x7f'), ("digit", isDigit), ("graph", isVisible),
    ("lower", isLower), ("print", fun c => isVisible c || c = ' '),
    ("punct", fun c => isVisible c && !isLower c && !isUpper c && !isDigit c),
    ("space", Arithmetic.isSpace), ("upper", isUpper), ("xdigit", fun c => (Arithmetic.digit? c).isSome)]

/-- One of the choices between square brackets. -/
inductive Choice where
  | range (first last : Char)
  | named (holds : Char → Bool)

def Choice.allows (c : Char) : Choice → Bool
  | .range first last => first ≤ c && c ≤ last
  | .named holds => holds c

/-- The class that is named at the start of what follows an inner bracket. -/
def classAt? (p : List Mark) : Option ((Char → Bool) × List Mark) :=
  classes.findSome? fun (name, holds) =>
    let spelled := ":" ++ name ++ ":]"
    if spelled.toList.isPrefixOf (p.map (·.1)) then some (holds, p.drop spelled.length) else none

/-- The choices up to the bracket that closes them, and what follows it. The first choice may be
that bracket itself. -/
def choices : (fuel : Nat) → (isFirst : Bool) → List Mark → Option (List Choice × List Mark)
  | 0, _, _ => none
  | fuel + 1, isFirst, p =>
    let more (choice : Choice) (rest : List Mark) : Option (List Choice × List Mark) :=
      (choices fuel false rest).map fun (cs, after) => (choice :: cs, after)
    match p with
    | [] => none
    | (a, active) :: rest =>
      if a = ']' ∧ active ∧ !isFirst then some ([], rest)
      else
        match if a = '[' ∧ active then classAt? rest else none, rest with
        | some (holds, rest), _ => more (.named holds) rest
        | none, ('-', true) :: (b, bActive) :: rest' =>
          if b = ']' ∧ bActive then more (.range a a) rest else more (.range a b) rest'
        | none, _ => more (.range a a) rest

/-- A test of one character in square brackets, and the pattern that follows it. -/
def bracketsAt? (p : List Mark) : Option ((Char → Bool) × List Mark) :=
  match p with
  | ('!', true) :: rest =>
    (choices (rest.length + 1) true rest).map fun (cs, after) =>
      (fun c => !cs.any (·.allows c), after)
  | _ => (choices (p.length + 1) true p).map fun (cs, after) => (fun c => cs.any (·.allows c), after)

/-- Whether a text is like a pattern. Every step uses up a part of the pattern. -/
def isLike : (fuel : Nat) → List Mark → Text → Bool
  | 0, p, t => p.isEmpty ∧ t = []
  | fuel + 1, p, t =>
    match p, t with
    | [], t => t = []
    | ('*', true) :: p, t => (List.range (t.length + 1)).any fun n => isLike fuel p (t.drop n)
    | ('?', true) :: p, t => t ≠ [] && isLike fuel p t.tail
    | ('\\', true) :: (a, _) :: p, t => t.head? = some a && isLike fuel p t.tail
    | (a, active) :: p, c :: t =>
      match if a = '[' ∧ active then bracketsAt? p else none with
      | some (holds, after) => holds c && isLike fuel after t
      | none => a = c && isLike fuel p t
    | _ :: _, [] => false

/-- Whether a pattern can mean more than one text. -/
def isActive (p : List Mark) : Bool :=
  p.any fun (c, active) => active && (c = '*' || c = '?' || c = '[')

end Pattern

def Text.isLike (t : Text) (p : List Mark) : Bool := Pattern.isLike (p.length + 1) p t

/-- A text without the shortest or longest part at one of its ends that is like a pattern. Where zero
bytes separate several texts, a part counts up to the first of them, and a search from the left goes
no further. -/
def Text.trimmed (t : Text) (atEnd longest : Bool) (p : List Mark) : Text :=
  let first (t : Text) : Text := t.takeWhile (· ≠ '\x00')
  let part (n : Nat) : Text := first (if atEnd then t.drop n else t.take n)
  let places : List Nat :=
    if atEnd = longest then List.range ((first t).length + 1)
    else (List.range (t.length + 1)).reverse
  match places.find? fun n => (part n).isLike p with
  | some n => if atEnd then t.take n else t.drop n
  | none => t

end DefectGate.Workspace.Shell
