import DefectGate.Workspace.Shell.Pattern

/-!
# Regular expressions

Expressions in the basic and in the extended notation, and the leftmost longest part of a text that
one of them matches, with what its groups have matched.
-/
namespace DefectGate.Workspace

open Shell (Text)

inductive Regular where
  | nothing
  | char (holds : Char → Bool)
  | start
  | finish
  /-- The edge of a word; `before` and `after` say on which sides a word may be. -/
  | edge (before after : Option Bool)
  | sequence (a b : Regular)
  | either (a b : Regular)
  /-- So many times at least, and at most, if there is a bound. -/
  | repeated (least : Nat) (most : Option Nat) (a : Regular)
  | group (n : Nat) (a : Regular)
  /-- What a group has matched before. -/
  | again (n : Nat)

namespace Regular

/-! ## Matching -/

/-- A state of a match: what stands before the place, the last character first, what follows, and
where the groups lie, by the lengths of what follows their ends. -/
structure State where
  before : Text
  after : Text
  groups : List (Nat × Text)

def isWordChar (c : Char) : Bool := Shell.isNameChar c

def State.take (s : State) (n : Nat) : State :=
  { s with before := (s.after.take n).reverse ++ s.before, after := s.after.drop n }

/-- States at different places; of several at one place the first stays. -/
def distinct : List State → List State
  | [] => []
  | s :: rest => s :: (distinct rest).filter (·.after.length ≠ s.after.length)

/-- The states that a match can end in, the preferred one first. -/
def ends (ignoringCase : Bool) : (fuel : Nat) → Regular → State → List State
  | 0, _, _ => []
  | fuel + 1, e, s =>
    match e with
    | .nothing => [s]
    | .char holds =>
      match s.after with
      | c :: _ =>
        if holds c ∨ (ignoringCase ∧ (holds c.toLower ∨ holds c.toUpper)) then [s.take 1] else []
      | [] => []
    | .start => if s.before = [] then [s] else []
    | .finish => if s.after = [] then [s] else []
    | .edge before after =>
      let left := s.before.head?.any isWordChar
      let right := s.after.head?.any isWordChar
      let isEdge := match before, after with
        | none, none => left != right
        | _, _ => before.all (· = left) && after.all (· = right)
      if isEdge then [s] else []
    | .sequence a b => distinct ((ends ignoringCase fuel a s).flatMap (ends ignoringCase fuel b))
    | .either a b => distinct (ends ignoringCase fuel a s ++ ends ignoringCase fuel b s)
    | .repeated least most a =>
      let more : List State :=
        if most = some 0 then []
        else
          let rest := .repeated (least - 1) (most.map (· - 1)) a
          ((ends ignoringCase fuel a s).filter fun t => t.after.length < s.after.length ∨ 0 < least)
            |>.flatMap (ends ignoringCase fuel rest)
      distinct (if least = 0 then more ++ [s] else more)
    | .group n a =>
      (ends ignoringCase fuel a s).map fun t =>
        let matched := s.after.take (s.after.length - t.after.length)
        { t with groups := (n, matched) :: t.groups.filter (·.1 ≠ n) }
    | .again n =>
      match s.groups.find? (·.1 = n) with
      | some (_, t) => if t.isPrefixOf s.after then [s.take t.length] else []
      | none => []

/-- A part of a text that is matched, and what stands around it. -/
structure Match where
  before : Text
  matched : Text
  after : Text
  groups : List (Nat × Text)
  deriving Repr

/-- The longest match at a place. -/
def matchAt? (e : Regular) (ignoringCase : Bool) (fuel : Nat) (before after : Text) :
    Option Match :=
  let found := ends ignoringCase fuel e ⟨before, after, []⟩
  let longest := found.foldl
    (fun best s =>
      match best with
      | some (b : State) => if s.after.length < b.after.length then some s else some b
      | none => some s) none
  longest.map fun s =>
    ⟨before.reverse, after.take (after.length - s.after.length), s.after, s.groups⟩

/-- The leftmost match from a place on. -/
def searchFrom (e : Regular) (ignoringCase : Bool) (fuel : Nat) : (before after : Text) →
    Option Match
  | before, [] => e.matchAt? ignoringCase fuel before []
  | before, c :: rest =>
    match e.matchAt? ignoringCase fuel before (c :: rest) with
    | some m => some m
    | none => searchFrom e ignoringCase fuel (c :: before) rest

/-- How many steps a match may take. -/
def size : Regular → Nat
  | .sequence a b | .either a b => size a + size b + 1
  | .repeated least _ a => (size a + 1) * (least + 1)
  | .group _ a => size a + 1
  | _ => 1

def fuelFor (e : Regular) (t : Text) : Nat := (size e + 2) * (t.length + 2)

def search? (e : Regular) (ignoringCase : Bool) (t : Text) : Option Match :=
  e.searchFrom ignoringCase (fuelFor e t) [] t

/-! ## Notations -/

/-- What is read: the text that is left, and how many groups have been opened. -/
structure Cursor where
  rest : Text
  groups : Nat

abbrev Reading := StateT Cursor (Except String)

def skip (n : Nat) : Reading Unit := modify fun c => { c with rest := c.rest.drop n }

/-- A set between square brackets, the first of which has been read. -/
def brackets : Reading Regular := do
  let t := (← get).rest
  let (negated, t) := match t with | '^' :: t => (true, t) | t => (false, t)
  match Shell.Pattern.choices (t.length + 1) true (t.map (·, true)) with
  | none => throw "unterminated address regex"
  | some (choices, after) =>
    modify fun c => { c with rest := after.map (·.1) }
    return .char fun c => choices.any (·.allows c) != negated

/-- The bounds of a repetition up to a closing mark. -/
def bounds (close : Text) : Reading (Nat × Option Nat) := do
  let t := (← get).rest
  let (low, t) := Shell.Arithmetic.digits 10 t
  let (high, t) : Option Text × Text :=
    match t with
    | ',' :: t =>
      let (high, t) := Shell.Arithmetic.digits 10 t
      (some high, t)
    | t => (none, t)
  if !close.isPrefixOf t then throw "Invalid preceding regular expression"
  modify fun c => { c with rest := t.drop close.length }
  let least := Shell.Arithmetic.numberOf 10 low
  match high with
  | none => return (least, some least)
  | some [] => return (least, none)
  | some high => return (least, some (Shell.Arithmetic.numberOf 10 high))

/-- Whether an operator of the notation comes next: some have a backslash in one notation and none
in the other. -/
def comes (extended : Bool) (operator : Char) (t : Text) : Bool :=
  (if extended then [operator] else ['\\', operator]).isPrefixOf t

def width (extended : Bool) : Nat := if extended then 1 else 2

mutual

/-- Alternatives up to the end or a closing bracket. -/
def alternatives (extended : Bool) : (fuel : Nat) → Reading Regular
  | 0 => return .nothing
  | fuel + 1 => do
    let a ← factors extended fuel true
    if comes extended '|' (← get).rest then
      skip (width extended)
      return .either a (← alternatives extended fuel)
    else return a

/-- Factors one after the other. -/
def factors (extended : Bool) : (fuel : Nat) → (isFirst : Bool) → Reading Regular
  | 0, _ => return .nothing
  | fuel + 1, isFirst => do
    let c ← get
    if c.rest = [] ∨ comes extended '|' c.rest ∨
        (comes extended ')' c.rest ∧ (c.groups ≠ 0 ∨ !extended)) then
      return .nothing
    else
      let a ← atom extended fuel isFirst
      let a ← repetitions extended fuel a
      return .sequence a (← factors extended fuel false)

/-- One factor without what repeats it. -/
def atom (extended : Bool) : (fuel : Nat) → (isFirst : Bool) → Reading Regular
  | 0, _ => return .nothing
  | fuel + 1, isFirst => do
    let literal (c : Char) : Regular := .char (· = c)
    if comes extended '(' (← get).rest then
      skip (width extended)
      let n := (← get).groups + 1
      modify fun c => { c with groups := n }
      let a ← alternatives extended fuel
      if !comes extended ')' (← get).rest then throw "Unmatched ( or \\("
      skip (width extended)
      return .group n a
    else
      let t := (← get).rest
      skip 1
      match t with
      | '[' :: _ => brackets
      | '.' :: _ => return .char fun _ => true
      | '^' :: _ => return if extended ∨ isFirst then .start else literal '^'
      | '$' :: rest =>
        let isLast := rest = [] ∨ comes extended ')' rest ∨ comes extended '|' rest
        return if extended ∨ isLast then .finish else literal '$'
      | '\\' :: c :: _ =>
        skip 1
        match c with
        | 'n' => return literal '\n'
        | 't' => return literal '\t'
        | 'w' => return .char isWordChar
        | 'W' => return .char fun c => !isWordChar c
        | 's' => return .char Shell.Arithmetic.isSpace
        | 'S' => return .char fun c => !Shell.Arithmetic.isSpace c
        | 'b' => return .edge none none
        | '<' => return .edge (some false) (some true)
        | '>' => return .edge (some true) (some false)
        | c =>
          if '1' ≤ c ∧ c ≤ '9' then return .again (c.toNat - '0'.toNat) else return literal c
      | ['\\'] => throw "Trailing backslash"
      | c :: _ => return literal c
      | [] => return .nothing

/-- What repeats the factor before it. -/
def repetitions (extended : Bool) : (fuel : Nat) → Regular → Reading Regular
  | 0, a => return a
  | fuel + 1, a => do
    let t := (← get).rest
    if t.head? = some '*' then
      skip 1
      repetitions extended fuel (.repeated 0 none a)
    else if comes extended '+' t then
      skip (width extended)
      repetitions extended fuel (.repeated 1 none a)
    else if comes extended '?' t then
      skip (width extended)
      repetitions extended fuel (.repeated 0 (some 1) a)
    else if comes extended '\x7b' t then
      skip (width extended)
      let (least, most) ← bounds (if extended then ['\x7d'] else ['\\', '\x7d'])
      repetitions extended fuel (.repeated least most a)
    else return a

end

/-- The expression that a text is in one of the notations, or what is wrong with it. A star at its
start stands for itself. -/
def ofText (extended : Bool) (t : Text) : Except String Regular := do
  let (starts, t) := match t with | '*' :: t => (true, t) | t => (false, t)
  let (e, c) ← (alternatives extended (8 * t.length + 16)).run ⟨t, 0⟩
  if c.rest ≠ [] then throw "Unmatched ) or \\)"
  return if starts then .sequence (.char (· = '*')) e else e

/-- The expression that means a text itself. -/
def ofLiteral (t : Text) : Regular :=
  t.foldr (fun c e => .sequence (.char (· = c)) e) .nothing

end Regular
end DefectGate.Workspace
