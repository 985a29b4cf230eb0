import DefectGate.Workspace.Shell.Fields

/-!
# Expansion

What becomes of a word: its pieces turn into a row of atoms, and these are split into fields, read
as one text or used as a pattern.
-/
namespace DefectGate.Workspace.Shell

/-- How a word is expanded. -/
structure Manner where
  /-- Whether the word is split into fields. -/
  splits : Bool
  /-- Whether its plain text is split as well. -/
  loose : Bool
  /-- Whether a tilde means a home directory after a colon too. -/
  colons : Bool
  deriving DecidableEq, Repr

namespace Manner

def ofWord : Manner := ⟨true, false, false⟩

def ofText : Manner := ⟨false, false, false⟩

def ofAssignment : Manner := ⟨false, false, true⟩

def ofAlternative (m : Manner) (quoted : Bool) : Manner := { m with loose := !quoted }

end Manner

def withoutClosingNewlines (t : Text) : Text := (t.reverse.dropWhile (· = '\n')).reverse

/-- Plain text of a word. A tilde stands for a home directory where a path may start, unless the
name after it goes on with something that is not plain. -/
def plain (s : Session) (m : Manner) (isLast : Bool) : (atStart : Bool) → Text → List Atom
  | _, [] => []
  | atStart, c :: rest =>
    let here : Atom := if m.loose then .loose c else .kept c true
    let user := rest.takeWhile fun c => c ≠ '/' && !(m.colons && c = ':')
    let isWhole := isLast || decide (user.length < rest.length)
    match if atStart ∧ c = '~' ∧ isWhole then home? s user else none with
    | some home => home.map (.kept · false) ++ plain s m isLast false (rest.drop user.length)
    | none => here :: plain s m isLast (m.colons && c = ':') rest
  termination_by _ t => t.length
  decreasing_by all_goals simp; try omega

/-- What a list of all arguments is if it is one text: zero bytes between fields, which no argument
contains, or what joins values. -/
def argumentSeparator (s : Session) (m : Manner) (name : Text) (quoted : Bool) : Text :=
  if m.splits ∧ (name = ['@'] ∨ !quoted) then ['\x00'] else joiner s

/-- The value of a parameter as one text, if it has one. -/
def value? (s : Session) (m : Manner) (name : Text) (quoted : Bool) : Option Text :=
  if isArguments name then
    some (s.process.arguments.intersperse (argumentSeparator s m name quoted)).flatten
  else parameter? s name

/-- The atoms of a value. -/
def valueAtoms (s : Session) (m : Manner) (name : Text) (quoted : Bool) (t : Text) : List Atom :=
  if isArguments name ∧ argumentSeparator s m name quoted = ['\x00'] then
    if s.process.arguments = [] then [] else Atom.ofValues quoted (sections '\x00' t)
  else Atom.ofValue quoted t

/-- What is said about a parameter that has no value where one is demanded. -/
def absence (name : Text) (reason : String) : String := String.ofList name ++ ": " ++ reason

namespace Action

/-- The value of an arithmetic expression. -/
def number (expression : Text) : Action Text := do
  let s ← get
  match Arithmetic.evaluate (parameter? s) expression with
  | .error e => fail (e.message expression)
  | .ok (n, assigned) =>
    for (name, value) in assigned do assign name (toString value).toList
    return (toString n).toList

mutual

/-- The atoms that a word expands to, given what the output of a script is. -/
def expand (output : Command → Action Text) :
    (fuel : Nat) → Manner → (atStart : Bool) → Word → Action (List Atom)
  | 0, _, _, _ => throw .killed
  | _, _, _, [] => return []
  | fuel + 1, m, atStart, p :: w => do
    let atoms ←
      match p with
      | .text t quoted =>
        if quoted then pure (Atom.ofValue true t) else
          let s ← get
          pure (plain s m w.isEmpty atStart t)
      | .number expression quoted => do
        let t ← expandText output fuel .ofText expression
        pure (Atom.ofValue quoted (← number t))
      | .output script quoted => do
        pure (Atom.ofValue quoted (withoutClosingNewlines (← output script)))
      | .parameter name form quoted => parameter output fuel m name form quoted
    return atoms ++ (← expand output fuel m false w)

/-- A word that becomes one text. -/
def expandText (output : Command → Action Text) : (fuel : Nat) → Manner → Word → Action Text
  | 0, _, _ => throw .killed
  | fuel + 1, m, w => return Atom.text (← expand output fuel m true w)

/-- What a parameter expands to. -/
def parameter (output : Command → Action Text) :
    (fuel : Nat) → Manner → Text → Form → (quoted : Bool) → Action (List Atom)
  | 0, _, _, _, _ => throw .killed
  | fuel + 1, m, name, form, quoted => do
    let s ← get
    let value := value? s m name quoted
    let own := valueAtoms s m name quoted (value.getD [])
    let isGiven (orEmpty : Bool) : Bool := value.any fun t => !orEmpty || t ≠ []
    let demand : Action Unit := do
      if value = none ∧ (← hasOption 'u') then fail (absence name "parameter not set")
    let another (w : Word) : Action (List Atom) :=
      expand output fuel (m.ofAlternative quoted) true w
    match form with
    | .value =>
      demand
      return own
    | .length =>
      demand
      return Atom.ofValue quoted (Shell.text ((value? s .ofText name quoted).getD []).length)
    | .valueOr orEmpty other => if isGiven orEmpty then return own else another other
    | .insteadOf orEmpty other => if isGiven orEmpty then another other else return []
    | .assigned orEmpty other =>
      if isGiven orEmpty then return own
      else
        let t ← expandText output fuel .ofText other
        assign name t
        return Atom.ofValue quoted t
    | .demanded orEmpty message =>
      if isGiven orEmpty then return own
      else if message.isEmpty then
        fail (absence name ("parameter not set" ++ if orEmpty then " or null" else ""))
      else
        let t ← expandText output fuel .ofText message
        fail (absence name (String.ofList t))
    | .trimmed atEnd longest pattern =>
      demand
      if value = none then return own
      let p := Atom.pattern (← expand output fuel .ofText true pattern)
      return valueAtoms s m name quoted ((value.getD []).trimmed atEnd longest p)
    | .unknown => fail "Bad substitution"

end

/-- The pattern that a word expands to. -/
def expandPattern (output : Command → Action Text) (fuel : Nat) (w : Word) :
    Action (List Mark) :=
  return Atom.pattern (← expand output fuel .ofText true w)

/-- The fields that a word expands to. -/
def expandFields (output : Command → Action Text) (fuel : Nat) (w : Word) :
    Action (List Text) := do
  let atoms ← expand output fuel .ofWord true w
  let s ← get
  let fields := Atom.fields (separators s) atoms
  if ← hasOption 'f' then return fields.map Field.text
  else return fields.flatMap (Field.paths s.files)

end Action
end DefectGate.Workspace.Shell
