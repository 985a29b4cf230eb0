import DefectGate.Workspace.Shell.BuiltIn
import DefectGate.Workspace.Shell.Fields

/-!
# Names of commands

What the name of a command means to a shell: a word of the grammar, a function, a command of the
shell itself, or a file on the search path.
-/
namespace DefectGate.Workspace.Shell

open Host (Path)

/-- Why a program could not be started. -/
def unavailable (name : Text) (e : Host.Error) : String :=
  String.ofList name ++ ": " ++ if isAbsence e then "not found" else errorText e

/-- The status after a program that could not be started. -/
def unavailableStatus (e : Host.Error) : Nat :=
  if isAbsence e ∨ e = Files.tooManyLinks ∨ e = Files.nameTooLong then 127 else 126

/-- The directories in which a shell looks for programs. -/
def searchPath (s : Session) : List Path :=
  (sections ':' ((s.lookup? "PATH".toList).getD [])).map pathOf

/-- The file that the name of a command means. -/
def locate (s : Session) (name : Text) : Except Host.Error Path :=
  if '/' ∈ name then .ok (pathOf name) else Image.locate s.files (pathOf name) false (searchPath s)

/-- The script of a file that is read as commands. -/
def scriptAt (s : Session) (path : Text) : Except Host.Error (Text × Session) := do
  let (stream, s) ← s.streamToRead path
  let (t, _) := (s.connect 0 stream).takeAll 0
  return (t, s)

/-- The file that a script is read from in this shell. -/
def scriptPath? (s : Session) (name : Text) : Option Text :=
  if '/' ∈ name then some name
  else
    (searchPath s).findSome? fun directory =>
      let path := Image.inDirectory directory (pathOf name)
      match s.files.find path with
      | .ok (_, n) => if n.isRegular then some (.ofBytes path.bytes) else none
      | .error _ => none

/-- What is known of the names of commands. -/
def description (s : Session) (verbose : Bool) (name : Text) : Option String :=
  let shown := String.ofList name
  let sentence (what : String) := if verbose then s!"{shown} is {what}" else shown
  if Token.keywords.any (·.toList = name) then some (sentence "a shell keyword")
  else if s.process.functions.any (·.1 = name) ∧ !BuiltIn.isSpecial name then
    some (sentence "a shell function")
  else if BuiltIn.isBuiltIn name then
    some (sentence (if BuiltIn.isSpecial name then "a special shell builtin" else "a shell builtin"))
  else
    match if '/' ∈ name ∧ !Field.exists? s.files name then none else (locate s name).toOption with
    | some path =>
      let path := String.ofList (Text.ofBytes path.bytes)
      some (if verbose then s!"{shown} is {path}" else path)
    | none => none

/-- Shows what is known of the name of a command. -/
def describe (verbose : Bool) (name : Text) : Action Nat := do
  match description (← get) verbose name with
  | some line => BuiltIn.putLine line
  | none =>
    if verbose then let _ ← BuiltIn.putLine s!"{String.ofList name}: not found"
    return 127

def type : BuiltIn := fun names => do
  let mut status := 0
  for name in names do
    let n ← describe true name
    if n ≠ 0 then status := n
  return status

end DefectGate.Workspace.Shell
