import DefectGate.Workspace.Files

/-!
# Programs

How a name becomes something that runs. A name with a slash is a path; any other is looked for in
the directories of the search path, of which the first is relative to the working directory. A file
that starts with an interpreter line is run by that interpreter.
-/
namespace DefectGate.Workspace

open Host (Path)

/-- A program of the system with what it is given, its own name first. -/
structure Image where
  tool : Bytes
  command : List Bytes
  deriving DecidableEq, Repr

namespace Image

def execFormat : Host.Error := .number Host.ErrorNumber.execFormat

def isSpace (b : UInt8) : Bool := b = 32 ∨ b = 9

def trim (bs : Bytes) : Bytes := ((bs.dropWhile isSpace).reverse.dropWhile isSpace).reverse

/-- The interpreter of a file and what it is given first, if the file names one. -/
def interpreter? (content : Bytes) : Option (Bytes × List Bytes) :=
  match content with
  | 35 :: 33 :: rest =>
    let line := trim (rest.takeWhile (· ≠ 10))
    let name := line.takeWhile fun b => !isSpace b
    let argument := trim (line.drop name.length)
    if name = [] then none else some (name, if argument = [] then [] else [argument])
  | _ => none

/-- How many files may run one another. -/
def mostInterpreters : Nat := 5

/-- What runs if the file at a path is started with a command. -/
def ofPath (f : Files) : (interpreters : Nat) → Path → List Bytes → Except Host.Error Image
  | 0, _, _ => .error Files.tooManyLinks
  | fewer + 1, path, command => do
    match (← f.find path).2 with
    | .tool name => return ⟨name, command⟩
    | .file content true =>
      match interpreter? content.bytes with
      | none => throw execFormat
      | some (name, arguments) =>
        ofPath f fewer ⟨name⟩ (name :: arguments ++ path.bytes :: command.drop 1)
    | _ => throw Files.accessDenied

/-- The directories in which programs are looked for. -/
def searchPath : List Path := ["bin", "/usr/bin", "/bin"].map Path.ofString

/-- The path of a name in a directory; no directory at all is the working directory. -/
def inDirectory (directory name : Path) : Path :=
  if directory.bytes = [] then name else ⟨directory.bytes ++ Path.slash :: name.bytes⟩

/-- Tries one directory after the other. A place that can not be used does not end the search, and a
refusal is what is answered if nothing else is found. -/
def search (f : Files) (name : Bytes) (command : List Bytes) (refused : Bool) :
    List Path → Except Host.Error Image
  | [] => .error (if refused then Files.accessDenied else Files.noEntry)
  | directory :: rest =>
    match ofPath f mostInterpreters (directory.join ⟨name⟩) command with
    | .ok image => .ok image
    | .error e =>
      if e = Files.accessDenied then search f name command true rest
      else if e = Files.noEntry ∨ e = Files.notDirectory then search f name command refused rest
      else .error e

/-- The first file of a name in several directories that can be started. -/
def locate (f : Files) (name : Path) (refused : Bool) : List Path → Except Host.Error Path
  | [] => .error (if refused then Files.accessDenied else Files.noEntry)
  | directory :: rest =>
    match f.find (inDirectory directory name) with
    | .error _ => locate f name refused rest
    | .ok (_, n) =>
      if n.isRegular ∧ n.isExecutable then .ok (inDirectory directory name)
      else locate f name true rest

/-- What runs if a command is started; its first word is the name of the program. -/
def ofCommand (f : Files) (command : List Bytes) : Except Host.Error Image :=
  match command with
  | [] => .error Files.noEntry
  | name :: _ =>
    if command.any (0 ∈ ·) then .error .zeroByteInArgument
    else if name = [] then .error Files.noEntry
    else if Path.slash ∈ name then ofPath f mostInterpreters ⟨name⟩ command
    else search f name command false searchPath

end Image
end DefectGate.Workspace
