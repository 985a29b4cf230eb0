import DefectGate.Workspace.Files.Walk

/-!
# Operations on files

Reading, making, writing and removing what paths lead to. An operation that fails changes nothing.
-/
namespace DefectGate.Workspace.Files

open Host (Path)

/-- The whole content of what a path leads to. -/
def read (f : Files) (path : Path) : Except Host.Error Bytes := do
  match (← f.find path).2 with
  | .directory => throw isADirectory
  | .file content _ => return content.bytes
  | _ => return []

/-- The bytes of the file at a location; what is not a file has none. -/
def contentAt (f : Files) (l : Location) : Bytes :=
  match f.node? l with
  | some (.file content _) => content.bytes
  | _ => []

/-- Whether a path leads to a directory. -/
def isDirectoryPath (f : Files) (path : Path) : Bool :=
  match f.find path with
  | .ok (_, n) => n.isDirectory
  | .error _ => false

/-- A location at which nothing stands yet. -/
def freeSpot (f : Files) (path : Path) : Except Host.Error Location := do
  let l ← f.locate false path
  match f.node? l with
  | none => return l
  | some _ => throw alreadyThere

def makeDirectory (f : Files) (path : Path) : Except Host.Error Files := do
  return f.set (← f.freeSpot path) .directory

def makeLink (f : Files) (target : Bytes) (path : Path) : Except Host.Error Files := do
  let target ← checked ⟨target⟩
  let l ← f.freeSpot path
  if meansDirectory path then throw noEntry
  return f.set l (.link target.bytes)

/-- Removes what a path itself names, unless it is a directory. -/
def unlink (f : Files) (path : Path) : Except Host.Error Files := do
  let l ← f.locate false path
  match f.node? l with
  | none => throw noEntry
  | some .directory => throw isADirectory
  | some _ => if meansDirectory path then throw notDirectory else return f.erase l

/-- An empty file at the end of a path: a new one, or the one that is there without its content. -/
def create (f : Files) (path : Path) : Except Host.Error (Location × Files) := do
  let l ← f.fileSpot path
  match f.node? l with
  | none => return (l, f.set l (.file .empty false))
  | some .directory => throw isADirectory
  | some (.file _ executable) => return (l, f.set l (.file .empty executable))
  | some _ => return (l, f)

/-- A file to be written at its end, made if there is none. -/
def openEnd (f : Files) (path : Path) : Except Host.Error (Location × Files) := do
  let l ← f.fileSpot path
  match f.node? l with
  | some (.file ..) => return (l, f)
  | _ => f.create path

/-- Writes at the end of the file at a location; what is not a file takes the bytes and forgets
them. -/
def append (f : Files) (l : Location) (bs : Bytes) : Files :=
  match f.node? l with
  | some (.file content executable) => f.set l (.file (content.append bs) executable)
  | _ => f

/-- Replaces the content of the file at a location. -/
def setContent (f : Files) (l : Location) (bs : Bytes) : Files :=
  match f.node? l with
  | some (.file _ executable) => f.set l (.file (.ofBytes bs) executable)
  | _ => f

def setExecutable (f : Files) (l : Location) (executable : Bool) : Files :=
  match f.node? l with
  | some (.file content _) => f.set l (.file content executable)
  | _ => f

/-- The names that lead from one location to another below it, innermost first. -/
def under? (top l : Location) : Option Location :=
  let extra := l.take (l.length - top.length)
  if l = extra ++ top then some extra else none

/-- Removes what stands at a location with everything below it. -/
def eraseTree (f : Files) (l : Location) : Files :=
  { f with entries := f.entries.filter fun e => (under? l e.1).isNone }

/-- Whether there is anything in a directory. -/
def holdsAny (f : Files) (l : Location) : Bool := f.entries.any fun e => e.1.tail = l && e.1 ≠ []

/-- Whether a path leads to nothing. -/
def isNothing (f : Files) (path : Path) : Bool :=
  match f.find path with
  | .ok _ => false
  | .error _ => true

/-- Whether a path leads to a location. -/
def leadsTo (f : Files) (path : Path) (l : Location) : Bool :=
  match f.find path with
  | .ok (m, _) => m = l
  | .error _ => false

/-- Moves what stands at a location, with everything below it, to another one in place of what is
there. -/
def moveAt (f : Files) (l m : Location) : Files :=
  let place (old : Location) : Location := ((under? l old).map (· ++ m)).getD old
  { f with entries := (f.erase m).entries.map fun e => (place e.1, e.2) }

/-- Everything below the working directory. -/
def contents (f : Files) : List (Location × Node) :=
  f.entries.filterMap fun (l, n) =>
    match under? f.here l with
    | some (name :: more) => some (name :: more, n)
    | _ => none

end DefectGate.Workspace.Files
