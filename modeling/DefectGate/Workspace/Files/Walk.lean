import DefectGate.Host.Error
import DefectGate.Host.Path
import DefectGate.Workspace.Files.Tree

/-!
# Walking paths

A path is walked name by name from the root or the working directory, and symbolic links are
replaced by what they say as they are met, so that every operation on a path is an operation on the
location to which the path leads.
-/
namespace DefectGate.Workspace.Files

open Host (Path)

def noEntry : Host.Error := .number Host.ErrorNumber.noEntry
def notDirectory : Host.Error := .number Host.ErrorNumber.notDirectory
def isADirectory : Host.Error := .number Host.ErrorNumber.isDirectory
def alreadyThere : Host.Error := .number Host.ErrorNumber.alreadyThere
def notEmpty : Host.Error := .number Host.ErrorNumber.notEmpty
def accessDenied : Host.Error := .number Host.ErrorNumber.accessDenied
def nameTooLong : Host.Error := .number Host.ErrorNumber.nameTooLong
def tooManyLinks : Host.Error := .number Host.ErrorNumber.tooManyLinks

/-- The names of a path, in order. -/
def names (path : Bytes) : List Bytes := (Path.parts ⟨path⟩).filter (· ≠ [])

/-- Where a path starts that is met in the directory `here`. -/
def startOf (here : Location) (path : Bytes) : Location :=
  if Path.isAbsolute ⟨path⟩ then [] else here

/-- How many bytes a name may have. -/
def longestName : Nat := 255

/-- How many bytes a path may have. -/
def longestPath : Nat := 4095

/-- How many symbolic links may be met on one walk. -/
def mostLinks : Nat := 40

/-- A path that ends in a slash means a directory. -/
def meansDirectory (path : Path) : Bool := path.bytes.getLast? = some Path.slash

/-- The names that a link stands for. -/
def linkNames (target : Bytes) : List Bytes :=
  if meansDirectory ⟨target⟩ then names target ++ [[Path.dot]] else names target

/-- Walks names from a location. The last name need not be bound; if it is bound to a link, the link
is followed only on request. -/
def walk (f : Files) (follow : Bool) :
    (links : Nat) → Location → List Bytes → Except Host.Error Location
  | _, here, [] => .ok here
  | links, here, name :: rest =>
    if !f.isDirectory here then .error notDirectory
    else if name = [Path.dot] then f.walk follow links here rest
    else if name = [Path.dot, Path.dot] then f.walk follow links here.tail rest
    else if longestName < name.length then .error nameTooLong
    else
      match f.node? (name :: here) with
      | none => if rest = [] then .ok (name :: here) else .error noEntry
      | some (.link target) =>
        if rest = [] ∧ !follow then .ok (name :: here)
        else if links = 0 then .error tooManyLinks
        else f.walk follow (links - 1) (startOf here target) (linkNames target ++ rest)
      | some _ => f.walk follow links (name :: here) rest
  termination_by links _ ns => (links, ns.length)

/-- Walks names to where a file is opened for writing, which need not exist. Links are followed, and
a last name that means a directory is refused before it is looked up. -/
def walkToFile (f : Files) : (links : Nat) → Location → List Bytes → (slash : Bool) →
    Except Host.Error Location
  | _, _, [], _ => .error isADirectory
  | links, here, name :: rest, slash =>
    if !f.isDirectory here then .error notDirectory
    else if rest = [] ∧ (slash ∨ name = [Path.dot] ∨ name = [Path.dot, Path.dot]) then
      .error isADirectory
    else if name = [Path.dot] then f.walkToFile links here rest slash
    else if name = [Path.dot, Path.dot] then f.walkToFile links here.tail rest slash
    else if longestName < name.length then .error nameTooLong
    else
      match f.node? (name :: here) with
      | none => if rest = [] then .ok (name :: here) else .error noEntry
      | some (.link target) =>
        if links = 0 then .error tooManyLinks
        else
          f.walkToFile (links - 1) (startOf here target) (names target ++ rest)
            (if rest = [] then meansDirectory ⟨target⟩ else slash)
      | some _ =>
        if rest = [] then .ok (name :: here) else f.walkToFile links (name :: here) rest slash
  termination_by links _ ns => (links, ns.length)

/-- Refuses what is no path at all. -/
def checked (path : Path) : Except Host.Error Path :=
  if 0 ∈ path.bytes then .error .zeroByteInPath
  else if path.bytes = [] then .error noEntry
  else if longestPath < path.bytes.length then .error nameTooLong
  else .ok path

/-- The location to which a path leads. -/
def locate (f : Files) (follow : Bool) (path : Path) : Except Host.Error Location := do
  let path ← checked path
  f.walk follow mostLinks (startOf f.here path.bytes) (names path.bytes)

/-- The location of a file to be written. -/
def fileSpot (f : Files) (path : Path) : Except Host.Error Location := do
  let path ← checked path
  f.walkToFile mostLinks (startOf f.here path.bytes) (names path.bytes) (meansDirectory path)

/-- The location of something that exists, links followed. -/
def find (f : Files) (path : Path) : Except Host.Error (Location × Node) := do
  let l ← f.locate true path
  match f.node? l with
  | none => throw noEntry
  | some .directory => return (l, .directory)
  | some n => if meansDirectory path then throw notDirectory else return (l, n)

end DefectGate.Workspace.Files
