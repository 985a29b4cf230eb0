import DefectGate.Gate
import DefectGate.Workspace.Basic

/-!
# Arranging and inspecting workspaces

What is put into a workspace before a run and what is read off it afterwards.
-/
namespace DefectGate.Workspace

open Host (Path)

/-- Writes a whole file and says whether it may be executed. -/
def put (w : Workspace) (path : Path) (content : Bytes) (executable : Bool) :
    Except Host.Error Unit × Workspace :=
  w.settle do
    let (l, f) ← w.files.create path
    return (f.append l content).setExecutable l executable

def link (w : Workspace) (target : Bytes) (path : Path) : Except Host.Error Unit × Workspace :=
  w.settle (w.files.makeLink target path)

def remove (w : Workspace) (path : Path) : Except Host.Error Unit × Workspace :=
  w.settle (w.files.unlink path)

/-- The path of something below the working directory as text; a directory ends in a slash. -/
def entryText (l : Location) (n : Node) : String :=
  let path := (l.reverse.intersperse [Path.slash]).flatten
  Text.Utf8.toStringLossy path ++ match n with | .directory => "/" | _ => ""

/-- Everything below the working directory, in alphabetical order. -/
def listing (w : Workspace) : List String :=
  (w.files.contents.map fun (l, n) => entryText l n).mergeSort fun a b => a ≤ b

/-- The same workspace with a new screen. -/
def withScreen (w : Workspace) (screen : Screen) : Workspace := { w with screen }

/-- What a command has shown and said, and its exit status. -/
structure Finished where
  status : Int32
  shown : Bytes
  said : Bytes
  deriving DecidableEq, Repr

/-- Runs the gate with the words of a command line. -/
def runGate (w : Workspace) (words : List String) : Finished × Workspace :=
  let start := { w with screen := .unlimited, diagnostics := .empty }
  let (status, w) := start.perform (Gate.run words)
  (⟨status, w.screen.shown.bytes, w.diagnostics.bytes⟩, w)

end DefectGate.Workspace
