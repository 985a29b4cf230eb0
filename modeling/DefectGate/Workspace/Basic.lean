import DefectGate.Program
import DefectGate.Workspace.Launch

/-!
# Workspaces

A host without a machine: files, a console and virtual processes in one value. It answers every call
of a program, so that whole runs can be evaluated and compared.
-/
namespace DefectGate

open Host (Path)

namespace Workspace

/-- A console with what it has accepted. -/
structure Screen where
  shown : Content
  /-- How many more bytes it accepts before it fails for good; without a number it never fails. -/
  room : Option Nat
  deriving Repr

namespace Screen

def unlimited : Screen := ⟨.empty, none⟩

def limited (room : Nat) : Screen := ⟨.empty, some room⟩

/-- Offers bytes; a limited screen accepts those for which there is room. -/
def offer (s : Screen) (bs : Bytes) : Except Host.Error Nat × Screen :=
  match s.room with
  | none => (.ok bs.length, { s with shown := s.shown.append bs })
  | some room =>
    if room = 0 ∧ bs ≠ [] then (.error (.condition .brokenPipe), s)
    else
      let taken := bs.take room
      (.ok taken.length, ⟨s.shown.append taken, some (room - taken.length)⟩)

end Screen
end Workspace

open Workspace

/-- Everything that the calls of a program can change. -/
structure Workspace where
  files : Files
  /-- The locations of the files that have been opened for writing, in order. -/
  opened : List Location
  screen : Screen
  diagnostics : Content
  deriving Repr

namespace Workspace

/-- The programs of the system. -/
def systemTools : List String := Shell.runners ++ Tool.all.map (·.name)

def name (s : String) : Bytes := Text.Utf8.encode s

/-- A workspace with the system's files around an empty working directory. -/
def empty : Workspace where
  files :=
    { here := [name "workspace", name "tmp"]
      entries :=
        [([name "root"], .directory), ([name "usr"], .directory), ([name "bin", name "usr"], .directory),
          ([name "bin"], .link (name "usr/bin")), ([name "dev"], .directory),
          ([name "null", name "dev"], .sink), ([name "tmp"], .directory),
          ([name "workspace", name "tmp"], .directory)] ++
        systemTools.map fun t => ([name t, name "bin", name "usr"], .tool (name t)) }
  opened := []
  screen := .unlimited
  diagnostics := .empty

def kindOf : Node → Host.FileKind
  | .directory => .directory
  | .file .. | .tool _ => .regular
  | .link _ | .sink => .other

/-- Replaces the files if an operation on them succeeded. -/
def settle (w : Workspace) : Except Host.Error Files → Except Host.Error Unit × Workspace
  | .ok files => (.ok (), { w with files })
  | .error e => (.error e, w)

def answer : (c : Call) → Workspace → c.Answer × Workspace
  | .probe program, w => w.settle (w.files.probe program)
  | .stat path, w => ((w.files.find path).map fun found => kindOf found.2, w)
  | .readFile path, w => (w.files.read path, w)
  | .launch command limit, w =>
    match w.files.launch command limit with
    | .ok (events, files) => (.ok events, { w with files })
    | .error e => (.error e, w)
  | .makeDirectory path, w => w.settle (w.files.makeDirectory path)
  | .unlink path, w => w.settle (w.files.unlink path)
  | .create path, w =>
    match w.files.create path with
    | .ok (l, files) => (.ok ⟨w.opened.length⟩, { w with files, opened := w.opened ++ [l] })
    | .error e => (.error e, w)
  | .write file bytes, w =>
    match w.opened[file.id]? with
    | some l => (.ok (), { w with files := w.files.append l bytes })
    | none => (.error (.number Host.ErrorNumber.badDescriptor), w)
  | .flush _, w => (.ok (), w)
  | .print bytes, w =>
    let (accepted, screen) := w.screen.offer bytes
    (accepted, { w with screen })
  | .flushConsole, w => (.ok (), w)
  | .complain text, w =>
    (.ok (), { w with diagnostics := w.diagnostics.append (Text.Utf8.encode text) })

def host : Host Workspace := ⟨answer⟩

/-- Runs a program in a workspace. -/
def perform (w : Workspace) (p : Program α) : α × Workspace := p.run host w

end Workspace
end DefectGate
