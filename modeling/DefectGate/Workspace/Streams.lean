import DefectGate.Workspace.Processes

/-!
# Opening streams

What a descriptor leads to after a file has been opened. Some paths of the system stand for the
descriptors of the process that opens them.
-/
namespace DefectGate.Workspace

open Host (Path)
open Shell (Text)

/-- How a file is opened for writing. -/
inductive Opening where
  | replacing
  | appending
  /-- Refuses to replace a file. -/
  | protecting
  deriving DecidableEq, Repr

def pathOf (t : Text) : Path := ⟨t.toBytes⟩

/-- The number that a text of digits is. -/
def number? (t : Text) : Option Nat :=
  if t ≠ [] ∧ t.all Shell.isDigit then (String.ofList t).toNat? else none

/-- The descriptor that a path stands for. -/
def descriptorOf? (path : Text) : Option Nat :=
  match String.ofList path with
  | "/dev/stdin" => some 0
  | "/dev/stdout" => some 1
  | "/dev/stderr" => some 2
  | _ =>
    ["/dev/fd/", "/proc/self/fd/"].findSome? fun start =>
      if start.toList.isPrefixOf path then number? (path.drop start.length) else none

namespace Session

/-- Opens a file for reading. -/
def streamToRead (s : Session) (path : Text) : Except Host.Error (Stream × Session) := do
  let ofContent (content : Bytes) : Stream × Session :=
    let (n, s) := s.openChannel content
    (.channel n, s)
  match descriptorOf? path with
  | some n =>
    match s.stream? n with
    | none => throw Files.noEntry
    | some (.file l) => return ofContent (s.files.contentAt l)
    | some stream => return (stream, s)
  | none =>
    let (l, node) ← s.files.find (pathOf path)
    if node.isDirectory then return (.sink, s) else return ofContent (s.files.contentAt l)

/-- Opens a file for writing. -/
def streamToWrite (s : Session) (how : Opening) (path : Text) :
    Except Host.Error (Stream × Session) := do
  match descriptorOf? path with
  | some n =>
    match s.stream? n with
    | none => throw Files.noEntry
    | some stream => return (stream, s)
  | none =>
    let isThere : Bool :=
      match s.files.find (pathOf path) with
      | .ok (_, node) => node.isRegular
      | .error _ => false
    if how = .protecting ∧ isThere then throw Files.alreadyThere
    let (l, f) ←
      if how = .appending then s.files.openEnd (pathOf path) else s.files.create (pathOf path)
    return (.file l, s.setFiles f)

end Session
end DefectGate.Workspace
