import DefectGate.Text.Utf8

/-!
# Paths

A path is a list of bytes. Its components are what lies between slashes; empty parts and single dots
mean nothing, except for a dot at the very start of a relative path.
-/
namespace DefectGate.Host

structure Path where
  bytes : Bytes
  deriving DecidableEq, Repr

/-- One step of a path. -/
inductive Component where
  | root
  | current
  | parent
  | normal (name : Bytes)
  deriving DecidableEq, Repr

namespace Path

def slash : UInt8 := 47
def dot : UInt8 := 46

def ofString (s : String) : Path := ⟨Text.Utf8.encode s⟩

/-- The path as text, with what is not text replaced. -/
def display (p : Path) : String := Text.Utf8.toStringLossy p.bytes

def isAbsolute (p : Path) : Bool := p.bytes.head? == some slash

/-- The parts between slashes, empty ones included. -/
def parts (p : Path) : List Bytes := p.bytes.splitOn slash

/-- The step that a part after the first means, if any. -/
def stepOf (part : Bytes) : Option Component :=
  if part = [] ∨ part = [dot] then none
  else if part = [dot, dot] then some .parent
  else some (.normal part)

def components (p : Path) : List Component :=
  let steps := p.parts.filterMap stepOf
  if p.isAbsolute then .root :: steps
  else if p.parts.head? = some [dot] then .current :: steps
  else steps

/-- The name of what the path leads to; a path that ends in a parent step, a root or nothing has
none. -/
def fileName? (p : Path) : Option Bytes :=
  match p.components.getLast? with
  | some (.normal name) => some name
  | _ => none

/-- Takes what adds no step off the end of a path held last byte first: slashes, and dots that
follow a slash. -/
def dropIdleEnd : Bytes → Bytes
  | [] => []
  | b :: rest =>
    if b = slash then dropIdleEnd rest
    else if b = dot ∧ rest.head? = some slash then dropIdleEnd rest
    else b :: rest

/-- The path without its last step. The root and the empty path have no parent. -/
def parent? (p : Path) : Option Path :=
  match p.components.getLast? with
  | none | some .root => none
  | some _ =>
    let shorter := (dropIdleEnd p.bytes.reverse).dropWhile (· ≠ slash)
    let kept := dropIdleEnd shorter
    some ⟨if kept = [] ∧ p.isAbsolute then [slash] else kept.reverse⟩

/-- `q` seen from `p`: an absolute path stands for itself, any other is appended after a slash. -/
def join (p q : Path) : Path :=
  if q.isAbsolute then q
  else if p.bytes = [] ∨ p.bytes.getLast? = some slash then ⟨p.bytes ++ q.bytes⟩
  else ⟨p.bytes ++ slash :: q.bytes⟩

def isEmpty (p : Path) : Bool := p.bytes.isEmpty

end Path
end DefectGate.Host
