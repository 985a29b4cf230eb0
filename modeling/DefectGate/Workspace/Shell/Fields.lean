import DefectGate.Workspace.Shell.Parameters
import DefectGate.Workspace.Shell.Pattern

/-!
# Fields

What becomes of an expanded word: a row of atoms is split into fields, and a field that is a pattern
stands for the files whose paths are like it.
-/
namespace DefectGate.Workspace.Shell

inductive Atom where
  /-- A character that stays in its field, and whether it may mean more in a pattern. -/
  | kept (c : Char) (active : Bool)
  /-- A character that may separate fields. -/
  | loose (c : Char)
  /-- What separates two values: the end of a quoted one, otherwise a blank. -/
  | boundary (quoted : Bool)
  /-- There is a field here, even if it is empty. -/
  | present
  deriving DecidableEq, Repr

abbrev Field := List Mark

def Field.text (f : Field) : Text := f.map (·.1)

namespace Atom

/-- A value in a word. -/
def ofValue (quoted : Bool) (t : Text) : List Atom :=
  if quoted then .present :: t.map (.kept · false) else t.map .loose

/-- Several values, each a field of its own. -/
def ofValues (quoted : Bool) (ts : List Text) : List Atom :=
  ((ts.map (ofValue quoted)).intersperse [.boundary quoted]).flatten

/-- Splits atoms into fields. The field that has begun is given newest first, and `afterBlank` tells
that a blank has just ended one, so that another separator still belongs to the same gap. -/
def split (separators : Text) : (begun : Option Field) → (afterBlank : Bool) → List Atom →
    List Field
  | begun, _, [] => (begun.map List.reverse).toList
  | begun, _, .kept c active :: rest =>
    split separators (some ((c, active) :: begun.getD [])) false rest
  | begun, _, .present :: rest => split separators (some (begun.getD [])) false rest
  | begun, _, .boundary true :: rest =>
    (begun.map List.reverse).toList ++ split separators none false rest
  | some f, _, .boundary false :: rest => f.reverse :: split separators none true rest
  | none, afterBlank, .boundary false :: rest => split separators none afterBlank rest
  | begun, afterBlank, .loose c :: rest =>
    if c ∉ separators then split separators (some ((c, true) :: begun.getD [])) false rest
    else
      let isBlank : Bool := c ∈ usualSeparators
      match begun with
      | some f => f.reverse :: split separators none isBlank rest
      | none =>
        if isBlank ∨ afterBlank then split separators none (isBlank && afterBlank) rest
        else [] :: split separators none false rest

def fields (separators : Text) (atoms : List Atom) : List Field := split separators none false atoms

/-- The atoms as one text. -/
def text (atoms : List Atom) : Text :=
  atoms.filterMap fun
    | .kept c _ | .loose c => some c
    | .boundary _ => some ' '
    | .present => none

def pattern (atoms : List Atom) : List Mark :=
  atoms.filterMap fun
    | .kept c active => some (c, active)
    | .loose c => some (c, true)
    | .boundary _ => some (' ', false)
    | .present => none

end Atom

/-! ## Paths -/

namespace Field

/-- The parts of a field between slashes, the slashes that follow each part with it. -/
def parts : Field → List (Field × Text)
  | [] => []
  | (c, active) :: rest =>
    match parts rest with
    | [] => if c = '/' then [([], ['/'])] else [([(c, active)], [])]
    | (part, slashes) :: more =>
      if c = '/' then
        if part = [] then ([], '/' :: slashes) :: more else ([], ['/']) :: (part, slashes) :: more
      else ((c, active) :: part, slashes) :: more

/-- The names in a directory, with those that stand for itself and its parent. -/
def namesIn (f : Files) (directory : Text) : List Text :=
  match f.find (pathOf (if directory = [] then ['.'] else directory)) with
  | .ok (l, .directory) =>
    ['.'] :: ['.', '.'] :: f.entries.filterMap fun (m, _) =>
      match m with
      | name :: parent => if parent = l then some (Text.ofBytes name) else none
      | [] => none
  | _ => []

/-- A name that starts with a point is only meant by a pattern that starts with one. -/
def means (p : Field) (name : Text) : Bool :=
  name.isLike p && (name.head? ≠ some '.' || (p.head?.map (·.1)) = some '.')

def exists? (f : Files) (path : Text) : Bool :=
  match f.locate false (pathOf path) with
  | .ok l => (f.node? l).isSome
  | .error _ => false

/-- The paths that go on after a directory like the parts of a pattern. -/
def pathsFrom (f : Files) : (directory : Text) → List (Field × Text) → List Text
  | directory, [] => [directory]
  | directory, (p, slashes) :: rest =>
    if !Pattern.isActive p then
      let path := directory ++ Field.text p ++ slashes
      if (rest = [] ∧ p ≠ [] ∧ !exists? f path) then [] else pathsFrom f path rest
    else
      let names := (namesIn f directory).filter (means p)
      names.flatMap fun name =>
        let path := directory ++ name ++ slashes
        if slashes ≠ [] ∧ !f.isDirectoryPath (pathOf path) then [] else pathsFrom f path rest
  termination_by _ ps => ps.length

/-- The texts that a field stands for: the paths that are like it in alphabetical order, or itself
if there are none. -/
def paths (f : Files) (p : Field) : List Text :=
  if !Pattern.isActive p then [Field.text p]
  else
    match alphabetical (pathsFrom f [] (parts p)) with
    | [] => [Field.text p]
    | found => found

end Field
end DefectGate.Workspace.Shell
