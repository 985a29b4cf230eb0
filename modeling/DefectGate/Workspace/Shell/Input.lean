import DefectGate.Workspace.Shell.Parameters

/-!
# Input of scripts

How a script reads a line and shares it out to variables.
-/
namespace DefectGate.Workspace.Shell.Input

/-- A character that was read, and whether it may separate words. -/
abbrev Letter := Char × Bool

/-- A line of input. -/
structure Line where
  letters : List Letter
  isComplete : Bool
  /-- What follows the line. -/
  rest : Text
  deriving DecidableEq, Repr

def Line.prepend (a : Letter) (l : Line) : Line := { l with letters := a :: l.letters }

/-- The first line of an input. Unless it is read as it is, a backslash takes the meaning of the
character after it, and joins lines. -/
def line (asIs : Bool) : Text → Line
  | [] => ⟨[], false, []⟩
  | '\n' :: rest => ⟨[], true, rest⟩
  | '\x00' :: rest => line asIs rest
  | '\\' :: c :: rest =>
    if asIs then (line asIs (c :: rest)).prepend ('\\', true)
    else if c = '\n' then line asIs rest
    else (line asIs rest).prepend (c, false)
  | c :: rest => if c = '\\' ∧ !asIs then ⟨[], false, []⟩ else (line asIs rest).prepend (c, true)

section

variable (separators : Text)

def isSeparator (a : Letter) : Bool := a.2 && a.1 ∈ separators

/-- Whether a separator may be repeated without a word in between. -/
def isGap (a : Letter) : Bool := isSeparator separators a && a.1 ∈ usualSeparators

/-- All that is left of a line. The separator after a single word does not belong to it, and gaps at
the end do not belong to what is left. -/
def lastField (letters : List Letter) : Text :=
  let letters := letters.dropWhile (isGap separators)
  let field := letters.takeWhile fun a => !isSeparator separators a
  let after := letters.drop field.length
  let isAlone := after.all (isSeparator separators) ∧
    (after.filter fun a => !isGap separators a).length ≤ 1
  if isAlone then field.map (·.1)
  else ((letters.reverse.dropWhile (isGap separators)).reverse).map (·.1)

/-- The values of names: a word for each, and all that is left for the last. -/
def share : List Text → List Letter → List (Text × Text)
  | [], _ => []
  | [name], letters => [(name, lastField separators letters)]
  | name :: names, letters =>
    let letters := letters.dropWhile (isGap separators)
    let field := letters.takeWhile fun a => !isSeparator separators a
    let after := (letters.drop field.length).dropWhile (isGap separators)
    let after := if after.head?.any (isSeparator separators) then after.tail else after
    (name, field.map (·.1)) :: share names after

end

end DefectGate.Workspace.Shell.Input
