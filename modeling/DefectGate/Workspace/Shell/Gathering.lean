import DefectGate.Workspace.Shell.BuiltIn
import DefectGate.Workspace.Shell.Expansion

/-!
# Programs that run others

How the programs of the system that start other programs read their words: what they change before
that, and which words of their input become arguments.
-/
namespace DefectGate.Workspace.Shell

/-- Programs of the system that run others. -/
def runners : List String :=
  ["sh", "dash", "bash", "env", "nohup", "setsid", "nice", "timeout", "xargs"]

/-- The words of `nice` after its option. -/
def withoutNumber : List Text → List Text
  | ['-', 'n'] :: _ :: rest => rest
  | ('-' :: _) :: rest => rest
  | words => words

/-- The words of `timeout` after its options. -/
def dropLimitOptions : List Text → List Text
  | ['-', 's'] :: _ :: rest | ['-', 'k'] :: _ :: rest => dropLimitOptions rest
  | ('-' :: _) :: rest => dropLimitOptions rest
  | words => words

/-- Takes the options of `env` and the variables that it sets. -/
def environment : List Text → Session → List Text × Session
  | ['-', 'i'] :: rest, s | ['-'] :: rest, s =>
    environment rest { s with process.exported := [] }
  | ['-', 'u'] :: name :: rest, s => environment rest (s.unassign name)
  | word :: rest, s =>
    let (name, value) := BuiltIn.nameAndValue word
    match value with
    | some value => environment rest ((s.assign name value).reveal [name])
    | none => (word :: rest, s)
  | [], s => ([], s)

/-- How words of the input are gathered into arguments. -/
structure Gathering where
  /-- How many at once; there is no bound without it. -/
  most : Option Nat
  /-- The text that stands for one line of the input. -/
  mark : Option Text
  /-- What ends an item, if it is not any blank. -/
  separator : Option Char
  /-- Whether nothing is run without items. -/
  mayBeEmpty : Bool
  command : List Text

namespace Gathering

def ofWords : List Text → Gathering
  | ['-', 'n'] :: n :: rest => { ofWords rest with most := number? n }
  | ('-' :: 'n' :: n) :: rest => { ofWords rest with most := number? n }
  | ['-', 'I'] :: mark :: rest => { ofWords rest with mark := some mark, most := some 1 }
  | ('-' :: 'I' :: mark) :: rest => { ofWords rest with mark := some mark, most := some 1 }
  | ['-', '0'] :: rest => { ofWords rest with separator := some '\x00' }
  | ['-', 'd', c] :: rest => { ofWords rest with separator := some c }
  | ['-', 'r'] :: rest => { ofWords rest with mayBeEmpty := true }
  | command => ⟨none, none, none, false, command⟩

/-- The items of an input; quotes keep blanks together. -/
def items (g : Gathering) (input : Text) : List Text :=
  match g.separator, g.mark with
  | some c, _ =>
    let parts := sections c input
    if parts.getLast? = some [] then parts.dropLast else parts
  | none, some _ =>
    ((sections '\n' input).map (·.dropWhile isBlank)).filter (· ≠ [])
  | none, none => Atom.fields usualSeparators (quoted none input) |>.map Field.text
where
  quoted : Option Char → Text → List Atom
    | _, [] => []
    | none, c :: rest =>
      if c = '\'' ∨ c = '"' then .present :: quoted (some c) rest
      else
        match c, rest with
        | '\\', d :: rest => .kept d false :: quoted none rest
        | c, rest => .loose c :: quoted none rest
    | some q, c :: rest =>
      if c = q then quoted none rest else .kept c false :: quoted (some q) rest

/-- The items of each run. -/
def runs (g : Gathering) (input : Text) : List (List Text) :=
  let items := g.items input
  match g.most with
  | none => if items = [] ∧ g.mayBeEmpty then [] else [items]
  | some n =>
    if items = [] then (if g.mayBeEmpty ∨ g.mark.isSome then [] else [[]])
    else
      (List.range ((items.length + n - 1) / n)).map fun k => (items.drop (k * n)).take n

/-- A word with an item in all places of a mark. -/
def placed (mark item : Text) : (fuel : Nat) → Text → Text
  | 0, t => t
  | _, [] => []
  | fuel + 1, c :: rest =>
    if mark ≠ [] ∧ mark.isPrefixOf (c :: rest) then
      item ++ placed mark item fuel ((c :: rest).drop mark.length)
    else c :: placed mark item fuel rest

/-- A command with items. -/
def fill (g : Gathering) (command items : List Text) : List Text :=
  match g.mark with
  | none => command ++ items
  | some mark => command.map fun w => placed mark items.flatten (w.length + 1) w

end Gathering

end DefectGate.Workspace.Shell
