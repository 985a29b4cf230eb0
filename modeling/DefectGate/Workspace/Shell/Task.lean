import DefectGate.Workspace.Shell.Parameters

/-!
# Tasks of a shell

What a shell is asked to do by its own command line.
-/
namespace DefectGate.Workspace.Shell

/-- Where a shell takes its script from. -/
inductive Source where
  | script (text : Text)
  | file (path : Text)
  | input
  deriving DecidableEq, Repr

structure Task where
  source : Source
  name : Text
  arguments : List Text
  options : Text
  deriving DecidableEq, Repr

namespace Task

/-- What the words after the options ask for. -/
def ofOperands (own : Text) (isScript : Bool) (options : Text) (words : List Text) :
    Except String Task :=
  match isScript, words with
  | true, script :: name :: arguments => .ok ⟨.script script, name, arguments, options⟩
  | true, [script] => .ok ⟨.script script, own, [], options⟩
  | true, [] => .error "-c requires an argument"
  | false, path :: arguments =>
    if 's' ∈ options then .ok ⟨.input, own, path :: arguments, options⟩
    else .ok ⟨.file path, path, arguments, options⟩
  | false, [] => .ok ⟨.input, own, [], switchOption true 's' options⟩

/-- Takes the letters of one word; the name of an option that is given by name is the next word. -/
def letters (on : Bool) (isScript : Bool) (options : Text) :
    Text → List Text → Except String (Bool × Text × List Text)
  | [], words => .ok (isScript, options, words)
  | 'c' :: cs, words => letters on true options cs words
  | 'l' :: cs, words => letters on isScript options cs words
  | 'o' :: cs, name :: words =>
    match optionNames.find? fun o => o.2.toList = name with
    | some (letter, _) => letters on isScript (switchOption on letter options) cs words
    | none => .error s!"Illegal option -o {String.ofList name}"
  | 'o' :: cs, [] => letters on isScript options cs []
  | c :: cs, words =>
    if isOptionLetter c then letters on isScript (switchOption on c options) cs words
    else .error s!"Illegal option -{c}"

/-- What the words after the shell's own name ask for. -/
def ofWords (own : Text) (isScript : Bool) (options : Text) : (fuel : Nat) → List Text →
    Except String Task
  | 0, words => ofOperands own isScript options words
  | fuel + 1, words =>
    match words with
    | ['-'] :: rest => ofOperands own isScript options rest
    | ['-', '-'] :: rest => ofOperands own isScript options rest
    | ('-' :: cs) :: rest => do
      let (isScript, options, rest) ← letters true isScript options cs rest
      ofWords own isScript options fuel rest
    | ('+' :: cs) :: rest => do
      let (isScript, options, rest) ← letters false isScript options cs rest
      ofWords own isScript options fuel rest
    | words => ofOperands own isScript options words

end Task
end DefectGate.Workspace.Shell
