import DefectGate.Workspace.Shell.Action
import DefectGate.Workspace.Streams

/-!
# Parameters of a shell

Options, and what names, numbers and signs after a dollar sign stand for.
-/
namespace DefectGate.Workspace.Shell

/-- The options by letter and name. Two have no letter that could be written. -/
def optionNames : List (Char × String) :=
  [('e', "errexit"), ('f', "noglob"), ('I', "ignoreeof"), ('i', "interactive"), ('m', "monitor"),
    ('n', "noexec"), ('s', "stdin"), ('x', "xtrace"), ('v', "verbose"), ('V', "vi"),
    ('E', "emacs"), ('C', "noclobber"), ('a', "allexport"), ('b', "notify"), ('u', "nounset"),
    ('p', "privileged"), ('\x01', "nolog"), ('\x02', "debug")]

def isOptionLetter (c : Char) : Bool := isNameStart c && optionNames.any (·.1 = c)

/-- Switches an option on or off. -/
def switchOption (on : Bool) (letter : Char) (options : Text) : Text :=
  let others := options.filter (· ≠ letter)
  if on then letter :: others else others

/-- The letters of the options that are on, in their fixed order. -/
def optionLetters (options : Text) : Text :=
  (optionNames.reverse.map (·.1)).filter fun c => isNameStart c && c ∈ options

def text (n : Nat) : Text := (toString n).toList

/-- The characters that separate fields if nothing else is said. -/
def usualSeparators : Text := [' ', '\t', '\n']

/-- What stands between the values of a list that becomes one text. -/
def joiner (s : Session) : Text :=
  match s.lookup? "IFS".toList with
  | some separators => separators.take 1
  | none => [' ']

/-- The characters that separate fields. -/
def separators (s : Session) : Text := (s.lookup? "IFS".toList).getD usualSeparators

def isArguments (name : Text) : Bool := name = ['@'] || name = ['*']

/-- The value of a parameter that is not the list of all arguments, if it has one. -/
def parameter? (s : Session) (name : Text) : Option Text :=
  let p := s.process
  match name with
  | ['#'] => some (text p.arguments.length)
  | ['?'] => some (text p.status)
  | ['$'] => some (text p.shell)
  | ['!'] => p.child.map text
  | ['-'] => some (optionLetters p.options)
  | ['0'] => some p.name
  | c :: _ =>
    if isDigit c then
      (String.ofList name).toNat?.bind fun n =>
        if n = 0 then some p.name else p.arguments[n - 1]?
    else s.lookup? name
  | [] => none

/-- The directory of a user's own files; without a name that of the user who runs the shell. -/
def home? (s : Session) (user : Text) : Option Text :=
  match String.ofList user with
  | "" => s.lookup? "HOME".toList
  | "root" => some "/root".toList
  | _ => none

end DefectGate.Workspace.Shell
