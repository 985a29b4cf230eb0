import DefectGate.Workspace.Programs
import DefectGate.Workspace.Shell.Descriptors
import DefectGate.Workspace.Shell.Format
import DefectGate.Workspace.Shell.Input
import DefectGate.Workspace.Shell.Signals
import DefectGate.Workspace.Tools.Tests

/-!
# Commands of the shell itself

The commands that a shell runs without starting a program. Each takes its arguments and answers its
status; those that run other commands are with the running of scripts.
-/
namespace DefectGate.Workspace.Shell

abbrev BuiltIn := List Text → Action Nat

namespace BuiltIn

/-! ## Arguments -/

/-- The options that a group of letters after a dash stands for, each with its argument. -/
def group (plain valued : Text) (rest : List Text) :
    Text → Except String (List (Char × Text) × List Text)
  | [] => .ok ([], rest)
  | c :: cs =>
    if c ∈ valued then
      match cs, rest with
      | [], argument :: rest => .ok ([(c, argument)], rest)
      | [], [] => .error s!"No arg for -{c} option"
      | argument, rest => .ok ([(c, argument)], rest)
    else if c ∈ plain then do
      let (more, rest) ← group plain valued rest cs
      return ((c, []) :: more, rest)
    else .error s!"Illegal option -{c}"

def optionsOf (plain valued : Text) : (fuel : Nat) → List Text →
    Except String (List (Char × Text) × List Text)
  | 0, words => .ok ([], words)
  | fuel + 1, words =>
    match words with
    | ['-', '-'] :: rest => .ok ([], rest)
    | ('-' :: c :: cs) :: rest => do
      let (first, rest) ← group plain valued rest (c :: cs)
      let (more, rest) ← optionsOf plain valued fuel rest
      return (first ++ more, rest)
    | words => .ok ([], words)

/-- The options at the start of words, and the words after them. -/
def options (plain valued : String) (words : List Text) :
    Action (List (Char × Text) × List Text) :=
  match optionsOf plain.toList valued.toList (words.length + 1) words with
  | .ok found => return found
  | .error message => Action.fail message

/-- A word that has to be a small number. -/
def count (t : Text) : Action Nat :=
  match Tool.integer t with
  | .ok n =>
    if 0 ≤ n ∧ n < 2147483648 then return n.toNat
    else Action.fail s!"Illegal number: {String.ofList t}"
  | .error message => Action.fail message

/-- Writes and answers success, or failure if the output is closed. -/
def put (out : Text) : Action Nat := do
  let s ← get
  match out, s.write? 1 out with
  | [], _ => return 0
  | _, some s =>
    set s
    return 0
  | _, none =>
    Action.complain (String.ofList (s.process.command.getD []) ++ ": I/O error")
    return 1

def putLine (line : String) : Action Nat := put (line ++ "\n").toList

/-- A text in quotes, so that a shell reads it as it is. -/
def quoted : (fuel : Nat) → Text → Text
  | 0, _ => []
  | fuel + 1, t =>
    let plain := t.takeWhile (· ≠ '\'')
    let marks := (t.drop plain.length).takeWhile (· = '\'')
    let rest := t.drop (plain.length + marks.length)
    ('\'' :: plain ++ ['\'']) ++
      if marks = [] then []
      else ('"' :: marks ++ ['"']) ++ if rest = [] then [] else quoted fuel rest

/-- The lines that show variables: their names after a word, and their values. -/
def showVariables (word : Text) (names : List Text) : Action Nat := do
  let s ← get
  let names := (alphabetical names).eraseDups
  put <| names.flatMap fun name =>
    let value :=
      match s.lookup? name with
      | some t => '=' :: quoted (t.length + 1) t
      | none => []
    (if word = [] then [] else word ++ [' ']) ++ name ++ value ++ ['\n']

/-! ## Output -/

def echo : BuiltIn := fun arguments => put (Format.echo arguments)

def printf : BuiltIn := fun arguments => do
  let printed := Format.printf arguments
  for message in printed.complaints do Action.complain message
  match printed.failure with
  | some message =>
    Action.complain message
    let _ ← put printed.out
    return 2
  | none =>
    let status ← put printed.out
    return if printed.complaints = [] then status else 1

/-! ## Tests -/

def answer (question : List Text) : Action Nat := do
  match Tool.holds (← get) question with
  | .ok true => return 0
  | .ok false => return 1
  | .error message => Action.fail message

def bracket : BuiltIn := fun arguments =>
  if arguments.getLast? = some [']'] then answer arguments.dropLast else Action.fail "missing ]"

/-! ## The course of a script -/

def exit : BuiltIn := fun arguments => do
  let p := (← get).process
  let n ←
    match arguments with
    | [] => pure (p.statusBeforeTrap.getD p.status)
    | t :: _ => count t
  Action.status n
  throw .exit

def return_ : BuiltIn := fun arguments => do
  let n ←
    match arguments with
    | [] => Action.lastStatus
    | t :: _ => count t
  Action.status n
  throw .return

/-- Ends loops, but no more than there are. -/
def leaveLoops (stop : Nat → Stop) : BuiltIn := fun arguments => do
  let n ←
    match arguments with
    | [] => pure 1
    | t :: _ => count t
  if n = 0 then Action.fail s!"Illegal number: {String.ofList (arguments.headD [])}"
  let n := min n (← get).process.loops
  Action.status 0
  if n ≠ 0 then throw (stop n)
  return 0

/-! ## Arguments and options of the script -/

def shift : BuiltIn := fun arguments => do
  let n ←
    match arguments with
    | [] => pure 1
    | t :: _ => count t
  if (← get).process.arguments.length < n then Action.fail "can't shift that many"
  Action.update fun p => { p with arguments := p.arguments.drop n, optionSearch := (1, 0) }
  return 0

/-- The sign that switches options on or off. -/
def sign (on : Bool) : Char := if on then '-' else '+'

def showOptions (asCommands : Bool) : Action Nat := do
  let on := (← get).process.options
  let line (letter : Char) (name : String) : String :=
    if asCommands then "set " ++ String.singleton (sign (letter ∈ on)) ++ s!"o {name}\n"
    else name.pushn ' ' (16 - name.length) ++ if letter ∈ on then "on\n" else "off\n"
  let title := if asCommands then "" else "Current option settings\n"
  put (title ++ String.join (optionNames.map fun (letter, name) => line letter name)).toList

/-- Switches an option by its letter. -/
def switch (on : Bool) (letter : Char) : Action Unit := do
  if !isOptionLetter letter then
    Action.fail s!"Illegal option {sign on}{letter}"
  Action.update fun p => { p with options := switchOption on letter p.options }

/-- Switches an option by its name. -/
def switchNamed (on : Bool) (name : Text) : Action Unit := do
  match optionNames.find? fun o => o.2.toList = name with
  | some (letter, _) =>
    Action.update fun p => { p with options := switchOption on letter p.options }
  | none => Action.fail s!"Illegal option {sign on}o {String.ofList name}"

/-- Switches options by a group of letters. The name of one that is given by name is the next
word. -/
def switchGroup (on : Bool) : Text → List Text → Action (List Text)
  | [], words => return words
  | 'o' :: letters, words =>
    match words with
    | name :: words => do
      switchNamed on name
      switchGroup on letters words
    | [] => do
      let _ ← showOptions !on
      switchGroup on letters []
  | c :: letters, words => do
    switch on c
    switchGroup on letters words

/-- Switches the options at the start of words. The answer is whether the words after them are
arguments even if there are none, and these words. -/
def switchAll : (fuel : Nat) → List Text → Action (Bool × List Text)
  | 0, words => return (false, words)
  | fuel + 1, words => do
    match words with
    | ['-'] :: rest =>
      Action.update fun p => { p with options := p.options.filter fun c => c ≠ 'x' && c ≠ 'v' }
      return (false, rest)
    | ['-', '-'] :: rest => return (true, rest)
    | ('-' :: letters) :: rest => switchAll fuel (← switchGroup true letters rest)
    | ('+' :: letters) :: rest => switchAll fuel (← switchGroup false letters rest)
    | rest => return (false, rest)

def set_ : BuiltIn := fun arguments => do
  if arguments = [] then showVariables [] ((← get).process.assigned.map (·.1))
  else
    let (always, rest) ← switchAll (arguments.length + 1) arguments
    if always ∨ rest ≠ [] then
      Action.update fun p => { p with arguments := rest, optionSearch := (1, 0) }
    return 0

/-- The option at the place that the search has come to. -/
structure Found where
  letter : Char
  value : Option Text
  complaint : String
  /-- The number of the next word, and the place in the word before it or zero. -/
  next : Nat
  place : Nat

/-- Searches words for the next of the options that a specification allows. -/
def findOption (specification : Text) (words : List Text) (next place : Nat) : Option Found :=
  let started := (words.getD (next - 2) []).drop place
  let silent := specification.head? = some ':'
  let fromWord : Option (Text × Nat) :=
    if 1 < next ∧ 0 < place ∧ started ≠ [] then some (started, next)
    else
      match words[next - 1]? with
      | some ('-' :: c :: cs) => some (c :: cs, next + 1)
      | _ => none
  match fromWord with
  | none | some ([], _) => none
  | some (c :: cs, next) =>
    let placeAfter := if cs = [] then 0 else (words.getD (next - 2) []).length - cs.length
    match if c = ':' then [] else specification.dropWhile (· ≠ c) with
    | [] =>
      if silent then some ⟨'?', some [c], "", next, placeAfter⟩
      else some ⟨'?', none, s!"Illegal option -{c}\n", next, placeAfter⟩
    | _ :: ':' :: _ =>
      if cs ≠ [] then some ⟨c, some cs, "", next, 0⟩
      else
        match words[next - 1]? with
        | some value => some ⟨c, some value, "", next + 1, 0⟩
        | none =>
          if silent then some ⟨':', some [c], "", next, 0⟩
          else some ⟨'?', none, s!"No arg for -{c} option\n", next, 0⟩
    | _ => some ⟨c, some [], "", next, placeAfter⟩

def getopts : BuiltIn := fun arguments => do
  match arguments with
  | specification :: name :: words =>
    let p := (← get).process
    let words := if words = [] then p.arguments else words
    let (next, place) := if words.length + 1 < p.optionSearch.1 then (1, 0) else p.optionSearch
    let finish (letter : Char) (next place : Nat) : Action Unit := do
      Action.assign "OPTIND".toList (text next)
      Action.assign name [letter]
      Action.update fun p => { p with optionSearch := (next, place) }
    let word := words.getD (next - 1) []
    let isEnd := place = 0 ∨ (words.getD (next - 2) []).drop place = []
    match if isEnd ∧ word = ['-', '-'] then none else findOption specification words next place with
    | none =>
      finish '?' (if isEnd ∧ word = ['-', '-'] then next + 1 else next) 0
      return 1
    | some found =>
      modify (·.write 2 found.complaint.toList)
      match found.value with
      | some value => Action.assign "OPTARG".toList value
      | none => Action.unassign "OPTARG".toList
      finish found.letter found.next found.place
      return 0
  | _ => Action.fail "Usage: getopts optstring var [arg...]"

/-! ## Variables -/

/-- The name and the value of a word that may assign. -/
def nameAndValue (word : Text) : Text × Option Text :=
  let name := word.takeWhile (· ≠ '=')
  (name, if name.length < word.length then some (word.drop (name.length + 1)) else none)

/-- Marks variables, and assigns to those that are given values. -/
def declare (word : String) (marked : Process → List Text) (mark : Text → Process → Process) :
    BuiltIn := fun arguments => do
  let (shown, words) ← options "p" "" arguments
  if shown ≠ [] ∨ words = [] then showVariables word.toList (marked (← get).process)
  else
    for w in words do
      let (name, value) := nameAndValue w
      match value with
      | some value => Action.assign name value
      | none => if !isName name then Action.fail (String.ofList name ++ ": bad variable name")
      Action.update (mark name)
    return 0

def export_ : BuiltIn :=
  declare "export" (·.exported) fun name p => { p with exported := name :: p.exported }

def readonly : BuiltIn :=
  declare "readonly" (·.fixed) fun name p => { p with fixed := name :: p.fixed }

/-- Gives variables back their values when the function that runs ends. -/
def local_ : BuiltIn := fun arguments => do
  for w in arguments do
    let s ← get
    match s.process.shadows with
    | none => Action.fail "not in a function"
    | some shadows =>
      let (name, value) := nameAndValue w
      Action.update fun p => { p with shadows := some (s.shadow name :: shadows) }
      if let some value := value then Action.assign name value
  if (← get).process.shadows = none then Action.fail "not in a function"
  return 0

def unset : BuiltIn := fun arguments => do
  let (chosen, names) ← options "vf" "" arguments
  for name in names do
    if (chosen.getLast?.map (·.1)) = some 'f' then
      Action.update fun p => { p with functions := p.functions.filter (·.1 ≠ name) }
    else Action.unassign name
  return 0

def read : BuiltIn := fun arguments => do
  let (chosen, names) ← options "r" "p" arguments
  if names = [] then Action.fail "arg count"
  let (input, s) := (← get).takeAll 0
  let line := Input.line (chosen.any (·.1 = 'r')) input
  set (s.putBack 0 line.rest)
  for (name, value) in Input.share (separators s) names line.letters do Action.assign name value
  return if line.isComplete then 0 else 1

/-! ## Files -/

/-- The path of a location. -/
def pathTo (l : Location) : Text :=
  if l = [] then ['/'] else l.reverse.flatMap fun name => '/' :: Text.ofBytes name

def pwd : BuiltIn := fun _ => do put (pathTo (← get).files.here ++ ['\n'])

def cd : BuiltIn := fun arguments => do
  let (_, words) ← options "LP" "" arguments
  let s ← get
  let target :=
    match words with
    | [] => (s.lookup? "HOME".toList).getD []
    | ['-'] :: _ => (s.lookup? "OLDPWD".toList).getD []
    | t :: _ => t
  match s.files.find (pathOf (if target = [] then ['.'] else target)) with
  | .ok (l, .directory) =>
    set (s.setFiles { s.files with here := l })
    Action.assign "OLDPWD".toList (pathTo s.files.here)
    Action.assign "PWD".toList (pathTo l)
    if words.head? = some ['-'] then put (pathTo l ++ ['\n']) else return 0
  | _ => Action.fail s!"can't cd to {String.ofList target}"

/-- The letters of the permissions that a mask leaves. -/
def permissions (mask shift : Nat) : String :=
  let bits := mask / shift % 8
  (if bits / 4 % 2 = 0 then "r" else "") ++ (if bits / 2 % 2 = 0 then "w" else "") ++
    if bits % 2 = 0 then "x" else ""

def umask : BuiltIn := fun arguments => do
  let (symbolic, words) ← options "S" "" arguments
  let mask := (← get).process.mask
  match words with
  | [] =>
    if symbolic ≠ [] then
      putLine s!"u={permissions mask 64},g={permissions mask 8},o={permissions mask 1}"
    else
      let digits := Nat.toDigits 8 mask
      put (List.replicate (4 - digits.length) '0' ++ digits ++ ['\n'])
  | t :: _ =>
    if t.all Format.isOctal then
      Action.update fun p => { p with mask := Arithmetic.numberOf 8 t % 512 }
      return 0
    else if t.all isDigit then Action.fail s!"Illegal number: {String.ofList t}"
    else if t.all (· ∈ "ugoarwxXst+-=,".toList) then return 0
    else Action.fail s!"Illegal mode: {String.ofList t}"

/-! ## Signals and jobs -/

def trap : BuiltIn := fun arguments => do
  let (_, words) ← options "" "" arguments
  let p := (← get).process
  let line (n : Nat) : Text :=
    match p.traps.find? (·.1 = n) with
    | some (_, t) =>
      "trap -- ".toList ++ quoted (t.length + 1) t ++ (' ' :: (Signal.name n).toList) ++ ['\n']
    | none => []
  match words with
  | [] => put ((List.range Signal.names.length).flatMap line)
  | first :: rest =>
    let resets := rest = [] ∨ ((number? first).bind fun _ => Signal.ofText? 0 first).isSome
    let action := if resets ∨ first = ['-'] then none else some first
    for t in if resets then words else rest do
      match Signal.ofText? 0 t with
      | none =>
        modify (·.write 2 s!"trap: {String.ofList t}: bad trap\n".toList)
        return 1
      | some n =>
        Action.update fun p =>
          { p with traps := action.toList.map (n, ·) ++ p.traps.filter (·.1 ≠ n) }
    return 0

def killUsage : String :=
  "Usage: kill [-s sigspec | -signum | -sigspec] [pid | job]... or\nkill -l [exitstatus]"

/-- Lists the signals, or names one by its number or by the status that it leaves. -/
def listSignals : BuiltIn := fun words => do
  match words with
  | [] => put ("0\n" ++ String.join (Signal.names.tail.map (· ++ "\n"))).toList
  | t :: _ =>
    let n ← count t
    let n := if 128 < n then n - 128 else n
    if 0 < n ∧ n < Signal.names.length then putLine (Signal.name n)
    else Action.fail s!"invalid signal number or exit status: {String.ofList t}"

def kill : BuiltIn := fun arguments => do
  let direct :=
    match arguments with
    | ('-' :: name) :: ids => (Signal.ofText? 1 name).map (·, ids)
    | _ => none
  let (n, lists, ids) ←
    match direct with
    | some (n, ids) => pure (n, false, ids)
    | none => do
      let (chosen, ids) ← options "l" "s" arguments
      let mut n := 15
      for (letter, name) in chosen do
        if letter = 's' then
          match Signal.ofText? 1 name with
          | some found => n := found
          | none => Action.fail s!"invalid signal number or name: {String.ofList name}"
      pure (n, chosen.any (·.1 = 'l'), ids)
  if lists then return ← listSignals ids
  if ids = [] then Action.fail killUsage
  let mut status := 0
  for t in ids do
    if t.head? = some '%' then Action.fail s!"No such job: {String.ofList t}"
    let id ← count t
    match (← get).signal? id n with
    | some s => set s
    | none =>
      Action.complain "No such process\n"
      status := 1
  return status

/-- Waits for one job of this process. -/
def awaitJob (t : Text) : Action Nat := do
  if t.head? = some '%' then Action.fail s!"No such job: {String.ofList t}"
  let id ← count t
  let s ← get
  match s.machine.jobs.find? fun j => j.id = id ∧ j.parent = s.process.id with
  | none => return 127
  | some j =>
    set (s.advanceTo j.time)
    if 128 < j.status then modify (·.afterSignal (j.status - 128))
    return j.status

def wait : BuiltIn := fun arguments => do
  match arguments with
  | [] =>
    modify fun s =>
      let mine := s.machine.jobs.filter (·.parent = s.process.id)
      s.advanceTo ((mine.map (·.time)).foldl max 0)
    return 0
  | words =>
    let mut status := 0
    for t in words do status ← awaitJob t
    return status

/-! ## Names of commands -/

/-- Does nothing and answers success. -/
def nothing : BuiltIn := fun _ => return 0

/-- The commands by name that need not run others. -/
def all : List (String × BuiltIn) :=
  [(":", nothing), ("true", nothing), ("false", fun _ => return 1), ("echo", echo),
    ("printf", printf), ("test", answer), ("[", bracket), ("exit", exit), ("return", return_),
    ("break", leaveLoops .break), ("continue", leaveLoops .continue), ("shift", shift),
    ("set", set_), ("getopts", getopts), ("export", export_), ("readonly", readonly),
    ("local", local_), ("unset", unset), ("read", read), ("pwd", pwd), ("cd", cd),
    ("chdir", cd), ("umask", umask), ("trap", trap), ("kill", kill), ("wait", wait),
    ("hash", nothing), ("jobs", nothing), ("times", nothing), ("ulimit", nothing),
    ("alias", nothing), ("unalias", nothing),
    ("fg", fun _ => Action.fail "No current job"), ("bg", fun _ => Action.fail "No current job")]

def find? (name : Text) : Option BuiltIn := (all.find? (·.1.toList = name)).map (·.2)

/-- Commands that run other commands. -/
def running : List String := [".", "command", "eval", "exec", "type"]

def isSpecial (name : Text) : Bool := specialCommands.any (·.toList = name)

def isBuiltIn (name : Text) : Bool :=
  (find? name).isSome || running.any (·.toList = name)

end BuiltIn
end DefectGate.Workspace.Shell
