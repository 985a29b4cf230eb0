import DefectGate.Workspace.Shell.BuiltIn
import DefectGate.Workspace.Shell.Expansion
import DefectGate.Workspace.Shell.Gathering
import DefectGate.Workspace.Shell.Names
import DefectGate.Workspace.Shell.Task
import DefectGate.Workspace.Tools

/-!
# Running scripts

What a command does on a session. A process that a limit has caught up with does nothing more. The
recursion is bounded by fuel, and a process that has used it up ends as if it had been killed.
-/
namespace DefectGate.Workspace.Shell

open Host (Path)

/-- How long a command takes in nanoseconds, whatever it does. -/
def commandTime : Nat := 10000

/-- Until when a process in the background may run. -/
def backgroundTime : Nat := 3600000000000

/-- How deep commands may lie in one another and how many turns a loop may take. -/
def depth : Nat := 200000

/-- How deep calls of functions may lie in each other. -/
def maxCalls : Nat := 1000

/-- How words declare variables if they are the arguments of some commands. -/
def declaring : List String := ["export", "readonly", "local"]

/-- Goes on in time by one command at a line. -/
def begin_ (line : Nat) : Action Unit := do
  modify (·.advance commandTime)
  if (← get).isOver then throw .killed
  Action.update fun p => { p with line }

/-- Ends the script after a failure that nothing has tested. -/
def settle (tested : Bool) : Action Unit := do
  if !tested ∧ (← Action.lastStatus) ≠ 0 ∧ (← Action.hasOption 'e') then throw .exit

/-- The descriptors that redirections change, with what they lead to before. -/
def descriptorsBefore (s : Session) (rs : List Redirection) : List (Nat × Option Stream) :=
  rs.map fun r => (r.descriptor, s.stream? r.descriptor)

def restore (before : List (Nat × Option Stream)) (s : Session) : Session :=
  before.foldl (fun s (n, stream) => s.reset n stream) s

/-- A redirection whose word has been expanded. -/
structure Target where
  descriptor : Nat
  kind : Redirection.Kind
  text : Text
  deriving DecidableEq, Repr

/-- Redirects descriptors one after the other; the answer is whether all of that succeeded. -/
def redirect (before : List (Nat × Option Stream)) (targets : List Target) : Action Bool := do
  match ← Action.attempt (targets.forM fun t => Action.redirect t.descriptor t.kind t.text) with
  | none => return true
  | some .failure =>
    modify (restore before)
    Action.status 2
    return false
  | some stop => throw stop

/-- Refuses what is not the number of a descriptor; the line after the command is blamed. -/
def checkDescriptor (t : Text) : Action Unit := do
  if t.length ≠ 1 ∨ !t.all fun c => isDigit c || c = '-' then
    Action.update fun p => { p with line := p.line + 1 }
    Action.fail "Syntax error: Bad fd number"

/-- The outcome of an action on a session. -/
def outcomeOf (a : Action Unit) (s : Session) : Except Stop Unit × Session := a.run.run s

/-- What a process has come to that others have waited for. -/
def afterProcess (s t : Session) (outcome : Except Stop Unit) : Action Unit := do
  set (s.after t)
  match outcome with
  | .error .killed => throw .killed
  | .error (.signal n) => modify (·.afterSignal n)
  | _ => return

/-- The status of a process that has ended. -/
def finalStatus (t : Session) : Except Stop Unit → Nat
  | .error (.signal n) => 128 + n
  | _ => t.process.status % 256

/-- Writes a command down on the stream that was there for diagnostics before it. -/
def trace (stream : Option Stream) (mark : Text) (words : List Text) : Action Unit :=
  modify fun s =>
    let line := mark ++ Format.spaced words ++ ['\n']
    ((s.reset 2 stream).write 2 line).reset 2 (s.stream? 2)

/-- Ends as a shell that can not be started. -/
def refuse (message : String) (status : Nat) : Action Unit := do
  Action.complain message
  Action.status status
  throw .exit

mutual

/-- Runs a command in the process of a session; a failure that is `tested` does not end the
script. -/
def run : (fuel : Nat) → (tested : Bool) → Command → Action Unit
  | 0, _, _ => throw .killed
  | fuel + 1, tested, c => do
    if ← Action.hasOption 'n' then return
    match c with
    | .nothing => return
    | .malformed line message =>
      Action.update fun p => { p with line }
      Action.fail ("Syntax error: " ++ message)
    | .simple line assignments words redirections =>
      begin_ line
      simple fuel tested assignments words redirections
      notice fuel
      settle tested
    | .sequence a b =>
      run fuel tested a
      run fuel tested b
    | .background a => background fuel a
    | .both a b =>
      run fuel true a
      if (← Action.lastStatus) = 0 then run fuel tested b
    | .either a b =>
      run fuel true a
      if (← Action.lastStatus) ≠ 0 then run fuel tested b
    | .negation a =>
      run fuel true a
      Action.status (if (← Action.lastStatus) = 0 then 1 else 0)
    | .pipe commands =>
      pipe fuel tested none commands
      notice fuel
      settle tested
    | .subshell a =>
      inChild fuel id (run fuel tested a)
      notice fuel
      settle tested
    | .conditional test yes no =>
      run fuel true test
      if (← Action.lastStatus) = 0 then run fuel tested yes
      else
        match no with
        | .nothing => Action.status 0
        | no => run fuel tested no
    | .loop whileFailing test body => Action.looping (loop fuel tested whileFailing test body 0)
    | .each line name words body =>
      Action.update fun p => { p with line }
      let values ←
        match words with
        | none => pure (← get).process.arguments
        | some ws => fields fuel ws
      Action.looping (each fuel tested name body values 0)
    | .selection line subject arms =>
      Action.update fun p => { p with line }
      let t ← Action.expandText (output fuel) fuel .ofText subject
      choose fuel tested t arms
    | .redirected line a redirections =>
      Action.update fun p => { p with line }
      let targets ← targets fuel redirections
      let before := descriptorsBefore (← get) redirections
      if ← redirect before targets then Action.andThen (run fuel tested a) (restore before)
      settle tested
    | .function name body =>
      let others := (← get).process.functions.filter (·.1 ≠ name)
      Action.update fun p => { p with functions := (name, body) :: others, status := 0 }

/-- Repeats a command while, or until, another one succeeds. Its status is that of the last turn. -/
def loop : (fuel : Nat) → (tested whileFailing : Bool) → (test body : Command) → (last : Nat) →
    Action Unit
  | 0, _, _, _, _, _ => throw .killed
  | fuel + 1, tested, whileFailing, test, body, last => do
    match ← Action.turn (run fuel true test) with
    | .last => Action.status last
    | .skipped => loop fuel tested whileFailing test body last
    | .complete =>
      if decide ((← Action.lastStatus) = 0) = whileFailing then Action.status last
      else
        let turn ← Action.turn (run fuel tested body)
        if turn ≠ .last then loop fuel tested whileFailing test body (← Action.lastStatus)

/-- Runs a command with each of several values of a variable. -/
def each : (fuel : Nat) → (tested : Bool) → Text → Command → List Text → (last : Nat) →
    Action Unit
  | 0, _, _, _, _, _ => throw .killed
  | _, _, _, _, [], last => Action.status last
  | fuel + 1, tested, name, body, value :: values, _ => do
    Action.assign name value
    let turn ← Action.turn (run fuel tested body)
    if turn ≠ .last then each fuel tested name body values (← Action.lastStatus)

/-- Runs the first arm with a pattern that a text is like. -/
def choose : (fuel : Nat) → (tested : Bool) → Text → List (List Word × Command) → Action Unit
  | 0, _, _, _ => throw .killed
  | _, _, _, [] => Action.status 0
  | fuel + 1, tested, t, (patterns, body) :: arms => do
    if ← isLikeAny fuel t patterns then
      match body with
      | .nothing => Action.status 0
      | body => run fuel tested body
    else choose fuel tested t arms

/-- Whether a text is like one of several patterns. -/
def isLikeAny : (fuel : Nat) → Text → List Word → Action Bool
  | 0, _, _ => throw .killed
  | _, _, [] => return false
  | fuel + 1, t, w :: ws => do
    let p ← Action.expandPattern (output fuel) fuel w
    if t.isLike p then return true else isLikeAny fuel t ws

/-- Runs an action as a whole process, with what is trapped for its end. -/
def whole : (fuel : Nat) → Action Unit → Action Unit
  | 0, _ => throw .killed
  | fuel + 1, a => do
    match ← Action.attempt a with
    | some .killed => throw .killed
    | some (.signal n) => throw (.signal n)
    | _ =>
      let p := (← get).process
      match p.traps.find? (·.1 = 0) with
      | none => return
      | some (_, script) =>
        Action.update fun p =>
          { p with traps := p.traps.filter (·.1 ≠ 0), statusBeforeTrap := some p.status, loops := 0 }
        match ← Action.attempt (run fuel false (.ofScript script)) with
        | some .exit | some .failure => return
        | some .killed => throw .killed
        | some (.signal n) => throw (.signal n)
        | _ => Action.status p.status

/-- Runs an action as a process of its own and waits for it. -/
def inChild : (fuel : Nat) → (Session → Session) → Action Unit → Action Unit
  | 0, _, _ => throw .killed
  | fuel + 1, prepare, a => do
    let s ← get
    let (outcome, t) := outcomeOf (whole fuel a) (prepare s.fork)
    afterProcess s t outcome

/-- Runs commands side by side, each of which reads what the one before it writes. All but the last
one are jobs that the others can wait for. -/
def pipe : (fuel : Nat) → (tested : Bool) → (source : Option Nat) → List Command → Action Unit
  | 0, _, _, _ => throw .killed
  | _, _, _, [] => return
  | fuel + 1, tested, source, c :: cs => do
    let withInput (s : Session) : Session :=
      match source with
      | some n => s.connect 0 (.channel n)
      | none => s
    if cs.isEmpty then inChild fuel withInput (run fuel tested c)
    else
      let (n, s) := (← get).openChannel []
      let child := (withInput s.fork).connect 1 (.channel n)
      let (outcome, t) := outcomeOf (whole fuel (run fuel tested c)) child
      let job : Job :=
        { id := child.process.id, parent := 0, time := t.machine.clock
          status := finalStatus t outcome, holdsUntil := 0, channels := [n] }
      let back := s.after t
      set { back with
        process.status := s.process.status
        machine.clock := s.machine.clock
        machine.jobs := job :: t.machine.jobs }
      pipe fuel tested (some n) cs
      let status ← Action.lastStatus
      if let .error (.signal n) := outcome then modify (·.afterSignal n)
      modify fun s => (s.advanceTo job.time).status status

/-- Starts a command that nobody waits for. It sees the files as they are and its own time. -/
def background : (fuel : Nat) → Command → Action Unit
  | 0, _ => throw .killed
  | fuel + 1, c => do
    let s ← get
    let forked := s.fork.connect 0 .sink
    let id := forked.process.id
    let start := { forked with
      machine.limit := some (s.machine.clock + backgroundTime)
      machine.heldUntil := 0
      machine.job := id }
    let (outcome, t) := outcomeOf (whole fuel (run fuel false c)) start
    let channels := forked.process.descriptors.filterMap fun d =>
      match d.2 with
      | .channel n => some n
      | _ => none
    let job : Job :=
      { id, parent := s.process.id, time := t.machine.clock, status := finalStatus t outcome
        holdsUntil := t.machine.heldUntil, channels }
    let back := s.after t
    set { back with
      process.child := some id
      process.status := 0
      machine.clock := s.machine.clock
      machine.limit := s.machine.limit
      machine.heldUntil := s.machine.heldUntil
      machine.job := s.machine.job
      machine.jobs := job :: t.machine.jobs }

/-- What a script writes, run by a process of its own. -/
def output : (fuel : Nat) → Command → Action Text
  | 0, _ => throw .killed
  | fuel + 1, c => do
    let before ← Action.lastStatus
    let (n, s) := (← get).openChannel []
    set s
    inChild fuel (·.connect 1 (.channel n)) (run fuel false c)
    let status ← Action.lastStatus
    modify (·.awaitChannel n)
    Action.update fun p => { p with status := before, outputStatus := some status }
    return (← get).channelText n |>.filter (· ≠ '\x00')

/-- Does what is trapped for the signals that have come. -/
def notice : (fuel : Nat) → Action Unit
  | 0 => throw .killed
  | fuel + 1 => do
    let s ← get
    match s.machine.pending.find? (·.1 = s.process.id) with
    | none => return
    | some (id, n) =>
      set { s with machine.pending := s.machine.pending.erase (id, n) }
      match if n = 9 then none else s.process.traps.find? (·.1 = n) with
      | some (_, []) => notice fuel
      | some (_, script) =>
        let status ← Action.lastStatus
        Action.update fun p => { p with statusBeforeTrap := some status }
        run fuel false (.ofScript script)
        Action.update fun p => { p with status, statusBeforeTrap := none }
        notice fuel
      | none =>
        if n = 0 ∨ n ∈ Signal.harmless then notice fuel else throw (.signal n)

/-- The fields that words expand to. -/
def fields : (fuel : Nat) → List Word → Action (List Text)
  | 0, _ => throw .killed
  | _, [] => return []
  | fuel + 1, w :: ws => do
    let first ← Action.expandFields (output fuel) fuel w
    return first ++ (← fields fuel ws)

/-- The name and the arguments of a command. Assignments among the arguments of a command that
declares variables are no fields. -/
def commandWords : (fuel : Nat) → (begun : List Text) → List Word → Action (List Text)
  | 0, _, _ => throw .killed
  | _, begun, [] => return begun
  | fuel + 1, begun, w :: ws => do
    let name := (begun.find? (· ≠ "command".toList)).getD []
    let declares := declaring.any (·.toList = name)
    match if declares then assignment? w else none with
    | some (assigned, value) =>
      let t ← Action.expandText (output fuel) fuel .ofAssignment value
      commandWords fuel (begun ++ [assigned ++ '=' :: t]) ws
    | none => commandWords fuel (begun ++ (← Action.expandFields (output fuel) fuel w)) ws

/-- Where redirections lead. -/
def targets : (fuel : Nat) → List Redirection → Action (List Target)
  | 0, _ => throw .killed
  | _, [] => return []
  | fuel + 1, r :: rs => do
    let t ← Action.expandText (output fuel) fuel .ofText r.word
    if r.kind = .duplicate then checkDescriptor t
    return ⟨r.descriptor, r.kind, t⟩ :: (← targets fuel rs)

/-- Assigns values one after the other. -/
def assignAll : (fuel : Nat) → List (Text × Word) → Action (List Text)
  | 0, _ => throw .killed
  | _, [] => return []
  | fuel + 1, (name, w) :: rest => do
    let t ← Action.expandText (output fuel) fuel .ofAssignment w
    Action.assign name t
    return (name ++ '=' :: t) :: (← assignAll fuel rest)

/-- Writes a command down if the shell was asked to. -/
def traceIfAsked : (fuel : Nat) → Option Stream → List Text → Action Unit
  | 0, _, _ => throw .killed
  | fuel + 1, stream, words => do
    if ← Action.hasOption 'x' then
      let mark := ((← get).lookup? "PS4".toList).getD []
      let mark ← Action.expandText (output fuel) fuel .ofText (Word.ofDocument mark)
      trace stream mark words

/-- A simple command whose time has passed. -/
def simple : (fuel : Nat) → (tested : Bool) → List (Text × Word) → List Word →
    List Redirection → Action Unit
  | 0, _, _, _, _ => throw .killed
  | fuel + 1, tested, assignments, words, redirections => do
    Action.update fun p => { p with outputStatus := none }
    let words ← commandWords fuel [] words
    let targets ← targets fuel redirections
    let s ← get
    let before := descriptorsBefore s redirections
    let name := words.headD []
    let isSpecial := BuiltIn.isSpecial name
    if !(← redirect before targets) then
      if isSpecial then throw .failure
    else if words = [] ∨ isSpecial then
      let assigned ← assignAll fuel assignments
      if name = "exec".toList ∧ words.length ≠ 1 then modify (·.reveal (assignments.map (·.1)))
      traceIfAsked fuel (s.stream? 2) (assigned ++ words)
      let act :=
        if words = [] then Action.update fun p => { p with status := p.outputStatus.getD 0 }
        else dispatch fuel tested false words
      if words = ["exec".toList] then act else Action.andThen act (restore before)
    else
      let names := assignments.map (·.1)
      let old := names.map s.shadow
      let assigned ← assignAll fuel assignments
      modify (·.reveal names)
      traceIfAsked fuel (s.stream? 2) (assigned ++ words)
      Action.andThen (dispatch fuel tested false words) fun s =>
        restore before (old.foldl Session.unshadow s)

/-- Runs a command of the shell itself. An error ends the script only if the command is special. -/
def builtIn : (fuel : Nat) → (isSpecial : Bool) → Text → Action Nat → Action Unit
  | 0, _, _, _ => throw .killed
  | _ + 1, isSpecial, name, act => do
    let command := (← get).process.command
    Action.update fun p => { p with command := some name }
    let perform : Action Unit := do
      let n ← act
      Action.status n
    let stop ← Action.attempt (Action.andThen perform fun s => { s with process.command := command })
    match stop with
    | none => return
    | some .failure => if isSpecial then throw .failure
    | some stop => throw stop

/-- Runs the command that words mean; `plainly` leaves out functions and makes no command special. -/
def dispatch : (fuel : Nat) → (tested plainly : Bool) → List Text → Action Unit
  | 0, _, _, _ => throw .killed
  | _, _, _, [] => Action.status 0
  | fuel + 1, tested, plainly, name :: arguments => do
    let p := (← get).process
    let isSpecial := !plainly && BuiltIn.isSpecial name
    let body := if plainly ∨ isSpecial then none else p.functions.find? (·.1 = name)
    match body, BuiltIn.find? name with
    | some (_, body), _ => call fuel tested body arguments
    | none, some act => builtIn fuel isSpecial name (act arguments)
    | none, none =>
      match String.ofList name with
      | "eval" =>
        builtIn fuel isSpecial name do
          Action.status 0
          run fuel tested (.ofScript (Format.spaced arguments))
          Action.lastStatus
      | "." => builtIn fuel isSpecial name (include_ fuel arguments)
      | "exec" => builtIn fuel isSpecial name (replace fuel arguments)
      | "command" => command fuel tested arguments
      | "type" => builtIn fuel isSpecial name (type arguments)
      | _ => program fuel (name :: arguments)

/-- Calls a function. -/
def call : (fuel : Nat) → (tested : Bool) → Command → List Text → Action Unit
  | 0, _, _, _ => throw .killed
  | fuel + 1, tested, body, arguments => do
    let old := (← get).process
    if old.calls = maxCalls then
      Action.fail s!"Maximum function recursion depth ({maxCalls}) reached"
    Action.update fun p =>
      { p with
        arguments, loops := 0, calls := p.calls + 1, shadows := some [], optionSearch := (1, 0) }
    let act := Action.andThen (run fuel tested body) fun s =>
      let s := (s.process.shadows.getD []).foldl Session.unshadow s
      { s with process := { s.process with
          arguments := old.arguments
          loops := old.loops
          calls := old.calls
          shadows := old.shadows
          optionSearch := old.optionSearch } }
    match ← Action.attempt act with
    | none | some .return => return
    | some stop => throw stop

/-- Runs the script of a file in this shell. -/
def include_ : (fuel : Nat) → List Text → Action Nat
  | 0, _ => throw .killed
  | _, [] => return 0
  | fuel + 1, name :: _ => do
    match scriptPath? (← get) name with
    | none => Action.fail s!"{String.ofList name}: not found"
    | some path =>
      match scriptAt (← get) path with
      | .error e => Action.fail (readRefusal path e)
      | .ok (script, s) =>
        set s
        Action.status 0
        Action.update fun p => { p with command := some path }
        match ← Action.attempt (run fuel false (.ofScript script)) with
        | none | some .return => Action.lastStatus
        | some stop => throw stop

/-- Goes on as another program, or only with other descriptors. -/
def replace : (fuel : Nat) → List Text → Action Nat
  | 0, _ => throw .killed
  | _, [] => return 0
  | fuel + 1, words => do
    match locate (← get) (words.headD []) with
    | .ok path => execute fuel path words
    | .error e => refuse (unavailable (words.headD []) e) 127
    throw .exit

/-- Runs a command without functions, or says what it means. -/
def command : (fuel : Nat) → (tested : Bool) → List Text → Action Unit
  | 0, _, _ => throw .killed
  | fuel + 1, tested, arguments => do
    match BuiltIn.optionsOf "pvV".toList [] (arguments.length + 1) arguments with
    | .error message => builtIn fuel false "command".toList (Action.fail message)
    | .ok (_, []) => Action.status 0
    | .ok ([], words) => dispatch fuel tested true words
    | .ok (options, words) =>
      if options.all (·.1 = 'p') then dispatch fuel tested true words
      else
        builtIn fuel false "command".toList
          (describe (options.any (·.1 = 'V')) (words.headD []))

/-- Runs a program in a process of its own and waits for it. -/
def program : (fuel : Nat) → List Text → Action Unit
  | 0, _ => throw .killed
  | fuel + 1, words => do
    let s ← get
    match locate s (words.headD []) with
    | .error e =>
      Action.complain (unavailable (words.headD []) e)
      Action.status 127
    | .ok path =>
      let (outcome, t) := outcomeOf (execute fuel path words) s.fork
      afterProcess s t outcome

/-- Goes on as the program in a file. What is no program is taken for a script. -/
def execute : (fuel : Nat) → Path → List Text → Action Unit
  | 0, _, _ => throw .killed
  | fuel + 1, path, words => do
    match Image.ofPath (← get).files Image.mostInterpreters path (words.map Text.toBytes) with
    | .ok program => image fuel program
    | .error e =>
      if e = Image.execFormat then
        shell fuel "/bin/sh".toList (.ofBytes path.bytes :: words.drop 1)
      else refuse (unavailable (words.headD []) e) (unavailableStatus e)

/-- Goes on as a program of the system. -/
def image : (fuel : Nat) → Image → Action Unit
  | 0, _ => throw .killed
  | fuel + 1, program => do
    let words := program.command.map Text.ofBytes
    let own := words.headD []
    Action.update fun p => Process.fresh p.id p.ancestors p.descriptors p.environment
    match String.ofList (Text.ofBytes program.tool) with
    | "sh" | "dash" | "bash" => shell fuel own (words.drop 1)
    | "env" =>
      let (words, s) := environment (words.drop 1) (← get)
      set s
      if words = [] then
        let lines := s.process.environment.flatMap fun (name, value) =>
          name ++ '=' :: value ++ ['\n']
        set (Tool.toOutput "env" (Tool.put lines) s)
      else goOn fuel "env" "" words
    | "nohup" => goOn fuel "nohup" "failed to run command " (words.drop 1)
    | "setsid" => goOn fuel "setsid" "failed to execute " (words.drop 1)
    | "nice" => goOn fuel "nice" "" (withoutNumber (words.drop 1))
    | "timeout" => limited fuel (words.drop 1)
    | "xargs" =>
      let (t, s) := (← get).takeAll 0
      set s
      gathered fuel (words.drop 1) t
    | tool =>
      match Tool.perform? tool (words.drop 1) (← get) with
      | some s => set s
      | none => Action.status 127

/-- Goes on as the program that words name, in the place of a tool that only prepares it. -/
def goOn : (fuel : Nat) → (tool failure : String) → List Text → Action Unit
  | 0, _, _, _ => throw .killed
  | fuel + 1, tool, failure, words => do
    if words = [] then modify (Tool.misused tool "missing operand" 125)
    else
      let name := words.headD []
      match locate (← get) name with
      | .ok path => execute fuel path words
      | .error e =>
        let named := if tool = "xargs" then String.ofList name else s!"'{String.ofList name}'"
        let message := s!"{tool}: {failure}{named}: {errorText e}"
        modify fun s => (Tool.say message s).status (if isAbsence e then 127 else 126)

/-- Runs a program for a limited time. -/
def limited : (fuel : Nat) → List Text → Action Unit
  | 0, _ => throw .killed
  | fuel + 1, words => do
    match dropLimitOptions words with
    | duration :: words =>
      match Tool.nanoseconds? duration with
      | none =>
        modify (Tool.misused "timeout" s!"invalid time interval '{String.ofList duration}'" 125)
      | some time =>
        let s ← get
        let deadline := s.machine.clock + time
        let isShorter := time ≠ 0 ∧ s.machine.limit.all (deadline < ·)
        let child := if isShorter then { s.fork with machine.limit := some deadline } else s.fork
        let (outcome, t) := outcomeOf (goOn fuel "timeout" "failed to run command " words) child
        if isShorter ∧ t.isOver then
          set (s.after { t with machine.limit := s.machine.limit })
          Action.status 124
        else afterProcess s { t with machine.limit := s.machine.limit } outcome
    | [] =>
      modify fun s => (Tool.say "Try 'timeout --help' for more information." s).status 125

/-- Runs a program with words of the input as its last arguments. -/
def gathered : (fuel : Nat) → List Text → (input : Text) → Action Unit
  | 0, _, _ => throw .killed
  | fuel + 1, words, input => do
    let order := Gathering.ofWords words
    let command := if order.command = [] then ["echo".toList] else order.command
    gatheredRuns fuel ((order.runs input).map fun items => order.fill command items)

/-- Runs programs one after the other. -/
def gatheredRuns : (fuel : Nat) → List (List Text) → Action Unit
  | 0, _ => throw .killed
  | _, [] => return
  | fuel + 1, command :: commands => do
    let before ← Action.lastStatus
    let s ← get
    let (outcome, t) := outcomeOf (goOn fuel "xargs" "" command) (s.fork.connect 0 .sink)
    afterProcess s t outcome
    let status ← Action.lastStatus
    Action.status (if status = 0 then before else if status < 126 then 123 else status)
    if status = 126 ∨ status = 127 then return
    gatheredRuns fuel commands

/-- Runs a shell in the place of this process. -/
def shell : (fuel : Nat) → (own : Text) → List Text → Action Unit
  | 0, _, _ => throw .killed
  | fuel + 1, own, words => do
    Action.update fun p => Process.fresh p.id p.ancestors p.descriptors p.environment
    let here := BuiltIn.pathTo (← get).files.here
    modify fun s => { s with process.name := own }.assign "PWD".toList here
    match Task.ofWords own false [] (words.length + 1) words with
    | .error message => refuse message 2
    | .ok task =>
      Action.update fun p =>
        { p with name := task.name, arguments := task.arguments, options := task.options }
      let script ←
        match task.source with
        | .script t => pure t
        | .input => do
          let (t, s) := (← get).takeAll 0
          set s
          pure t
        | .file path => do
          match scriptAt (← get) path with
          | .ok (t, s) =>
            set s
            pure t
          | .error e =>
            Action.update fun p => { p with name := own }
            Action.complain (readRefusal path e)
            Action.status 2
            throw .exit
      whole fuel (run fuel false (.ofScript script))

end

end DefectGate.Workspace.Shell
