import DefectGate.Workspace.Shell.Cursor

/-!
# The grammar of scripts

A script is read line by line into commands. What can not be read becomes a command of its own, so
that the lines before it still run.
-/
namespace DefectGate.Workspace.Shell

/-- How the part of a word ends that is being read. -/
inductive Extent where
  /-- Before a blank or an operator. -/
  | bare
  /-- With a double quote. -/
  | quoted
  /-- With a curly bracket, inside double quotes or not. -/
  | braces (quoted : Bool)
  /-- With two closing brackets. -/
  | arithmetic
  /-- With the text. -/
  | document
  deriving DecidableEq, Repr

namespace Extent

def isQuoted : Extent → Bool
  | .bare | .braces false => false
  | _ => true

/-- Whether a backslash in a quoted part makes a character stand for itself. -/
def escapes (x : Extent) (c : Char) : Bool :=
  c ∈ ['$', '\x60', '\\'] || (c = '"' && x ≠ .document) || (c = '\x7d' && x = .braces true)

/-- What is wrong if the script ends before the part does. -/
def complaint? : Extent → Option String
  | .bare | .document => none
  | .quoted | .braces true => some "Unterminated quoted string"
  | .braces false => some "Missing '\x7d'"
  | .arithmetic => some "Missing '))'"

end Extent

/-- The sign that tells what a parameter in brackets stands for: its length, whether a pattern
follows it, and the form that it makes of the word after it. -/
def formAt (t : Text) : Nat × Bool × (Word → Form) :=
  match t with
  | ':' :: '-' :: _ => (2, false, .valueOr true)
  | '-' :: _ => (1, false, .valueOr false)
  | ':' :: '=' :: _ => (2, false, .assigned true)
  | '=' :: _ => (1, false, .assigned false)
  | ':' :: '+' :: _ => (2, false, .insteadOf true)
  | '+' :: _ => (1, false, .insteadOf false)
  | ':' :: '?' :: _ => (2, false, .demanded true)
  | '?' :: _ => (1, false, .demanded false)
  | '%' :: '%' :: _ => (2, true, .trimmed true true)
  | '%' :: _ => (1, true, .trimmed true false)
  | '#' :: '#' :: _ => (2, true, .trimmed false true)
  | '#' :: _ => (1, true, .trimmed false false)
  | ':' :: _ :: _ => (2, false, fun _ => .unknown)
  | _ => (1, false, fun _ => .unknown)

/-- The parameter whose length is asked for. -/
def measured? (t : Text) : Option Text :=
  match t with
  | '#' :: c :: rest =>
    let name := parameterName (c :: rest)
    let after := (c :: rest).drop name.length
    if name ≠ [] ∧ after.head? = some '\x7d' then some name else none
  | _ => none

/-- The kind of a redirection and the descriptor that it means without a number. -/
def redirectionKind (sign : String) : Redirection.Kind × Nat :=
  match sign with
  | ">" => (.newOutput, 1)
  | ">|" => (.output, 1)
  | ">>" => (.append, 1)
  | ">&" => (.duplicate, 1)
  | "<&" => (.duplicate, 0)
  | "<>" => (.both, 0)
  | "<" => (.input, 0)
  | _ => (.document, 0)

/-- Commands whose names no function may have. -/
def specialCommands : List String :=
  [":", ".", "break", "continue", "eval", "exec", "exit", "export", "local", "readonly", "return",
    "set", "shift", "times", "trap", "unset"]

namespace Reading

mutual

/-- The rest of a part of a word. `inner` tells that quotes have been opened between brackets that
are quoted themselves; `depth` counts the round brackets that are open. -/
def pieces : (fuel : Nat) → Extent → (inner : Bool) → (depth : Nat) → Reading Word
  | 0, _, _, _ => return []
  | fuel + 1, x, inner, depth => do
    let more := pieces fuel x
    let keep (c : Char) (quoted : Bool) (depth : Nat) : Reading Word := do
      skip 1
      return prepend c quoted (← more inner depth)
    match (← get).rest with
    | [] =>
      match x.complaint? with
      | some message => fail message
      | none => return []
    | '\\' :: '\n' :: _ =>
      skip 2
      more inner depth
    | '\\' :: c :: _ =>
      if x.isQuoted && !x.escapes c then keep '\\' true depth
      else
        skip 1
        keep c true depth
    | '"' :: _ =>
      if x = .arithmetic ∨ x = .document then keep '"' true depth
      else
        skip 1
        if x = .quoted then return []
        else if x = .braces true then return .text [] true :: (← more (!inner) depth)
        else
          let w ← pieces fuel .quoted false 0
          let mayVanish :=
            match w with
            | [.parameter ['@'] .value _] => true
            | _ => false
          return (if mayVanish then w else .text [] true :: w) ++ (← more inner depth)
    | '\'' :: rest =>
      if x.isQuoted then keep '\'' true depth
      else
        match upTo '\'' rest with
        | none => failAtEnd "Unterminated quoted string"
        | some t =>
          skip (t.length + 2)
          return .text t true :: (← more inner depth)
    | '\x60' :: _ =>
      skip 1
      let p ← backQuoted fuel x.isQuoted
      return p :: (← more inner depth)
    | '$' :: _ =>
      skip 1
      match ← afterDollar fuel x.isQuoted with
      | some p => return p :: (← more inner depth)
      | none => return prepend '$' x.isQuoted (← more inner depth)
    | c :: rest =>
      if x = .bare ∧ endsWord c then return []
      else if c = '\x7d' ∧ !inner ∧ (x = .braces true ∨ x = .braces false) then
        skip 1
        return []
      else if x = .arithmetic ∧ c = '(' then keep c true (depth + 1)
      else if x = .arithmetic ∧ c = ')' then
        if depth = 0 ∧ rest.head? = some ')' then
          skip 2
          return []
        else keep c true (depth - 1)
      else keep c x.isQuoted depth

/-- What a dollar sign introduces; nothing, if it stands for itself. -/
def afterDollar : (fuel : Nat) → (quoted : Bool) → Reading (Option Piece)
  | 0, _ => return none
  | fuel + 1, quoted => do
    match (← get).rest with
    | '(' :: '(' :: _ =>
      skip 2
      return some (.number (← pieces fuel .arithmetic false 0) quoted)
    | '(' :: _ =>
      skip 1
      let script ← list fuel true
      closing fuel ")"
      return some (.output script quoted)
    | '\x7b' :: _ =>
      skip 1
      return some (← bracketed fuel quoted)
    | t =>
      let name := parameterName t
      -- A number outside brackets has one digit.
      let name := if name.head?.any isDigit then name.take 1 else name
      if name = [] then return none
      else
        skip name.length
        return some (.parameter name .value quoted)

/-- The parameter after an opening curly bracket. -/
def bracketed : (fuel : Nat) → (quoted : Bool) → Reading Piece
  | 0, quoted => return .parameter [] .unknown quoted
  | fuel + 1, quoted => do
    let t := (← get).rest
    if let some name := measured? t then
      skip (name.length + 2)
      return .parameter name .length quoted
    else if t.head? = some '#' ∧ t[1]? ≠ some '\x7d' ∧ t[2]? = some '\x7d' then
      skip 3
      return .parameter [] .unknown quoted
    else
      let name := parameterName t
      skip name.length
      match (← get).rest with
      | '\x7d' :: _ =>
        skip 1
        return .parameter name (if name = [] then .unknown else .value) quoted
      | t =>
        let (length, isTrim, form) := formAt t
        modify fun c => { c with rest := c.rest.drop length }
        let w ← pieces fuel (.braces (quoted && !isTrim)) false 0
        return .parameter name (if name = [] then .unknown else form w) quoted

/-- The output of the script between back quotes, the first of which has been read. -/
def backQuoted : (fuel : Nat) → (quoted : Bool) → Reading Piece
  | 0, quoted => return .text [] quoted
  | fuel + 1, quoted => do
    match upToBackQuote quoted (← get).rest with
    | none => failAtEnd "EOF in backquote substitution"
    | some (script, length) =>
      skip length
      match (list fuel true).run (.start script) with
      | .ok (c, _) => return .output c quoted
      | .error e => throw e

/-- The next token. -/
def token : (fuel : Nat) → Reading Token
  | 0 => return .finish
  | fuel + 1 => do
    if let some t := (← get).ahead then
      modify fun c => { c with ahead := none }
      return t
    else
      skip (gap (← get).rest)
      match (← get).rest with
      | [] => return .finish
      | '\n' :: _ =>
        endLine
        return .newline
      | t =>
        match redirectionAt? t, signAt? operators t with
        | some (r, length), _ =>
          skip length
          return r
        | none, some name =>
          skip name.length
          return .operator name
        | none, none => return .word (← pieces fuel .bare false 0)

/-- The next token that is not the end of a line. -/
def significant : (fuel : Nat) → Reading Token
  | 0 => return .finish
  | fuel + 1 => do
    let t ← token fuel
    if t.isNewline then significant fuel else return t

/-- Goes past an operator that has to come next. -/
def closing : (fuel : Nat) → String → Reading Unit
  | 0, _ => return
  | fuel + 1, name => do
    let t ← token fuel
    if !t.isOperator name then unexpectedFor t (Token.quoted name)

/-- Goes past a keyword that has to come next. -/
def keyword : (fuel : Nat) → String → Reading Unit
  | 0, _ => return
  | fuel + 1, name => do
    let t ← token fuel
    if !t.isKeyword name then unexpectedFor t (Token.quoted name)

/-- Commands up to what ends them. -/
def list : (fuel : Nat) → (mayBeEmpty : Bool) → Reading Command
  | 0, _ => return .nothing
  | fuel + 1, mayBeEmpty => do
    let t ← significant fuel
    unread t
    if t.isFinish || (mayBeEmpty && t.endsList) then return .nothing
    else
      let c ← andOr fuel
      let t ← token fuel
      let inBackground := t.isOperator "&"
      let c := if inBackground then .background c else c
      if inBackground || t.isOperator ";" || t.isNewline then
        return .sequence c (← list fuel true)
      else
        unread t
        return c

/-- The commands of one line; there are none at the end of the script. -/
def line : (fuel : Nat) → Reading (Option Command)
  | 0 => return none
  | fuel + 1 => do
    let t ← token fuel
    if t.isFinish then return none
    else if t.isNewline then return some .nothing
    else
      unread t
      let c ← andOr fuel
      let t ← token fuel
      let inBackground := t.isOperator "&"
      let c := if inBackground then .background c else c
      if t.isNewline || t.isFinish then return some c
      else if inBackground || t.isOperator ";" then
        return some (.sequence c ((← line fuel).getD .nothing))
      else unexpected t

/-- Pipelines, each of which depends on how the one before it ended. -/
def andOr : (fuel : Nat) → Reading Command
  | 0 => return .nothing
  | fuel + 1 => do joined fuel (← pipeline fuel)

def joined : (fuel : Nat) → Command → Reading Command
  | 0, c => return c
  | fuel + 1, c => do
    let t ← token fuel
    if t.isOperator "&&" || t.isOperator "||" then
      unread (← significant fuel)
      let d ← pipeline fuel
      joined fuel (if t.isOperator "&&" then .both c d else .either c d)
    else
      unread t
      return c

def pipeline : (fuel : Nat) → Reading Command
  | 0 => return .nothing
  | fuel + 1 => do
    let t ← token fuel
    if t.isKeyword "!" then return .negation (← piped fuel)
    else
      unread t
      piped fuel

def piped : (fuel : Nat) → Reading Command
  | 0 => return .nothing
  | fuel + 1 => do
    let c ← command fuel
    let t ← token fuel
    unread t
    if t.isOperator "|" then return .pipe (c :: (← receivers fuel)) else return c

/-- The commands after the first one of a pipe. -/
def receivers : (fuel : Nat) → Reading (List Command)
  | 0 => return []
  | fuel + 1 => do
    let t ← token fuel
    if t.isOperator "|" then
      unread (← significant fuel)
      let c ← command fuel
      return c :: (← receivers fuel)
    else
      unread t
      return []

def command : (fuel : Nat) → Reading Command
  | 0 => return .nothing
  | fuel + 1 => do
    let t ← token fuel
    let line := (← get).line
    match ← compound? fuel t with
    | some c =>
      let rs ← redirections fuel
      return if rs.isEmpty then c else .redirected line c rs
    | none =>
      match t with
      | .word _ | .redirection .. =>
        if t.keyword?.isSome then unexpected t
        else
          unread t
          simple fuel line [] [] []
      | _ => unexpected t

/-- The compound command that a token begins, if it begins one. -/
def compound? : (fuel : Nat) → Token → Reading (Option Command)
  | 0, _ => return none
  | fuel + 1, t => do
    if t.isOperator "(" then
      let c ← list fuel false
      closing fuel ")"
      return some (.subshell c)
    else
      match t.keyword? with
      | some "\x7b" =>
        let c ← list fuel false
        keyword fuel "\x7d"
        return some c
      | some "if" => return some (← branches fuel)
      | some "while" => return some (← loop fuel false)
      | some "until" => return some (← loop fuel true)
      | some "for" => return some (← each fuel)
      | some "case" => return some (← selection fuel)
      | _ => return none

/-- What follows an `if` or `elif`, up to its `fi`. -/
def branches : (fuel : Nat) → Reading Command
  | 0 => return .nothing
  | fuel + 1 => do
    let test ← list fuel false
    keyword fuel "then"
    let yes ← list fuel false
    let t ← token fuel
    if t.isKeyword "elif" then return .conditional test yes (← branches fuel)
    else if t.isKeyword "else" then
      let no ← list fuel false
      keyword fuel "fi"
      return .conditional test yes no
    else
      unread t
      keyword fuel "fi"
      return .conditional test yes .nothing

/-- The commands between `do` and `done`. -/
def body : (fuel : Nat) → Reading Command
  | 0 => return .nothing
  | fuel + 1 => do
    keyword fuel "do"
    let c ← list fuel false
    keyword fuel "done"
    return c

def loop : (fuel : Nat) → Bool → Reading Command
  | 0, _ => return .nothing
  | fuel + 1, whileFailing => do
    let test ← list fuel false
    return .loop whileFailing test (← body fuel)

def each : (fuel : Nat) → Reading Command
  | 0 => return .nothing
  | fuel + 1 => do
    let line := (← get).line
    match ← token fuel with
    | .word [.text name false] =>
      if !isName name then fail "Bad for loop variable"
      let t ← significant fuel
      if t.isKeyword "in" then
        let (ws, t) ← words fuel
        if !(t.isNewline || t.isOperator ";") then unexpected t
        unread (← significant fuel)
        return .each line name (some ws) (← body fuel)
      else
        if !t.isOperator ";" then unread t
        unread (← significant fuel)
        return .each line name none (← body fuel)
    | _ => fail "Bad for loop variable"

/-- Words and the token after them. -/
def words : (fuel : Nat) → Reading (List Word × Token)
  | 0 => return ([], .finish)
  | fuel + 1 => do
    match ← token fuel with
    | .word w =>
      let (ws, t) ← words fuel
      return (w :: ws, t)
    | t => return ([], t)

def selection : (fuel : Nat) → Reading Command
  | 0 => return .nothing
  | fuel + 1 => do
    let line := (← get).line
    match ← token fuel with
    | .word subject =>
      let t ← significant fuel
      if !t.isKeyword "in" then unexpectedFor t (Token.quoted "in")
      return .selection line subject (← arms fuel)
    | t => unexpectedFor t "word"

/-- The arms of a `case`, up to its `esac`. -/
def arms : (fuel : Nat) → Reading (List (List Word × Command))
  | 0 => return []
  | fuel + 1 => do
    let t ← significant fuel
    if t.isKeyword "esac" then return []
    else
      if !t.isOperator "(" then unread t
      let ps ← patterns fuel
      let c ← list fuel true
      let t ← significant fuel
      if t.isKeyword "esac" then return [(ps, c)]
      else if t.isOperator ";;" then return (ps, c) :: (← arms fuel)
      else unexpectedFor t (Token.quoted ";;")

/-- Patterns with bars between them, up to the bracket after them. -/
def patterns : (fuel : Nat) → Reading (List Word)
  | 0 => return []
  | fuel + 1 => do
    match ← token fuel with
    | .word w =>
      let t ← token fuel
      if t.isOperator "|" then return w :: (← patterns fuel)
      else if t.isOperator ")" then return [w]
      else unexpectedFor t (Token.quoted ")")
    | t => unexpectedFor t (Token.quoted ")")

def redirections : (fuel : Nat) → Reading (List Redirection)
  | 0 => return []
  | fuel + 1 => do
    match ← token fuel with
    | .redirection n sign =>
      let r ← redirection fuel n sign
      return r :: (← redirections fuel)
    | t =>
      unread t
      return []

/-- A redirection whose sign has been read. -/
def redirection : (fuel : Nat) → Option Nat → String → Reading Redirection
  | 0, _, _ => return .mk 0 .input []
  | fuel + 1, n, sign => do
    let (kind, usual) := redirectionKind sign
    match ← token fuel with
    | .word w =>
      if kind = .document then
        let content ← takeDocument (literal w) (sign = "<<-")
        if hasQuotes w then return .mk (n.getD usual) kind [.text content true]
        else
          match (pieces fuel .document false 0).run (.start content) with
          | .ok (content, _) => return .mk (n.getD usual) kind content
          | .error e => throw e
      else return .mk (n.getD usual) kind w
    | t => unexpected t

/-- The rest of a simple command or of the definition of a function. What has been read of it is
given newest first. -/
def simple : (fuel line : Nat) → List (Text × Word) → List Word → List Redirection →
    Reading Command
  | 0, _, _, _, _ => return .nothing
  | fuel + 1, line, as, ws, rs => do
    match ← token fuel with
    | .word w =>
      match if ws.isEmpty then assignment? w else none with
      | some a => simple fuel line (a :: as) ws rs
      | none => simple fuel line as (w :: ws) rs
    | .redirection n sign =>
      let r ← redirection fuel n sign
      simple fuel line as ws (r :: rs)
    | t =>
      match as, ws, rs with
      | [], [w], [] =>
        if t.isOperator "(" then
          closing fuel ")"
          let name := literal w
          if hasQuotes w || !isName name || specialCommands.any (·.toList = name) then
            fail "Bad function name"
          unread (← significant fuel)
          return .function name (← command fuel)
        else
          unread t
          return .simple line [] [w] []
      | _, _, _ =>
        unread t
        return .simple line as.reverse ws.reverse rs.reverse

end

/-- The commands of a script from a cursor on. Every line is at least one character long, and a
text of `n` characters nests less than sixteen times as deep in the grammar. -/
def script : (lines : Nat) → Cursor → Command
  | 0, _ => .nothing
  | lines + 1, c =>
    match (line (16 * c.rest.length + 64)).run c with
    | .error e => .malformed e.line e.message
    | .ok (none, _) => .nothing
    | .ok (some command, c) => .sequence command (script lines c)

end Reading

/-- The word that a text is in which only what follows a dollar sign or a back quote is expanded. -/
def Word.ofDocument (t : Text) : Word :=
  match (Reading.pieces (16 * t.length + 64) .document false 0).run (.start t) with
  | .ok (w, _) => w
  | .error _ => [.text t true]

/-- The command that a script means. -/
def Command.ofScript (t : Text) : Command := Reading.script (t.length + 1) (.start t)

end DefectGate.Workspace.Shell
