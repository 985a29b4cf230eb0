import DefectGate.Workspace.Shell.Characters

/-!
# Reading scripts

A cursor in a script, and the lexemes that are read off it: words, operators, redirections and ends
of lines.
-/
namespace DefectGate.Workspace.Shell

inductive Token where
  | word (w : Word)
  | operator (name : String)
  | redirection (descriptor : Option Nat) (name : String)
  | newline
  | finish

namespace Token

/-- Words that have a meaning of their own where a command may start. -/
def keywords : List String :=
  ["!", "case", "do", "done", "elif", "else", "esac", "fi", "for", "if", "in", "then", "until",
    "while", "\x7b", "\x7d"]

def keyword? : Token → Option String
  | .word [.text t false] => keywords.find? (·.toList = t)
  | _ => none

def isKeyword (t : Token) (name : String) : Bool := t.keyword? = some name

def isOperator (t : Token) (name : String) : Bool :=
  match t with
  | .operator other => other = name
  | _ => false

def isNewline : Token → Bool
  | .newline => true
  | _ => false

def isFinish : Token → Bool
  | .finish => true
  | _ => false

/-- Whether a list of commands ends before this token. -/
def endsList (t : Token) : Bool :=
  t.isFinish || t.isOperator ")" || t.isOperator ";;" ||
    t.keyword?.any (· ∈ ["do", "done", "elif", "else", "esac", "fi", "then", "\x7d"])

def quoted (name : String) : String := "\"" ++ name ++ "\""

def description (t : Token) : String :=
  match t with
  | .word _ => (t.keyword?.map quoted).getD "word"
  | .operator name => quoted name
  | .redirection .. => "redirection"
  | .newline => "newline"
  | .finish => "end of file"

end Token

/-- Why a script can not be read, and in which line. -/
structure GrammarError where
  line : Nat
  message : String
  deriving DecidableEq, Repr

structure Cursor where
  rest : Text
  line : Nat
  /-- How many lines were taken out of the text after the current one. -/
  hidden : Nat
  /-- A token that was read too early. -/
  ahead : Option Token

def Cursor.start (t : Text) : Cursor := ⟨t, 1, 0, none⟩

abbrev Reading := StateT Cursor (Except GrammarError)

namespace Reading

def fail (message : String) : Reading α := do throw ⟨(← get).line, message⟩

def unexpected (t : Token) : Reading α := fail s!"{t.description} unexpected"

def unexpectedFor (t : Token) (expected : String) : Reading α :=
  fail s!"{t.description} unexpected (expecting {expected})"

def unread (t : Token) : Reading Unit := modify fun c => { c with ahead := some t }

/-- Goes past characters. -/
def skip (n : Nat) : Reading Unit := modify fun c =>
  { c with rest := c.rest.drop n, line := c.line + (c.rest.take n).count '\n' }

/-- Complains about a text that ends too early. -/
def failAtEnd (message : String) : Reading α := do
  skip (← get).rest.length
  fail message

def endLine : Reading Unit := do
  skip 1
  modify fun c => { c with line := c.line + c.hidden, hidden := 0 }

/-- Takes the document that starts after the current line out of the text. -/
def takeDocument (delimiter : Text) (dropTabs : Bool) : Reading Text := do
  let c ← get
  let (line, more) := upToLineEnd .plain false c.rest
  let (content, lines, after) := documentLines delimiter dropTabs (more.length + 1) more
  set { c with rest := line ++ '\n' :: after, hidden := c.hidden + lines }
  return content

end Reading

/-- Operators between commands, those first that others begin with. -/
def operators : List String := ["&&", "||", ";;", ";", "&", "|", "(", ")"]

def redirectionSigns : List String := ["<<-", "<<", "<&", "<>", "<", ">>", ">&", ">|", ">"]

def signAt? (signs : List String) (t : Text) : Option String :=
  signs.find? fun s => s.toList.isPrefixOf t

/-- A redirection and how many characters it takes; a single digit before it is a descriptor. -/
def redirectionAt? (t : Text) : Option (Token × Nat) :=
  match signAt? redirectionSigns t, t with
  | some s, _ => some (.redirection none s, s.length)
  | none, c :: rest =>
    if isDigit c then
      (signAt? redirectionSigns rest).map fun s =>
        (.redirection (some (c.toNat - '0'.toNat)) s, s.length + 1)
    else none
  | none, [] => none

/-- Puts a character before a word. -/
def prepend (c : Char) (quoted : Bool) : Word → Word
  | .text t q :: w =>
    if q = quoted then .text (c :: t) q :: w else .text [c] quoted :: .text t q :: w
  | w => .text [c] quoted :: w

/-- The name and value of a word that assigns. -/
def assignment? : Word → Option (Text × Word)
  | .text t false :: rest =>
    let name := t.takeWhile isNameChar
    match t.dropWhile isNameChar with
    | '=' :: value =>
      if isName name then some (name, if value = [] then rest else .text value false :: rest)
      else none
    | _ => none
  | _ => none

/-- The text that a word is if nothing in it is expanded. -/
def literal (w : Word) : Text :=
  w.flatMap fun p =>
    match p with
    | .text t _ => t
    | _ => []

def hasQuotes (w : Word) : Bool :=
  w.any fun p =>
    match p with
    | .text _ quoted => quoted
    | _ => false

end DefectGate.Workspace.Shell
