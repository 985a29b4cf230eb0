import DefectGate.Bytes

/-!
# Shell scripts

The commands of a POSIX shell as data. A script is a sequence of bytes; here each byte is written as
the character with its number, so that a script can be read without knowing its encoding.
-/
namespace DefectGate.Workspace.Shell

abbrev Text := List Char

def Text.ofBytes (bs : Bytes) : Text := bs.map fun b => Char.ofNat b.toNat

def Text.toBytes (t : Text) : Bytes := t.map fun c => UInt8.ofNat c.toNat

/-- Whether a text is the same as another one or stands before it in a dictionary. -/
def Text.precedes : Text → Text → Bool
  | [], _ => true
  | _ :: _, [] => false
  | a :: as, b :: bs => a.toNat < b.toNat || a == b && Text.precedes as bs

def alphabetical (texts : List Text) : List Text := texts.mergeSort Text.precedes

inductive Redirection.Kind where
  | input
  | output
  /-- An output that may not replace a file. -/
  | newOutput
  | append
  | both
  /-- The word is the number of another descriptor, or a dash to close this one. -/
  | duplicate
  /-- The word is itself what is read. -/
  | document
  deriving DecidableEq, Repr

mutual

/-- What a parameter stands for. With `orEmpty` an empty value counts as none. -/
inductive Form where
  | value
  | length
  | valueOr (orEmpty : Bool) (other : List Piece)
  | assigned (orEmpty : Bool) (other : List Piece)
  | insteadOf (orEmpty : Bool) (other : List Piece)
  /-- Without a value the script ends with a message. -/
  | demanded (orEmpty : Bool) (message : List Piece)
  /-- The value without the shortest or longest part at one end that is like a pattern. -/
  | trimmed (atEnd longest : Bool) (pattern : List Piece)
  | unknown

/-- A part of a word. What a quoted part expands to is neither split nor used as a pattern. -/
inductive Piece where
  | text (t : Text) (quoted : Bool)
  | parameter (name : Text) (form : Form) (quoted : Bool)
  | output (script : Command) (quoted : Bool)
  | number (expression : List Piece) (quoted : Bool)

inductive Redirection where
  | mk (descriptor : Nat) (kind : Redirection.Kind) (word : List Piece)

inductive Command where
  | nothing
  | simple (line : Nat) (assignments : List (Text × List Piece)) (words : List (List Piece))
      (redirections : List Redirection)
  /-- A text that can not be read as a command. -/
  | malformed (line : Nat) (message : String)
  | sequence (a b : Command)
  | background (a : Command)
  | both (a b : Command)
  | either (a b : Command)
  | negation (a : Command)
  | pipe (commands : List Command)
  | subshell (a : Command)
  | conditional (test yes no : Command)
  /-- Repeats while the test succeeds, or while it fails. -/
  | loop (whileFailing : Bool) (test body : Command)
  /-- Without words it runs over the arguments. -/
  | each (line : Nat) (name : Text) (words : Option (List (List Piece))) (body : Command)
  /-- Runs the first arm that has a pattern which the subject is like. -/
  | selection (line : Nat) (subject : List Piece) (arms : List (List (List Piece) × Command))
  | redirected (line : Nat) (a : Command) (redirections : List Redirection)
  | function (name : Text) (body : Command)

end

abbrev Word := List Piece

namespace Redirection

def descriptor : Redirection → Nat
  | mk n _ _ => n

def kind : Redirection → Kind
  | mk _ k _ => k

def word : Redirection → Word
  | mk _ _ w => w

end Redirection
end DefectGate.Workspace.Shell
