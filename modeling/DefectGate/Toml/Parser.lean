import DefectGate.Toml.Document
import DefectGate.Toml.Quoted

/-!
# Reading TOML

The grammar of keys, values and statements. Recursion is bounded by the length of the text; values
may nest less than eighty deep, and a key may have less than eighty parts.
-/
namespace DefectGate.Toml.Parser

open Scalar (Reader expect)

/-- Nesting and the parts of a key stay below this number. -/
def nestingLimit : Nat := 80

def mostParts : Nat := nestingLimit - 1

def isSpace (c : Char) : Bool := c = ' ' || c = '\t'

def skipSpaces (cs : List Char) : List Char := cs.dropWhile isSpace

/-- Skips a comment, if one stands here, up to the end of its line. -/
def skipComment : List Char → List Char
  | '#' :: rest => rest.dropWhile Quoted.isPlain
  | cs => cs

/-- Skips spaces, line ends and comments. -/
def skipBlank : Nat → List Char → List Char
  | 0, cs => cs
  | fuel + 1, cs =>
    match skipSpaces cs with
    | '\n' :: rest => skipBlank fuel rest
    | '\r' :: '\n' :: rest => skipBlank fuel rest
    | '#' :: rest => skipBlank fuel (rest.dropWhile Quoted.isPlain)
    | rest => rest

/-- The end of a line, perhaps after a comment, or of the text. -/
def lineEnd : Reader Unit := fun cs =>
  match skipComment (skipSpaces cs) with
  | [] => some ((), [])
  | '\n' :: rest => some ((), rest)
  | '\r' :: '\n' :: rest => some ((), rest)
  | _ => none

def isBareKey (c : Char) : Bool := c.isAlphanum || c = '_' || c = '-'

/-- One part of a key. -/
def keyPart : Reader String := fun cs =>
  let bare := cs.takeWhile isBareKey
  if bare.isEmpty then Quoted.oneLine cs else some (String.ofList bare, cs.drop bare.length)

/-- A key of one or more parts with points between them, as the parts before the last one and the
last one. -/
def key : Nat → Reader (List String × String)
  | 0, _ => none
  | parts + 1, cs => do
    let (part, rest) ← keyPart (skipSpaces cs)
    match skipSpaces rest with
    | '.' :: rest' =>
      let ((path, last), rest'') ← key parts rest'
      return ((part :: path, last), rest'')
    | rest' => return (([], part), rest')

mutual

/-- A value inside `depth` others. -/
def value (depth : Nat) : Nat → Reader Toml
  | 0, _ => none
  | fuel + 1, cs =>
    match cs with
    | '"' :: _ => (Quoted.string cs).map fun (s, rest) => (.string s, rest)
    | '\'' :: _ => (Quoted.string cs).map fun (s, rest) => (.string s, rest)
    | '[' :: rest =>
      if depth + 1 < nestingLimit then
        match skipBlank rest.length rest with
        | ']' :: rest' => some (.array [], rest')
        | rest' => (elements (depth + 1) fuel rest').map fun (vs, rest'') => (.array vs, rest'')
      else none
    | '\x7b' :: rest =>
      if depth + 1 < nestingLimit then
        match skipSpaces rest with
        | '\x7d' :: rest' => some (.table [], rest')
        | rest' =>
          match pairs (depth + 1) fuel rest' with
          | none => none
          | some (ps, rest'') => (inlineTable? ps).map fun t => (t, rest'')
      else none
    | _ => Scalar.unquoted cs

/-- One or more elements of an array and its end; a comma may stand before the end. -/
def elements (depth : Nat) : Nat → Reader (List Toml)
  | 0, _ => none
  | fuel + 1, cs =>
    match value depth fuel cs with
    | none => none
    | some (v, rest) =>
      match skipBlank rest.length rest with
      | ']' :: rest' => some ([v], rest')
      | ',' :: rest' =>
        match skipBlank rest'.length rest' with
        | ']' :: rest'' => some ([v], rest'')
        | rest'' => (elements depth fuel rest'').map fun (vs, end') => (v :: vs, end')
      | _ => none

/-- One or more pairs of an inline table and its end, all on one line. -/
def pairs (depth : Nat) : Nat → Reader (List (List String × String × Toml))
  | 0, _ => none
  | fuel + 1, cs =>
    match key mostParts cs with
    | some ((path, name), '=' :: rest) =>
      match value depth fuel (skipSpaces rest) with
      | none => none
      | some (v, rest) =>
        match skipSpaces rest with
        | '\x7d' :: rest' => some ([(path, name, v)], rest')
        | ',' :: rest' =>
          (pairs depth fuel rest').map fun (ps, end') => ((path, name, v) :: ps, end')
        | _ => none
    | _ => none

end

def pair : Reader Statement := fun cs => do
  let ((path, name), rest) ← key mostParts cs
  let (_, rest) ← expect '=' rest
  let (v, rest) ← value 0 (rest.length + 1) (skipSpaces rest)
  let (_, rest) ← lineEnd rest
  return (.pair path name v, rest)

def header : Reader Statement
  | '[' :: '[' :: rest => do
    let ((path, name), rest) ← key mostParts rest
    let (_, rest) ← expect ']' rest
    let (_, rest) ← expect ']' rest
    let (_, rest) ← lineEnd rest
    return (.element path name, rest)
  | '[' :: rest => do
    let ((path, name), rest) ← key mostParts rest
    let (_, rest) ← expect ']' rest
    let (_, rest) ← lineEnd rest
    return (.table path name, rest)
  | _ => none

/-- All statements of a text that starts at the beginning of a line; `read` is newest first. -/
def statements : Nat → List Statement → List Char → Option (List Statement)
  | 0, _, _ => none
  | fuel + 1, read, cs =>
    match skipSpaces cs with
    | [] => some read.reverse
    | '\n' :: rest => statements fuel read rest
    | '\r' :: '\n' :: rest => statements fuel read rest
    | '#' :: rest =>
      match lineEnd ('#' :: rest) with
      | none => none
      | some (_, rest') => statements fuel read rest'
    | '[' :: rest =>
      match header ('[' :: rest) with
      | none => none
      | some (s, rest') => statements fuel (s :: read) rest'
    | rest =>
      match pair rest with
      | none => none
      | some (s, rest') => statements fuel (s :: read) rest'

/-- A mark of the byte order may open a text and says nothing. -/
def dropByteOrderMark : List Char → List Char
  | '\uFEFF' :: rest => rest
  | cs => cs

end DefectGate.Toml.Parser

namespace DefectGate.Toml

/-- The entries of a document in order, or nothing if the text is not one. -/
def parse? (text : String) : Option Entries := do
  let cs := Parser.dropByteOrderMark text.toList
  ofStatements? (← Parser.statements (cs.length + 1) [] cs)

end DefectGate.Toml
