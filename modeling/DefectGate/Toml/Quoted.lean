import DefectGate.Toml.Scalar

/-!
# TOML strings

Strings between double quotes have escapes, strings between single quotes have none. Three quotes
open a string of many lines: a newline right after them is dropped, other line ends are read as
newlines, and a backslash at the end of a line folds it into the text that follows.
-/
namespace DefectGate.Toml.Quoted

open Scalar (Reader)

/-- Whether a character may stand for itself in text: no control character but the tab. -/
def isPlain (c : Char) : Bool := c = '\t' || (32 ≤ c.toNat && c.toNat ≠ 127)

/-- The character with the number that hexadecimal digits stand for, if there is one. -/
def numbered? (ds : List Char) : Option Char :=
  if ds.all Scalar.isHexDigit then
    let n := Scalar.valueIn 16 ds
    if n < 0xD800 ∨ (0xE000 ≤ n ∧ n < 0x110000) then some (Char.ofNat n) else none
  else none

def shortEscape? (c : Char) : Option Char :=
  if c = '"' ∨ c = '\\' then some c
  else if c = 'b' then some '\x08'
  else if c = 'f' then some '\x0c'
  else if c = 'n' then some '\n'
  else if c = 'r' then some '\r'
  else if c = 't' then some '\t'
  else none

/-- A string on one line after its double quote; `read` is newest first. -/
def basicBody (read : List Char) : Reader (List Char)
  | [] => none
  | '"' :: rest => some (read.reverse, rest)
  | '\\' :: 'u' :: a :: b :: c :: d :: rest =>
    match numbered? [a, b, c, d] with
    | none => none
    | some e => basicBody (e :: read) rest
  | '\\' :: 'U' :: a :: b :: c :: d :: e :: f :: g :: h :: rest =>
    match numbered? [a, b, c, d, e, f, g, h] with
    | none => none
    | some e => basicBody (e :: read) rest
  | '\\' :: c :: rest =>
    match shortEscape? c with
    | none => none
    | some d => basicBody (d :: read) rest
  | c :: rest => if isPlain c then basicBody (c :: read) rest else none

/-- A string on one line after its single quote. -/
def literalBody (read : List Char) : Reader (List Char)
  | [] => none
  | '\'' :: rest => some (read.reverse, rest)
  | c :: rest => if isPlain c then literalBody (c :: read) rest else none

/-- Whether a backslash is folding lines: it is not, or it is and no newline has come yet, or it is
and one has. -/
inductive Fold where
  | off
  | pending
  | active
  deriving DecidableEq

/-- A string of many lines after its double quotes. Up to two quotes may stand before the closing
three. -/
def basicLines (fold : Fold) (read : List Char) : Reader (List Char)
  | [] => none
  | '\r' :: '\n' :: rest =>
    match fold with
    | .off => basicLines .off ('\n' :: read) rest
    | _ => basicLines .active read rest
  | '\n' :: rest =>
    match fold with
    | .off => basicLines .off ('\n' :: read) rest
    | _ => basicLines .active read rest
  | c :: rest =>
    if fold ≠ .off ∧ (c = ' ' ∨ c = '\t') then basicLines fold read rest
    else if fold = .pending then none
    else if c = '"' then
      match rest with
      | '"' :: '"' :: '"' :: '"' :: rest => some (('"' :: '"' :: read).reverse, rest)
      | '"' :: '"' :: '"' :: rest => some (('"' :: read).reverse, rest)
      | '"' :: '"' :: rest => some (read.reverse, rest)
      | rest => basicLines .off ('"' :: read) rest
    else if c = '\\' then
      match rest with
      | 'u' :: a :: b :: c :: d :: rest =>
        match numbered? [a, b, c, d] with
        | none => none
        | some e => basicLines .off (e :: read) rest
      | 'U' :: a :: b :: c :: d :: e :: f :: g :: h :: rest =>
        match numbered? [a, b, c, d, e, f, g, h] with
        | none => none
        | some e => basicLines .off (e :: read) rest
      | d :: rest =>
        if d = ' ' ∨ d = '\t' then basicLines .pending read rest
        else if d = '\n' then basicLines .active read rest
        else if d = '\r' ∧ rest.head? = some '\n' then basicLines .pending read rest
        else
          match shortEscape? d with
          | none => none
          | some e => basicLines .off (e :: read) rest
      | [] => none
    else if isPlain c then basicLines .off (c :: read) rest
    else none

/-- A string of many lines after its single quotes. -/
def literalLines (read : List Char) : Reader (List Char)
  | [] => none
  | '\r' :: '\n' :: rest => literalLines ('\n' :: read) rest
  | '\n' :: rest => literalLines ('\n' :: read) rest
  | '\'' :: '\'' :: '\'' :: '\'' :: '\'' :: rest => some (('\'' :: '\'' :: read).reverse, rest)
  | '\'' :: '\'' :: '\'' :: '\'' :: rest => some (('\'' :: read).reverse, rest)
  | '\'' :: '\'' :: '\'' :: rest => some (read.reverse, rest)
  | c :: rest => if isPlain c then literalLines (c :: read) rest else none

/-- Drops a line end at the head. -/
def dropLineBreak : List Char → List Char
  | '\n' :: rest => rest
  | '\r' :: '\n' :: rest => rest
  | cs => cs

/-- A string on one line, as a key may be. -/
def oneLine : Reader String
  | '"' :: rest => (basicBody [] rest).map fun (cs, rest') => (String.ofList cs, rest')
  | '\'' :: rest => (literalBody [] rest).map fun (cs, rest') => (String.ofList cs, rest')
  | _ => none

/-- Any string. -/
def string : Reader String
  | '"' :: '"' :: '"' :: rest =>
    (basicLines .off [] (dropLineBreak rest)).map fun (cs, rest') => (String.ofList cs, rest')
  | '\'' :: '\'' :: '\'' :: rest =>
    (literalLines [] (dropLineBreak rest)).map fun (cs, rest') => (String.ofList cs, rest')
  | cs => oneLine cs

end DefectGate.Toml.Quoted
