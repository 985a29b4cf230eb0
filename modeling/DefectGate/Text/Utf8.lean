import DefectGate.Bytes

/-!
# UTF-8

A decoder that moves through a stream one byte at a time. Between two characters it holds nothing;
inside one it holds the bits read so far, how many bytes are owed and which bytes may come next, so
that overlong forms, surrogates and numbers above U+10FFFF are refused at the earliest byte.
A sequence that breaks off is one error, however many of its bytes were read, and the byte that
broke it is read again as the start of a character. A newline therefore always ends whatever was
open before it.
-/
namespace DefectGate.Text.Utf8

def encodeChars (cs : List Char) : Bytes := cs.flatMap String.utf8EncodeChar

def encode (s : String) : Bytes := encodeChars s.toList

/-- What stands for a broken sequence in lenient decoding. -/
def replacement : Char := '\uFFFD'

/-- Where a decoder stands: between characters, or inside one that still owes the next byte (in
the range `low` to `high`) and `more` bytes after it. -/
inductive State where
  | between
  | within (value more : Nat) (low high : UInt8)
  deriving DecidableEq, Repr

/-- One read item: a character, or `none` for a broken sequence. -/
abbrev Item := Option Char

/-- A byte met between characters. -/
def lead (b : UInt8) : List Item × State :=
  if b < 0x80 then ([some (Char.ofNat b.toNat)], .between)
  else if b < 0xC2 then ([none], .between)
  else if b < 0xE0 then ([], .within (b.toNat - 0xC0) 0 0x80 0xBF)
  else if b = 0xE0 then ([], .within 0 1 0xA0 0xBF)
  else if b = 0xED then ([], .within 13 1 0x80 0x9F)
  else if b < 0xF0 then ([], .within (b.toNat - 0xE0) 1 0x80 0xBF)
  else if b = 0xF0 then ([], .within 0 2 0x90 0xBF)
  else if b < 0xF4 then ([], .within (b.toNat - 0xF0) 2 0x80 0xBF)
  else if b = 0xF4 then ([], .within 4 2 0x80 0x8F)
  else ([none], .between)

def feed : State → UInt8 → List Item × State
  | .between, b => lead b
  | .within value more low high, b =>
    if low ≤ b ∧ b ≤ high then
      match more with
      | 0 => ([some (Char.ofNat (value * 64 + (b.toNat - 0x80)))], .between)
      | more + 1 => ([], .within (value * 64 + (b.toNat - 0x80)) more 0x80 0xBF)
    else (none :: (lead b).1, (lead b).2)

/-- The items that the end of the stream adds: one error if a character is still open. -/
def close : State → List Item
  | .between => []
  | .within .. => [none]

/-- A decoder together with what it has read, newest first. -/
structure Scan where
  state : State
  read : List Item

def Scan.push (s : Scan) (b : UInt8) : Scan :=
  ⟨(feed s.state b).2, (feed s.state b).1.reverse ++ s.read⟩

def Scan.items (s : Scan) : List Item := (close s.state ++ s.read).reverse

/-- Everything in a stream, in order. -/
def items (bs : Bytes) : List Item := (bs.foldl Scan.push ⟨.between, []⟩).items

/-- Lenient decoding: each broken sequence becomes one replacement character. -/
def decodeLossy (bs : Bytes) : List Char := (items bs).map (·.getD replacement)

/-- Strict decoding: one broken sequence refuses the whole stream. -/
def decode? (bs : Bytes) : Option (List Char) :=
  let read := items bs
  if read.all Option.isSome then some (read.map (·.getD replacement)) else none

def toStringLossy (bs : Bytes) : String := String.ofList (decodeLossy bs)

def toString? (bs : Bytes) : Option String := (decode? bs).map String.ofList

end DefectGate.Text.Utf8
