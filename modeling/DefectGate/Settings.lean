import DefectGate.Analysis
import DefectGate.Decoding
import DefectGate.Toml.Parser

/-!
# Settings

What a run uses unless it is told otherwise, read from a TOML document. Each key stands alone: a key
that is missing leaves its default, and the first entry with an unknown key or a wrong value is the
one that is reported.
-/
namespace DefectGate

open Decoding (Found)

structure Settings where
  analyzer : String
  optionFlags : List String
  beginMarker : Option String
  endMarker : Option String
  logDir : Host.Path
  timeoutSeconds : Option UInt64
  deriving DecidableEq, Repr

namespace Settings

def default : Settings where
  analyzer := "valgrind"
  optionFlags :=
    ["--leak-check=full", "--show-leak-kinds=all", "--track-origins=yes", "--verbose"]
  beginMarker := none
  endMarker := none
  logDir := .ofString "."
  timeoutSeconds := none

def keys : List String :=
  ["analyzer", "option_flags", "begin_marker", "end_marker", "log_dir", "timeout_secs"]

def found : Toml → Found
  | .string s => .string s
  | .integer n => .integer n
  | .real x => .real (Toml.realLayout.text x)
  | .boolean b => .boolean b
  | .datetime _ => .map
  | .array _ => .sequence
  | .table _ => .map

def asString (expected : String) : Toml → Except Decoding.Error String
  | .string s => .ok s
  | v => .error (.wrongType (found v) expected)

def asText : Toml → Except Decoding.Error String := asString "a string"

def asTexts : Toml → Except Decoding.Error (List String)
  | .array vs => vs.mapM asText
  | v => .error (.wrongType (found v) "a sequence")

def asSeconds : Toml → Except Decoding.Error UInt64
  | .integer n =>
    if 0 ≤ n then .ok (UInt64.ofNat n.toNat) else .error (.wrongValue (.integer n) "u64")
  | v => .error (.wrongType (found v) "u64")

/-- Takes one entry of a document over. -/
def set (s : Settings) (key : String) (v : Toml) : Except Decoding.Error Settings :=
  if key = "analyzer" then do return { s with analyzer := ← asText v }
  else if key = "option_flags" then do return { s with optionFlags := ← asTexts v }
  else if key = "begin_marker" then do return { s with beginMarker := some (← asText v) }
  else if key = "end_marker" then do return { s with endMarker := some (← asText v) }
  else if key = "log_dir" then do
    return { s with logDir := .ofString (← asString "path string" v) }
  else if key = "timeout_secs" then do return { s with timeoutSeconds := some (← asSeconds v) }
  else .error (.unknownField key keys)

/-- The settings of a document, given as its entries in order. -/
def ofEntries (entries : Toml.Entries) : Except Decoding.Error Settings :=
  entries.foldlM (fun s e => s.set e.1 e.2) default

/-- Why a text holds no settings. -/
inductive ReadError where
  | syntaxError
  | invalid (e : Decoding.Error)
  deriving DecidableEq, Repr

/-- What is said about the error, less the reader's own part: where in the text a document breaks off
and the lines around it, also for a value that is refused. -/
def ReadError.message : ReadError → String
  | .syntaxError => "not a TOML document"
  | .invalid e => e.message

def ofText (text : String) : Except ReadError Settings :=
  match Toml.parse? text with
  | none => .error .syntaxError
  | some entries =>
    match ofEntries entries with
    | .error e => .error (.invalid e)
    | .ok s => .ok s

/-- The markers of an analysis: if one of the two is set, the standard one stands for the other. -/
def markers (s : Settings) : Option Markers :=
  match s.beginMarker, s.endMarker with
  | none, none => none
  | opening, closing =>
    some ⟨opening.getD Markers.standard.opening, closing.getD Markers.standard.closing⟩

/-- The analysis of a target with these settings. -/
def analysis (s : Settings) (target : Host.Path) (arguments : List String) : Analysis where
  analyzer := s.analyzer
  flags := s.optionFlags
  target := target
  arguments := arguments
  markers := s.markers
  logDir := s.logDir
  limit := s.timeoutSeconds.map fun n => .ofSeconds n.toNat

end Settings
end DefectGate
