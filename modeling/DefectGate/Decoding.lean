import DefectGate.Text.Quoted

/-!
# Decoding errors

What can be wrong with a document whose syntax is right: a value of the wrong type, a value out of
range, a name that is not known, one that is missing, a list of the wrong length.
-/
namespace DefectGate.Decoding

/-- What was found, described for people. -/
inductive Found where
  | null
  | boolean (b : Bool)
  | integer (n : Int)
  | real (text : String)
  | string (s : String)
  | sequence
  | map
  deriving DecidableEq, Repr

def Found.text : Found → String
  | .null => "null"
  | .boolean b => s!"boolean `{b}`"
  | .integer n => s!"integer `{n}`"
  | .real text => s!"floating point `{text}`"
  | .string s => s!"string {Text.Quoted.quote s}"
  | .sequence => "sequence"
  | .map => "map"

inductive Error where
  | wrongType (found : Found) (expected : String)
  | wrongValue (found : Found) (expected : String)
  | wrongLength (length : Nat) (expected : String)
  | unknownField (name : String) (known : List String)
  | unknownVariant (name : String) (known : List String)
  | missingField (name : String)
  deriving DecidableEq, Repr

def ticked (s : String) : String := "`" ++ s ++ "`"

/-- The names that would have been right: two are joined by a word, more are listed. -/
def alternatives : List String → String
  | [] => "nothing"
  | [a] => ticked a
  | [a, b] => ticked a ++ " or " ++ ticked b
  | names => "one of " ++ String.intercalate ", " (names.map ticked)

def Error.message : Error → String
  | .wrongType found expected => s!"invalid type: {found.text}, expected {expected}"
  | .wrongValue found expected => s!"invalid value: {found.text}, expected {expected}"
  | .wrongLength length expected => s!"invalid length {length}, expected {expected}"
  | .unknownField name known =>
    s!"unknown field {ticked name}, expected {alternatives known}"
  | .unknownVariant name known =>
    s!"unknown variant {ticked name}, expected {alternatives known}"
  | .missingField name => s!"missing field {ticked name}"

end DefectGate.Decoding
