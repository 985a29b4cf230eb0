import DefectGate.Json.Basic
import DefectGate.Decoding

/-!
# Records in JSON

A record is an object, whose fields are found by name, or an array, whose elements stand in the
order in which the record declares its fields. The fields of an object are checked in the order of
their names and unknown ones are ignored; only then is a missing one noticed, in the declared order.
-/
namespace DefectGate.Json

open Decoding (Found Error)

abbrev Decoder (α : Type) := Json → Except Decoding.Error α

def found : Json → Found
  | .null => .null
  | .bool b => .boolean b
  | .number (.integer n) => .integer n
  | .number (.real x) => .real (Number.text (.real x))
  | .string s => .string s
  | .array _ => .sequence
  | .object _ => .map

def wrongType (expected : String) (j : Json) : Except Decoding.Error α :=
  .error (.wrongType j.found expected)

def asString : Decoder String
  | .string s => .ok s
  | j => j.wrongType "a string"

def asUInt64 : Decoder UInt64
  | .number (.integer n) =>
    if 0 ≤ n ∧ n < UInt64.size then .ok (UInt64.ofNat n.toNat)
    else .error (.wrongValue (.integer n) "u64")
  | j => j.wrongType "u64"

def asInt32 : Decoder Int32
  | .number (.integer n) =>
    if Int32.minValue.toInt ≤ n ∧ n ≤ Int32.maxValue.toInt then .ok (Int32.ofInt n)
    else .error (.wrongValue (.integer n) "i32")
  | j => j.wrongType "i32"

/-- A value that may be absent, which is written as null. -/
def optional (decode : Decoder α) : Decoder (Option α)
  | .null => .ok none
  | j => (decode j).map some

/-- A record type: its name and its fields in declared order, each with a check of its value. -/
structure RecordType where
  name : String
  fields : List (String × Decoder Unit)

/-- Forgets what is decoded and keeps whether it can be. -/
def check (decode : Decoder α) : Decoder Unit := fun j => (decode j).map fun _ => ()

/-- A record that was opened for reading. -/
inductive Record where
  | named (fields : List (String × Json))
  | placed (elements : List Json)

namespace RecordType

/-- The first value that does not fit its field, in the given order. -/
def checkFields (t : RecordType) : List (String × Json) → Except Decoding.Error Unit
  | [] => .ok ()
  | (name, j) :: rest =>
    match t.fields.find? (·.1 = name) with
    | none => t.checkFields rest
    | some field =>
      match field.2 j with
      | .error e => .error e
      | .ok () => t.checkFields rest

def size (t : RecordType) : Nat := t.fields.length

/-- The place of a field in declared order. -/
def place (t : RecordType) (name : String) : Nat := t.fields.findIdx (·.1 = name)

def openRecord (t : RecordType) : Decoder Record
  | .object fields => do
    let sorted := sortFields fields
    t.checkFields sorted
    return .named sorted
  | .array elements => .ok (.placed elements)
  | j => j.wrongType s!"struct {t.name}"

/-- The value of a field; a field that is not there is an error. -/
def required (t : RecordType) (r : Record) (name : String) (decode : Decoder α) :
    Except Decoding.Error α :=
  match r with
  | .named fields =>
    match fields.find? (·.1 = name) with
    | some field => decode field.2
    | none => .error (.missingField name)
  | .placed elements =>
    match elements[t.place name]? with
    | some j => decode j
    | none => .error (.wrongLength (t.place name) s!"struct {t.name} with {t.size} elements")

/-- The value of a field that may be left out, but only where fields are found by name. -/
def allowed (t : RecordType) (r : Record) (name : String) (decode : Decoder α) :
    Except Decoding.Error (Option α) :=
  match r with
  | .named fields =>
    match fields.find? (·.1 = name) with
    | some field => optional decode field.2
    | none => .ok none
  | .placed _ => t.required r name (optional decode)

/-- Refuses elements beyond the last field. -/
def closeRecord (t : RecordType) : Record → Except Decoding.Error Unit
  | .named _ => .ok ()
  | .placed elements =>
    if t.size < elements.length then
      .error (.wrongLength elements.length "fewer elements in array")
    else .ok ()

end RecordType
end DefectGate.Json
