import DefectGate.Summary.Basic
import DefectGate.Json.Printer
import DefectGate.Json.Parser
import DefectGate.Json.Record

/-!
# Summaries as JSON

Each record is written as an object with all of its fields in declared order, absent values as null.
It is read back from an object or an array; a status is its name, alone or as the only key of an
object.
-/
namespace DefectGate

open Json (Decoder RecordType check optional)

def Digest.toJson (d : Digest) : Json :=
  .object [("algorithm", .string d.algorithm), ("value", .string d.value)]

def Digest.recordType : RecordType :=
  ⟨"ArtifactHash", [("algorithm", check Json.asString), ("value", check Json.asString)]⟩

def Digest.ofJson : Decoder Digest := fun j => do
  let t := recordType
  let r ← t.openRecord j
  let algorithm ← t.required r "algorithm" Json.asString
  let value ← t.required r "value" Json.asString
  t.closeRecord r
  return ⟨algorithm, value⟩

def Fingerprint.toJson (f : Fingerprint) : Json :=
  .object [("path", .string f.path), ("size_bytes", .nat f.size.toNat), ("hash", f.digest.toJson)]

def Fingerprint.recordType : RecordType :=
  ⟨"ArtifactInfo", [("path", check Json.asString), ("size_bytes", check Json.asUInt64),
    ("hash", check Digest.ofJson)]⟩

def Fingerprint.ofJson : Decoder Fingerprint := fun j => do
  let t := recordType
  let r ← t.openRecord j
  let path ← t.required r "path" Json.asString
  let size ← t.required r "size_bytes" Json.asUInt64
  let digest ← t.required r "hash" Digest.ofJson
  t.closeRecord r
  return ⟨path, size, digest⟩

def optionToJson (encode : α → Json) : Option α → Json
  | none => .null
  | some a => encode a

def Tool.toJson (t : Tool) : Json :=
  .object [("name", .string t.name), ("version", .string t.version),
    ("commit", optionToJson .string t.commit)]

def Tool.recordType : RecordType :=
  ⟨"ToolInfo", [("name", check Json.asString), ("version", check Json.asString),
    ("commit", check (optional Json.asString))]⟩

def Tool.ofJson : Decoder Tool := fun j => do
  let t := recordType
  let r ← t.openRecord j
  let name ← t.required r "name" Json.asString
  let version ← t.required r "version" Json.asString
  let commit ← t.allowed r "commit" Json.asString
  t.closeRecord r
  return ⟨name, version, commit⟩

def Problem.toJson (p : Problem) : Json :=
  .object [("kind", .string p.kind), ("message", .string p.message)]

def Problem.recordType : RecordType :=
  ⟨"ErrorInfo", [("kind", check Json.asString), ("message", check Json.asString)]⟩

def Problem.ofJson : Decoder Problem := fun j => do
  let t := recordType
  let r ← t.openRecord j
  let kind ← t.required r "kind" Json.asString
  let message ← t.required r "message" Json.asString
  t.closeRecord r
  return ⟨kind, message⟩

namespace Status

def name : Status → String
  | .clean => "CLEAN"
  | .failed => "FAILED"

def names : List String := [clean.name, failed.name]

def ofName (s : String) : Except Decoding.Error Status :=
  if s = clean.name then .ok .clean
  else if s = failed.name then .ok .failed
  else .error (.unknownVariant s names)

def toJson (s : Status) : Json := .string s.name

def ofJson : Decoder Status
  | .string s => ofName s
  | .object fields =>
    match Json.sortFields fields with
    | [(s, payload)] => do
      let status ← ofName s
      match payload with
      | .null => return status
      | j => j.wrongType "unit"
    | _ => .error (.wrongValue .map "map with a single key")
  | j => j.wrongType "string or map"

end Status

namespace Summary

def toJson (s : Summary) : Json :=
  .object [("schema_version", .string s.schemaVersion), ("tool", s.tool.toJson),
    ("analyzer", .string s.analyzer), ("target", optionToJson Fingerprint.toJson s.target),
    ("log_path", optionToJson .string s.logPath),
    ("defect_count", optionToJson (fun n : Count => .nat n.toNat) s.defectCount),
    ("status", s.status.toJson), ("error", optionToJson Problem.toJson s.error),
    ("exit_code", .number (.integer s.exitCode.toInt))]

def recordType : RecordType :=
  ⟨"Summary", [("schema_version", check Json.asString), ("tool", check Tool.ofJson),
    ("analyzer", check Json.asString), ("target", check (optional Fingerprint.ofJson)),
    ("log_path", check (optional Json.asString)),
    ("defect_count", check (optional Json.asUInt64)), ("status", check Status.ofJson),
    ("error", check (optional Problem.ofJson)), ("exit_code", check Json.asInt32)]⟩

def ofJson : Decoder Summary := fun j => do
  let t := recordType
  let r ← t.openRecord j
  let schemaVersion ← t.required r "schema_version" Json.asString
  let tool ← t.required r "tool" Tool.ofJson
  let analyzer ← t.required r "analyzer" Json.asString
  let target ← t.allowed r "target" Fingerprint.ofJson
  let logPath ← t.allowed r "log_path" Json.asString
  let defectCount ← t.allowed r "defect_count" Json.asUInt64
  let status ← t.required r "status" Status.ofJson
  let error ← t.allowed r "error" Problem.ofJson
  let exitCode ← t.required r "exit_code" Json.asInt32
  t.closeRecord r
  return ⟨schemaVersion, tool, analyzer, target, logPath, defectCount, status, error, exitCode⟩

/-- The text of a summary file. -/
def render (s : Summary) : String := s.toJson.toPrettyString

/-- Reads a summary file; `none` if it is not JSON at all. -/
def read? (text : String) : Option (Except Decoding.Error Summary) :=
  (Json.parse? text).map ofJson

end Summary
end DefectGate
