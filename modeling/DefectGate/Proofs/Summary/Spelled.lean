import DefectGate.Proofs.Json.Records
import DefectGate.Summary.Format

/-! # The spellings of a summary

Which JSON values stand for a summary and for its parts: objects with the fields in any order and
other fields among them, arrays of the fields in declared order, and for a status its name or an
object with this name as its only key. These are the values that are decoded.
-/
namespace DefectGate

open Json (IsString IsUInt64 IsInt32 Reads asString_reads asUInt64_reads asInt32_reads)
open Json.RecordType (openRecord_bind_iff)

variable {j : Json}

/-! ### Digests and fingerprints -/

structure Digest.Spelled (j : Json) (d : Digest) : Prop where
  record : recordType.Admits j
  algorithm : recordType.Gives "algorithm" j IsString d.algorithm
  value : recordType.Gives "value" j IsString d.value

theorem Digest.ofJson_reads : Reads ofJson Spelled := by
  refine ⟨fun j d => openRecord_bind_iff ?_ Spelled.record fun h => ?_, fun d h => h.record⟩
  · intro r hr
    simp only [Checked.bind_eq_ok_iff, hr.required_iff asString_reads, hr.closeRecord_iff]
    constructor
    · rintro ⟨algorithm, halgorithm, value, hvalue, ⟨⟩, hclose, ⟨⟩⟩
      exact ⟨hclose, halgorithm, hvalue⟩
    · intro h
      exact ⟨_, h.algorithm, _, h.value, (), h.record, rfl⟩
  · simp only [recordType, List.forall_mem_cons]
    exact ⟨h.algorithm.check asString_reads, h.value.check asString_reads, by simp⟩

structure Fingerprint.Spelled (j : Json) (f : Fingerprint) : Prop where
  record : recordType.Admits j
  path : recordType.Gives "path" j IsString f.path
  size : recordType.Gives "size_bytes" j IsUInt64 f.size
  digest : recordType.Gives "hash" j Digest.Spelled f.digest

theorem Fingerprint.ofJson_reads : Reads ofJson Spelled := by
  refine ⟨fun j f => openRecord_bind_iff ?_ Spelled.record fun h => ?_, fun f h => h.record⟩
  · intro r hr
    simp only [Checked.bind_eq_ok_iff, hr.required_iff asString_reads,
      hr.required_iff asUInt64_reads, hr.required_iff Digest.ofJson_reads, hr.closeRecord_iff]
    constructor
    · rintro ⟨path, hpath, size, hsize, digest, hdigest, ⟨⟩, hclose, ⟨⟩⟩
      exact ⟨hclose, hpath, hsize, hdigest⟩
    · intro h
      exact ⟨_, h.path, _, h.size, _, h.digest, (), h.record, rfl⟩
  · simp only [recordType, List.forall_mem_cons]
    exact ⟨h.path.check asString_reads, h.size.check asUInt64_reads,
      h.digest.check Digest.ofJson_reads, by simp⟩

/-! ### Tools and problems -/

structure Tool.Spelled (j : Json) (t : Tool) : Prop where
  record : recordType.Admits j
  name : recordType.Gives "name" j IsString t.name
  version : recordType.Gives "version" j IsString t.version
  commit : recordType.Offers "commit" j IsString t.commit

theorem Tool.ofJson_reads : Reads ofJson Spelled := by
  refine ⟨fun j t => openRecord_bind_iff ?_ Spelled.record fun h => ?_, fun t h => h.record⟩
  · intro r hr
    simp only [Checked.bind_eq_ok_iff, hr.required_iff asString_reads,
      hr.allowed_iff asString_reads, hr.closeRecord_iff]
    constructor
    · rintro ⟨name, hname, version, hversion, commit, hcommit, ⟨⟩, hclose, ⟨⟩⟩
      exact ⟨hclose, hname, hversion, hcommit⟩
    · intro h
      exact ⟨_, h.name, _, h.version, _, h.commit, (), h.record, rfl⟩
  · simp only [recordType, List.forall_mem_cons]
    exact ⟨h.name.check asString_reads, h.version.check asString_reads,
      h.commit.check asString_reads, by simp⟩

structure Problem.Spelled (j : Json) (p : Problem) : Prop where
  record : recordType.Admits j
  kind : recordType.Gives "kind" j IsString p.kind
  message : recordType.Gives "message" j IsString p.message

theorem Problem.ofJson_reads : Reads ofJson Spelled := by
  refine ⟨fun j p => openRecord_bind_iff ?_ Spelled.record fun h => ?_, fun p h => h.record⟩
  · intro r hr
    simp only [Checked.bind_eq_ok_iff, hr.required_iff asString_reads, hr.closeRecord_iff]
    constructor
    · rintro ⟨kind, hkind, message, hmessage, ⟨⟩, hclose, ⟨⟩⟩
      exact ⟨hclose, hkind, hmessage⟩
    · intro h
      exact ⟨_, h.kind, _, h.message, (), h.record, rfl⟩
  · simp only [recordType, List.forall_mem_cons]
    exact ⟨h.kind.check asString_reads, h.message.check asString_reads, by simp⟩

/-! ### Statuses -/

/-- A name alone, or as the only key of an object, however often, with nothing under it in the
end. -/
inductive Status.Spelled : Json → Status → Prop where
  | name (s : Status) : Spelled (.string s.name) s
  | key (s : Status) (earlier : List (String × Json)) (h : ∀ f ∈ earlier, f.1 = s.name) :
    Spelled (.object (earlier ++ [(s.name, .null)])) s

theorem Status.ofName_eq_ok_iff {name : String} {s : Status} :
    ofName name = .ok s ↔ name = s.name := by
  unfold ofName
  split_ifs with hclean hfailed
  · cases s <;> simp [hclean, Status.name]
  · cases s <;> simp [hfailed, Status.name]
  · cases s <;> simp [hclean, hfailed]

theorem Status.ofJson_reads : Reads ofJson Spelled := by
  refine ⟨fun j s => ⟨fun h => ?_, ?_⟩, nofun⟩
  · unfold ofJson at h
    split at h
    · obtain rfl := ofName_eq_ok_iff.mp h
      exact .name s
    · split at h
      · rename_i name payload hsorted
        obtain ⟨status, hname, hpayload⟩ := Checked.bind_eq_ok_iff.mp h
        obtain rfl := ofName_eq_ok_iff.mp hname
        cases payload with
        | null =>
          cases hpayload
          obtain ⟨earlier, rfl, hearlier⟩ := Json.sortFields_eq_singleton_iff.mp hsorted
          exact .key s earlier hearlier
        | _ => simp [Json.wrongType] at hpayload
      · cases h
    · cases h
  · rintro (⟨s⟩ | ⟨s, earlier, hearlier⟩)
    · exact ofName_eq_ok_iff.mpr rfl
    · rw [ofJson, Json.sortFields_append_same hearlier]
      exact Checked.bind_eq_ok_iff.mpr ⟨s, ofName_eq_ok_iff.mpr rfl, rfl⟩

/-! ### Summaries -/

namespace Summary

structure Spelled (j : Json) (s : Summary) : Prop where
  record : recordType.Admits j
  schemaVersion : recordType.Gives "schema_version" j IsString s.schemaVersion
  tool : recordType.Gives "tool" j Tool.Spelled s.tool
  analyzer : recordType.Gives "analyzer" j IsString s.analyzer
  target : recordType.Offers "target" j Fingerprint.Spelled s.target
  logPath : recordType.Offers "log_path" j IsString s.logPath
  defectCount : recordType.Offers "defect_count" j IsUInt64 s.defectCount
  status : recordType.Gives "status" j Status.Spelled s.status
  error : recordType.Offers "error" j Problem.Spelled s.error
  exitCode : recordType.Gives "exit_code" j IsInt32 s.exitCode

theorem ofJson_reads : Reads ofJson Spelled := by
  refine ⟨fun j s => openRecord_bind_iff ?_ Spelled.record fun h => ?_, fun s h => h.record⟩
  · intro r hr
    simp only [Checked.bind_eq_ok_iff, hr.required_iff asString_reads,
      hr.required_iff Tool.ofJson_reads, hr.allowed_iff Fingerprint.ofJson_reads,
      hr.allowed_iff asString_reads, hr.allowed_iff asUInt64_reads,
      hr.required_iff Status.ofJson_reads, hr.allowed_iff Problem.ofJson_reads,
      hr.required_iff asInt32_reads, hr.closeRecord_iff]
    constructor
    · rintro ⟨schemaVersion, hschemaVersion, tool, htool, analyzer, hanalyzer, target, htarget,
        logPath, hlogPath, defectCount, hdefectCount, status, hstatus, error, herror,
        exitCode, hexitCode, ⟨⟩, hclose, ⟨⟩⟩
      exact ⟨hclose, hschemaVersion, htool, hanalyzer, htarget, hlogPath, hdefectCount, hstatus,
        herror, hexitCode⟩
    · intro h
      exact ⟨_, h.schemaVersion, _, h.tool, _, h.analyzer, _, h.target, _, h.logPath,
        _, h.defectCount, _, h.status, _, h.error, _, h.exitCode, (), h.record, rfl⟩
  · simp only [recordType, List.forall_mem_cons]
    exact ⟨h.schemaVersion.check asString_reads, h.tool.check Tool.ofJson_reads,
      h.analyzer.check asString_reads, h.target.check Fingerprint.ofJson_reads,
      h.logPath.check asString_reads, h.defectCount.check asUInt64_reads,
      h.status.check Status.ofJson_reads, h.error.check Problem.ofJson_reads,
      h.exitCode.check asInt32_reads, by simp⟩

/-- An array without names, an object with another field and one left out, a status as a key. -/
example :
    ofJson (.array [.string "0.1.0",
      .object [("version", .string "2"), ("colour", .bool true), ("name", .string "gate")],
      .string "demo", .null, .null, .nat 3, .object [("CLEAN", .null)], .null, .nat 0]) =
        .ok ⟨"0.1.0", ⟨"gate", "2", none⟩, "demo", none, none, some 3, .clean, none, 0⟩ := by
  rfl

end Summary
end DefectGate
