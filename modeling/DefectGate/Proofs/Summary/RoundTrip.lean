import DefectGate.Proofs.Json.Reading
import DefectGate.Proofs.Summary.Spelled

/-! # Writing and reading summaries

What is written is one of the spellings of the summary, and its text is read back to the very same
value. So a text that was accepted once is left as it is from the second pass on.
-/
namespace DefectGate

open Json (Readable ReadableFields isString_string isUInt64_nat)

/-! ### Written values are spellings -/

theorem Digest.toJson_spelled (d : Digest) : d.Spelled d.toJson :=
  ⟨trivial, ⟨_, rfl, rfl⟩, ⟨_, rfl, rfl⟩⟩

theorem Fingerprint.toJson_spelled (f : Fingerprint) : f.Spelled f.toJson :=
  ⟨trivial, ⟨_, rfl, rfl⟩, ⟨_, rfl, rfl⟩, ⟨_, rfl, f.digest.toJson_spelled⟩⟩

theorem Json.RecordType.Offers.of_encoded {t : RecordType} {name : String} {j : Json} {α : Type}
    {spelled : Json → α → Prop} {encode : α → Json} (hencode : ∀ a, spelled (encode a) a)
    {o : Option α} (h : t.given? name j = some (optionToJson encode o)) :
    t.Offers name j spelled o := by
  cases o with
  | none => exact .inl h
  | some a => exact ⟨encode a, h, hencode a⟩

theorem Tool.toJson_spelled (t : Tool) : t.Spelled t.toJson :=
  ⟨trivial, ⟨_, rfl, rfl⟩, ⟨_, rfl, rfl⟩, .of_encoded isString_string rfl⟩

theorem Problem.toJson_spelled (p : Problem) : p.Spelled p.toJson :=
  ⟨trivial, ⟨_, rfl, rfl⟩, ⟨_, rfl, rfl⟩⟩

theorem Summary.toJson_spelled (s : Summary) : s.Spelled s.toJson where
  record := trivial
  schemaVersion := ⟨_, rfl, rfl⟩
  tool := ⟨_, rfl, s.tool.toJson_spelled⟩
  analyzer := ⟨_, rfl, rfl⟩
  target := .of_encoded Fingerprint.toJson_spelled rfl
  logPath := .of_encoded isString_string rfl
  defectCount := .of_encoded isUInt64_nat rfl
  status := ⟨_, rfl, .name s.status⟩
  error := .of_encoded Problem.toJson_spelled rfl
  exitCode := ⟨_, rfl, rfl⟩

/-! ### Written values are readable -/

section Readable
variable (levels : Nat)

theorem readable_string (s : String) : (Json.string s).Readable levels := by
  simp [Readable]

theorem readable_uint64 (n : UInt64) : (Json.nat n.toNat).Readable levels := by
  have hlt := n.toNat_lt
  simp only [Json.nat, Readable, Json.Parser.Fits, UInt64.size]
  omega

theorem readable_int32 (n : Int32) : (Json.number (.integer n.toInt)).Readable levels := by
  have hle := n.le_toInt
  have hlt := n.toInt_lt
  simp only [Readable, Json.Parser.Fits, UInt64.size]
  omega

theorem readable_optionToJson {α : Type} {encode : α → Json}
    (h : ∀ a, (encode a).Readable levels) (o : Option α) :
    (optionToJson encode o).Readable levels := by
  cases o with
  | none => simp [optionToJson, Readable]
  | some a => exact h a

theorem Digest.toJson_readable (d : Digest) : d.toJson.Readable (levels + 1) := by
  simp [toJson, Readable, ReadableFields]

theorem Fingerprint.toJson_readable (f : Fingerprint) : f.toJson.Readable (levels + 2) := by
  simp [toJson, Readable, ReadableFields, readable_uint64, f.digest.toJson_readable]

theorem Tool.toJson_readable (t : Tool) : t.toJson.Readable (levels + 1) := by
  have hcommit := readable_optionToJson levels (readable_string levels) t.commit
  simp [toJson, Readable, ReadableFields, hcommit]

theorem Problem.toJson_readable (p : Problem) : p.toJson.Readable (levels + 1) := by
  simp [toJson, Readable, ReadableFields]

theorem Summary.toJson_readable (s : Summary) : s.toJson.Readable (levels + 3) := by
  have htool := s.tool.toJson_readable (levels + 1)
  have htarget :=
    readable_optionToJson (levels + 2) (Fingerprint.toJson_readable levels) s.target
  have hlogPath := readable_optionToJson (levels + 2) (readable_string _) s.logPath
  have hdefectCount := readable_optionToJson (levels + 2) (readable_uint64 _) s.defectCount
  have herror := readable_optionToJson (levels + 2) (Problem.toJson_readable _) s.error
  have hexitCode := readable_int32 (levels + 2) s.exitCode
  rw [Readable] at hexitCode
  simp [toJson, Status.toJson, Readable, ReadableFields, htool, htarget, hlogPath, hdefectCount,
    herror, hexitCode]

end Readable

namespace Summary

/-- A summary is read back from its text. -/
theorem read?_render (s : Summary) : read? s.render = some (.ok s) := by
  rw [read?, render, Json.parse?_toPrettyString (s.toJson_readable 124), Option.map_some,
    (ofJson_reads.decodes _ s).mpr s.toJson_spelled]

theorem render_injective : Function.Injective render := by
  intro s t h
  have hread := s.read?_render
  rw [h, t.read?_render] at hread
  exact (Except.ok.inj (Option.some.inj hread)).symm

/-- Reads a text and writes what was read; `none` if it does not hold a summary. -/
def recode? (text : String) : Option String :=
  match read? text with
  | some (.ok s) => some s.render
  | _ => none

theorem read?_eq_some_ok_iff {text : String} {s : Summary} :
    read? text = some (.ok s) ↔ ∃ j, Json.parse? text = some j ∧ s.Spelled j := by
  simp only [read?, Option.map_eq_some_iff, ofJson_reads.decodes]

theorem recode?_eq_some_iff {text written : String} :
    recode? text = some written ↔ ∃ s, read? text = some (.ok s) ∧ s.render = written := by
  unfold recode?
  split
  · rename_i s hread
    simp [hread]
  · rename_i hread
    simp only [reduceCtorEq, false_iff, not_exists, not_and]
    intro s hs
    exact absurd hs (hread s)

/-- A summary is read back as it was written, so different ones are written differently. Whatever
text spells a summary is accepted and no other; once written anew, it stays as it is. -/
theorem roundTrip :
    (∀ s : Summary, read? s.render = some (.ok s)) ∧
    Function.Injective render ∧
    (∀ text written, recode? text = some written ↔
      ∃ (j : Json) (s : Summary),
        Json.parse? text = some j ∧ s.Spelled j ∧ s.render = written) ∧
    ∀ text written, recode? text = some written → recode? written = some written := by
  refine ⟨read?_render, render_injective, ?_, ?_⟩
  · intro text written
    rw [recode?_eq_some_iff]
    constructor
    · rintro ⟨s, hread, hwritten⟩
      obtain ⟨j, hparse, hspelled⟩ := read?_eq_some_ok_iff.mp hread
      exact ⟨j, s, hparse, hspelled, hwritten⟩
    · rintro ⟨j, s, hparse, hspelled, hwritten⟩
      exact ⟨s, read?_eq_some_ok_iff.mpr ⟨j, hparse, hspelled⟩, hwritten⟩
  · intro text written h
    obtain ⟨s, -, rfl⟩ := recode?_eq_some_iff.mp h
    exact recode?_eq_some_iff.mpr ⟨s, s.read?_render, rfl⟩

end Summary
end DefectGate
