import DefectGate.Analysis
import DefectGate.Proofs.Path.Components
import DefectGate.Proofs.Text.Boundaries

/-! # Where a log lies

The log of an analysis lies directly in its log directory, under the short name of the analyzer, as
long as that name is a single component. The file name of a path is one, and so is a text without a
slash; an analyzer that has slashes and no file name is the one kind whose short name is not.
-/
namespace DefectGate
open Host (Path)
open Host.Path (slash)
open Text.Utf8

namespace Host.Path

theorem encodeChars_slash_cons (cs : List Char) :
    encodeChars ('/' :: cs) = slash :: encodeChars cs := by
  have hslash : String.utf8EncodeChar '/' = [slash] := by decide
  rw [encodeChars_cons, hslash, List.singleton_append]

theorem slash_mem_encodeChars_iff {cs : List Char} : slash ∈ encodeChars cs ↔ '/' ∈ cs := by
  constructor
  · intro h
    apply (List.singleton_infix_iff '/' cs).mp
    apply isInfix_of_encodeChars
    rw [encodeChars_slash_cons, encodeChars_nil]
    exact (List.singleton_infix_iff slash _).mpr h
  · intro h
    obtain ⟨before, after, rfl⟩ := List.append_of_mem h
    rw [encodeChars_append, encodeChars_slash_cons]
    simp

/-- Each part of a path that is text is text again. -/
theorem exists_text_of_mem_parts {cs : List Char} {part : Bytes}
    (h : part ∈ parts ⟨encodeChars cs⟩) : ∃ ds, part = encodeChars ds := by
  induction cs using Text.separator_induction '/' with
  | last front hfront =>
    rw [parts_of_not_mem (slash_mem_encodeChars_iff.not.mpr hfront)] at h
    exact ⟨front, List.mem_singleton.mp h⟩
  | next front rest hfront ih =>
    rw [encodeChars_append, encodeChars_slash_cons, parts_append_slash,
      parts_of_not_mem (slash_mem_encodeChars_iff.not.mpr hfront)] at h
    rcases List.mem_append.mp h with hm | hm
    · exact ⟨front, List.mem_singleton.mp hm⟩
    · exact ih hm

theorem mem_parts_of_fileName? {p : Path} {name : Bytes} (h : p.fileName? = some name) :
    name ∈ p.parts := by
  apply mem_parts_of_normal
  unfold fileName? at h
  split at h
  case h_1 name' hlast =>
    obtain rfl : name' = name := Option.some.inj h
    exact List.mem_of_getLast? hlast
  case h_2 => cases h

end Host.Path

theorem Text.Utf8.encode_append (s t : String) : encode (s ++ t) = encode s ++ encode t := by
  rw [encode, String.toList_append, encodeChars_append]
  rfl

namespace Analysis

/-- The name of the log of an analyzer, as it stands in the log directory. -/
def logFileName (analyzer : String) : Bytes := encode (analyzer ++ "-results.log")

theorem isName_logFileName {analyzer : String} (h : '/' ∉ analyzer.toList) :
    Path.IsName (logFileName analyzer) := by
  have hlen : 12 ≤ (logFileName analyzer).length := by
    have hsuffix : (encode "-results.log").length = 12 := by decide
    rw [logFileName, encode_append, List.length_append, hsuffix]
    omega
  refine ⟨?_, ?_, ?_, ?_⟩
  · have hsuffix : '/' ∉ "-results.log".toList := by decide
    rw [logFileName, encode, Path.slash_mem_encodeChars_iff, String.toList_append]
    simp only [List.mem_append, h, hsuffix, or_self, not_false_eq_true]
  all_goals
    intro he
    rw [he] at hlen
    simp at hlen

/-- Whether the short name of an analyzer is one component of a path. -/
def HasPlainName (analyzer : String) : Prop :=
  (Path.ofString analyzer).fileName?.isSome ∨ '/' ∉ analyzer.toList

theorem slash_not_mem_nameOf_iff (analyzer : String) :
    '/' ∉ (nameOf analyzer).toList ↔ HasPlainName analyzer := by
  cases hname : (Path.ofString analyzer).fileName? with
  | none =>
    have hwhole : nameOf analyzer = analyzer := by rw [nameOf, hname]
    simp [HasPlainName, hname, hwhole]
  | some name =>
    have hpart : name ∈ (Path.ofString analyzer).parts := Path.mem_parts_of_fileName? hname
    obtain ⟨cs, rfl⟩ := Path.exists_text_of_mem_parts hpart
    have hlast : (nameOf analyzer).toList = cs := by
      rw [nameOf, hname]
      simp [toStringLossy]
    have hslash : '/' ∉ cs :=
      Path.slash_mem_encodeChars_iff.not.mp (Path.slash_not_mem_of_mem_parts hpart)
    simp [HasPlainName, hname, hlast, hslash]

/-- The log is one step below the log directory, and is named after the analyzer, exactly if the
analyzer has a file name or has no slash in it. -/
theorem components_logPath_iff (a : Analysis) :
    a.logPath.components = a.logDir.components ++ [.normal (logFileName a.shortName)] ↔
      HasPlainName a.analyzer := by
  rw [← slash_not_mem_nameOf_iff]
  constructor
  · intro h hslash
    have hpart : logFileName a.shortName ∈ a.logPath.parts :=
      Path.mem_parts_of_normal (by rw [h]; simp)
    apply Path.slash_not_mem_of_mem_parts hpart
    rw [logFileName, encode_append]
    exact List.mem_append_left _ (Path.slash_mem_encodeChars_iff.mpr hslash)
  · intro h
    exact Path.components_join (isName_logFileName h) a.logDir

/-- The log of an analyzer that is only a slash lies in the root and not in the log directory. -/
theorem logPath_of_slash :
    let a : Analysis := ⟨"/", [], .ofString "app", [], none, .ofString "logs", none⟩
    a.shortName = "/" ∧ a.logPath = .ofString "/-results.log" ∧
      a.logPath.components = [.root, .normal (encode "-results.log")] ∧
      a.logDir.components = [.normal (encode "logs")] ∧
      a.logPath.components ≠ a.logDir.components ++ [.normal (logFileName a.shortName)] := by
  decide

end Analysis
end DefectGate
