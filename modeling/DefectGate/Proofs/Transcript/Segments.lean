import DefectGate.Transcript
import DefectGate.Proofs.Text.Lines
import DefectGate.Proofs.Text.Spelling

/-! # Segments of a raw stream

A raw stream can be cut at its newline bytes before anything is decoded. Line by line this gives the
transcript of the whole stream, up to the carriage return that a newline takes along: no broken
sequence reaches across a newline.
-/
namespace DefectGate.Transcript
open Text Text.Utf8

/-- The byte of a newline. -/
def newline : UInt8 := 10

/-- The parts between newline bytes; what follows the last newline counts only if it is there. -/
def segments (bs : Bytes) : List Bytes :=
  if (bs.splitOn newline).getLast? = some [] then (bs.splitOn newline).dropLast
  else bs.splitOn newline

theorem segments_append_newline {part : Bytes} (h : newline ∉ part) (rest : Bytes) :
    segments (part ++ newline :: rest) = part :: segments rest := by
  have hs := List.splitOn_ne_nil newline rest
  simp only [segments, List.splitOn_append_cons_self_of_not_mem h, List.getLast?_cons_of_ne_nil hs,
    List.dropLast_cons_of_ne_nil hs]
  split_ifs <;> rfl

theorem segments_of_not_mem {part : Bytes} (h : newline ∉ part) :
    segments part = if part = [] then [] else [part] := by
  rw [segments, List.splitOn_eq_singleton h]
  by_cases hp : part = [] <;> simp [hp]

theorem encodeChars_newline : encodeChars ['\n'] = [newline] := by decide

theorem decodeLossy_append_newline (part rest : Bytes) :
    decodeLossy (part ++ newline :: rest) = decodeLossy part ++ '\n' :: decodeLossy rest := by
  have hstarts : Starts (newline :: rest) := by
    intro b hb
    obtain rfl : newline = b := by simpa using hb
    decide
  rw [decodeLossy_append hstarts]
  exact congrArg _ (decodeLossy_encodeChars_append ['\n'] rest)

/-- Only a newline byte is decoded to a newline. -/
theorem newline_not_mem_decodeLossy {part : Bytes} (h : newline ∉ part) :
    '\n' ∉ decodeLossy part := by
  intro hm
  obtain ⟨before, after, hd⟩ := List.append_of_mem hm
  have hsplit : decodeLossy part = before ++ ['\n'] ++ after := by simpa using hd
  obtain ⟨front, rest, hp, -, -⟩ := exists_split_of_decodeLossy_eq (by decide) hsplit
  rw [hp, encodeChars_newline] at h
  simp at h

/-- A segment is shown by a line if it is decoded to the line, perhaps with one more carriage
return at the end. -/
def Shows (segment : Bytes) (line : String) : Prop :=
  decodeLossy segment = line.toList ∨ decodeLossy segment = line.toList ++ ['\r']

/-- The transcript of a stream shows its segments one by one. -/
theorem forall₂_shows (bs : Bytes) : List.Forall₂ Shows (segments bs) (ofBytes bs).lines := by
  rw [ofBytes]
  induction bs using separator_induction newline with
  | last part h =>
    rw [segments_of_not_mem h, lines_of_not_mem (newline_not_mem_decodeLossy h)]
    simp only [decodeLossy_eq_nil_iff]
    by_cases hp : part = []
    · simp [hp]
    · simp [hp, Shows]
  | next part rest h ih =>
    rw [segments_append_newline h, decodeLossy_append_newline,
      lines_append_newline (newline_not_mem_decodeLossy h), List.map_cons]
    refine .cons ?_ ih
    simpa [Shows] using chomp_cases (decodeLossy part)

theorem newline_not_mem_of_mem_ofBytes {bs : Bytes} {line : String}
    (h : line ∈ (ofBytes bs).lines) : '\n' ∉ line.toList := by
  obtain ⟨cs, hcs, rfl⟩ := List.mem_map.mp h
  rw [String.toList_ofList]
  exact newline_not_mem_of_mem_lines hcs

end DefectGate.Transcript
