import DefectGate.Proofs.Transcript.Segments

/-! # Line by line

Cutting a stream at its newline bytes and decoding commute. Every line of a transcript is therefore
what its own bytes are decoded to, and nothing on one line reaches another. A line loses a carriage
return to the newline that ends it. Where no newline follows the last line, that line keeps it.
-/
namespace DefectGate.Transcript
open Text Text.Utf8

theorem ended_decodeLossy (bs : Bytes) :
    ended '\n' (decodeLossy bs) = (ended newline bs).map decodeLossy := by
  induction bs using separator_induction newline with
  | last part h =>
    rw [ended_of_not_mem h, ended_of_not_mem (newline_not_mem_decodeLossy h), List.map_nil]
  | next part rest h ih =>
    rw [decodeLossy_append_newline, ended_append_cons h,
      ended_append_cons (newline_not_mem_decodeLossy h), ih, List.map_cons]

theorem remainder_decodeLossy (bs : Bytes) :
    remainder '\n' (decodeLossy bs) = decodeLossy (remainder newline bs) := by
  induction bs using separator_induction newline with
  | last part h =>
    rw [remainder_of_not_mem h, remainder_of_not_mem (newline_not_mem_decodeLossy h)]
  | next part rest h ih =>
    rw [decodeLossy_append_newline, remainder_append_cons h,
      remainder_append_cons (newline_not_mem_decodeLossy h), ih]

theorem map_toList_lines_ofBytes (bs : Bytes) :
    (ofBytes bs).lines.map String.toList = Text.lines (decodeLossy bs) := by
  simp [ofBytes, Function.comp_def]

/-- The line that the bytes before a newline are shown as. -/
def endedLine (part : Bytes) : String := String.ofList (withoutReturn (decodeLossy part))

/-- The lines of a transcript from the bytes between the newlines, each decoded alone. -/
theorem lines_ofBytes (bs : Bytes) :
    (ofBytes bs).lines = (ended newline bs).map endedLine ++
      if remainder newline bs = [] then [] else [toStringLossy (remainder newline bs)] := by
  rw [ofBytes, lines_eq, ended_decodeLossy, remainder_decodeLossy]
  simp only [decodeLossy_eq_nil_iff, List.map_append, List.map_map]
  split_ifs <;> rfl

theorem length_ofBytes (bs : Bytes) :
    (ofBytes bs).length =
      bs.count newline + if bs ≠ [] ∧ bs.getLast? ≠ some newline then 1 else 0 := by
  rw [length, lines_ofBytes, List.length_append, List.length_map, length_ended]
  simp only [remainder_eq_nil_iff, ← not_or]
  split_ifs <;> rfl

/-- A newline ends whatever stands before it, so the transcript of a stream is put together from
those of its two sides. No line holds a newline, there are as many lines as newlines and one more
for text after the last newline, and each is decoded from its own bytes alone. -/
theorem ofBytes_linewise (as bs : Bytes) :
    (ofBytes (as ++ [newline] ++ bs)).lines =
        (ofBytes (as ++ [newline])).lines ++ (ofBytes bs).lines ∧
      (∀ line ∈ (ofBytes bs).lines, '\n' ∉ line.toList) ∧
      (ofBytes bs).length =
        bs.count newline + (if bs ≠ [] ∧ bs.getLast? ≠ some newline then 1 else 0) ∧
      (ofBytes bs).lines = (ended newline bs).map endedLine ++
        if remainder newline bs = [] then [] else [toStringLossy (remainder newline bs)] := by
  refine ⟨?_, fun _ h => newline_not_mem_of_mem_ofBytes h, length_ofBytes bs, lines_ofBytes bs⟩
  simp only [ofBytes, List.append_assoc, List.singleton_append, decodeLossy_append_newline]
  rw [lines_append_newline_append, List.map_append]
  rfl

/-- A character that a newline cuts off is replaced, and neither the newline nor the next line is
touched. -/
theorem ofBytes_linewise_cut :
    (ofBytes ([0xE2, 0x82] ++ [newline] ++ [97, 13, 10])).lines = ["\uFFFD"] ++ ["a"] ∧
      '\n' ∉ "\uFFFD".toList := by
  obtain ⟨happend, -, -, -⟩ := ofBytes_linewise [0xE2, 0x82] [97, 13, 10]
  obtain ⟨-, hnewline, -, -⟩ := ofBytes_linewise [] ([0xE2, 0x82] ++ [newline])
  have hcut : (ofBytes ([0xE2, 0x82] ++ [newline])).lines = ["\uFFFD"] := by decide
  refine ⟨?_, hnewline _ (by rw [hcut]; exact List.mem_singleton_self _)⟩
  rw [happend, hcut]
  decide

/-! ### Carriage returns -/

/-- The byte of a carriage return. -/
def carriageReturn : UInt8 := 13

theorem getLast?_decodeLossy_eq_return_iff (bs : Bytes) :
    (decodeLossy bs).getLast? = some '\r' ↔ bs.getLast? = some carriageReturn := by
  constructor
  · intro h
    obtain ⟨before, hbefore⟩ := List.getLast?_eq_some_iff.mp h
    have hsplit : decodeLossy bs = before ++ ['\r'] ++ [] := by simpa using hbefore
    obtain ⟨front, rest, hb, -, hrest⟩ := exists_split_of_decodeLossy_eq (by decide) hsplit
    rw [hb, decodeLossy_eq_nil_iff.mp hrest, List.append_nil]
    exact List.getLast?_concat
  · intro h
    obtain ⟨front, rfl⟩ := List.getLast?_eq_some_iff.mp h
    have hstarts : Starts [carriageReturn] := by
      intro b hb
      obtain rfl : carriageReturn = b := by simpa using hb
      decide
    rw [decodeLossy_append hstarts]
    exact List.getLast?_concat

/-- The parts of a text between newlines. An empty part after the last newline does not count. -/
def lineParts (text : List Char) : List (List Char) :=
  let parts := text.splitOn '\n'
  if parts.getLast? = some [] then parts.dropLast else parts

theorem lineParts_eq (text : List Char) :
    lineParts text = ended '\n' text ++
      if remainder '\n' text = [] then [] else [remainder '\n' text] := by
  obtain ⟨last, hlast⟩ := Option.ne_none_iff_exists'.mp
    (List.getLast?_eq_none_iff.not.mpr (List.splitOn_ne_nil '\n' text))
  obtain ⟨front, hsplit⟩ := List.getLast?_eq_some_iff.mp hlast
  by_cases hnil : last = [] <;> simp [lineParts, ended, remainder, hsplit, hnil]

theorem withoutReturn_eq_self_iff {line : List Char} :
    line = withoutReturn line ↔ line.getLast? ≠ some '\r' := by
  rw [← chomp_eq_withoutReturn, eq_comm, chomp_eq_self_iff]

/-- A carriage return is removed from every line that a newline ends and from no other. Removing it
from the last line in any case would give the same lines exactly for the streams that do not end
with a carriage return. -/
theorem lines_keep_open_return (bs : Bytes) :
    (ofBytes bs).lines.map String.toList =
        (ended '\n' (decodeLossy bs)).map withoutReturn ++
          (if remainder '\n' (decodeLossy bs) = [] then []
            else [remainder '\n' (decodeLossy bs)]) ∧
      ((ofBytes bs).lines.map String.toList = (lineParts (decodeLossy bs)).map withoutReturn ↔
        bs.getLast? ≠ some carriageReturn) := by
  have hlines := (map_toList_lines_ofBytes bs).trans (lines_eq (decodeLossy bs))
  refine ⟨hlines, ?_⟩
  rw [hlines, lineParts_eq, List.map_append, List.append_cancel_left_eq, ne_eq,
    ← getLast?_decodeLossy_eq_return_iff, ← getLast?_remainder (show '\r' ≠ '\n' by decide)]
  by_cases hnil : remainder '\n' (decodeLossy bs) = []
  · simp [hnil]
  · simp only [hnil, if_false, List.map_cons, List.map_nil, List.cons.injEq, and_true]
    exact withoutReturn_eq_self_iff

/-- A last line without a newline keeps its return, so removing it in any case is another rule. -/
theorem lines_open_return :
    (ofBytes [97, 13]).lines.map String.toList = [['a', '\r']] ∧
      (lineParts (decodeLossy [97, 13])).map withoutReturn = [['a']] ∧
      ¬ ∀ bs, (ofBytes bs).lines.map String.toList =
        (lineParts (decodeLossy bs)).map withoutReturn := by
  refine ⟨by decide, by decide, fun h => ?_⟩
  exact absurd (h [97, 13]) (by decide)

end DefectGate.Transcript
