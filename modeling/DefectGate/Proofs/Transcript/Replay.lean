import DefectGate.Proofs.Log.Storing
import DefectGate.Proofs.Markers.Reading
import DefectGate.Proofs.Transcript.Segments

/-! # Reading a log back

A log is a stream of its own. Its transcript has the lines of the original one, each without the
carriage return that it may still have at its end: such a line comes from a stream that had two of
them before a newline, or one and no newline. No count depends on that.
-/
namespace DefectGate.Transcript
open Host (Path)
open Program Text Text.Utf8

/-- The characters of a transcript that is written out. -/
def logChars (t : Transcript) : List Char := t.lines.flatMap fun line => line.toList ++ ['\n']

theorem lineBytes_eq (line : String) : lineBytes line = encodeChars (line.toList ++ ['\n']) := by
  rw [encodeChars_append, encodeChars_newline]
  rfl

theorem logBytes_eq (t : Transcript) : t.logBytes = encodeChars t.logChars := by
  obtain ⟨lines⟩ := t
  induction lines with
  | nil => rfl
  | cons line lines ih =>
    rw [logChars, List.flatMap_cons, encodeChars_append, ← lineBytes_eq]
    exact congrArg _ ih

/-- No line holds a newline, as in the transcript of any stream. -/
def IsLinewise (t : Transcript) : Prop := ∀ line ∈ t.lines, '\n' ∉ line.toList

theorem isLinewise_ofBytes (bs : Bytes) : (ofBytes bs).IsLinewise :=
  fun _ h => newline_not_mem_of_mem_ofBytes h

/-- The transcript of the log of a transcript. -/
def reread (t : Transcript) : Transcript :=
  ⟨t.lines.map fun line => String.ofList (chomp line.toList)⟩

theorem ofBytes_logBytes {t : Transcript} (h : t.IsLinewise) : ofBytes t.logBytes = t.reread := by
  rw [ofBytes, logBytes_eq, decodeLossy_encodeChars, reread, logChars]
  congr 1
  obtain ⟨lines⟩ := t
  induction lines with
  | nil => rfl
  | cons line lines ih =>
    obtain ⟨hline, hlines⟩ := List.forall_mem_cons.mp h
    rw [List.flatMap_cons, List.append_assoc, List.singleton_append, lines_append_newline hline,
      List.map_cons, ih hlines, List.map_cons]

theorem sameLine_reread (t : Transcript) :
    List.Forall₂ Markers.SameLine t.lines t.reread.lines := by
  rw [reread, List.forall₂_map_right_iff, List.forall₂_same]
  intro line _
  simpa only [Markers.SameLine, String.toList_ofList] using chomp_cases line.toList

theorem reread_eq_self_iff (t : Transcript) :
    t.reread = t ↔ ∀ line ∈ t.lines, line.toList.getLast? ≠ some '\r' := by
  obtain ⟨lines⟩ := t
  change Transcript.mk _ = Transcript.mk _ ↔ _
  rw [Transcript.mk.injEq]
  nth_rewrite 2 [← List.map_id lines]
  rw [List.map_inj_left]
  refine forall₂_congr fun line _ => ?_
  rw [id, ← chomp_eq_self_iff, ← String.toList_inj, String.toList_ofList]

theorem splitOn_logChars {t : Transcript} (h : t.IsLinewise) :
    t.logChars.splitOn '\n' = t.lines.map String.toList ++ [[]] := by
  obtain ⟨lines⟩ := t
  induction lines with
  | nil => rfl
  | cons line lines ih =>
    obtain ⟨hline, hlines⟩ := List.forall_mem_cons.mp h
    rw [logChars, List.flatMap_cons, List.append_assoc, List.singleton_append,
      List.splitOn_append_cons_self_of_not_mem hline, List.map_cons, List.cons_append]
    exact congrArg _ (ih hlines)

/-- A log determines its transcript. -/
theorem eq_of_logBytes_eq {t t' : Transcript} (h : t.IsLinewise) (h' : t'.IsLinewise)
    (heq : t.logBytes = t'.logBytes) : t = t' := by
  rw [logBytes_eq, logBytes_eq] at heq
  have hsplit := congrArg (List.splitOn '\n') (encodeChars_injective heq)
  rw [splitOn_logChars h, splitOn_logChars h', List.append_cancel_right_eq] at hsplit
  have hinjective : Function.Injective String.toList := fun _ _ he => String.toList_injective he
  exact congrArg Transcript.mk (List.map_injective_iff.mpr hinjective hsplit)

theorem newline_not_mem_encodeChars {cs : List Char} (h : '\n' ∉ cs) :
    newline ∉ encodeChars cs := by
  intro hm
  obtain ⟨front, rest, hsplit⟩ := List.append_of_mem hm
  have hd := congrArg decodeLossy hsplit
  rw [decodeLossy_encodeChars, decodeLossy_append_newline] at hd
  exact h (by simp [hd])

theorem count_newline_lineBytes {line : String} (h : '\n' ∉ line.toList) :
    (lineBytes line).count newline = 1 := by
  rw [lineBytes, List.count_append, encode,
    List.count_eq_zero_of_not_mem (newline_not_mem_encodeChars h)]
  rfl

theorem count_newline_logBytes {t : Transcript} (h : t.IsLinewise) :
    t.logBytes.count newline = t.length := by
  obtain ⟨lines⟩ := t
  induction lines with
  | nil => rfl
  | cons line lines ih =>
    obtain ⟨hline, hlines⟩ := List.forall_mem_cons.mp h
    have hrest : (logBytes ⟨lines⟩).count newline = lines.length := ih hlines
    rw [logBytes, List.flatMap_cons, List.count_append, count_newline_lineBytes hline]
    change 1 + (logBytes ⟨lines⟩).count newline = lines.length + 1
    rw [hrest, Nat.add_comm]

/-- A log that was stored reproduces every count, has as many newlines as it reports lines, and
belongs to one transcript only. Its own transcript is that one exactly if no line ends with a
carriage return. -/
theorem log_reproduces {σ : Type} (h : Host σ) (s : σ) (path : Path) (stderr : Bytes)
    {log : LogFile} (hlog : ((Log.store (ofBytes stderr) path).run.run h s).1 = .ok log) :
    stored path ((Log.store (ofBytes stderr) path).run.trace h s) =
        some (ofBytes stderr).logBytes ∧
      log.lines = (ofBytes stderr).logBytes.count newline ∧
      (∀ m : Markers, m.Avoids '\r' → ∀ analyzer,
        Markers.SameReading (m.read analyzer (ofBytes stderr))
          (m.read analyzer (ofBytes (ofBytes stderr).logBytes))) ∧
      (∀ stderr', (ofBytes stderr').logBytes = (ofBytes stderr).logBytes →
        ofBytes stderr' = ofBytes stderr) ∧
      (ofBytes (ofBytes stderr).logBytes = ofBytes stderr ↔
        ∀ line ∈ (ofBytes stderr).lines, line.toList.getLast? ≠ some '\r') := by
  have hkeeps := Log.store_keeps (yields_run (Log.store (ofBytes stderr) path).run h s)
  rw [hlog] at hkeeps
  obtain ⟨hstored, rfl⟩ := hkeeps.stored_of_ok
  have hlines := isLinewise_ofBytes stderr
  refine ⟨hstored, (count_newline_logBytes hlines).symm, fun m hm analyzer => ?_,
    fun stderr' heq => eq_of_logBytes_eq (isLinewise_ofBytes stderr') hlines heq, ?_⟩
  · rw [ofBytes_logBytes hlines]
    exact Markers.sameReading_of_forall₂ hm (sameLine_reread _) analyzer
  · rw [ofBytes_logBytes hlines, reread_eq_self_iff]

/-- Two lines keep a carriage return: one had two before its newline, and one has no newline. -/
theorem log_reproduces_returns :
    ((Log.store (ofBytes [97, 13, 13, 10, 13]) (.ofString "log")).run.run (.willing [] []) ()).1 =
        .ok ⟨.ofString "log", 2⟩ ∧
      stored (.ofString "log")
        ((Log.store (ofBytes [97, 13, 13, 10, 13]) (.ofString "log")).run.trace
          (.willing [] []) ()) = some [97, 13, 10, 13, 10] ∧
      ofBytes [97, 13, 10, 13, 10] ≠ ofBytes [97, 13, 13, 10, 13] := by
  have h := log_reproduces (.willing [] []) () (.ofString "log") [97, 13, 13, 10, 13] rfl
  have hlog : (ofBytes [97, 13, 13, 10, 13]).logBytes = [97, 13, 10, 13, 10] := by decide
  rw [hlog] at h
  refine ⟨rfl, h.1, fun he => ?_⟩
  exact absurd (h.2.2.2.2.mp he) (by decide)

end DefectGate.Transcript
