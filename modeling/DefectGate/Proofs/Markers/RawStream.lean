import DefectGate.Verdict
import DefectGate.Proofs.Markers.Reading
import DefectGate.Proofs.Transcript.Segments

/-! # Reading a count off the raw stream

The count can be read without decoding the stream: cut it at the newline bytes, look for the bytes
of the markers, and decode only what stands between them. This gives what the transcript gives, so
broken sequences anywhere else have no say in a verdict.
-/
namespace DefectGate.Markers
open Text Text.Utf8 Transcript

/-- What a raw stream says about the count. -/
inductive RawReading where
  | missing
  | unreadable
  | count (n : Count)
  deriving DecidableEq, Repr

/-- The last segment that holds the bytes of the opening marker. -/
def rawSummary? (m : Markers) (bs : Bytes) : Option Bytes :=
  ((segments bs).filter fun part => (offset? (encode m.opening) part).isSome).getLast?

/-- The bytes between the end of the first opening marker and the start of the first closing one,
unless they are missing or in the wrong order. -/
def rawBetween? (m : Markers) (part : Bytes) : Option Bytes := do
  let start := (← offset? (encode m.opening) part) + (encode m.opening).length
  let stop ← offset? (encode m.closing) part
  if stop < start then none else some ((part.take stop).drop start)

def rawCountOn? (m : Markers) (part : Bytes) : Option Count := do
  Count.parse? (trim (decodeLossy (← m.rawBetween? part)))

def readRaw (m : Markers) (bs : Bytes) : RawReading :=
  match m.rawSummary? bs with
  | none => .missing
  | some part =>
    match m.rawCountOn? part with
    | none => .unreadable
    | some n => .count n

/-- The outcome for a transcript that a reading of its raw stream stands for. -/
def RawReading.Describes (analyzer marker : String) : RawReading → Except Failure Count → Prop
  | .missing, r => r = .error (.summaryMissing analyzer marker)
  | .unreadable, r => ∃ line, r = .error (.countUnreadable line)
  | .count n, r => r = .ok n

theorem occursIn_decodeLossy {m : Markers} (h : m.Avoids replacement) (part : Bytes) :
    occursIn m.opening.toList (decodeLossy part) = (offset? (encode m.opening) part).isSome := by
  rw [occursIn, index?_decodeLossy h.1, Option.isSome_map, encode]

/-- A line may be cut after its opening marker, and decoding keeps that marker as it is. -/
theorem decodeLossy_take_past_opening {m : Markers} {part : Bytes} {i j : Nat}
    (hi : offset? (encode m.opening) part = some i) (hij : i + (encode m.opening).length ≤ j) :
    decodeLossy (part.take j) = decodeLossy (part.take i) ++ m.opening.toList ++
      decodeLossy ((part.take j).drop (i + (encode m.opening).length)) :=
  decodeLossy_take_past_offset? hi hij

theorem decodeLossy_take_opening {m : Markers} {part : Bytes} {i : Nat}
    (hi : offset? (encode m.opening) part = some i) :
    decodeLossy (part.take (i + (encode m.opening).length)) =
      decodeLossy (part.take i) ++ m.opening.toList := by
  rw [decodeLossy_take_past_opening hi le_rfl, List.drop_take, Nat.sub_self, List.take_zero,
    decodeLossy_eq_nil_iff.mpr rfl, List.append_nil]

/-- What stands between the markers is the same before and after decoding. -/
theorem between?_decodeLossy {m : Markers} (h : m.Avoids replacement) (part : Bytes) :
    m.between? (decodeLossy part) = (m.rawBetween? part).map decodeLossy := by
  have hindex (s : String) (hs : replacement ∉ s.toList) :
      index? s.toList (decodeLossy part) =
        (offset? (encode s) part).map fun i => (decodeLossy (part.take i)).length :=
    index?_decodeLossy hs part
  rw [between?, rawBetween?, hindex _ h.1, hindex _ h.2]
  cases hi : offset? (encode m.opening) part with
  | none => rfl
  | some i =>
    cases hj : offset? (encode m.closing) part with
    | none => rfl
    | some j =>
      simp only [Option.map_some, Option.bind_eq_bind, Option.bind_some]
      have hstart : (decodeLossy (part.take i)).length + m.opening.length =
          (decodeLossy (part.take (i + (encode m.opening).length))).length := by
        rw [decodeLossy_take_opening hi, List.length_append, String.length_toList]
      rw [hstart]
      by_cases hlt : j < i + (encode m.opening).length
      · -- the closing marker begins before the opening one ends, and decoding keeps that order
        have hlen : i + (encode m.opening).length ≤ part.length := by
          obtain ⟨after, ha⟩ := exists_split_of_offset? hi
          have hle : i ≤ part.length := (offset?_eq_some_iff.mp hi).2.1
          have := congrArg List.length ha
          simp only [List.length_append, List.length_take] at this
          omega
        have hne : (part.take (i + (encode m.opening).length)).drop j ≠ [] := by
          rw [ne_eq, List.drop_eq_nil_iff, List.length_take]
          omega
        have hpos := List.length_pos_of_ne_nil fun he => hne (decodeLossy_eq_nil_iff.mp he)
        rw [if_neg, if_pos hlt, Option.map_none]
        rw [decodeLossy_take_of_offset? hj hlt.le, List.length_append]
        omega
      · have hle : i + (encode m.opening).length ≤ j := not_lt.mp hlt
        have htake : decodeLossy (part.take j) =
            decodeLossy (part.take (i + (encode m.opening).length)) ++
              decodeLossy ((part.take j).drop (i + (encode m.opening).length)) := by
          rw [decodeLossy_take_past_opening hi hle, decodeLossy_take_opening hi]
        rw [if_pos, if_neg hlt, Option.map_some]
        · rw [decodeLossy_of_offset? hj, List.take_left, htake, List.drop_left]
        · rw [htake, List.length_append]
          omega

theorem Shows.occursIn_eq {m : Markers} (hr : m.Avoids '\r') (hu : m.Avoids replacement)
    {part : Bytes} {line : String} (h : Shows part line) :
    (offset? (encode m.opening) part).isSome = occursIn m.opening.toList line.toList := by
  rw [← occursIn_decodeLossy hu]
  rcases h with h | h
  · rw [h]
  · rw [h, occursIn_append_singleton hr]

theorem Shows.countOn?_eq {m : Markers} (hr : m.Avoids '\r') (hu : m.Avoids replacement)
    {part : Bytes} {line : String} (h : Shows part line) :
    m.rawCountOn? part = m.countOn? line := by
  have hb : m.between? line.toList = (m.rawBetween? part).map decodeLossy := by
    rw [← between?_decodeLossy hu]
    rcases h with h | h
    · rw [h]
    · rw [h, between?_append_singleton hr]
  rw [countOn?, rawCountOn?, hb]
  cases m.rawBetween? part <;> rfl

/-- The raw stream and its transcript report the same count or fail alike, and a report built on
the transcript is clean exactly if the raw stream reads zero. -/
theorem readRaw_describes_read {m : Markers} (hr : m.Avoids '\r') (hu : m.Avoids replacement)
    (analyzer : String) (bs : Bytes) :
    (m.readRaw bs).Describes analyzer m.opening (m.read analyzer (ofBytes bs)) ∧
      ∀ (name : String) (target : Fingerprint) (log : LogFile),
        Verdict.ofResult ((m.read analyzer (ofBytes bs)).map (Report.mk name target log)) = .clean ↔
          m.readRaw bs = .count 0 := by
  have hdescribes : (m.readRaw bs).Describes analyzer m.opening (m.read analyzer (ofBytes bs)) := by
    have hfind : Option.Rel Shows (m.rawSummary? bs) (m.summaryLine? (ofBytes bs)) := by
      rw [rawSummary?, List.getLast?_filter]
      exact rel_find?_of_forall₂ (List.rel_reverse (forall₂_shows bs))
        fun _ _ h => Shows.occursIn_eq hr hu h
    rw [readRaw, read]
    generalize m.rawSummary? bs = found at hfind
    generalize m.summaryLine? (ofBytes bs) = found' at hfind
    cases hfind with
    | none => rfl
    | @some part line h =>
      simp only [Shows.countOn?_eq hr hu h]
      cases m.countOn? line with
      | none => exact ⟨line, rfl⟩
      | some n => rfl
  refine ⟨hdescribes, fun name target log => ?_⟩
  cases hraw : m.readRaw bs with
  | missing =>
    rw [hraw] at hdescribes
    simp [show m.read analyzer (ofBytes bs) = _ from hdescribes, Except.map, Verdict.ofResult]
  | unreadable =>
    rw [hraw] at hdescribes
    obtain ⟨line, hline⟩ := hdescribes
    simp [hline, Except.map, Verdict.ofResult]
  | count n =>
    rw [hraw] at hdescribes
    rw [show m.read analyzer (ofBytes bs) = _ from hdescribes]
    by_cases hn : n = 0 <;> simp [hn, Except.map, Verdict.ofResult]

/-- Truncated sequences before a marker, a newline and the end, and an earlier line with a count. -/
theorem readRaw_describes_read_truncated :
    Markers.read ⟨"N:", "é"⟩ "probe"
      (ofBytes [240, 159, 78, 58, 48, 195, 169, 195, 10, 226, 130, 78, 58, 55, 195, 169, 13, 237]) =
        .ok 7 := by
  have h := (readRaw_describes_read (m := ⟨"N:", "é"⟩) (by decide) (by decide) "probe"
    [240, 159, 78, 58, 48, 195, 169, 195, 10, 226, 130, 78, 58, 55, 195, 169, 13, 237]).1
  have hraw : readRaw ⟨"N:", "é"⟩
      [240, 159, 78, 58, 48, 195, 169, 195, 10, 226, 130, 78, 58, 55, 195, 169, 13, 237] =
        .count 7 := by decide
  rw [hraw] at h
  exact h

end DefectGate.Markers
