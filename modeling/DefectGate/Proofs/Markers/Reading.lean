import DefectGate.Markers
import DefectGate.Proofs.Text.Search

/-! # What a count depends on

Both markers and what stands between them are found in the same places if a line is given one more
character that neither marker holds. Transcripts whose lines differ by a closing carriage return
therefore report the same counts.
-/
namespace DefectGate.Markers
open Text

/-- Neither marker holds a character. -/
def Avoids (m : Markers) (c : Char) : Prop := c ∉ m.opening.toList ∧ c ∉ m.closing.toList

instance (m : Markers) (c : Char) : Decidable (m.Avoids c) :=
  inferInstanceAs (Decidable (_ ∧ _))

theorem occursIn_append_singleton {m : Markers} {c : Char} (h : m.Avoids c) (line : List Char) :
    occursIn m.opening.toList (line ++ [c]) = occursIn m.opening.toList line := by
  rw [occursIn, occursIn, index?_append_singleton h.1]

theorem between?_append_singleton {m : Markers} {c : Char} (h : m.Avoids c) (line : List Char) :
    m.between? (line ++ [c]) = m.between? line := by
  simp only [between?, index?_append_singleton h.1, index?_append_singleton h.2]
  cases index? m.opening.toList line with
  | none => rfl
  | some start =>
    cases hstop : index? m.closing.toList line with
    | none => rfl
    | some stop =>
      rw [index?_eq_offset?] at hstop
      have hle : stop ≤ line.length := (offset?_eq_some_iff.mp hstop).2.1
      simp only [Option.bind_eq_bind, Option.bind_some, List.take_append_of_le_length hle]

/-- Two lines of which the first may have one more carriage return at its end. -/
def SameLine (line line' : String) : Prop :=
  line.toList = line'.toList ∨ line.toList = line'.toList ++ ['\r']

theorem SameLine.occursIn_eq {m : Markers} (h : m.Avoids '\r') {line line' : String}
    (hl : SameLine line line') :
    occursIn m.opening.toList line.toList = occursIn m.opening.toList line'.toList := by
  rcases hl with hl | hl
  · rw [hl]
  · rw [hl, occursIn_append_singleton h]

theorem SameLine.countOn?_eq {m : Markers} (h : m.Avoids '\r') {line line' : String}
    (hl : SameLine line line') : m.countOn? line = m.countOn? line' := by
  rcases hl with hl | hl
  · rw [countOn?, countOn?, hl]
  · rw [countOn?, countOn?, hl, between?_append_singleton h]

/-- Lists that are related element by element are searched to related elements. -/
theorem rel_find?_of_forall₂ {α β : Type*} {R : α → β → Prop} {p : α → Bool} {q : β → Bool}
    {as : List α} {bs : List β} (h : List.Forall₂ R as bs) (hpq : ∀ a b, R a b → p a = q b) :
    Option.Rel R (as.find? p) (bs.find? q) := by
  induction h with
  | nil => exact .none
  | @cons a b as bs hab _ ih =>
    rw [List.find?_cons, List.find?_cons, hpq a b hab]
    cases q b
    · exact ih
    · exact .some hab

/-- Two readings that agree but for one carriage return at the end of a reported line. -/
inductive SameReading : Except Failure Count → Except Failure Count → Prop where
  | count (n : Count) : SameReading (.ok n) (.ok n)
  | missing (analyzer marker : String) :
      SameReading (.error (.summaryMissing analyzer marker))
        (.error (.summaryMissing analyzer marker))
  | unreadable {line line' : String} (h : SameLine line line') :
      SameReading (.error (.countUnreadable line)) (.error (.countUnreadable line'))

theorem sameReading_of_forall₂ {m : Markers} (h : m.Avoids '\r') {t t' : Transcript}
    (ht : List.Forall₂ SameLine t.lines t'.lines) (analyzer : String) :
    SameReading (m.read analyzer t) (m.read analyzer t') := by
  have hfind : Option.Rel SameLine (m.summaryLine? t) (m.summaryLine? t') :=
    rel_find?_of_forall₂ (List.rel_reverse ht) fun _ _ hl => hl.occursIn_eq h
  rw [read, read]
  generalize m.summaryLine? t = found at hfind
  generalize m.summaryLine? t' = found' at hfind
  cases hfind with
  | none => exact .missing _ _
  | @some line line' hl =>
    simp only [hl.countOn?_eq h]
    cases m.countOn? line' with
    | none => exact .unreadable hl
    | some n => exact .count n

end DefectGate.Markers
