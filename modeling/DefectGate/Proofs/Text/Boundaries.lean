import DefectGate.Proofs.Text.Search

/-! # Boundaries of characters

Encoded text may be cut at every place where no continuation byte follows, and both parts are again
encoded text. The places where one encoded text occurs in another are of this kind, so a search that
counts bytes and a search that counts characters find the same.
-/
namespace DefectGate.Text.Utf8

/-- A place in encoded text between two characters, at its start or at its end. -/
def IsBoundary (bs : Bytes) (i : Nat) : Prop := i ≤ bs.length ∧ Starts (bs.drop i)

theorem items_encodeChars (cs : List Char) : items (encodeChars cs) = cs.map some := by
  induction cs with
  | nil => rfl
  | cons c cs ih =>
    rw [encodeChars_cons, items_eq_itemsFrom, itemsFrom_of_completes (completes_utf8EncodeChar c),
      ← items_eq_itemsFrom, ih, List.map_cons]

/-- A stream in which nothing is broken is the encoding of what is read from it. -/
theorem eq_encodeChars_of_items {bs : Bytes} {cs : List Char} (h : items bs = cs.map some) :
    bs = encodeChars cs := by
  induction cs generalizing bs with
  | nil =>
    have hnil : decodeLossy bs = [] := by rw [decodeLossy, h]; rfl
    rw [decodeLossy_eq_nil_iff.mp hnil, encodeChars_nil]
  | cons c cs ih =>
    have hne : bs ≠ [] := by rintro rfl; cases h
    obtain ⟨item, own, rest, hi, -⟩ := exists_firstItem hne
    rw [hi.1, items_eq_itemsFrom, hi.2.1 rest (List.prefix_refl rest), ← items_eq_itemsFrom,
      List.map_cons, List.cons.injEq] at h
    rw [hi.1, eq_utf8EncodeChar_of_completes (hi.2.2 c h.1), ih h.2, encodeChars_cons]

/-- Both parts of encoded text that is cut between characters are encoded text. -/
theorem exists_split_of_encodeChars_eq {text : List Char} {front rest : Bytes}
    (h : encodeChars text = front ++ rest) (hs : Starts rest) :
    ∃ before after, text = before ++ after ∧ front = encodeChars before ∧
      rest = encodeChars after := by
  have hitems : text.map some = items front ++ items rest := by
    rw [← items_encodeChars, h, items_append hs]
  obtain ⟨before, after, htext, hbefore, hafter⟩ := List.map_eq_append_iff.mp hitems
  exact ⟨before, after, htext, eq_encodeChars_of_items hbefore.symm,
    eq_encodeChars_of_items hafter.symm⟩

theorem encodeChars_isPrefix {front text : List Char} (h : front <+: text) :
    encodeChars front <+: encodeChars text := by
  obtain ⟨rest, rfl⟩ := h
  exact ⟨encodeChars rest, (encodeChars_append front rest).symm⟩

theorem drop_encodeChars {front text : List Char} (h : front <+: text) :
    (encodeChars text).drop (encodeChars front).length = encodeChars (text.drop front.length) := by
  obtain ⟨rest, rfl⟩ := h
  rw [encodeChars_append, List.drop_left, List.drop_left]

/-- The start of an encoded text is cut off at a boundary. -/
theorem isBoundary_of_isPrefix {front text : List Char} (h : front <+: text) :
    IsBoundary (encodeChars text) (encodeChars front).length := by
  refine ⟨(encodeChars_isPrefix h).length_le, ?_⟩
  rw [drop_encodeChars h]
  by_cases hrest : text.drop front.length = []
  · simp [hrest, Starts]
  · simpa using starts_encodeChars_append hrest []

/-- Of two starts of a text the one with fewer characters has fewer bytes. -/
theorem length_encodeChars_le_iff {front before text : List Char} (hf : front <+: text)
    (hb : before <+: text) :
    (encodeChars front).length ≤ (encodeChars before).length ↔ front.length ≤ before.length := by
  constructor
  · intro h
    rcases List.prefix_or_prefix_of_prefix hf hb with hle | hle
    · exact hle.length_le
    · obtain ⟨more, rfl⟩ := hle
      rw [encodeChars_append, List.length_append] at h
      have hnil : more = [] := encodeChars_injective (List.length_eq_zero_iff.mp (by omega))
      simp [hnil]
  · intro h
    exact (encodeChars_isPrefix (List.prefix_of_prefix_length_le hf hb h)).length_le

/-- Where one encoded text occurs in another, the characters of the one occur in the other. -/
theorem exists_isPrefix_of_encodeChars {needle text : List Char} {front : Bytes}
    (hn : needle ≠ []) (h : front ++ encodeChars needle <+: encodeChars text) :
    ∃ before, before ++ needle <+: text ∧ front = encodeChars before := by
  obtain ⟨rest, hrest⟩ := h
  rw [List.append_assoc] at hrest
  obtain ⟨before, after, htext, hfront, hafter⟩ :=
    exists_split_of_encodeChars_eq hrest.symm (starts_encodeChars_append hn rest)
  refine ⟨before, ⟨decodeLossy rest, ?_⟩, hfront⟩
  rw [htext, ← decodeLossy_encodeChars after, ← hafter, decodeLossy_encodeChars_append,
    List.append_assoc]

/-- The bytes before the first place of a needle are those of the characters before it. -/
theorem firstAt_encodeChars {needle front text : List Char} (h : FirstAt needle front text) :
    FirstAt (encodeChars needle) (encodeChars front) (encodeChars text) := by
  refine ⟨?_, fun before hbefore => ?_⟩
  · rw [← encodeChars_append]
    exact encodeChars_isPrefix h.1
  · by_cases hn : needle = []
    · have hnil : front = [] := List.length_eq_zero_iff.mp (by simpa [hn] using h.2 [])
      simp [hnil]
    · obtain ⟨before, hb, rfl⟩ := exists_isPrefix_of_encodeChars hn hbefore
      have hbefore' : before <+: text := (List.prefix_append before needle).trans hb
      exact (length_encodeChars_le_iff h.front_prefix hbefore').mpr (h.2 before hb)

theorem isInfix_of_encodeChars {needle text : List Char}
    (h : encodeChars needle <:+: encodeChars text) : needle <:+: text := by
  by_cases hn : needle = []
  · exact hn ▸ List.nil_infix
  · obtain ⟨front, rest, hsplit⟩ := h
    obtain ⟨before, ⟨after, hafter⟩, -⟩ := exists_isPrefix_of_encodeChars hn ⟨rest, hsplit⟩
    exact ⟨before, after, hafter⟩

end DefectGate.Text.Utf8
