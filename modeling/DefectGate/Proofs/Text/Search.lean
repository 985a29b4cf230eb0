import DefectGate.Text.Search
import DefectGate.Proofs.Text.Spelling

/-! # Searching before and after decoding

The first place of a needle is said once for lists of anything and then compared between a stream
and the text it is decoded to. Every place of the encoded needle in the stream is a place of the
needle in the text, in the same order, unless the needle holds the replacement character.
-/
namespace DefectGate.Text

/-- The first place of `needle` in `text` is the end of `front`. -/
def FirstAt {α : Type*} (needle front text : List α) : Prop :=
  front ++ needle <+: text ∧ ∀ before, before ++ needle <+: text → front.length ≤ before.length

theorem FirstAt.isInfix {α : Type*} {needle front text : List α} (h : FirstAt needle front text) :
    needle <:+: text := (List.suffix_append front needle).isInfix.trans h.1.isInfix

theorem FirstAt.front_prefix {α : Type*} {needle front text : List α}
    (h : FirstAt needle front text) : front <+: text := (List.prefix_append front needle).trans h.1

section Offsets
variable {α : Type*} [BEq α]

/-- The least number of elements after which `needle` stands in `text`. -/
def offset? (needle text : List α) : Option Nat :=
  (List.range (text.length + 1)).find? fun i => needle.isPrefixOf (text.drop i)

theorem offset?_cons (needle text : List α) (a : α) :
    offset? needle (a :: text) =
      if needle.isPrefixOf (a :: text) then some 0 else (offset? needle text).map (· + 1) := by
  rw [offset?, List.length_cons, List.range_succ_eq_map, List.find?_cons, List.find?_map]
  cases h : needle.isPrefixOf (a :: text) <;> simp [h, offset?]

variable [LawfulBEq α]

theorem offset?_eq_some_iff {needle text : List α} {i : Nat} :
    offset? needle text = some i ↔
      needle <+: text.drop i ∧ i ≤ text.length ∧ ∀ j < i, ¬needle <+: text.drop j := by
  simp only [offset?, List.find?_range_eq_some, List.isPrefixOf_iff_prefix, List.mem_range,
    Nat.lt_succ_iff, Bool.not_eq_true']
  refine and_congr_right fun _ => and_congr_right fun _ => forall₂_congr fun j _ => ?_
  rw [← List.isPrefixOf_iff_prefix, Bool.not_eq_true]

theorem exists_split_of_offset? {needle text : List α} {i : Nat}
    (h : offset? needle text = some i) :
    ∃ after, text = text.take i ++ needle ++ after := by
  obtain ⟨⟨after, ha⟩, -⟩ := offset?_eq_some_iff.mp h
  exact ⟨after, by rw [List.append_assoc, ha, List.take_append_drop]⟩

theorem offset?_le_of_split {needle text before after : List α} {i : Nat}
    (h : offset? needle text = some i) (ht : text = before ++ needle ++ after) :
    i ≤ before.length := by
  by_contra hlt
  refine (offset?_eq_some_iff.mp h).2.2 before.length (by omega) ⟨after, ?_⟩
  simp [ht]

theorem offset?_ne_none_of_split {needle text before after : List α}
    (ht : text = before ++ needle ++ after) : offset? needle text ≠ none := by
  intro h
  have hi := List.find?_eq_none.mp h before.length (by simp [ht])
  exact hi (by simp [ht])

/-- A place that no other place precedes is the first one. -/
theorem offset?_of_least_split {needle text before after : List α}
    (ht : text = before ++ needle ++ after)
    (hmin : ∀ b a, text = b ++ needle ++ a → before.length ≤ b.length) :
    offset? needle text = some before.length := by
  obtain ⟨i, hi⟩ := Option.ne_none_iff_exists'.mp (offset?_ne_none_of_split ht)
  obtain ⟨a, ha⟩ := exists_split_of_offset? hi
  have h1 := hmin _ _ ha
  have h2 := offset?_le_of_split hi ht
  have h3 := (offset?_eq_some_iff.mp hi).2.1
  rw [List.length_take, min_eq_left h3] at h1
  rw [hi, le_antisymm h2 h1]

/-- The first place depends on nothing but the places. -/
theorem offset?_congr {needle text text' : List α}
    (h : ∀ before, (∃ after, text = before ++ needle ++ after) ↔
      ∃ after, text' = before ++ needle ++ after) : offset? needle text = offset? needle text' := by
  cases hi : offset? needle text with
  | none =>
    symm
    by_contra hne
    obtain ⟨i, hi'⟩ := Option.ne_none_iff_exists'.mp hne
    obtain ⟨a, ha⟩ := (h _).mpr (exists_split_of_offset? hi')
    exact offset?_ne_none_of_split ha hi
  | some i =>
    obtain ⟨a, ha⟩ := (h _).mp (exists_split_of_offset? hi)
    have hlen : (text.take i).length = i := by
      rw [List.length_take, min_eq_left (offset?_eq_some_iff.mp hi).2.1]
    rw [offset?_of_least_split ha, hlen]
    intro b a' hb
    obtain ⟨a'', hb'⟩ := (h b).mpr ⟨a', hb⟩
    rw [hlen]
    exact offset?_le_of_split hi hb'

@[simp] theorem offset?_nil (text : List α) : offset? [] text = some 0 := by
  have hsplit : text = [] ++ [] ++ text := rfl
  exact offset?_of_least_split hsplit fun _ _ _ => Nat.zero_le _

theorem offset?_of_firstAt {needle front text : List α} (h : FirstAt needle front text) :
    offset? needle text = some front.length := by
  obtain ⟨⟨after, rfl⟩, hmin⟩ := h
  exact offset?_of_least_split rfl fun before after' hsplit => hmin before ⟨after', hsplit.symm⟩

theorem firstAt_of_offset? {needle text : List α} {i : Nat} (h : offset? needle text = some i) :
    FirstAt needle (text.take i) text := by
  obtain ⟨after, ha⟩ := exists_split_of_offset? h
  refine ⟨⟨after, ha.symm⟩, fun before hbefore => ?_⟩
  obtain ⟨after', ha'⟩ := hbefore
  exact (List.length_take_le i text).trans (offset?_le_of_split h ha'.symm)

theorem offset?_eq_none_iff {needle text : List α} :
    offset? needle text = none ↔ ¬ needle <:+: text := by
  rw [← not_iff_not, not_not]
  constructor
  · intro h
    obtain ⟨i, hi⟩ := Option.ne_none_iff_exists'.mp h
    obtain ⟨after, ha⟩ := exists_split_of_offset? hi
    exact ⟨_, after, ha.symm⟩
  · rintro ⟨before, after, hsplit⟩
    exact offset?_ne_none_of_split hsplit.symm

theorem exists_firstAt_of_infix {needle text : List α} (h : needle <:+: text) :
    ∃ front, FirstAt needle front text := by
  obtain ⟨i, hi⟩ := Option.ne_none_iff_exists'.mp (offset?_eq_none_iff.not_left.mpr h)
  exact ⟨_, firstAt_of_offset? hi⟩

end Offsets

theorem indexFrom_eq (needle : List Char) (start : Nat) (text : List Char) :
    indexFrom needle start text = (offset? needle text).map (· + start) := by
  induction text generalizing start with
  | nil => cases needle <;> simp [indexFrom, offset?]
  | cons c cs ih =>
    rw [indexFrom, offset?_cons, ih]
    cases needle.isPrefixOf (c :: cs)
    · simp only [Bool.false_eq_true, if_false, Option.map_map]
      congr 1
      funext n
      simp only [Function.comp_apply]
      omega
    · simp

theorem index?_eq_offset? (needle text : List Char) : index? needle text = offset? needle text := by
  simp [index?, indexFrom_eq]

theorem occursIn_iff {needle text : List Char} :
    occursIn needle text = true ↔ needle <:+: text := by
  rw [occursIn, index?_eq_offset?, Option.isSome_iff_ne_none, ne_eq, offset?_eq_none_iff, not_not]

/-- A character that a needle does not hold can be added to the end of a text without moving the
first place of the needle. -/
theorem index?_append_singleton {needle : List Char} {c : Char} (h : c ∉ needle)
    (text : List Char) :
    index? needle (text ++ [c]) = index? needle text := by
  simp only [index?_eq_offset?]
  by_cases hn : needle = []
  · simp [hn]
  refine offset?_congr fun before => ⟨?_, ?_⟩
  · rintro ⟨after, ha⟩
    rcases List.eq_nil_or_concat after with rfl | ⟨after, d, rfl⟩
    · -- the needle would end in the added character
      rw [List.append_nil] at ha
      have hl : (text ++ [c]).getLast? = (before ++ needle).getLast? := by rw [ha]
      rw [List.getLast?_concat, List.getLast?_append_of_ne_nil _ hn] at hl
      exact absurd (List.mem_of_getLast? hl.symm) h
    · rw [List.concat_eq_append, ← List.append_assoc] at ha
      exact ⟨after, (List.append_inj' ha rfl).1⟩
  · rintro ⟨after, rfl⟩
    exact ⟨after ++ [c], by simp⟩

namespace Utf8

theorem Starts.take {bs : Bytes} (h : Starts bs) (n : Nat) : Starts (bs.take n) := by
  cases n with
  | zero => simp [Starts]
  | succ n =>
    cases bs with
    | nil => simp [Starts]
    | cons b bs => exact fun b' hb => h b' (by simpa using hb)

/-- A stream may be cut at the first place of an encoded needle, wherever it ends. -/
theorem decodeLossy_take_of_offset? {needle : List Char} {bs : Bytes} {i j : Nat}
    (h : offset? (encodeChars needle) bs = some i) (hij : i ≤ j) :
    decodeLossy (bs.take j) = decodeLossy (bs.take i) ++ decodeLossy ((bs.take j).drop i) := by
  by_cases hn : needle = []
  · subst hn
    obtain rfl : 0 = i := by simpa using h
    simp
  obtain ⟨after, ha⟩ := (offset?_eq_some_iff.mp h).1
  have hstarts : Starts ((bs.take j).drop i) := by
    rw [List.drop_take, ← ha]
    exact (starts_encodeChars_append hn after).take _
  have htake : bs.take j = bs.take i ++ (bs.take j).drop i := by
    conv_lhs => rw [← List.take_append_drop i (bs.take j)]
    rw [List.take_take, min_eq_left hij]
  conv_lhs => rw [htake]
  exact decodeLossy_append hstarts

theorem decodeLossy_of_offset? {needle : List Char} {bs : Bytes} {i : Nat}
    (h : offset? (encodeChars needle) bs = some i) :
    decodeLossy bs = decodeLossy (bs.take i) ++ decodeLossy (bs.drop i) := by
  simpa using decodeLossy_take_of_offset? (j := bs.length) h (offset?_eq_some_iff.mp h).2.1

/-- A stream may also be cut right after the first place of an encoded needle. -/
theorem decodeLossy_take_past_offset? {needle : List Char} {bs : Bytes} {i j : Nat}
    (h : offset? (encodeChars needle) bs = some i) (hij : i + (encodeChars needle).length ≤ j) :
    decodeLossy (bs.take j) = decodeLossy (bs.take i) ++ needle ++
      decodeLossy ((bs.take j).drop (i + (encodeChars needle).length)) := by
  obtain ⟨after, ha⟩ := (offset?_eq_some_iff.mp h).1
  obtain ⟨k, rfl⟩ := Nat.exists_eq_add_of_le hij
  have hdrop : (bs.take (i + (encodeChars needle).length + k)).drop i =
      encodeChars needle ++ after.take k := by
    rw [List.drop_take, ← ha, Nat.add_assoc, Nat.add_sub_cancel_left, List.take_length_add_append]
  rw [decodeLossy_take_of_offset? h (by omega), ← List.drop_drop, hdrop,
    decodeLossy_encodeChars_append, List.drop_left, List.append_assoc]

/-- The first place of a needle in a decoded stream is where the first place of the encoded needle
is decoded to. -/
theorem index?_decodeLossy {needle : List Char} (hn : replacement ∉ needle) (bs : Bytes) :
    index? needle (decodeLossy bs) =
      (offset? (encodeChars needle) bs).map fun i => (decodeLossy (bs.take i)).length := by
  rw [index?_eq_offset?]
  cases h : offset? (encodeChars needle) bs with
  | none =>
    by_contra hne
    obtain ⟨i, hi⟩ := Option.ne_none_iff_exists'.mp hne
    obtain ⟨after, ha⟩ := exists_split_of_offset? hi
    obtain ⟨front, rest, hb, -, -⟩ := exists_split_of_decodeLossy_eq hn ha
    exact offset?_ne_none_of_split hb h
  | some i =>
    obtain ⟨after, ha⟩ := (offset?_eq_some_iff.mp h).1
    have hd : decodeLossy bs = decodeLossy (bs.take i) ++ needle ++ decodeLossy after := by
      rw [decodeLossy_of_offset? h, ← ha, decodeLossy_encodeChars_append, List.append_assoc]
    refine offset?_of_least_split hd fun b a hba => ?_
    obtain ⟨front, rest, hb, rfl, -⟩ := exists_split_of_decodeLossy_eq hn hba
    have hle : i ≤ front.length := offset?_le_of_split h hb
    have hfront : front = bs.take front.length := by
      conv_rhs => rw [hb]
      simp
    rw [hfront, decodeLossy_take_of_offset? h hle, List.length_append]
    exact Nat.le_add_right _ _

end Utf8
end DefectGate.Text
