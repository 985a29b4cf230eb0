import DefectGate.Text.Utf8
import Mathlib.Tactic

/-! # Resynchronisation of the decoder

Decoding is followed from any state, so that a stream can be cut. A byte that continues no
character closes whatever is open and starts afresh: a stream may be cut before every such byte, and
after every whole character. Nothing is said here about which characters the bytes spell.
-/
namespace DefectGate.Text.Utf8

/-- Whether a byte can only stand inside a character. -/
def Continues (b : UInt8) : Prop := 0x80 ≤ b ∧ b < 0xC0

instance (b : UInt8) : Decidable (Continues b) := inferInstanceAs (Decidable (_ ∧ _))

/-- A stream that does not begin inside a character. -/
def Starts (bs : Bytes) : Prop := ∀ b ∈ bs.head?, ¬Continues b

/-- The items that a stream adds when it is met in a given state. -/
def itemsFrom : State → Bytes → List Item
  | s, [] => close s
  | s, b :: bs => (feed s b).1 ++ itemsFrom (feed s b).2 bs

/-- What an open character waits for is always a continuation. -/
def State.Sound : State → Prop
  | .between => True
  | .within _ _ low high => 0x80 ≤ low ∧ high < 0xC0

theorem foldl_push_items (bs : Bytes) (s : Scan) :
    (bs.foldl Scan.push s).items = s.read.reverse ++ itemsFrom s.state bs := by
  induction bs generalizing s with
  | nil =>
    cases hs : s.state <;> simp [Scan.items, itemsFrom, close, hs]
  | cons b bs ih =>
    rw [List.foldl_cons, ih]
    simp [Scan.push, itemsFrom]

theorem items_eq_itemsFrom (bs : Bytes) : items bs = itemsFrom .between bs := by
  simpa [items] using foldl_push_items bs ⟨.between, []⟩

@[simp] theorem items_nil : items [] = [] := rfl

theorem lead_one {b : UInt8} (h : b < 0x80) :
    lead b = ([some (Char.ofNat b.toNat)], .between) := by
  rw [lead, if_pos h]

theorem lead_two {b : UInt8} (h : 0xC2 ≤ b) (h' : b < 0xE0) :
    lead b = ([], .within (b.toNat - 0xC0) 0 0x80 0xBF) := by
  simp only [UInt8.le_iff_toNat_le, UInt8.lt_iff_toNat_lt, UInt8.reduceToNat] at h h'
  simp only [lead, UInt8.lt_iff_toNat_lt, UInt8.reduceToNat]
  rw [if_neg (by omega), if_neg (by omega), if_pos h']

/-- The byte after a first byte of three is bounded against overlong forms and surrogates. -/
theorem lead_three {b : UInt8} (h : 0xE0 ≤ b) (h' : b < 0xF0) :
    lead b = ([], .within (b.toNat - 0xE0) 1 (if b = 0xE0 then 0xA0 else 0x80)
      (if b = 0xED then 0x9F else 0xBF)) := by
  by_cases h0 : b = 0xE0
  · subst h0; rfl
  by_cases hD : b = 0xED
  · subst hD; rfl
  simp only [UInt8.le_iff_toNat_le, UInt8.lt_iff_toNat_lt, UInt8.reduceToNat] at h h'
  simp only [lead, UInt8.lt_iff_toNat_lt, UInt8.reduceToNat, h0, hD, if_false]
  rw [if_neg (by omega), if_neg (by omega), if_neg (by omega), if_pos h']

/-- The byte after a first byte of four is bounded against overlong forms and large numbers. -/
theorem lead_four {b : UInt8} (h : 0xF0 ≤ b) (h' : b ≤ 0xF4) :
    lead b = ([], .within (b.toNat - 0xF0) 2 (if b = 0xF0 then 0x90 else 0x80)
      (if b = 0xF4 then 0x8F else 0xBF)) := by
  by_cases h0 : b = 0xF0
  · subst h0; rfl
  by_cases h4 : b = 0xF4
  · subst h4; rfl
  have hE : b ≠ 0xE0 := fun e => by subst e; exact absurd h (by decide)
  have hD : b ≠ 0xED := fun e => by subst e; exact absurd h (by decide)
  have h4' : b.toNat ≠ 0xF4 := fun e => h4 (UInt8.toNat_inj.mp e)
  simp only [UInt8.le_iff_toNat_le, UInt8.reduceToNat] at h h'
  simp only [lead, UInt8.lt_iff_toNat_lt, UInt8.reduceToNat, h0, h4, hE, hD, if_false]
  rw [if_neg (by omega), if_neg (by omega), if_neg (by omega), if_neg (by omega),
    if_pos (by omega)]

theorem lead_broken {b : UInt8} (h : 0x80 ≤ b) (h' : b < 0xC2 ∨ 0xF4 < b) :
    lead b = ([none], .between) := by
  rcases h' with h' | h'
  · rw [lead, if_neg (UInt8.not_lt.mpr h), if_pos h']
  have hE : b ≠ 0xE0 := fun e => by subst e; exact absurd h' (by decide)
  have hD : b ≠ 0xED := fun e => by subst e; exact absurd h' (by decide)
  have h0 : b ≠ 0xF0 := fun e => by subst e; exact absurd h' (by decide)
  have h4 : b ≠ 0xF4 := fun e => by subst e; exact absurd h' (by decide)
  simp only [UInt8.lt_iff_toNat_lt, UInt8.reduceToNat] at h'
  simp only [lead, UInt8.lt_iff_toNat_lt, UInt8.reduceToNat, h0, h4, hE, hD, if_false]
  rw [if_neg (by omega), if_neg (by omega), if_neg (by omega), if_neg (by omega),
    if_neg (by omega)]

/-- The five classes of first bytes. -/
theorem first_byte_cases (b : UInt8) :
    b < 0x80 ∨ (0x80 ≤ b ∧ (b < 0xC2 ∨ 0xF4 < b)) ∨ (0xC2 ≤ b ∧ b < 0xE0) ∨
      (0xE0 ≤ b ∧ b < 0xF0) ∨ (0xF0 ≤ b ∧ b ≤ 0xF4) := by
  simp only [UInt8.le_iff_toNat_le, UInt8.lt_iff_toNat_lt, UInt8.reduceToNat]
  omega

/-- A first byte is a character, an error or the beginning of a longer character. -/
theorem lead_cases (b : UInt8) :
    (∃ c, lead b = ([some c], .between)) ∨ lead b = ([none], .between) ∨
    ∃ value more low high, lead b = ([], .within value more low high) ∧
      0x80 ≤ low ∧ high < 0xC0 := by
  rcases first_byte_cases b with h1 | ⟨h, h'⟩ | ⟨h, h'⟩ | ⟨h, h'⟩ | ⟨h, h'⟩
  · exact .inl ⟨_, lead_one h1⟩
  · exact .inr (.inl (lead_broken h h'))
  · exact .inr (.inr ⟨_, _, _, _, lead_two h h', by decide, by decide⟩)
  · refine .inr (.inr ⟨_, _, _, _, lead_three h h', ?_, ?_⟩) <;> split <;> decide
  · refine .inr (.inr ⟨_, _, _, _, lead_four h h', ?_, ?_⟩) <;> split <;> decide

theorem lead_sound (b : UInt8) : (lead b).2.Sound := by
  rcases lead_cases b with ⟨_, h⟩ | h | ⟨_, _, _, _, h, hl, hh⟩
  · rw [h]; trivial
  · rw [h]; trivial
  · rw [h]; exact ⟨hl, hh⟩

theorem feed_sound (s : State) (b : UInt8) : (feed s b).2.Sound := by
  cases s with
  | between => exact lead_sound b
  | within value more low high =>
    by_cases h : low ≤ b ∧ b ≤ high
    · cases more with
      | zero => simp [feed, h, State.Sound]
      | succ more =>
        simp only [feed, h, and_self, if_true]
        exact ⟨by decide, by decide⟩
    · simp only [feed, h, if_false]
      exact lead_sound b

/-- A byte that continues nothing closes what is open and is read as a first byte. -/
theorem feed_of_not_continues {s : State} (hs : s.Sound) {b : UInt8} (hb : ¬Continues b) :
    feed s b = (close s ++ (lead b).1, (lead b).2) := by
  cases s with
  | between => rfl
  | within value more low high =>
    have h : ¬(low ≤ b ∧ b ≤ high) := fun h =>
      hb ⟨UInt8.le_trans hs.1 h.1, UInt8.lt_of_le_of_lt h.2 hs.2⟩
    simp [feed, h, close]

theorem itemsFrom_of_starts {s : State} (hs : s.Sound) {bs : Bytes} (h : Starts bs) :
    itemsFrom s bs = close s ++ itemsFrom .between bs := by
  cases bs with
  | nil => simp [itemsFrom, close]
  | cons b bs =>
    rw [itemsFrom, feed_of_not_continues hs (h b rfl), itemsFrom]
    simp [feed]

theorem itemsFrom_append {s : State} (hs : s.Sound) (as : Bytes) {bs : Bytes} (h : Starts bs) :
    itemsFrom s (as ++ bs) = itemsFrom s as ++ itemsFrom .between bs := by
  induction as generalizing s with
  | nil => exact itemsFrom_of_starts hs h
  | cons a as ih =>
    rw [List.cons_append, itemsFrom, itemsFrom, ih (feed_sound s a), List.append_assoc]

/-- A stream may be cut before any byte that continues no character. -/
theorem items_append {as bs : Bytes} (h : Starts bs) : items (as ++ bs) = items as ++ items bs := by
  simp only [items_eq_itemsFrom]
  exact itemsFrom_append (s := .between) trivial as h

theorem decodeLossy_append {as bs : Bytes} (h : Starts bs) :
    decodeLossy (as ++ bs) = decodeLossy as ++ decodeLossy bs := by
  simp [decodeLossy, items_append h]

@[simp] theorem decodeLossy_nil : decodeLossy [] = [] := rfl

/-- Bytes that take a decoder from one state to the end of a character and yield nothing else. -/
inductive Completes : State → Bytes → Char → Prop where
  | last {s : State} {b : UInt8} {c : Char} :
      feed s b = ([some c], .between) → Completes s [b] c
  | next {s s' : State} {b : UInt8} {bs : Bytes} {c : Char} :
      feed s b = ([], s') → Completes s' bs c → Completes s (b :: bs) c

theorem itemsFrom_of_completes {s : State} {bs : Bytes} {c : Char} (h : Completes s bs c)
    (rest : Bytes) : itemsFrom s (bs ++ rest) = some c :: itemsFrom .between rest := by
  induction h with
  | last h => simp [itemsFrom, h]
  | next h _ ih => simp [itemsFrom, h, ih]

/-- The first item of a stream comes from bytes of its own: what follows them is decoded as if it
stood alone, as far as it is there. -/
def FirstItem (s : State) (bs : Bytes) (item : Item) (own rest : Bytes) : Prop :=
  bs = own ++ rest ∧
    (∀ part, part <+: rest → itemsFrom s (own ++ part) = item :: itemsFrom .between part) ∧
    ∀ c, item = some c → Completes s own c

theorem exists_firstItem_within (bs : Bytes) (value more : Nat) (low high : UInt8) :
    ∃ item own rest, FirstItem (.within value more low high) bs item own rest := by
  induction bs generalizing value more low high with
  | nil =>
    refine ⟨none, [], [], rfl, fun part hp => ?_, fun c h => by cases h⟩
    obtain rfl : part = [] := by simpa using hp
    rfl
  | cons b bs ih =>
    by_cases h : low ≤ b ∧ b ≤ high
    · cases more with
      | zero =>
        obtain ⟨c, hf⟩ : ∃ c, feed (.within value 0 low high) b = ([some c], .between) :=
          ⟨Char.ofNat (value * 64 + (b.toNat - 0x80)), by simp only [feed, h, and_self, if_true]⟩
        refine ⟨some c, [b], bs, rfl, fun part _ => itemsFrom_of_completes (.last hf) part,
          fun d hd => ?_⟩
        obtain rfl := Option.some.inj hd
        exact .last hf
      | succ more =>
        obtain ⟨item, own, rest, rfl, hpart, hc⟩ :=
          ih (value * 64 + (b.toNat - 0x80)) more 0x80 0xBF
        have hf : feed (.within value (more + 1) low high) b =
            ([], .within (value * 64 + (b.toNat - 0x80)) more 0x80 0xBF) := by
          simp [feed, h]
        refine ⟨item, b :: own, rest, rfl, fun part hp => ?_, fun c h => .next hf (hc c h)⟩
        rw [List.cons_append, itemsFrom, hf, hpart part hp]
        rfl
    · -- the byte breaks the open character and belongs to what follows
      refine ⟨none, [], b :: bs, rfl, fun part hp => ?_, fun c h => by cases h⟩
      cases part with
      | nil => rfl
      | cons b' part =>
        obtain ⟨rfl, -⟩ := List.cons_prefix_cons.mp hp
        simp [itemsFrom, feed, h]

theorem exists_firstItem {bs : Bytes} (h : bs ≠ []) :
    ∃ item own rest, FirstItem .between bs item own rest ∧ own ≠ [] := by
  obtain ⟨b, bs, rfl⟩ := List.exists_cons_of_ne_nil h
  rcases lead_cases b with ⟨c, hb⟩ | hb | ⟨value, more, low, high, hb, -⟩
  · have hc : Completes .between [b] c := .last hb
    refine ⟨some c, [b], bs, ⟨rfl, fun part _ => itemsFrom_of_completes hc part, fun d hd => ?_⟩,
      by simp⟩
    cases hd
    exact hc
  · refine ⟨none, [b], bs, ⟨rfl, fun part _ => ?_, fun c hc => by cases hc⟩, by simp⟩
    simp [itemsFrom, feed, hb]
  · obtain ⟨item, own, rest, rfl, hpart, hc⟩ := exists_firstItem_within bs value more low high
    refine ⟨item, b :: own, rest, ⟨rfl, fun part hp => ?_, fun c h => .next hb (hc c h)⟩, by simp⟩
    rw [List.cons_append, itemsFrom, show feed .between b = _ from hb, hpart part hp]
    rfl

theorem decodeLossy_of_firstItem {bs : Bytes} {item : Item} {own rest part : Bytes}
    (h : FirstItem .between bs item own rest) (hp : part <+: rest) :
    decodeLossy (own ++ part) = item.getD replacement :: decodeLossy part := by
  simp only [decodeLossy, items_eq_itemsFrom, h.2.1 part hp, List.map_cons]

theorem decodeLossy_eq_nil_iff {bs : Bytes} : decodeLossy bs = [] ↔ bs = [] := by
  constructor
  · intro hd
    by_contra hne
    obtain ⟨item, own, rest, h, -⟩ := exists_firstItem hne
    rw [h.1, decodeLossy_of_firstItem h (List.prefix_refl rest)] at hd
    cases hd
  · rintro rfl
    rfl

end DefectGate.Text.Utf8
