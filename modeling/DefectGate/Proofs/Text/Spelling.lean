import DefectGate.Proofs.Text.Utf8

/-! # Characters and the bytes that spell them

The bytes that take the decoder through one character are exactly those that the encoder writes for
it. So encoded text is decoded to itself wherever it stands, and a decoded text without replacement
characters stands in the stream as its own encoding.
-/
namespace DefectGate.Text.Utf8

open String (utf8EncodeChar)

theorem completes_within_zero {value : Nat} {low high : UInt8} {bs : Bytes} {c : Char} :
    Completes (.within value 0 low high) bs c ↔
      ∃ b, bs = [b] ∧ low ≤ b ∧ b ≤ high ∧ c = Char.ofNat (value * 64 + (b.toNat - 0x80)) := by
  constructor
  · intro h
    cases h with
    | @last s b c h =>
      by_cases hb : low ≤ b ∧ b ≤ high
      · simp only [feed, hb, and_self, if_true, Prod.mk.injEq, List.cons.injEq, Option.some.injEq,
          and_true] at h
        exact ⟨b, rfl, hb.1, hb.2, h.symm⟩
      · simp [feed, hb] at h
    | @next s s' b bs c h _ =>
      by_cases hb : low ≤ b ∧ b ≤ high
      · simp [feed, hb] at h
      · simp [feed, hb] at h
  · rintro ⟨b, rfl, hl, hh, hc⟩
    exact .last (by simp only [feed, hl, hh, and_self, if_true, hc])

theorem completes_within_succ {value more : Nat} {low high : UInt8} {bs : Bytes} {c : Char} :
    Completes (.within value (more + 1) low high) bs c ↔
      ∃ b rest, bs = b :: rest ∧ low ≤ b ∧ b ≤ high ∧
        Completes (.within (value * 64 + (b.toNat - 0x80)) more 0x80 0xBF) rest c := by
  constructor
  · intro h
    cases h with
    | @last s b c h =>
      by_cases hb : low ≤ b ∧ b ≤ high
      · simp [feed, hb] at h
      · simp [feed, hb] at h
    | @next s s' b bs c h hrest =>
      by_cases hb : low ≤ b ∧ b ≤ high
      · simp only [feed, hb, and_self, if_true, Prod.mk.injEq, true_and] at h
        subst h
        exact ⟨b, bs, rfl, hb.1, hb.2, hrest⟩
      · simp [feed, hb] at h
  · rintro ⟨b, rest, rfl, hl, hh, hrest⟩
    exact .next (by simp only [feed, hl, hh, and_self, if_true]) hrest

theorem utf8EncodeChar_ofNat {n : Nat} (h : n.isValidChar) :
    utf8EncodeChar (Char.ofNat n) =
      if n ≤ 0x7F then [UInt8.ofNat n]
      else if n ≤ 0x7FF then [UInt8.ofNat (n / 64 % 32 + 0xC0), UInt8.ofNat (n % 64 + 0x80)]
      else if n ≤ 0xFFFF then
        [UInt8.ofNat (n / 4096 % 16 + 0xE0), UInt8.ofNat (n / 64 % 64 + 0x80),
          UInt8.ofNat (n % 64 + 0x80)]
      else
        [UInt8.ofNat (n / 262144 % 8 + 0xF0), UInt8.ofNat (n / 4096 % 64 + 0x80),
          UInt8.ofNat (n / 64 % 64 + 0x80), UInt8.ofNat (n % 64 + 0x80)] := by
  have hv : (Char.ofNat n).val.toNat = n := by
    rw [Char.ofNat, dif_pos h]
    rfl
  rw [utf8EncodeChar]
  simp only [hv]

theorem ofNat_eq_of_toNat_eq {n : Nat} {b : UInt8} (h : n = b.toNat) : UInt8.ofNat n = b := by
  rw [h, UInt8.ofNat_toNat]

theorem utf8EncodeChar_one {b : UInt8} (h : b < 0x80) :
    utf8EncodeChar (Char.ofNat b.toNat) = [b] := by
  simp only [UInt8.lt_iff_toNat_lt, UInt8.reduceToNat] at h
  rw [utf8EncodeChar_ofNat (.inl (by omega)), if_pos (by omega), UInt8.ofNat_toNat]

theorem utf8EncodeChar_two {a b : UInt8} (ha : 0xC2 ≤ a) (ha' : a < 0xE0) (hb : 0x80 ≤ b)
    (hb' : b ≤ 0xBF) :
    utf8EncodeChar (Char.ofNat ((a.toNat - 0xC0) * 64 + (b.toNat - 0x80))) = [a, b] := by
  simp only [UInt8.le_iff_toNat_le, UInt8.lt_iff_toNat_lt, UInt8.reduceToNat] at ha ha' hb hb'
  rw [utf8EncodeChar_ofNat (.inl (by omega)), if_neg (by omega), if_pos (by omega),
    ofNat_eq_of_toNat_eq (b := a) (by omega), ofNat_eq_of_toNat_eq (b := b) (by omega)]

theorem utf8EncodeChar_three {a b c : UInt8} (ha : 0xE0 ≤ a) (ha' : a < 0xF0) (hb : 0x80 ≤ b)
    (hb' : b ≤ 0xBF) (hc : 0x80 ≤ c) (hc' : c ≤ 0xBF) (hE : a = 0xE0 → 0xA0 ≤ b)
    (hD : a = 0xED → b ≤ 0x9F) :
    utf8EncodeChar (Char.ofNat
      (((a.toNat - 0xE0) * 64 + (b.toNat - 0x80)) * 64 + (c.toNat - 0x80))) = [a, b, c] := by
  simp only [UInt8.le_iff_toNat_le, UInt8.lt_iff_toNat_lt, UInt8.reduceToNat,
    ← UInt8.toNat_inj] at ha ha' hb hb' hc hc' hE hD
  have hv : (((a.toNat - 0xE0) * 64 + (b.toNat - 0x80)) * 64 + (c.toNat - 0x80)).isValidChar := by
    by_cases h : a.toNat < 0xED
    · exact .inl (by omega)
    by_cases h' : a.toNat = 0xED
    · exact .inl (by have := hD h'; omega)
    · exact .inr (by omega)
  rw [utf8EncodeChar_ofNat hv, if_neg (by omega), if_neg (by omega), if_pos (by omega),
    ofNat_eq_of_toNat_eq (b := a) (by omega), ofNat_eq_of_toNat_eq (b := b) (by omega),
    ofNat_eq_of_toNat_eq (b := c) (by omega)]

theorem utf8EncodeChar_four {a b c d : UInt8} (ha : 0xF0 ≤ a) (ha' : a ≤ 0xF4) (hb : 0x80 ≤ b)
    (hb' : b ≤ 0xBF) (hc : 0x80 ≤ c) (hc' : c ≤ 0xBF) (hd : 0x80 ≤ d) (hd' : d ≤ 0xBF)
    (h0 : a = 0xF0 → 0x90 ≤ b) (h4 : a = 0xF4 → b ≤ 0x8F) :
    utf8EncodeChar (Char.ofNat
      ((((a.toNat - 0xF0) * 64 + (b.toNat - 0x80)) * 64 + (c.toNat - 0x80)) * 64 +
        (d.toNat - 0x80))) = [a, b, c, d] := by
  simp only [UInt8.le_iff_toNat_le, UInt8.reduceToNat, ← UInt8.toNat_inj]
    at ha ha' hb hb' hc hc' hd hd' h0 h4
  rw [utf8EncodeChar_ofNat (.inr (by omega)), if_neg (by omega), if_neg (by omega),
    if_neg (by omega), ofNat_eq_of_toNat_eq (b := a) (by omega),
    ofNat_eq_of_toNat_eq (b := b) (by omega), ofNat_eq_of_toNat_eq (b := c) (by omega),
    ofNat_eq_of_toNat_eq (b := d) (by omega)]

theorem completes_between_cons {b : UInt8} {bs : Bytes} {c : Char} :
    Completes .between (b :: bs) c ↔
      (lead b = ([some c], .between) ∧ bs = []) ∨ ∃ s, lead b = ([], s) ∧ Completes s bs c := by
  constructor
  · intro h
    cases h with
    | last h => exact .inl ⟨h, rfl⟩
    | next h hrest => exact .inr ⟨_, h, hrest⟩
  · rintro (⟨h, rfl⟩ | ⟨s, h, hrest⟩)
    · exact .last h
    · exact .next h hrest

theorem eq_utf8EncodeChar_of_completes {bs : Bytes} {c : Char} (h : Completes .between bs c) :
    bs = utf8EncodeChar c := by
  obtain ⟨a, bs, rfl⟩ : ∃ a rest, bs = a :: rest := by cases h <;> exact ⟨_, _, rfl⟩
  rw [completes_between_cons] at h
  rcases first_byte_cases a with h1 | ⟨h2, h2'⟩ | ⟨h2, h2'⟩ | ⟨h3, h3'⟩ | ⟨h4, h4'⟩
  · rw [lead_one h1] at h
    rcases h with ⟨ha, rfl⟩ | ⟨s, ha, -⟩
    · rw [← Option.some.inj (List.head_eq_of_cons_eq (congrArg Prod.fst ha)), utf8EncodeChar_one h1]
    · cases congrArg Prod.fst ha
  · simp [lead_broken h2 h2'] at h
  · rcases h with ⟨ha, -⟩ | ⟨s, ha, hbs⟩
    · simp [lead_two h2 h2'] at ha
    rw [lead_two h2 h2'] at ha
    obtain rfl := congrArg Prod.snd ha
    obtain ⟨b, rfl, hb, hb', hc⟩ := completes_within_zero.mp hbs
    rw [hc, utf8EncodeChar_two h2 h2' hb hb']
  · rcases h with ⟨ha, -⟩ | ⟨s, ha, hbs⟩
    · simp [lead_three h3 h3'] at ha
    rw [lead_three h3 h3'] at ha
    obtain rfl := congrArg Prod.snd ha
    obtain ⟨b, _, rfl, hb, hb', hbs⟩ := completes_within_succ.mp hbs
    obtain ⟨c, rfl, hc, hc', hv⟩ := completes_within_zero.mp hbs
    have hlow : 0x80 ≤ b := UInt8.le_trans (by split <;> decide) hb
    have hhigh : b ≤ 0xBF := UInt8.le_trans hb' (by split <;> decide)
    rw [hv, utf8EncodeChar_three h3 h3' hlow hhigh hc hc' (fun e => by simpa [e] using hb)
      (fun e => by simpa [e] using hb')]
  · rcases h with ⟨ha, -⟩ | ⟨s, ha, hbs⟩
    · simp [lead_four h4 h4'] at ha
    rw [lead_four h4 h4'] at ha
    obtain rfl := congrArg Prod.snd ha
    obtain ⟨b, _, rfl, hb, hb', hbs⟩ := completes_within_succ.mp hbs
    obtain ⟨c, _, rfl, hc, hc', hbs⟩ := completes_within_succ.mp hbs
    obtain ⟨d, rfl, hd, hd', hv⟩ := completes_within_zero.mp hbs
    have hlow : 0x80 ≤ b := UInt8.le_trans (by split <;> decide) hb
    have hhigh : b ≤ 0xBF := UInt8.le_trans hb' (by split <;> decide)
    rw [hv, utf8EncodeChar_four h4 h4' hlow hhigh hc hc' hd hd' (fun e => by simpa [e] using hb)
      (fun e => by simpa [e] using hb')]

theorem exists_byte {n : Nat} (h : n < 256) : ∃ b : UInt8, UInt8.ofNat n = b ∧ b.toNat = n :=
  ⟨_, rfl, by simp [Nat.mod_eq_of_lt h]⟩

theorem completes_two {a b : UInt8} {c : Char} (ha : 0xC2 ≤ a) (ha' : a < 0xE0) (hb : 0x80 ≤ b)
    (hb' : b ≤ 0xBF) (hv : c = Char.ofNat ((a.toNat - 0xC0) * 64 + (b.toNat - 0x80))) :
    Completes .between [a, b] c :=
  .next (lead_two ha ha') (completes_within_zero.mpr ⟨b, rfl, hb, hb', hv⟩)

theorem completes_three {a b c : UInt8} {d : Char} (ha : 0xE0 ≤ a) (ha' : a < 0xF0)
    (hb : 0x80 ≤ b) (hb' : b ≤ 0xBF) (hc : 0x80 ≤ c) (hc' : c ≤ 0xBF) (hE : a = 0xE0 → 0xA0 ≤ b)
    (hD : a = 0xED → b ≤ 0x9F)
    (hv : d = Char.ofNat (((a.toNat - 0xE0) * 64 + (b.toNat - 0x80)) * 64 + (c.toNat - 0x80))) :
    Completes .between [a, b, c] d := by
  refine .next (lead_three ha ha') (completes_within_succ.mpr ⟨b, [c], rfl, ?_, ?_,
    completes_within_zero.mpr ⟨c, rfl, hc, hc', hv⟩⟩)
  · split_ifs with e
    exacts [hE e, hb]
  · split_ifs with e
    exacts [hD e, hb']

theorem completes_four {a b c d : UInt8} {e : Char} (ha : 0xF0 ≤ a) (ha' : a ≤ 0xF4)
    (hb : 0x80 ≤ b) (hb' : b ≤ 0xBF) (hc : 0x80 ≤ c) (hc' : c ≤ 0xBF) (hd : 0x80 ≤ d)
    (hd' : d ≤ 0xBF) (h0 : a = 0xF0 → 0x90 ≤ b) (h4 : a = 0xF4 → b ≤ 0x8F)
    (hv : e = Char.ofNat ((((a.toNat - 0xF0) * 64 + (b.toNat - 0x80)) * 64 +
      (c.toNat - 0x80)) * 64 + (d.toNat - 0x80))) :
    Completes .between [a, b, c, d] e := by
  refine .next (lead_four ha ha') (completes_within_succ.mpr ⟨b, [c, d], rfl, ?_, ?_,
    completes_within_succ.mpr ⟨c, [d], rfl, hc, hc',
      completes_within_zero.mpr ⟨d, rfl, hd, hd', hv⟩⟩⟩)
  · split_ifs with e
    exacts [h0 e, hb]
  · split_ifs with e
    exacts [h4 e, hb']

private theorem completes_ofNat {n : Nat} (hv : n.isValidChar) :
    Completes .between (utf8EncodeChar (Char.ofNat n)) (Char.ofNat n) := by
  have hmax : n < 0xD800 ∨ 0xDFFF < n ∧ n < 0x110000 := hv
  rw [utf8EncodeChar_ofNat hv]
  split_ifs with h1 h2 h3
  · obtain ⟨a, ea, ha⟩ := exists_byte (n := n) (by omega)
    rw [ea]
    refine .last ?_
    rw [feed, lead_one (by simp only [UInt8.lt_iff_toNat_lt, UInt8.reduceToNat]; omega), ha]
  · obtain ⟨a, ea, ha⟩ := exists_byte (n := n / 64 % 32 + 0xC0) (by omega)
    obtain ⟨b, eb, hb⟩ := exists_byte (n := n % 64 + 0x80) (by omega)
    rw [ea, eb]
    apply completes_two
    case hv => exact congrArg Char.ofNat (by omega)
    all_goals
      simp only [UInt8.le_iff_toNat_le, UInt8.lt_iff_toNat_lt, UInt8.reduceToNat]
      omega
  · obtain ⟨a, ea, ha⟩ := exists_byte (n := n / 4096 % 16 + 0xE0) (by omega)
    obtain ⟨b, eb, hb⟩ := exists_byte (n := n / 64 % 64 + 0x80) (by omega)
    obtain ⟨c, ec, hc⟩ := exists_byte (n := n % 64 + 0x80) (by omega)
    rw [ea, eb, ec]
    apply completes_three
    case hv => exact congrArg Char.ofNat (by omega)
    all_goals
      simp only [UInt8.le_iff_toNat_le, UInt8.lt_iff_toNat_lt, UInt8.reduceToNat,
        ← UInt8.toNat_inj]
      omega
  · obtain ⟨a, ea, ha⟩ := exists_byte (n := n / 262144 % 8 + 0xF0) (by omega)
    obtain ⟨b, eb, hb⟩ := exists_byte (n := n / 4096 % 64 + 0x80) (by omega)
    obtain ⟨c, ec, hc⟩ := exists_byte (n := n / 64 % 64 + 0x80) (by omega)
    obtain ⟨d, ed, hd⟩ := exists_byte (n := n % 64 + 0x80) (by omega)
    rw [ea, eb, ec, ed]
    apply completes_four
    case hv => exact congrArg Char.ofNat (by omega)
    all_goals
      simp only [UInt8.le_iff_toNat_le, UInt8.reduceToNat, ← UInt8.toNat_inj]
      omega

/-- The bytes written for a character take the decoder through exactly this character. -/
theorem completes_utf8EncodeChar (c : Char) : Completes .between (utf8EncodeChar c) c := by
  simpa using completes_ofNat (n := c.toNat) c.valid

@[simp] theorem encodeChars_nil : encodeChars [] = [] := rfl

theorem encodeChars_cons (c : Char) (cs : List Char) :
    encodeChars (c :: cs) = utf8EncodeChar c ++ encodeChars cs := rfl

theorem encodeChars_append (cs ds : List Char) :
    encodeChars (cs ++ ds) = encodeChars cs ++ encodeChars ds := List.flatMap_append

theorem not_continues_of_completes {b : UInt8} {bs : Bytes} {c : Char}
    (h : Completes .between (b :: bs) c) : ¬Continues b := by
  intro hb
  have hlt : b < 0xC2 := UInt8.lt_trans hb.2 (by decide)
  simp [completes_between_cons, lead_broken hb.1 (.inl hlt)] at h

/-- Encoded text never begins inside a character, whatever follows it. -/
theorem starts_encodeChars_append {cs : List Char} (h : cs ≠ []) (bs : Bytes) :
    Starts (encodeChars cs ++ bs) := by
  obtain ⟨c, cs, rfl⟩ := List.exists_cons_of_ne_nil h
  obtain ⟨b, rest, hb⟩ := List.exists_cons_of_ne_nil (String.utf8EncodeChar_ne_nil (c := c))
  have hc := completes_utf8EncodeChar c
  rw [hb] at hc
  intro b' hb'
  rw [encodeChars_cons, hb] at hb'
  obtain rfl : b = b' := by simpa using hb'
  exact not_continues_of_completes hc

theorem decodeLossy_utf8EncodeChar_append (c : Char) (bs : Bytes) :
    decodeLossy (utf8EncodeChar c ++ bs) = c :: decodeLossy bs := by
  simp only [decodeLossy, items_eq_itemsFrom,
    itemsFrom_of_completes (completes_utf8EncodeChar c), List.map_cons, Option.getD_some]

/-- A stream may be cut after every whole character. -/
@[simp] theorem decodeLossy_encodeChars_append (cs : List Char) (bs : Bytes) :
    decodeLossy (encodeChars cs ++ bs) = cs ++ decodeLossy bs := by
  induction cs with
  | nil => rfl
  | cons c cs ih =>
    rw [encodeChars_cons, List.append_assoc, decodeLossy_utf8EncodeChar_append, ih,
      List.cons_append]

@[simp] theorem decodeLossy_encodeChars (cs : List Char) : decodeLossy (encodeChars cs) = cs := by
  simpa using decodeLossy_encodeChars_append cs []

theorem encodeChars_injective {cs ds : List Char} (h : encodeChars cs = encodeChars ds) :
    cs = ds := by
  rw [← decodeLossy_encodeChars cs, h, decodeLossy_encodeChars]

/-- Text that a stream is decoded to, without replacement characters, stands in it as its own
encoding, and the stream falls apart there. -/
theorem exists_suffix_of_decodeLossy_eq {cs after : List Char} {bs : Bytes}
    (hcs : replacement ∉ cs) (h : decodeLossy bs = cs ++ after) :
    ∃ rest, bs = encodeChars cs ++ rest ∧ decodeLossy rest = after := by
  induction cs generalizing bs with
  | nil => exact ⟨bs, rfl, h⟩
  | cons c cs ih =>
    have hne : bs ≠ [] := by rintro rfl; cases h
    obtain ⟨item, own, rest, hi, -⟩ := exists_firstItem hne
    rw [hi.1, decodeLossy_of_firstItem hi (List.prefix_refl rest), List.cons_append,
      List.cons.injEq] at h
    obtain ⟨hc, hrest⟩ := h
    obtain rfl : item = some c := by
      cases item with
      | none => exact absurd (hc ▸ List.mem_cons_self) hcs
      | some d => exact congrArg some hc
    obtain ⟨rest', hr, hd⟩ := ih (fun hm => hcs (List.mem_cons_of_mem _ hm)) hrest
    refine ⟨rest', ?_, hd⟩
    rw [hi.1, eq_utf8EncodeChar_of_completes (hi.2.2 c rfl), hr, encodeChars_cons,
      List.append_assoc]

theorem exists_split_of_decodeLossy_eq {before cs after : List Char} {bs : Bytes}
    (hcs : replacement ∉ cs) (h : decodeLossy bs = before ++ cs ++ after) :
    ∃ front rest, bs = front ++ encodeChars cs ++ rest ∧ decodeLossy front = before ∧
      decodeLossy rest = after := by
  induction before generalizing bs with
  | nil =>
    obtain ⟨rest, hr, hd⟩ := exists_suffix_of_decodeLossy_eq hcs h
    exact ⟨[], rest, hr, rfl, hd⟩
  | cons c before ih =>
    have hne : bs ≠ [] := by rintro rfl; cases h
    obtain ⟨item, own, rest, hi, -⟩ := exists_firstItem hne
    rw [hi.1, decodeLossy_of_firstItem hi (List.prefix_refl rest), List.cons_append,
      List.cons_append, List.cons.injEq] at h
    obtain ⟨front, rest', hr, hf, hd⟩ := ih h.2
    have hp : front <+: rest := ⟨encodeChars cs ++ rest', by rw [hr, List.append_assoc]⟩
    refine ⟨own ++ front, rest', ?_, ?_, hd⟩
    · rw [hi.1, hr]
      simp only [List.append_assoc]
    · rw [decodeLossy_of_firstItem hi hp, hf, h.1]

end DefectGate.Text.Utf8
