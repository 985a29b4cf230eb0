import DefectGate.Count
import Mathlib.Data.Nat.Digits.Lemmas
import Mathlib.Tactic

/-! # The grammar of counts

Which texts are counts, and which number each of them stands for, is said here without the reader.
The reader accepts exactly these texts as far as their number fits 64 bits, whatever their length.
It reads every number back from its digits, and from its digits with commas between the thousands.
-/
namespace DefectGate.Count

def AllDigits (cs : List Char) : Prop := ∀ c ∈ cs, c.isDigit = true

/-- One to three digits first, and three in each further group. -/
structure IsGroups (first : List Char) (groups : List (List Char)) : Prop where
  first_ne_nil : first ≠ []
  first_length_le : first.length ≤ 3
  first_digits : AllDigits first
  groups_length : ∀ g ∈ groups, g.length = 3
  groups_digits : ∀ g ∈ groups, AllDigits g

/-- Every further group is written after a comma. -/
def joined (first : List Char) (groups : List (List Char)) : List Char :=
  first ++ groups.flatMap (',' :: ·)

/-- A count is written in digits alone or in groups. -/
inductive WellFormed : List Char → Prop where
  | plain {digits : List Char} (hne : digits ≠ []) (h : AllDigits digits) : WellFormed digits
  | grouped {first : List Char} {groups : List (List Char)} (h : IsGroups first groups) :
      WellFormed (joined first groups)

/-- The digits of a text, without the commas between them. -/
def digitsOf (cs : List Char) : List Char := cs.filter Char.isDigit

def digitValue (c : Char) : Nat := c.toNat - '0'.toNat

/-- The decimal number of some digits, of which the last one counts the ones. -/
def decimal (digits : List Char) : Nat := Nat.ofDigits 10 (digits.map digitValue).reverse

/-- A text is a count and stands for a number of 64 bits. -/
def Denotes (cs : List Char) (n : Count) : Prop :=
  WellFormed cs ∧ decimal (digitsOf cs) = n.toNat

/-! ### Values -/

theorem decimal_cons (c : Char) (digits : List Char) :
    decimal (c :: digits) = decimal digits + 10 ^ digits.length * digitValue c := by
  simp only [decimal, List.map_cons, Nat.ofDigits_reverse_cons, List.length_map]

theorem ofDigitChars_eq (digits : List Char) (init : Nat) :
    Nat.ofDigitChars 10 digits init = 10 ^ digits.length * init + decimal digits := by
  induction digits generalizing init with
  | nil => simp [decimal]
  | cons c digits ih =>
    rw [Nat.ofDigitChars_cons, ih, decimal_cons, digitValue, List.length_cons, pow_succ]
    ring

theorem valueOf_eq_decimal (digits : List Char) : valueOf digits = decimal digits := by
  rw [valueOf, ofDigitChars_eq, Nat.mul_zero, Nat.zero_add]

theorem digitValue_eq_zero_iff {c : Char} (h : c.isDigit = true) : digitValue c = 0 ↔ c = '0' := by
  have hzero : '0'.toNat ≤ c.toNat := (Char.isDigit_iff_toNat.mp h).1
  rw [← Char.toNat_inj, digitValue]
  omega

theorem decimal_eq_zero_iff {digits : List Char} (h : AllDigits digits) :
    decimal digits = 0 ↔ ∀ c ∈ digits, c = '0' := by
  induction digits with
  | nil => simp [decimal]
  | cons c digits ih =>
    obtain ⟨hc, hdigits⟩ := List.forall_mem_cons.mp h
    rw [decimal_cons, Nat.add_eq_zero_iff, ih hdigits, List.forall_mem_cons, and_comm,
      Nat.mul_eq_zero, digitValue_eq_zero_iff hc]
    simp

/-! ### Groups -/

theorem AllDigits.reverse {cs : List Char} (h : AllDigits cs) : AllDigits cs.reverse :=
  fun c hc => h c (List.mem_reverse.mp hc)

theorem isDigit_ne_comma {c : Char} (h : c.isDigit = true) : c ≠ ',' := by
  rintro rfl
  exact absurd h (by decide)

theorem AllDigits.comma_not_mem {cs : List Char} (h : AllDigits cs) : ',' ∉ cs :=
  fun hm => isDigit_ne_comma (h _ hm) rfl

theorem isDigits_iff {cs : List Char} : isDigits cs = true ↔ cs ≠ [] ∧ AllDigits cs := by
  simp [isDigits, AllDigits]

theorem joined_cons (first g : List Char) (groups : List (List Char)) :
    joined first (g :: groups) = first ++ ',' :: joined g groups := by
  simp [joined]

theorem joined_append_singleton (first g : List Char) (groups : List (List Char)) :
    joined first (groups ++ [g]) = joined first groups ++ ',' :: g := by
  simp [joined]

theorem intercalate_comma (first : List Char) (groups : List (List Char)) :
    [','].intercalate (first :: groups) = joined first groups := by
  induction groups generalizing first with
  | nil => simp [joined]
  | cons g groups ih => rw [List.intercalate_cons_cons, ih, joined_cons]; simp

theorem eq_joined_of_splitOn {cs first : List Char} {groups : List (List Char)}
    (h : cs.splitOn ',' = first :: groups) : cs = joined first groups := by
  rw [← intercalate_comma, ← h, List.intercalate_splitOn]

theorem splitOn_joined {first : List Char} {groups : List (List Char)}
    (h : ∀ g ∈ first :: groups, AllDigits g) :
    (joined first groups).splitOn ',' = first :: groups := by
  rw [← intercalate_comma]
  exact List.splitOn_intercalate _ (fun g hg => (h g hg).comma_not_mem) (by simp)

theorem splitOn_digits {digits : List Char} (h : AllDigits digits) :
    digits.splitOn ',' = [digits] := List.splitOn_eq_singleton h.comma_not_mem

theorem IsGroups.digits {first : List Char} {groups : List (List Char)}
    (h : IsGroups first groups) : ∀ g ∈ first :: groups, AllDigits g :=
  List.forall_mem_cons.mpr ⟨h.first_digits, h.groups_digits⟩

theorem IsGroups.append_singleton {first g : List Char} {groups : List (List Char)}
    (h : IsGroups first groups) (hlength : g.length = 3) (hdigits : AllDigits g) :
    IsGroups first (groups ++ [g]) :=
  ⟨h.first_ne_nil, h.first_length_le, h.first_digits,
    List.forall_mem_append.mpr ⟨h.groups_length, by simpa using hlength⟩,
    List.forall_mem_append.mpr ⟨h.groups_digits, by simpa using hdigits⟩⟩

theorem isGrouped_singleton_iff {digits : List Char} :
    isGrouped [digits] = true ↔ digits ≠ [] ∧ AllDigits digits := isDigits_iff

theorem isGrouped_cons_iff {first g : List Char} {groups : List (List Char)} :
    isGrouped (first :: g :: groups) = true ↔ IsGroups first (g :: groups) := by
  simp only [isGrouped, Bool.and_eq_true, isDigits_iff, decide_eq_true_eq, List.all_eq_true]
  constructor
  · rintro ⟨⟨⟨hne, hfirst⟩, hle⟩, hgroups⟩
    exact ⟨hne, hle, hfirst, fun g hg => (hgroups g hg).2, fun g hg => (hgroups g hg).1.2⟩
  · rintro ⟨hne, hle, hfirst, hlength, hdigits⟩
    refine ⟨⟨⟨hne, hfirst⟩, hle⟩, fun g hg => ⟨⟨?_, hdigits g hg⟩, hlength g hg⟩⟩
    exact List.ne_nil_of_length_pos (by have := hlength g hg; omega)

/-- The parts between the commas of a text make up a count exactly if the text is one. -/
theorem isGrouped_splitOn_iff {cs : List Char} :
    isGrouped (cs.splitOn ',') = true ↔ WellFormed cs := by
  constructor
  · intro h
    obtain ⟨first, groups, hsplit⟩ := List.exists_cons_of_ne_nil (List.splitOn_ne_nil ',' cs)
    rw [eq_joined_of_splitOn hsplit]
    rw [hsplit] at h
    cases groups with
    | nil =>
      obtain ⟨hne, hdigits⟩ := isGrouped_singleton_iff.mp h
      simpa [joined] using WellFormed.plain hne hdigits
    | cons g groups => exact .grouped (isGrouped_cons_iff.mp h)
  · intro h
    cases h with
    | plain hne hdigits =>
      rw [splitOn_digits hdigits]
      exact isGrouped_singleton_iff.mpr ⟨hne, hdigits⟩
    | @grouped first groups h =>
      rw [splitOn_joined h.digits]
      cases groups with
      | nil => exact isGrouped_singleton_iff.mpr ⟨h.first_ne_nil, h.first_digits⟩
      | cons g groups => exact isGrouped_cons_iff.mpr h

theorem digitsOf_digits {digits : List Char} (h : AllDigits digits) : digitsOf digits = digits :=
  List.filter_eq_self.mpr h

theorem digitsOf_joined {first : List Char} {groups : List (List Char)}
    (h : ∀ g ∈ first :: groups, AllDigits g) :
    digitsOf (joined first groups) = first ++ groups.flatten := by
  induction groups generalizing first with
  | nil => simpa [joined] using digitsOf_digits (h first (by simp))
  | cons g groups ih =>
    obtain ⟨hfirst, hgroups⟩ := List.forall_mem_cons.mp h
    have hcomma : digitsOf (',' :: joined g groups) = digitsOf (joined g groups) := rfl
    rw [joined_cons, digitsOf, List.filter_append]
    change digitsOf first ++ digitsOf (',' :: joined g groups) = _
    rw [digitsOf_digits hfirst, hcomma, ih hgroups, List.flatten_cons]

theorem WellFormed.flatten_splitOn {cs : List Char} (h : WellFormed cs) :
    (cs.splitOn ',').flatten = digitsOf cs := by
  cases h with
  | plain hne hdigits => rw [splitOn_digits hdigits, digitsOf_digits hdigits]; simp
  | grouped h => rw [splitOn_joined h.digits, digitsOf_joined h.digits, List.flatten_cons]

theorem allDigits_digitsOf (cs : List Char) : AllDigits (digitsOf cs) :=
  fun _ hc => (List.mem_filter.mp hc).2

theorem AllDigits.isDigit_head? {cs : List Char} (h : AllDigits cs) :
    ∀ c ∈ cs.head?, c.isDigit = true := fun _ hc => h _ (List.mem_of_mem_head? hc)

theorem AllDigits.isDigit_getLast? {cs : List Char} (h : AllDigits cs) :
    ∀ c ∈ cs.getLast?, c.isDigit = true := fun _ hc => h _ (List.mem_of_getLast? hc)

theorem WellFormed.ne_nil {cs : List Char} (h : WellFormed cs) : cs ≠ [] := by
  cases h with
  | plain hne _ => exact hne
  | grouped h => exact List.append_ne_nil_of_left_ne_nil h.first_ne_nil _

theorem WellFormed.isDigit_head? {cs : List Char} (h : WellFormed cs) :
    ∀ c ∈ cs.head?, c.isDigit = true := by
  cases h with
  | plain _ h => exact h.isDigit_head?
  | grouped h =>
    rw [joined, List.head?_append_of_ne_nil _ h.first_ne_nil]
    exact h.first_digits.isDigit_head?

theorem WellFormed.isDigit_getLast? {cs : List Char} (h : WellFormed cs) :
    ∀ c ∈ cs.getLast?, c.isDigit = true := by
  cases h with
  | plain _ h => exact h.isDigit_getLast?
  | @grouped first groups h =>
    rcases List.eq_nil_or_concat groups with rfl | ⟨front, g, rfl⟩
    · simpa [joined] using h.first_digits.isDigit_getLast?
    · have hg : g ≠ [] := List.ne_nil_of_length_pos (by rw [h.groups_length g (by simp)]; decide)
      rw [List.concat_eq_append, joined_append_singleton,
        List.getLast?_append_of_ne_nil _ (List.cons_ne_nil _ _), List.getLast?_cons_of_ne_nil hg]
      exact (h.groups_digits g (by simp)).isDigit_getLast?

/-! ### Reading -/

theorem ofNat?_eq_some_iff {k : Nat} {n : Count} : ofNat? k = some n ↔ k = n.toNat := by
  rw [ofNat?]
  constructor
  · intro h
    split_ifs at h with hlt
    rw [← Option.some.inj h, UInt64.toNat_ofNat_of_lt' hlt]
  · rintro rfl
    rw [if_pos n.toNat_lt_size, UInt64.ofNat_toNat]

theorem parse?_eq_some_iff {cs : List Char} {n : Count} :
    parse? cs = some n ↔ Denotes cs n := by
  rw [parse?, Denotes, ← isGrouped_splitOn_iff]
  by_cases h : isGrouped (cs.splitOn ',') = true
  · have hform := isGrouped_splitOn_iff.mp h
    simp only [h, if_true, true_and, ofNat?_eq_some_iff, valueOf_eq_decimal,
      hform.flatten_splitOn]
  · simp [h]

/-! ### Writing with commas -/

/-- Commas after every three digits, where the digit of the ones comes first. -/
def withCommas : List Char → List Char
  | a :: b :: c :: d :: more => a :: b :: c :: ',' :: withCommas (d :: more)
  | digits => digits

/-- The decimal digits of a count with commas between the thousands. -/
def thousands (n : Count) : List Char := (withCommas (Nat.toDigits 10 n.toNat).reverse).reverse

/-- Commas cut digits into groups, the first of which may be shorter than the others. -/
theorem exists_groups_withCommas {digits : List Char} (hne : digits ≠ []) (h : AllDigits digits) :
    ∃ first groups, IsGroups first groups ∧ (withCommas digits).reverse = joined first groups ∧
      first ++ groups.flatten = digits.reverse := by
  induction digits using withCommas.induct with
  | case1 a b c d more ih =>
    obtain ⟨ha, hb, hc, hmore⟩ := by simpa only [AllDigits, List.forall_mem_cons] using h
    obtain ⟨first, groups, hgroups, hjoined, hflatten⟩ :=
      ih (by simp) (List.forall_mem_cons.mpr hmore)
    have hlast : AllDigits [c, b, a] := by simp [AllDigits, ha, hb, hc]
    refine ⟨first, groups ++ [[c, b, a]], hgroups.append_singleton rfl hlast, ?_, ?_⟩
    · rw [joined_append_singleton, ← hjoined, withCommas]
      simp
    · rw [List.flatten_append, ← List.append_assoc, hflatten]
      simp
  | case2 digits hshort =>
    have hlength : digits.length ≤ 3 := by
      match digits, hshort with
      | [], _ | [_], _ | [_, _], _ | [_, _, _], _ => simp
      | a :: b :: c :: d :: more, hshort => exact absurd rfl (hshort a b c d more)
    have hcommas : withCommas digits = digits := by
      rw [withCommas.eq_def]
      split
      · exact absurd rfl (hshort _ _ _ _ _)
      · rfl
    refine ⟨digits.reverse, [], ⟨?_, ?_, h.reverse, by simp, by simp⟩, ?_, by simp⟩
    · simpa using hne
    · simpa using hlength
    · simp [hcommas, joined]

theorem allDigits_toDigits (n : Nat) : AllDigits (Nat.toDigits 10 n) :=
  fun _ hc => Nat.isDigit_of_mem_toDigits (by decide) (by decide) hc

theorem decimal_toDigits (n : Nat) : decimal (Nat.toDigits 10 n) = n := by
  rw [← valueOf_eq_decimal, valueOf, Nat.ofDigitChars_ten_toDigits]

theorem denotes_text (n : Count) : Denotes n.text.toList n := by
  have htext : n.text.toList = Nat.toDigits 10 n.toNat := by
    rw [text, Nat.toString_eq_repr, Nat.repr_eq_ofList_toDigits, String.toList_ofList]
  rw [htext]
  refine ⟨.plain Nat.toDigits_ne_nil (allDigits_toDigits _), ?_⟩
  rw [digitsOf_digits (allDigits_toDigits _), decimal_toDigits]

theorem denotes_thousands (n : Count) : Denotes n.thousands n := by
  obtain ⟨first, groups, hgroups, hjoined, hflatten⟩ := exists_groups_withCommas
    (List.reverse_ne_nil_iff.mpr Nat.toDigits_ne_nil) (allDigits_toDigits n.toNat).reverse
  rw [thousands, hjoined]
  refine ⟨.grouped hgroups, ?_⟩
  rw [digitsOf_joined hgroups.digits, hflatten, List.reverse_reverse, decimal_toDigits]

example : thousands 1234567 = "1,234,567".toList ∧ thousands 100 = "100".toList := by decide

/-! ### Reading exactly the counts -/

theorem denotes_zero_iff {cs : List Char} :
    Denotes cs 0 ↔ WellFormed cs ∧ ∀ c ∈ digitsOf cs, c = '0' := by
  rw [Denotes, ← decimal_eq_zero_iff (allDigits_digitsOf cs)]
  rfl

theorem exists_denotes_iff {cs : List Char} :
    (∃ n, Denotes cs n) ↔ WellFormed cs ∧ decimal (digitsOf cs) < 2 ^ 64 := by
  constructor
  · rintro ⟨n, hform, hvalue⟩
    exact ⟨hform, hvalue ▸ n.toNat_lt_size⟩
  · rintro ⟨hform, hlt⟩
    exact ⟨UInt64.ofNat (decimal (digitsOf cs)), hform, (UInt64.toNat_ofNat_of_lt' hlt).symm⟩

theorem parse?_eq_none_iff {cs : List Char} :
    parse? cs = none ↔ ¬ (WellFormed cs ∧ decimal (digitsOf cs) < 2 ^ 64) := by
  rw [← exists_denotes_iff, Option.eq_none_iff_forall_ne_some, not_exists]
  exact forall_congr' fun n => not_congr parse?_eq_some_iff

/-- A text is read as the decimal number of its digits if it is a count whose number fits 64 bits,
and refused otherwise. Every number is read back from its digits and from its grouped digits, and
zero is read from zeros only. -/
theorem parse?_exact (cs : List Char) :
    (∀ n, parse? cs = some n ↔ WellFormed cs ∧ decimal (digitsOf cs) = n.toNat) ∧
      (parse? cs = none ↔ ¬ (WellFormed cs ∧ decimal (digitsOf cs) < 2 ^ 64)) ∧
      (parse? cs = some 0 ↔ WellFormed cs ∧ ∀ c ∈ digitsOf cs, c = '0') ∧
      ∀ n : Count, parse? n.text.toList = some n ∧ parse? n.thousands = some n := by
  refine ⟨fun n => parse?_eq_some_iff, parse?_eq_none_iff,
    parse?_eq_some_iff.trans denotes_zero_iff, fun n => ⟨?_, ?_⟩⟩
  · exact parse?_eq_some_iff.mpr (denotes_text n)
  · exact parse?_eq_some_iff.mpr (denotes_thousands n)

end DefectGate.Count
