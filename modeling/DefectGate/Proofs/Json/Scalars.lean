import DefectGate.Json.Parser
import DefectGate.Json.Printer
import Mathlib.Tactic

/-! # Reading back strings and integers

Every string is read back from its escaped form, and every integer that 64 bits hold from its
digits, whatever follows it that can not belong to a number.
-/
namespace DefectGate.Json.Parser

/-! ### Strings -/

theorem hexDigit?_digitChar {d : Nat} (h : d < 16) :
    Bytes.hexDigit? (Nat.digitChar d) = some d := by
  interval_cases d <;> rfl

theorem quad?_numberedEscape {c : Char} (h : c.toNat < 32) :
    quad? '0' '0' (Nat.digitChar (c.toNat / 16)) (Nat.digitChar (c.toNat % 16)) =
      some c.toNat := by
  have hzero : Bytes.hexDigit? '0' = some 0 := rfl
  have hhigh : c.toNat / 16 < 16 := by omega
  have hlow : c.toNat % 16 < 16 := by omega
  simp only [quad?, hzero, hexDigit?_digitChar hhigh, hexDigit?_digitChar hlow,
    Option.bind_eq_bind, Option.bind_some, Option.pure_def, Option.some.injEq]
  omega

theorem stringBody_numberedEscape {c : Char} (h : c.toNat < 32) (read rest : List Char) :
    stringBody read (numberedEscape c ++ rest) = stringBody (c :: read) rest := by
  have hhigh : ¬ (0xD800 ≤ c.toNat ∧ c.toNat < 0xDC00) := by omega
  have hlow : ¬ (0xDC00 ≤ c.toNat ∧ c.toNat < 0xE000) := by omega
  have hne : ¬ ('\\' = '"') := by decide
  rw [numberedEscape]
  simp only [List.cons_append, List.nil_append]
  rw [stringBody]
  simp only [hne, if_false, if_true, quad?_numberedEscape h, hhigh, hlow, Char.ofNat_toNat]

/-- A character is read back from its escaped form. -/
theorem stringBody_escape (c : Char) (read rest : List Char) :
    stringBody read (escape c ++ rest) = stringBody (c :: read) rest := by
  unfold escape
  split_ifs with hquote hslash hnewline hreturn htab hback hform hcontrol
  · subst hquote; rfl
  · subst hslash; rfl
  · subst hnewline; rfl
  · subst hreturn; rfl
  · subst htab; rfl
  · subst hback; rfl
  · subst hform; rfl
  · exact stringBody_numberedEscape hcontrol read rest
  · rw [List.singleton_append, stringBody.eq_def]
    simp only [hquote, hslash, hcontrol, if_false]

theorem stringBody_escaped (cs read rest : List Char) :
    stringBody read (cs.flatMap escape ++ '"' :: rest) = some (read.reverse ++ cs, rest) := by
  induction cs generalizing read with
  | nil => simp [stringBody.eq_def]
  | cons c cs ih =>
    rw [List.flatMap_cons, List.append_assoc, stringBody_escape, ih]
    simp

/-- A string is read back from between its quotes. -/
theorem string_escaped (s : String) (rest : List Char) :
    string (s.toList.flatMap escape ++ '"' :: rest) = some (s, rest) := by
  rw [string, stringBody_escaped]
  simp

/-! ### Integers -/

/-- The rest of a text goes on with no part of a number. -/
def EndsNumber (rest : List Char) : Prop :=
  ∀ c ∈ rest.head?, c.isDigit = false ∧ c ≠ '.' ∧ c ≠ 'e' ∧ c ≠ 'E'

/-- An integer that 64 bits hold, with a sign or without. -/
def Fits (n : Int) : Prop := -(UInt64.size / 2 : Nat) ≤ n ∧ n < UInt64.size

theorem isDigit_of_mem_toDigits {n : Nat} {c : Char} (h : c ∈ Nat.toDigits 10 n) :
    c.isDigit = true :=
  Nat.isDigit_of_mem_toDigits (by decide) (by decide) h

theorem toDigits_eq_cons (n : Nat) :
    ∃ c cs, Nat.toDigits 10 n = c :: cs ∧ c.isDigit = true := by
  obtain ⟨c, cs, hcs⟩ := List.exists_cons_of_ne_nil (Nat.toDigits_ne_nil (n := n) (b := 10))
  exact ⟨c, cs, hcs, isDigit_of_mem_toDigits (n := n) (by simp [hcs])⟩

theorem head?_toDigits_ne {n : Nat} (h : 0 < n) : (Nat.toDigits 10 n).head? ≠ some '0' := by
  induction n using Nat.strongRecOn with
  | _ n ih =>
    by_cases hlt : n < 10
    · rw [Nat.toDigits_of_lt_base hlt]
      interval_cases n <;> decide
    · rw [Nat.toDigits_of_base_le (by decide) (by omega),
        List.head?_append_of_ne_nil _ Nat.toDigits_ne_nil]
      exact ih (n / 10) (by omega) (by omega)

/-- Only zero starts with a zero, so the digits of a number are never refused. -/
theorem toDigits_accepted (n : Nat) :
    ¬ ((Nat.toDigits 10 n).isEmpty = true ∨
      (1 < (Nat.toDigits 10 n).length ∧ (Nat.toDigits 10 n).head? = some '0')) := by
  rintro (hempty | ⟨hlength, hzero⟩)
  · exact Nat.toDigits_ne_nil (List.isEmpty_iff.mp hempty)
  · obtain rfl | hpos := Nat.eq_zero_or_pos n
    · simp at hlength
    · exact head?_toDigits_ne hpos hzero

theorem digits_toDigits (n : Nat) {rest : List Char} (h : EndsNumber rest) :
    digits (Nat.toDigits 10 n ++ rest) = (Nat.toDigits 10 n, rest) := by
  have hdigits : ∀ c ∈ Nat.toDigits 10 n, c.isDigit = true :=
    fun c hc => isDigit_of_mem_toDigits hc
  have htake : rest.takeWhile Char.isDigit = [] := by
    cases rest with
    | nil => rfl
    | cons c rest => simp [(h c rfl).1]
  have hdrop : rest.dropWhile Char.isDigit = rest := by
    cases rest with
    | nil => rfl
    | cons c rest => simp [(h c rfl).1]
  rw [digits, List.takeWhile_append_of_pos hdigits, List.dropWhile_append_of_pos hdigits, htake,
    hdrop, List.append_nil]

theorem fractionPart_of_endsNumber {rest : List Char} (h : EndsNumber rest) :
    fractionPart rest = some (none, rest) := by
  cases rest with
  | nil => rfl
  | cons c rest =>
    obtain ⟨-, hpoint, -, -⟩ := h c rfl
    unfold fractionPart
    split
    · rename_i heq
      exact absurd (List.cons.inj heq).1 hpoint
    · rfl

theorem exponentPart_of_endsNumber {rest : List Char} (h : EndsNumber rest) :
    exponentPart rest = some (none, rest) := by
  cases rest with
  | nil => rfl
  | cons c rest =>
    obtain ⟨-, -, he, hE⟩ := h c rfl
    simp [exponentPart, he, hE]

theorem unsignedNumber_toDigits (negative : Bool) (n : Nat) {rest : List Char}
    (h : EndsNumber rest) :
    unsignedNumber negative (Nat.toDigits 10 n ++ rest) =
      (numberOf? negative (Nat.toDigits 10 n) none none).map fun x => (x, rest) := by
  simp only [unsignedNumber, digits_toDigits n h, if_neg (toDigits_accepted n),
    fractionPart_of_endsNumber h, exponentPart_of_endsNumber h, Option.bind_eq_bind,
    Option.bind_some, Option.pure_def]
  cases numberOf? negative (Nat.toDigits 10 n) none none <;> rfl

theorem numberOf?_toDigits {n : Nat} (h : n < UInt64.size) :
    numberOf? false (Nat.toDigits 10 n) none none = some (.integer n) := by
  simp [numberOf?, Nat.ofDigitChars_ten_toDigits, h]

theorem numberOf?_negative_toDigits {n : Nat} (hpos : 0 < n) (h : n ≤ UInt64.size / 2) :
    numberOf? true (Nat.toDigits 10 n) none none = some (.integer (-n)) := by
  simp [numberOf?, Nat.ofDigitChars_ten_toDigits, hpos, h]

theorem text_natCast (n : Nat) : (Number.text (.integer n)).toList = Nat.toDigits 10 n := by
  simp [Number.text, Int.toString_eq_repr, Int.repr_eq_if]

theorem text_neg {n : Nat} (h : 0 < n) :
    (Number.text (.integer (-n))).toList = '-' :: Nat.toDigits 10 n := by
  simp [Number.text, Int.toString_eq_repr, Int.repr_eq_if, Nat.ne_of_gt h]

/-- A sign or a digit. -/
def StartsInteger (c : Char) : Prop := c = '-' ∨ c.isDigit = true

instance (c : Char) : Decidable (StartsInteger c) := inferInstanceAs (Decidable (_ ∨ _))

theorem text_eq_cons (n : Int) :
    ∃ c cs, (Number.text (.integer n)).toList = c :: cs ∧ StartsInteger c := by
  obtain hneg | hnonneg := lt_or_ge n 0
  · obtain ⟨m, rfl⟩ : ∃ m : Nat, n = -m := ⟨n.natAbs, by omega⟩
    exact ⟨'-', Nat.toDigits 10 m, text_neg (by omega), .inl rfl⟩
  · lift n to Nat using hnonneg
    obtain ⟨c, cs, hcs, hc⟩ := toDigits_eq_cons n
    exact ⟨c, cs, by rw [text_natCast, hcs], .inr hc⟩

theorem number_toDigits (n : Nat) (rest : List Char) :
    number (Nat.toDigits 10 n ++ rest) = unsignedNumber false (Nat.toDigits 10 n ++ rest) := by
  unfold number
  split
  · rename_i cs heq
    obtain ⟨c, ds, hds, hc⟩ := toDigits_eq_cons n
    rw [hds, List.cons_append] at heq
    rw [(List.cons.inj heq).1] at hc
    exact absurd hc (by decide)
  · rfl

/-- An integer is read back from its text. -/
theorem number_text {n : Int} (hn : Fits n) {rest : List Char} (h : EndsNumber rest) :
    number ((Number.text (.integer n)).toList ++ rest) = some (.integer n, rest) := by
  obtain hneg | hnonneg := lt_or_ge n 0
  · obtain ⟨m, rfl⟩ : ∃ m : Nat, n = -m := ⟨n.natAbs, by omega⟩
    have hm : m ≤ UInt64.size / 2 := by have := hn.1; omega
    rw [text_neg (by omega), List.cons_append, number, unsignedNumber_toDigits true m h,
      numberOf?_negative_toDigits (by omega) hm, Option.map_some]
  · lift n to Nat using hnonneg
    have hm : n < UInt64.size := by have := hn.2; omega
    rw [text_natCast, number_toDigits, unsignedNumber_toDigits false n h, numberOf?_toDigits hm,
      Option.map_some]

end DefectGate.Json.Parser
