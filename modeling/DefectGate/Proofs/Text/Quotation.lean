import DefectGate.Text.Quoted
import DefectGate.Proofs.Toml.Spelling

/-! # What quoting keeps apart

Escaped characters, quoted texts and lists of them are self-delimiting: in front of any rest it is
plain where they end, so different ones are written differently. None of them breaks a line. Nothing
here depends on which characters are printable and which join the character before them.
-/
namespace DefectGate.Text

/-! ### Self-delimiting codes -/

section
variable {α β γ : Type*} {code : α → List β}

/-- What is written, and where it ends, can be told in front of any rest. -/
def SelfDelimiting (code : α → List β) : Prop :=
  ∀ ⦃a b : α⦄ ⦃rest rest' : List β⦄, code a ++ rest = code b ++ rest' → a = b ∧ rest = rest'

namespace SelfDelimiting

theorem injective (h : SelfDelimiting code) : Function.Injective code := by
  intro a b hab
  exact (h (congrArg (· ++ []) hab)).1

theorem of_reader {read : List β → Option (α × List β)}
    (h : ∀ a rest, read (code a ++ rest) = some (a, rest)) : SelfDelimiting code := by
  intro a b rest rest' heq
  have hread : some (a, rest) = some (b, rest') := by rw [← h, heq, h]
  exact Prod.mk.inj (Option.some.inj hread)

theorem after (h : SelfDelimiting code) (opening : List β) :
    SelfDelimiting fun a => opening ++ code a := by
  intro a b rest rest' heq
  rw [List.append_assoc, List.append_assoc] at heq
  exact h (List.append_cancel_left heq)

theorem comp (h : SelfDelimiting code) {f : γ → α} (hf : Function.Injective f) :
    SelfDelimiting fun c => code (f c) := by
  intro a b rest rest' heq
  exact ⟨hf (h heq).1, (h heq).2⟩

/-- One word after another, up to a stop that begins no word. -/
theorem terminated (h : SelfDelimiting code) {stop : β}
    (hstop : ∀ a rest rest', code a ++ rest ≠ stop :: rest') :
    SelfDelimiting fun as : List α => as.flatMap code ++ [stop] := by
  -- as long as both go on, their first words agree; only one of them can not end
  intro as
  induction as with
  | nil =>
    intro bs rest rest' heq
    cases bs with
    | nil => exact ⟨rfl, List.tail_eq_of_cons_eq heq⟩
    | cons b bs =>
      simp only [List.flatMap_nil, List.flatMap_cons, List.nil_append, List.append_assoc] at heq
      exact absurd heq.symm (hstop b _ _)
  | cons a as ih =>
    intro bs rest rest' heq
    cases bs with
    | nil =>
      simp only [List.flatMap_nil, List.flatMap_cons, List.nil_append, List.append_assoc] at heq
      exact absurd heq (hstop a _ _)
    | cons b bs =>
      simp only [List.flatMap_cons, List.append_assoc] at heq
      obtain ⟨rfl, hrest⟩ := h heq
      obtain ⟨rfl, rfl⟩ := ih (by simpa only [List.append_assoc] using hrest)
      exact ⟨rfl, rfl⟩

end SelfDelimiting
end

namespace Quoted
open Toml.Scalar (isHexDigit valueIn)
open Toml.Spelling (isHexDigit_digitChar valueIn_concat)

/-! ### Numbers -/

/-- Induction over hexadecimal digits, the last one first. -/
theorem toDigits_induction {P : Nat → List Char → Prop}
    (single : ∀ d < 16, P d [Nat.digitChar d])
    (more : ∀ n d ds, d < 16 → P n ds → P (n * 16 + d) (ds ++ [Nat.digitChar d])) (n : Nat) :
    P n (Nat.toDigits 16 n) := by
  induction n using Nat.strongRecOn with
  | _ n ih =>
    by_cases h : n < 16
    · rw [Nat.toDigits_of_lt_base h]
      exact single n h
    · have hlast := more (n / 16) (n % 16) _ (Nat.mod_lt _ (by decide)) (ih _ (by omega))
      rwa [Nat.div_add_mod', ← Nat.toDigits_of_base_le (by decide) (not_lt.mp h)] at hlast

theorem valueIn_toDigits (n : Nat) : valueIn 16 (Nat.toDigits 16 n) = n := by
  apply toDigits_induction (P := fun n ds => valueIn 16 ds = n)
  case single =>
    intro d hd
    simpa [valueIn] using valueIn_concat [] hd
  case more =>
    intro n d ds hd ih
    rw [valueIn_concat ds hd, ih]

theorem isHexDigit_of_mem_toDigits {n : Nat} : ∀ c ∈ Nat.toDigits 16 n, isHexDigit c = true := by
  apply toDigits_induction (P := fun _ ds => ∀ c ∈ ds, isHexDigit c = true)
  case single =>
    intro d hd
    simpa using isHexDigit_digitChar hd
  case more =>
    intro n d ds hd ih
    simpa [or_imp, forall_and] using ⟨ih, isHexDigit_digitChar hd⟩

/-! ### Escapes -/

/-- The character that a backslash and one more character stand for. -/
def unescape (c : Char) : Char :=
  if c = 'n' then '\n' else if c = 'r' then '\r' else if c = 't' then '\t'
  else if c = '0' then '\x00' else c

/-- The character that an escape stands for, read after its backslash, and the rest. -/
def escaped? : List Char → Option (Char × List Char)
  | [] => none
  | c :: rest =>
    if c = 'u' then
      let digits := rest.tail
      some (Char.ofNat (valueIn 16 (digits.takeWhile isHexDigit)),
        (digits.dropWhile isHexDigit).tail)
    else some (unescape c, rest)

/-- The first character of what stands between quotes, and the rest; there is none before a
quote. -/
def first? : List Char → Option (Char × List Char)
  | [] => none
  | c :: rest =>
    if c = '"' then none else if c = '\\' then escaped? rest else some (c, rest)

theorem first?_numbered (c : Char) (rest : List Char) :
    first? (numbered c ++ rest) = some (c, rest) := by
  have hdigits : ∀ d ∈ Nat.toDigits 16 c.toNat, isHexDigit d = true := isHexDigit_of_mem_toDigits
  have hbrace : isHexDigit '\x7d' = false := by decide
  have hescaped : first? (numbered c ++ rest) =
      escaped? ('u' :: '\x7b' :: (Nat.toDigits 16 c.toNat ++ '\x7d' :: rest)) := by
    simp [first?, numbered]
  rw [hescaped, escaped?, if_pos rfl, List.tail_cons]
  simp only [List.takeWhile_append_of_pos hdigits, List.dropWhile_append_of_pos hdigits,
    List.takeWhile_cons, List.dropWhile_cons, hbrace, Bool.false_eq_true, if_false, List.append_nil,
    List.tail_cons, valueIn_toDigits, Char.ofNat_toNat]

/-- A character is read back from its escaped form, whatever follows it. -/
theorem first?_escape (c : Char) (rest : List Char) :
    first? (escape c ++ rest) = some (c, rest) := by
  unfold escape
  split_ifs with hquote hslash hnewline hreturn htab hzero hnumbered
  · subst hquote; rfl
  · subst hslash; rfl
  · subst hnewline; rfl
  · subst hreturn; rfl
  · subst htab; rfl
  · subst hzero; rfl
  · exact first?_numbered c rest
  · rw [List.singleton_append, first?, if_neg hquote, if_neg hslash]

theorem escape_selfDelimiting : SelfDelimiting escape := .of_reader first?_escape

/-- No escaped character begins with a quote, so the first quote is the closing one. -/
theorem escape_append_ne (c : Char) (rest rest' : List Char) : escape c ++ rest ≠ '"' :: rest' := by
  intro h
  have hread := first?_escape c rest
  rw [h] at hread
  cases hread

/-! ### Texts and lists of texts -/

theorem quoteChars_selfDelimiting : SelfDelimiting quoteChars :=
  (escape_selfDelimiting.terminated escape_append_ne).after ['"']

@[simp] theorem toList_quote (s : String) : (quote s).toList = quoteChars s.toList :=
  String.toList_ofList

theorem quote_selfDelimiting : SelfDelimiting fun s => (quote s).toList := by
  simp only [toList_quote]
  exact quoteChars_selfDelimiting.comp fun _ _ => String.toList_injective

theorem quote_injective : Function.Injective quote := fun _ _ h =>
  quote_selfDelimiting.injective (congrArg String.toList h)

/-- A text of the list after the first one. -/
def further (s : String) : List Char := [',', ' '] ++ (quote s).toList

theorem further_selfDelimiting : SelfDelimiting further := quote_selfDelimiting.after [',', ' ']

/-- The list after its opening bracket. -/
def listed : List String → List Char
  | [] => [']']
  | s :: ss => (quote s).toList ++ (ss.flatMap further ++ [']'])

theorem listed_selfDelimiting : SelfDelimiting listed := by
  have hfurther : SelfDelimiting fun ss : List String => ss.flatMap further ++ [']'] :=
    further_selfDelimiting.terminated fun s rest rest' h => by cases List.head_eq_of_cons_eq h
  intro ss ts rest rest' heq
  cases ss with
  | nil =>
    cases ts with
    | nil => exact ⟨rfl, List.append_cancel_left heq⟩
    | cons t ts =>
      rw [listed, listed, toList_quote] at heq
      cases List.head_eq_of_cons_eq heq
  | cons s ss =>
    cases ts with
    | nil =>
      rw [listed, listed, toList_quote] at heq
      cases List.head_eq_of_cons_eq heq
    | cons t ts =>
      rw [listed, listed, List.append_assoc (quote s).toList,
        List.append_assoc (quote t).toList] at heq
      obtain ⟨rfl, hrest⟩ := quote_selfDelimiting heq
      obtain ⟨rfl, rfl⟩ := hfurther hrest
      exact ⟨rfl, rfl⟩

theorem toList_intercalate_quote (s : String) (ss : List String) :
    (String.intercalate ", " ((s :: ss).map quote)).toList =
      (quote s).toList ++ ss.flatMap further := by
  have hcomma : ", ".toList = [',', ' '] := by decide
  induction ss generalizing s with
  | nil => simp
  | cons t ss ih =>
    rw [List.map_cons, List.map_cons, String.intercalate_cons_cons, ← List.map_cons,
      String.toList_append, String.toList_append, ih, hcomma, List.flatMap_cons, further]
    simp only [List.append_assoc]

theorem toList_quoteList (ss : List String) : (quoteList ss).toList = '[' :: listed ss := by
  have hopening : "[".toList = ['['] := by decide
  have hclosing : "]".toList = [']'] := by decide
  rw [quoteList, String.toList_append, String.toList_append, hopening, hclosing]
  cases ss with
  | nil => rfl
  | cons s ss =>
    rw [toList_intercalate_quote, listed, List.append_assoc, List.append_assoc,
      List.singleton_append]

/-- Lists of different length or of different texts are quoted differently. -/
theorem quoteList_injective : Function.Injective quoteList := by
  intro ss ts h
  have hlisted : '[' :: listed ss = '[' :: listed ts := by
    rw [← toList_quoteList, ← toList_quoteList, h]
  exact listed_selfDelimiting.injective (List.tail_eq_of_cons_eq hlisted)

end Quoted

/-! ### Line breaks -/

def isBreak (c : Char) : Bool := c = '\n' || c = '\r'

/-- The line breaks of a text, in order. -/
def breaks (s : String) : List Char := s.toList.filter isBreak

@[simp] theorem breaks_append (s t : String) : breaks (s ++ t) = breaks s ++ breaks t := by
  rw [breaks, String.toList_append, List.filter_append, breaks, breaks]

theorem breaks_eq_nil_iff {s : String} : breaks s = [] ↔ ∀ c ∈ s.toList, isBreak c = false := by
  simp [breaks, List.filter_eq_nil_iff]

namespace Quoted
open Toml.Scalar (isHexDigit)

theorem isBreak_eq_false_of_mem_numbered {c d : Char} (h : d ∈ numbered c) : isBreak d = false := by
  have hhex : ∀ d, isHexDigit d = true → isBreak d = false := by
    intro d hd
    have hnewline : d ≠ '\n' := by rintro rfl; cases hd
    have hreturn : d ≠ '\r' := by rintro rfl; cases hd
    simp [isBreak, hnewline, hreturn]
  simp only [numbered, List.mem_append, List.mem_cons, List.not_mem_nil, or_false] at h
  rcases h with ((rfl | rfl | rfl) | hdigit) | rfl
  · rfl
  · rfl
  · rfl
  · exact hhex d (isHexDigit_of_mem_toDigits d hdigit)
  · rfl

theorem escape_cases (c : Char) :
    (∃ d, escape c = ['\\', d] ∧ isBreak d = false) ∨ escape c = numbered c ∨
      escape c = [c] ∧ isBreak c = false := by
  unfold escape
  split_ifs with hquote hslash hnewline hreturn htab hzero hnumbered
  -- the short escapes come first
  iterate 6 exact .inl ⟨_, rfl, rfl⟩
  · exact .inr (.inl rfl)
  · exact .inr (.inr ⟨rfl, by simp [isBreak, hnewline, hreturn]⟩)

theorem isBreak_eq_false_of_mem_escape {c d : Char} (h : d ∈ escape c) : isBreak d = false := by
  rcases escape_cases c with ⟨e, he, hbreak⟩ | he | ⟨he, hbreak⟩
  · rw [he, List.mem_pair] at h
    rcases h with rfl | rfl
    · rfl
    · exact hbreak
  · exact isBreak_eq_false_of_mem_numbered (he ▸ h)
  · rw [he, List.mem_singleton] at h
    rw [h, hbreak]

@[simp] theorem breaks_quote (s : String) : breaks (quote s) = [] := by
  rw [breaks_eq_nil_iff, toList_quote]
  intro d hd
  simp only [quoteChars, List.mem_cons, List.mem_append, List.mem_flatMap, List.not_mem_nil,
    or_false] at hd
  rcases hd with rfl | ⟨c, -, hd⟩ | rfl
  · rfl
  · exact isBreak_eq_false_of_mem_escape hd
  · rfl

theorem breaks_intercalate_quote (ss : List String) :
    breaks (String.intercalate ", " (ss.map quote)) = [] := by
  cases ss with
  | nil => rfl
  | cons s ss =>
    induction ss generalizing s with
    | nil => simp
    | cons t ss ih =>
      rw [List.map_cons, List.map_cons, String.intercalate_cons_cons, ← List.map_cons]
      simp only [breaks_append, breaks_quote, ih, List.append_nil]
      rfl

@[simp] theorem breaks_quoteList (ss : List String) : breaks (quoteList ss) = [] := by
  simp only [quoteList, breaks_append, breaks_intercalate_quote, List.append_nil]
  rfl

end Quoted
end DefectGate.Text
