import DefectGate.Proofs.Json.Scalars
import DefectGate.Toml.Parser

/-! # Spelling out strings and integers

Every string can be spelled so that it is read back, with each of its characters given by number.
An integer that is not negative is spelled in hexadecimal, which no other scalar looks like.
-/
namespace DefectGate.Toml.Spelling
open Scalar (digits moreDigits isHexDigit valueIn)
open Quoted (basicBody numbered? oneLine)

/-! ### Hexadecimal digits -/

/-- The last digits of a number, so many of them. -/
def hexDigits : Nat → Nat → List Char
  | 0, _ => []
  | count + 1, n => hexDigits count (n / 16) ++ [Nat.digitChar (n % 16)]

theorem isHexDigit_digitChar {d : Nat} (h : d < 16) : isHexDigit (Nat.digitChar d) = true := by
  rw [isHexDigit, Json.Parser.hexDigit?_digitChar h]
  rfl

theorem isHexDigit_of_mem {count n : Nat} {c : Char} (h : c ∈ hexDigits count n) :
    isHexDigit c = true := by
  induction count generalizing n with
  | zero => cases h
  | succ count ih =>
    rcases List.mem_append.mp h with hm | hm
    · exact ih hm
    · rw [List.mem_singleton.mp hm]
      exact isHexDigit_digitChar (Nat.mod_lt _ (by decide))

theorem valueIn_concat (ds : List Char) {d : Nat} (h : d < 16) :
    valueIn 16 (ds ++ [Nat.digitChar d]) = valueIn 16 ds * 16 + d := by
  have hlast : (Bytes.hexDigit? (Nat.digitChar d)).getD 0 = d := by
    rw [Json.Parser.hexDigit?_digitChar h, Option.getD_some]
  rw [valueIn, List.foldl_append, List.foldl_cons, hlast]
  rfl

theorem valueIn_hexDigits (count n : Nat) : valueIn 16 (hexDigits count n) = n % 16 ^ count := by
  induction count generalizing n with
  | zero => simp [hexDigits, valueIn, Nat.mod_one]
  | succ count ih =>
    rw [hexDigits, valueIn_concat _ (Nat.mod_lt _ (by decide)), ih, pow_succ', Nat.mod_mul]
    ring

/-! ### Strings -/

/-- A character as its number. -/
def numbered (c : Char) : List Char := '\\' :: 'U' :: hexDigits 8 c.toNat

theorem numbered?_hexDigits (c : Char) : numbered? (hexDigits 8 c.toNat) = some c := by
  have hall : (hexDigits 8 c.toNat).all isHexDigit = true :=
    List.all_eq_true.mpr fun d hd => isHexDigit_of_mem hd
  have hvalid : c.toNat < 0xD800 ∨ 0xDFFF < c.toNat ∧ c.toNat < 0x110000 := c.valid
  have hnumber : valueIn 16 (hexDigits 8 c.toNat) = c.toNat := by
    rw [valueIn_hexDigits]
    exact Nat.mod_eq_of_lt (by omega)
  rw [numbered?, if_pos hall, hnumber]
  simp only [Char.ofNat_toNat, ite_eq_left_iff]
  omega

theorem basicBody_numbered (c : Char) (read rest : List Char) :
    basicBody read (numbered c ++ rest) = basicBody (c :: read) rest := by
  have h := numbered?_hexDigits c
  simp only [numbered, hexDigits, List.nil_append, List.cons_append] at h ⊢
  rw [basicBody, h]

theorem basicBody_escaped (cs read rest : List Char) :
    basicBody read (cs.flatMap numbered ++ '"' :: rest) = some (read.reverse ++ cs, rest) := by
  induction cs generalizing read with
  | nil => simp [basicBody]
  | cons c cs ih =>
    rw [List.flatMap_cons, List.append_assoc, basicBody_numbered, ih]
    simp

/-- A string between double quotes, and what follows it. -/
def quoted (s : String) (rest : List Char) : List Char :=
  '"' :: (s.toList.flatMap numbered ++ '"' :: rest)

theorem oneLine_quoted (s : String) (rest : List Char) :
    oneLine (quoted s rest) = some (s, rest) := by
  simp [quoted, oneLine, basicBody_escaped]

/-- Without a quote after it no three quotes open a string of many lines, not even if the string is
empty. -/
theorem string_quoted (s : String) {rest : List Char} (h : rest.head? ≠ some '"') :
    Quoted.string (quoted s rest) = some (s, rest) := by
  have hline : Quoted.string (quoted s rest) = oneLine (quoted s rest) := by
    rw [quoted]
    cases s.toList with
    | cons c cs => rfl
    | nil =>
      rw [List.flatMap_nil, List.nil_append, Quoted.string]
      · rintro rest' heq
        simp at heq
        simp [heq] at h
      · simp
  rw [hline, oneLine_quoted]

/-! ### Integers -/

theorem moreDigits_cons {isDigit : Char → Bool} {c : Char} (h : c ≠ '_') (read rest : List Char) :
    moreDigits isDigit read (c :: rest) =
      if isDigit c then moreDigits isDigit (c :: read) rest
      else some (read.reverse, c :: rest) := by
  rw [moreDigits]
  · exact fun _ _ hc => absurd hc h
  · exact fun hc => absurd hc h

theorem moreDigits_append {isDigit : Char → Bool} {ds rest : List Char}
    (hunderscore : isDigit '_' = false) (hds : ∀ c ∈ ds, isDigit c = true)
    (hrest : ∀ c ∈ rest.head?, isDigit c = false ∧ c ≠ '_') (read : List Char) :
    moreDigits isDigit read (ds ++ rest) = some (read.reverse ++ ds, rest) := by
  induction ds generalizing read with
  | nil =>
    cases rest with
    | nil => simp [moreDigits]
    | cons c rest =>
      obtain ⟨hc, hne⟩ := hrest c rfl
      rw [List.nil_append, moreDigits_cons hne, hc, List.append_nil]
      rfl
  | cons c ds ih =>
    have hc : isDigit c = true := hds c List.mem_cons_self
    have hne : c ≠ '_' := by
      rintro rfl
      rw [hunderscore] at hc
      cases hc
    rw [List.cons_append, moreDigits_cons hne, if_pos hc,
      ih fun c h => hds c (List.mem_cons_of_mem _ h)]
    simp

theorem digits_hexDigits (count n : Nat) (rest : List Char) :
    digits isHexDigit (hexDigits (count + 1) n ++ '\n' :: rest) =
      some (hexDigits (count + 1) n, '\n' :: rest) := by
  have hall : ∀ c ∈ hexDigits (count + 1) n, isHexDigit c = true := fun c hc => isHexDigit_of_mem hc
  have hrest : ∀ c ∈ ('\n' :: rest).head?, isHexDigit c = false ∧ c ≠ '_' := by
    simp only [List.head?_cons, Option.mem_some_iff, forall_eq']
    decide
  obtain ⟨c, ds, hcs⟩ : ∃ c ds, hexDigits (count + 1) n = c :: ds :=
    List.exists_cons_of_ne_nil (by simp [hexDigits])
  rw [hcs] at hall ⊢
  obtain ⟨hc, hds⟩ := List.forall_mem_cons.mp hall
  rw [List.cons_append, digits, if_pos hc, moreDigits_append (by decide) hds hrest]
  rfl

/-- A number of sixteen hexadecimal digits, and what follows it. -/
def hexadecimal (n : Nat) (rest : List Char) : List Char :=
  '0' :: 'x' :: (hexDigits 16 n ++ rest)

theorem fixedDigits_hexadecimal (count n : Nat) (rest : List Char) :
    Scalar.fixedDigits (count + 2) (hexadecimal n rest) = none := by
  simp [Scalar.fixedDigits, hexadecimal]

theorem datetime_hexadecimal (n : Nat) (rest : List Char) :
    Scalar.datetime (hexadecimal n rest) = none := by
  simp [Scalar.datetime, Scalar.moment, Scalar.date, Scalar.time, Scalar.fixedInRange,
    fixedDigits_hexadecimal]

theorem decimalReal_hexadecimal (n : Nat) (rest : List Char) :
    Scalar.decimalReal (hexadecimal n rest) = none := by
  simp [hexadecimal, Scalar.decimalReal, Scalar.sign, Scalar.wholeDigits, Scalar.fractionDigits,
    Scalar.exponentValue]

theorem integer_hexadecimal {n : Nat} (h : n < 2 ^ 63) (rest : List Char) :
    Scalar.integer (hexadecimal n ('\n' :: rest)) = some (.integer n, '\n' :: rest) := by
  have hdigits := digits_hexDigits 15 n rest
  have hvalue : valueIn 16 (hexDigits 16 n) = n := by
    rw [valueIn_hexDigits]
    exact Nat.mod_eq_of_lt (by omega)
  have hlow : Int64.minValue.toInt = -2 ^ 63 := by decide
  have hhigh : Int64.maxValue.toInt = 2 ^ 63 - 1 := by decide
  have hranged : Int64.minValue.toInt ≤ n ∧ n ≤ Int64.maxValue.toInt := by omega
  simp [hexadecimal, Scalar.integer, hdigits, hvalue, Scalar.integerOf?, hranged]

theorem unquoted_hexadecimal {n : Nat} (h : n < 2 ^ 63) (rest : List Char) :
    Scalar.unquoted (hexadecimal n ('\n' :: rest)) = some (.integer n, '\n' :: rest) := by
  rw [Scalar.unquoted, datetime_hexadecimal, decimalReal_hexadecimal, integer_hexadecimal h]
  rfl

end DefectGate.Toml.Spelling
