import DefectGate.Proofs.Json.Scalars

/-! # Reading back whole values

A value whose numbers are integers of 64 bits, and which is not nested too deeply, is read back from
its text over many lines. The induction is on the fuel, which the length of the text always covers.
-/
namespace DefectGate.Json

mutual

/-- Every number is an integer that 64 bits hold, and at most so many levels are nested. -/
def Readable : Nat → Json → Prop
  | _, .null | _, .bool _ | _, .string _ => True
  | _, .number (.integer n) => Parser.Fits n
  | _, .number (.real _) => False
  | 0, .array _ | 0, .object _ => False
  | below + 1, .array elements => ReadableElements below elements
  | below + 1, .object fields => ReadableFields below fields

def ReadableElements (levels : Nat) : List Json → Prop
  | [] => True
  | v :: vs => Readable levels v ∧ ReadableElements levels vs

def ReadableFields (levels : Nat) : List (String × Json) → Prop
  | [] => True
  | (_, v) :: fields => Readable levels v ∧ ReadableFields levels fields

end

namespace Parser
variable {levels : Nat}

/-! ### Spaces and first characters -/

theorem skipSpaces_cons {c : Char} (h : isSpace c = false) (cs : List Char) :
    skipSpaces (c :: cs) = c :: cs := by
  simp [skipSpaces, h]

theorem skipSpaces_newline (depth : Nat) (cs : List Char) :
    skipSpaces (newline depth ++ cs) = skipSpaces cs := by
  have hspace : ∀ c ∈ newline depth, isSpace c = true := by
    intro c hc
    rw [newline, List.mem_cons, List.mem_replicate] at hc
    obtain rfl | ⟨-, rfl⟩ := hc <;> rfl
  exact List.dropWhile_append_of_pos hspace

theorem StartsInteger.ne {c d : Char} (h : StartsInteger c) (hd : ¬ StartsInteger d) : c ≠ d := by
  rintro rfl
  exact hd h

theorem StartsInteger.isSpace_eq_false {c : Char} (h : StartsInteger c) : isSpace c = false := by
  have hspace := h.ne (d := ' ') (by decide)
  have hnewline := h.ne (d := '\n') (by decide)
  have hreturn := h.ne (d := '\r') (by decide)
  have htab := h.ne (d := '\t') (by decide)
  simp [isSpace, hspace, hnewline, hreturn, htab]

/-- A value starts with no space, and with nothing that ends an array. -/
theorem pretty_eq_cons (depth : Nat) {j : Json} (h : Readable levels j) :
    ∃ c cs, pretty depth j = c :: cs ∧ isSpace c = false ∧ c ≠ ']' := by
  match j with
  | .null => exact ⟨'n', _, rfl, rfl, by decide⟩
  | .bool true => exact ⟨'t', _, rfl, rfl, by decide⟩
  | .bool false => exact ⟨'f', _, rfl, rfl, by decide⟩
  | .string s => exact ⟨'"', _, rfl, rfl, by decide⟩
  | .array [] => exact ⟨'[', _, rfl, rfl, by decide⟩
  | .array (v :: vs) => exact ⟨'[', _, rfl, rfl, by decide⟩
  | .object [] => exact ⟨'\x7b', _, rfl, rfl, by decide⟩
  | .object (f :: fs) => exact ⟨'\x7b', _, rfl, rfl, by decide⟩
  | .number (.integer n) =>
    obtain ⟨c, cs, htext, hc⟩ := text_eq_cons n
    exact ⟨c, cs, htext, hc.isSpace_eq_false, hc.ne (by decide)⟩
  | .number (.real x) => simp [Readable] at h

theorem skipSpaces_pretty (depth : Nat) {j : Json} (h : Readable levels j) (rest : List Char) :
    skipSpaces (pretty depth j ++ rest) = pretty depth j ++ rest := by
  obtain ⟨c, cs, hcs, hc, -⟩ := pretty_eq_cons depth h
  rw [hcs, List.cons_append, skipSpaces_cons hc]

theorem endsNumber_newline (depth : Nat) (rest : List Char) :
    EndsNumber (newline depth ++ rest) := by
  simp [EndsNumber, newline]

theorem endsNumber_prettyElements (depth : Nat) (vs : List Json) (rest : List Char) :
    EndsNumber (prettyElements depth vs ++ rest) := by
  cases vs with
  | nil =>
    rw [prettyElements, List.append_assoc]
    exact endsNumber_newline depth _
  | cons v vs => simp [EndsNumber, prettyElements]

theorem endsNumber_prettyFields (depth : Nat) (fs : List (String × Json)) (rest : List Char) :
    EndsNumber (prettyFields depth fs ++ rest) := by
  cases fs with
  | nil =>
    rw [prettyFields, List.append_assoc]
    exact endsNumber_newline depth _
  | cons f fs => simp [EndsNumber, prettyFields]

theorem skipSpaces_prettyElements_nil (depth : Nat) (rest : List Char) :
    skipSpaces (prettyElements depth [] ++ rest) = ']' :: rest := by
  rw [prettyElements, List.append_assoc, skipSpaces_newline]
  exact skipSpaces_cons rfl rest

theorem skipSpaces_prettyElements_cons (depth : Nat) (v : Json) (vs : List Json)
    (rest : List Char) :
    skipSpaces (prettyElements depth (v :: vs) ++ rest) = ',' :: (newline (depth + 1) ++
      (pretty (depth + 1) v ++ (prettyElements depth vs ++ rest))) := by
  simp [prettyElements, skipSpaces, isSpace]

theorem skipSpaces_prettyFields_nil (depth : Nat) (rest : List Char) :
    skipSpaces (prettyFields depth [] ++ rest) = '\x7d' :: rest := by
  rw [prettyFields, List.append_assoc, skipSpaces_newline]
  exact skipSpaces_cons rfl rest

theorem skipSpaces_prettyFields_cons (depth : Nat) (name : String) (v : Json)
    (fs : List (String × Json)) (rest : List Char) :
    skipSpaces (prettyFields depth ((name, v) :: fs) ++ rest) =
      ',' :: (newline (depth + 1) ++ (quoted name ++ ':' :: ' ' ::
        (pretty (depth + 1) v ++ (prettyFields depth fs ++ rest)))) := by
  simp [prettyFields, skipSpaces, isSpace]

theorem skipSpaces_quoted (name : String) (rest : List Char) :
    skipSpaces (quoted name ++ rest) = quoted name ++ rest :=
  skipSpaces_cons rfl _

/-! ### One level of nesting -/

/-- What starts with a sign or a digit is read as a number. -/
theorem value_of_startsInteger {c : Char} (h : StartsInteger c) (fuel : Nat) (cs : List Char) :
    value levels (fuel + 1) (c :: cs) =
      (number (c :: cs)).map fun (n, rest) => (.number n, rest) := by
  rw [value]
  all_goals
    intro rest heq
    exact h.ne (by decide) (List.cons.inj heq).1

theorem value_bracket {cs rest : List Char} {c : Char} (h : skipSpaces cs = c :: rest)
    (hc : c ≠ ']') (fuel : Nat) :
    value (levels + 1) (fuel + 1) ('[' :: cs) =
      (elements levels fuel (c :: rest)).map fun (vs, rest') => (.array vs, rest') := by
  simp [value, h, hc]

theorem value_brace {cs rest : List Char} {c : Char} (h : skipSpaces cs = c :: rest)
    (hc : c ≠ '\x7d') (fuel : Nat) :
    value (levels + 1) (fuel + 1) ('\x7b' :: cs) =
      (fields levels fuel (c :: rest)).map fun (fs, rest') => (.object fs, rest') := by
  simp [value, h, hc]

/-- With this much fuel, every text that is no longer is read back. -/
structure ReadsBack (fuel : Nat) : Prop where
  values : ∀ levels j depth rest, Readable levels j → (pretty depth j).length ≤ fuel →
    EndsNumber rest → value levels fuel (pretty depth j ++ rest) = some (j, rest)
  elements : ∀ levels v vs depth rest, Readable levels v → ReadableElements levels vs →
    (pretty (depth + 1) v ++ prettyElements depth vs).length ≤ fuel →
    elements levels fuel (pretty (depth + 1) v ++ (prettyElements depth vs ++ rest)) =
      some (v :: vs, rest)
  fields : ∀ levels name v fs depth rest, Readable levels v → ReadableFields levels fs →
    (pretty (depth + 1) v ++ prettyFields depth fs).length ≤ fuel →
    fields levels fuel (quoted name ++ ':' :: ' ' :: (pretty (depth + 1) v ++
      (prettyFields depth fs ++ rest))) = some ((name, v) :: fs, rest)

variable {fuel depth : Nat} {v : Json} {vs : List Json} {name : String} {fs : List (String × Json)}

theorem ReadsBack.value_array (h : ReadsBack fuel) (hv : Readable levels v)
    (hvs : ReadableElements levels vs)
    (hfuel : (pretty depth (.array (v :: vs))).length ≤ fuel + 1) (rest : List Char) :
    value (levels + 1) (fuel + 1) (pretty depth (.array (v :: vs)) ++ rest) =
      some (.array (v :: vs), rest) := by
  have htext : pretty depth (.array (v :: vs)) ++ rest = '[' :: (newline (depth + 1) ++
      (pretty (depth + 1) v ++ (prettyElements depth vs ++ rest))) := by
    simp [pretty]
  have hread := h.elements levels v vs depth rest hv hvs (by simp [pretty] at hfuel ⊢; omega)
  obtain ⟨c, cs, hcs, hspace, hc⟩ := pretty_eq_cons (depth + 1) hv
  rw [hcs, List.cons_append] at htext hread
  rw [htext, value_bracket (by rw [skipSpaces_newline, skipSpaces_cons hspace]) hc, hread]
  rfl

theorem ReadsBack.value_object (h : ReadsBack fuel) (hv : Readable levels v)
    (hfs : ReadableFields levels fs)
    (hfuel : (pretty depth (.object ((name, v) :: fs))).length ≤ fuel + 1) (rest : List Char) :
    value (levels + 1) (fuel + 1) (pretty depth (.object ((name, v) :: fs)) ++ rest) =
      some (.object ((name, v) :: fs), rest) := by
  have htext : pretty depth (.object ((name, v) :: fs)) ++ rest =
      '\x7b' :: (newline (depth + 1) ++ (quoted name ++ ':' :: ' ' ::
        (pretty (depth + 1) v ++ (prettyFields depth fs ++ rest)))) := by
    simp [pretty]
  have hread := h.fields levels name v fs depth rest hv hfs (by simp [pretty] at hfuel ⊢; omega)
  have hskip := skipSpaces_quoted name
    (':' :: ' ' :: (pretty (depth + 1) v ++ (prettyFields depth fs ++ rest)))
  rw [quoted, List.cons_append] at htext hread hskip
  rw [htext, value_brace (by rw [skipSpaces_newline, hskip]) (by decide), hread]
  rfl

theorem ReadsBack.value_succ (h : ReadsBack fuel) {j : Json} (hj : Readable levels j)
    (hfuel : (pretty depth j).length ≤ fuel + 1) {rest : List Char} (hrest : EndsNumber rest) :
    value levels (fuel + 1) (pretty depth j ++ rest) = some (j, rest) := by
  match j, levels with
  | .null, _ => rfl
  | .bool true, _ => rfl
  | .bool false, _ => rfl
  | .string s, _ => simp [pretty, quoted, value, string_escaped]
  | .number (.integer n), _ =>
    rw [Readable] at hj
    obtain ⟨c, cs, htext, hc⟩ := text_eq_cons n
    have hread := number_text hj hrest
    rw [htext, List.cons_append] at hread
    rw [pretty, htext, List.cons_append, value_of_startsInteger hc, hread]
    rfl
  | .number (.real x), _ => simp [Readable] at hj
  | .array [], _ + 1 => rfl
  | .array (v :: vs), _ + 1 =>
    rw [Readable, ReadableElements] at hj
    exact h.value_array hj.1 hj.2 hfuel rest
  | .object [], _ + 1 => rfl
  | .object ((name, v) :: fs), _ + 1 =>
    rw [Readable, ReadableFields] at hj
    exact h.value_object hj.1 hj.2 hfuel rest
  | .array _, 0 | .object _, 0 => simp [Readable] at hj

theorem ReadsBack.elements_succ (h : ReadsBack fuel) (hv : Readable levels v)
    (hvs : ReadableElements levels vs)
    (hfuel : (pretty (depth + 1) v ++ prettyElements depth vs).length ≤ fuel + 1)
    (rest : List Char) :
    Parser.elements levels (fuel + 1)
      (pretty (depth + 1) v ++ (prettyElements depth vs ++ rest)) = some (v :: vs, rest) := by
  have hread : value levels fuel (pretty (depth + 1) v ++ (prettyElements depth vs ++ rest)) =
      some (v, prettyElements depth vs ++ rest) := by
    -- what follows takes at least one character, which pays for the step
    apply h.values levels v (depth + 1) _ hv _ (endsNumber_prettyElements depth vs rest)
    cases vs <;> simp [prettyElements, newline] at hfuel <;> omega
  rw [Parser.elements, hread]
  cases vs with
  | nil => simp only [skipSpaces_prettyElements_nil]
  | cons w vs =>
    rw [ReadableElements] at hvs
    have htail := h.elements levels w vs depth rest hvs.1 hvs.2
      (by simp [prettyElements] at hfuel ⊢; omega)
    simp only [skipSpaces_prettyElements_cons, skipSpaces_newline, skipSpaces_pretty _ hvs.1,
      htail, Option.map_some]

theorem ReadsBack.fields_succ (h : ReadsBack fuel) (hv : Readable levels v)
    (hfs : ReadableFields levels fs)
    (hfuel : (pretty (depth + 1) v ++ prettyFields depth fs).length ≤ fuel + 1)
    (rest : List Char) :
    Parser.fields levels (fuel + 1) (quoted name ++ ':' :: ' ' :: (pretty (depth + 1) v ++
      (prettyFields depth fs ++ rest))) = some ((name, v) :: fs, rest) := by
  have hread : value levels fuel (pretty (depth + 1) v ++ (prettyFields depth fs ++ rest)) =
      some (v, prettyFields depth fs ++ rest) := by
    apply h.values levels v (depth + 1) _ hv _ (endsNumber_prettyFields depth fs rest)
    cases fs <;> simp [prettyFields, newline] at hfuel <;> omega
  have hcolon (cs : List Char) : skipSpaces (':' :: cs) = ':' :: cs := skipSpaces_cons rfl cs
  have hspace (cs : List Char) : skipSpaces (' ' :: cs) = skipSpaces cs := rfl
  rw [quoted, List.cons_append, List.append_assoc, List.singleton_append, Parser.fields,
    string_escaped]
  simp only [hcolon, hspace, skipSpaces_pretty _ hv, hread]
  cases fs with
  | nil => simp only [skipSpaces_prettyFields_nil]
  | cons f fs =>
    obtain ⟨other, w⟩ := f
    rw [ReadableFields] at hfs
    have htail := h.fields levels other w fs depth rest hfs.1 hfs.2
      (by simp [prettyFields] at hfuel ⊢; omega)
    simp only [skipSpaces_prettyFields_cons, skipSpaces_newline, skipSpaces_quoted, htail,
      Option.map_some]

/-- By induction on the fuel: a value needs less of it for its parts than for itself. -/
theorem readsBack (fuel : Nat) : ReadsBack fuel := by
  induction fuel with
  | zero =>
    have hne {levels : Nat} {j : Json} (hj : Readable levels j) (depth : Nat) :
        pretty depth j ≠ [] := by
      obtain ⟨c, cs, hcs, -⟩ := pretty_eq_cons depth hj
      simp [hcs]
    constructor
    · intro levels j depth rest hj hfuel hrest
      simp [hne hj depth] at hfuel
    · intro levels v vs depth rest hv hvs hfuel
      simp [hne hv (depth + 1)] at hfuel
    · intro levels name v fs depth rest hv hfs hfuel
      simp [hne hv (depth + 1)] at hfuel
  | succ fuel ih =>
    constructor
    · intro levels j depth rest hj hfuel hrest
      exact ih.value_succ hj hfuel hrest
    · intro levels v vs depth rest hv hvs hfuel
      exact ih.elements_succ hv hvs hfuel rest
    · intro levels name v fs depth rest hv hfs hfuel
      exact ih.fields_succ hv hfs hfuel rest

end Parser

/-- A value is read back from its text. -/
theorem parse?_toPrettyString {j : Json} (h : Readable Parser.maxLevels j) :
    parse? j.toPrettyString = some j := by
  have hskip : Parser.skipSpaces (pretty 0 j) = pretty 0 j := by
    simpa using Parser.skipSpaces_pretty 0 h []
  have hread : Parser.value Parser.maxLevels ((pretty 0 j).length + 1) (pretty 0 j) =
      some (j, []) := by
    simpa using
      (Parser.readsBack _).values _ j 0 [] h (Nat.le_succ _) (by simp [Parser.EndsNumber])
  rw [parse?, toPrettyString, String.toList_ofList, parseChars?, hskip, hread]
  rfl

end DefectGate.Json
