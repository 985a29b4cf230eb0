import DefectGate.Markers
import DefectGate.Proofs.Count.Grammar
import DefectGate.Proofs.Text.Blank
import DefectGate.Proofs.Text.Boundaries

/-! # The summary line

Which line of a transcript reports the count, and when it does: the last line with the opening
marker is the only one that has a say. It reports a count if nothing but the count and blanks stands
between the first places of the two markers, and it is unreadable otherwise. The markers can be
searched for in the bytes of the line as well, because they are never found inside a character.
-/
namespace DefectGate.Markers
open Text Text.Utf8

/-- The last line that holds the opening marker. -/
def IsSummary (m : Markers) (t : Transcript) (line : String) : Prop :=
  ∃ before after, t.lines = before ++ line :: after ∧ m.opening.toList <:+: line.toList ∧
    ∀ later ∈ after, ¬ m.opening.toList <:+: later.toList

/-- Nothing but a count and blanks stands between the first opening marker of a line and the first
closing one. -/
def Bears (m : Markers) (line : String) (n : Count) : Prop :=
  ∃ front lead digits trail rest,
    line.toList = front ++ m.opening.toList ++ lead ++ digits ++ trail ++ m.closing.toList ++ rest ∧
      FirstAt m.opening.toList front line.toList ∧
      FirstAt m.closing.toList (front ++ m.opening.toList ++ lead ++ digits ++ trail) line.toList ∧
      AllBlank lead ∧ AllBlank trail ∧ Count.Denotes digits n

/-- What can be wrong with a line that holds the opening marker. -/
inductive Unreadable (m : Markers) (line : String) : Prop where
  | unclosed (h : ¬ m.closing.toList <:+: line.toList)
  | crossed {front before : List Char} (hopening : FirstAt m.opening.toList front line.toList)
      (hclosing : FirstAt m.closing.toList before line.toList)
      (h : before.length < (front ++ m.opening.toList).length)
  | malformed {front middle : List Char} (hopening : FirstAt m.opening.toList front line.toList)
      (hclosing : FirstAt m.closing.toList (front ++ m.opening.toList ++ middle) line.toList)
      (h : ¬ Count.WellFormed (trim middle))
  | tooLarge {front middle : List Char} (hopening : FirstAt m.opening.toList front line.toList)
      (hclosing : FirstAt m.closing.toList (front ++ m.opening.toList ++ middle) line.toList)
      (h : 2 ^ 64 ≤ Count.decimal (Count.digitsOf (trim middle)))

/-! ### The line -/

theorem summaryLine?_eq_none_iff {m : Markers} {t : Transcript} :
    m.summaryLine? t = none ↔ ∀ line ∈ t.lines, ¬ m.opening.toList <:+: line.toList := by
  simp only [summaryLine?, List.find?_eq_none, List.mem_reverse, occursIn_iff]

theorem summaryLine?_eq_some_iff {m : Markers} {t : Transcript} {line : String} :
    m.summaryLine? t = some line ↔ m.IsSummary t line := by
  rw [summaryLine?, List.find?_eq_some_iff_append]
  simp only [occursIn_iff, Bool.not_eq_true', ← Bool.not_eq_true]
  constructor
  · rintro ⟨hline, after, before, hsplit, hafter⟩
    refine ⟨before.reverse, after.reverse, ?_, hline, fun later hl => ?_⟩
    · rw [← List.reverse_reverse t.lines, hsplit]
      simp
    · exact hafter later (List.mem_reverse.mp hl)
  · rintro ⟨before, after, hsplit, hline, hafter⟩
    refine ⟨hline, after.reverse, before.reverse, by simp [hsplit], fun later hl => ?_⟩
    exact hafter later (List.mem_reverse.mp hl)

theorem existsUnique_isSummary {m : Markers} {t : Transcript} {line : String} (h : line ∈ t.lines)
    (hopens : m.opening.toList <:+: line.toList) : ∃! summary, m.IsSummary t summary := by
  have hne : m.summaryLine? t ≠ none := fun hnone =>
    summaryLine?_eq_none_iff.mp hnone line h hopens
  obtain ⟨summary, hsummary⟩ := Option.ne_none_iff_exists'.mp hne
  refine ⟨summary, summaryLine?_eq_some_iff.mp hsummary, fun other hother => ?_⟩
  exact Option.some.inj ((summaryLine?_eq_some_iff.mpr hother).symm.trans hsummary)

theorem IsSummary.opens {m : Markers} {t : Transcript} {line : String} (h : m.IsSummary t line) :
    m.opening.toList <:+: line.toList := by
  obtain ⟨_, _, _, hopens, _⟩ := h
  exact hopens

/-! ### The count on it -/

theorem between?_of_firstAt {m : Markers} {line front before : List Char}
    (hopening : FirstAt m.opening.toList front line)
    (hclosing : FirstAt m.closing.toList before line) :
    m.between? line =
      if (front ++ m.opening.toList).length ≤ before.length then
        some (before.drop (front ++ m.opening.toList).length)
      else none := by
  have htake : line.take before.length = before :=
    (List.prefix_iff_eq_take.mp hclosing.front_prefix).symm
  rw [between?, index?_eq_offset?, index?_eq_offset?, offset?_of_firstAt hopening,
    offset?_of_firstAt hclosing]
  simp only [Option.bind_eq_bind, Option.bind_some, htake, List.length_append,
    String.length_toList]

theorem between?_of_not_isInfix {m : Markers} {line : List Char}
    (h : ¬ m.closing.toList <:+: line) : m.between? line = none := by
  rw [between?, index?_eq_offset?, index?_eq_offset?, offset?_eq_none_iff.mpr h]
  cases offset? m.opening.toList line <;> rfl

theorem exists_firstAt_of_between? {m : Markers} {line middle : List Char}
    (h : m.between? line = some middle) :
    ∃ front before, FirstAt m.opening.toList front line ∧ FirstAt m.closing.toList before line := by
  simp only [between?, index?_eq_offset?, Option.bind_eq_bind, Option.bind_eq_some_iff] at h
  obtain ⟨i, hi, j, hj, -⟩ := h
  exact ⟨_, _, firstAt_of_offset? hi, firstAt_of_offset? hj⟩

theorem between?_eq_some_iff {m : Markers} {line middle : List Char} :
    m.between? line = some middle ↔
      ∃ front, FirstAt m.opening.toList front line ∧
        FirstAt m.closing.toList (front ++ m.opening.toList ++ middle) line := by
  constructor
  · intro h
    obtain ⟨front, before, hopening, hclosing⟩ := exists_firstAt_of_between? h
    rw [between?_of_firstAt hopening hclosing] at h
    split_ifs at h with hle
    -- both lie at the start of the line, so the shorter one begins the longer one
    obtain ⟨middle', hmiddle⟩ :=
      List.prefix_of_prefix_length_le hopening.1 hclosing.front_prefix hle
    rw [← hmiddle, List.drop_left] at h
    obtain rfl := Option.some.inj h
    exact ⟨front, hopening, hmiddle ▸ hclosing⟩
  · rintro ⟨front, hopening, hclosing⟩
    rw [between?_of_firstAt hopening hclosing, if_pos (by simp), List.drop_left]

/-- The text between the markers of a line is read exactly if the line bears a count. -/
theorem countOn?_eq_some_iff {m : Markers} {line : String} {n : Count} :
    m.countOn? line = some n ↔ m.Bears line n := by
  simp only [countOn?, Option.bind_eq_bind, Option.bind_eq_some_iff, between?_eq_some_iff,
    Count.parse?_eq_some_iff]
  constructor
  · rintro ⟨middle, ⟨front, hopening, hclosing⟩, hcount⟩
    obtain ⟨lead, trail, hmiddle, hlead, htrail⟩ := exists_blanks_around_trim middle
    have hfront : front ++ m.opening.toList ++ middle =
        front ++ m.opening.toList ++ lead ++ trim middle ++ trail := by
      conv_lhs => rw [hmiddle]
      simp only [List.append_assoc]
    rw [hfront] at hclosing
    obtain ⟨rest, hrest⟩ := hclosing.1
    exact ⟨front, lead, trim middle, trail, rest, hrest.symm, hopening, hclosing, hlead, htrail,
      hcount⟩
  · rintro ⟨front, lead, digits, trail, rest, -, hopening, hclosing, hlead, htrail, hcount⟩
    have htrim : trim (lead ++ digits ++ trail) = digits :=
      trim_eq hcount.1.ne_nil hlead htrail
        (fun c hc => isBlank_eq_false_of_isDigit (hcount.1.isDigit_head? c hc))
        (fun c hc => isBlank_eq_false_of_isDigit (hcount.1.isDigit_getLast? c hc))
    refine ⟨lead ++ digits ++ trail, ⟨front, hopening, ?_⟩, by rwa [htrim]⟩
    simpa only [List.append_assoc] using hclosing

theorem countOn?_eq_none_iff_forall_not_bears {m : Markers} {line : String} :
    m.countOn? line = none ↔ ∀ n, ¬ m.Bears line n := by
  rw [Option.eq_none_iff_forall_ne_some]
  exact forall_congr' fun n => not_congr countOn?_eq_some_iff

theorem countOn?_of_between? {m : Markers} {line : String} {middle : List Char}
    (h : m.between? line.toList = some middle) :
    m.countOn? line = Count.parse? (trim middle) := by
  rw [countOn?, h]
  rfl

theorem countOn?_of_between?_eq_none {m : Markers} {line : String}
    (h : m.between? line.toList = none) : m.countOn? line = none := by
  rw [countOn?, h]
  rfl

/-- A line with the opening marker gives no count for one of four reasons. -/
theorem countOn?_eq_none_iff {m : Markers} {line : String}
    (hopens : m.opening.toList <:+: line.toList) :
    m.countOn? line = none ↔ m.Unreadable line := by
  constructor
  · intro h
    by_cases hcloses : m.closing.toList <:+: line.toList
    · obtain ⟨front, hopening⟩ := exists_firstAt_of_infix hopens
      obtain ⟨before, hclosing⟩ := exists_firstAt_of_infix hcloses
      cases hbetween : m.between? line.toList with
      | none =>
        rw [between?_of_firstAt hopening hclosing] at hbetween
        split_ifs at hbetween with hle
        exact .crossed hopening hclosing (not_le.mp hle)
      | some middle =>
        obtain ⟨front, hopening, hclosing⟩ := between?_eq_some_iff.mp hbetween
        rw [countOn?_of_between? hbetween, Count.parse?_eq_none_iff] at h
        by_cases hform : Count.WellFormed (trim middle)
        · exact .tooLarge hopening hclosing (not_lt.mp fun hlt => h ⟨hform, hlt⟩)
        · exact .malformed hopening hclosing hform
    · exact .unclosed hcloses
  · intro h
    cases h with
    | unclosed h => exact countOn?_of_between?_eq_none (between?_of_not_isInfix h)
    | crossed hopening hclosing h =>
      apply countOn?_of_between?_eq_none
      rw [between?_of_firstAt hopening hclosing, if_neg (not_le.mpr h)]
    | malformed hopening hclosing h =>
      rw [countOn?_of_between? (between?_eq_some_iff.mpr ⟨_, hopening, hclosing⟩),
        Count.parse?_eq_none_iff]
      exact fun hcount => h hcount.1
    | tooLarge hopening hclosing h =>
      rw [countOn?_of_between? (between?_eq_some_iff.mpr ⟨_, hopening, hclosing⟩),
        Count.parse?_eq_none_iff]
      exact fun hcount => absurd hcount.2 (not_lt.mpr h)

/-! ### Cutting the bytes of a line -/

/-- The places in the bytes of a line between which the count is looked for: the end of the first
opening marker and the start of the first closing one. -/
def cuts? (m : Markers) (line : String) : Option (Nat × Nat) := do
  let start := (← offset? (encode m.opening) (encode line)) + (encode m.opening).length
  let stop ← offset? (encode m.closing) (encode line)
  return (start, stop)

/-- The bytes of a line can be cut in place of its characters: no cut falls into a character, and an
inverted range is the only one that is refused. -/
structure CutsWhole (m : Markers) (line : String) : Prop where
  boundary : ∀ start stop, m.cuts? line = some (start, stop) →
    IsBoundary (encode line) start ∧ IsBoundary (encode line) stop
  between?_eq : (m.between? line.toList).map encodeChars =
    (m.cuts? line).bind fun cut =>
      if cut.1 ≤ cut.2 then some (((encode line).take cut.2).drop cut.1) else none

theorem cuts?_of_firstAt {m : Markers} {line : String} {front before : List Char}
    (hopening : FirstAt m.opening.toList front line.toList)
    (hclosing : FirstAt m.closing.toList before line.toList) :
    m.cuts? line =
      some ((encodeChars (front ++ m.opening.toList)).length, (encodeChars before).length) := by
  have hstart := offset?_of_firstAt (firstAt_encodeChars hopening)
  have hstop := offset?_of_firstAt (firstAt_encodeChars hclosing)
  rw [cuts?, encode, encode, encode, hstart, hstop, encodeChars_append, List.length_append]
  rfl

theorem isInfix_of_cuts? {m : Markers} {line : String} {cut : Nat × Nat}
    (h : m.cuts? line = some cut) :
    m.opening.toList <:+: line.toList ∧ m.closing.toList <:+: line.toList := by
  simp only [cuts?, encode, Option.bind_eq_bind, Option.bind_eq_some_iff] at h
  obtain ⟨i, hi, j, hj, -⟩ := h
  refine ⟨isInfix_of_encodeChars ?_, isInfix_of_encodeChars ?_⟩
  · exact offset?_eq_none_iff.not_left.mp (by simp [hi])
  · exact offset?_eq_none_iff.not_left.mp (by simp [hj])

theorem cutsWhole (m : Markers) (line : String) : m.CutsWhole line := by
  by_cases hboth : m.opening.toList <:+: line.toList ∧ m.closing.toList <:+: line.toList
  · obtain ⟨front, hopening⟩ := exists_firstAt_of_infix hboth.1
    obtain ⟨before, hclosing⟩ := exists_firstAt_of_infix hboth.2
    have hbefore : before <+: line.toList := hclosing.front_prefix
    have hcuts := cuts?_of_firstAt hopening hclosing
    constructor
    · intro start stop h
      rw [hcuts, Option.some.injEq, Prod.mk.injEq] at h
      obtain ⟨rfl, rfl⟩ := h
      exact ⟨isBoundary_of_isPrefix hopening.1, isBoundary_of_isPrefix hbefore⟩
    · rw [between?_of_firstAt hopening hclosing, hcuts, Option.bind_some, encode]
      simp only [length_encodeChars_le_iff hopening.1 hbefore]
      split_ifs with hle
      · have hstart := List.prefix_of_prefix_length_le hopening.1 hbefore hle
        rw [← List.prefix_iff_eq_take.mp (encodeChars_isPrefix hbefore), drop_encodeChars hstart]
        rfl
      · rfl
  · have hcuts : m.cuts? line = none :=
      Option.eq_none_iff_forall_ne_some.mpr fun cut h => hboth (isInfix_of_cuts? h)
    have hbetween : m.between? line.toList = none := by
      refine Option.eq_none_iff_forall_ne_some.mpr fun middle h => hboth ?_
      obtain ⟨front, before, hopening, hclosing⟩ := exists_firstAt_of_between? h
      exact ⟨hopening.isInfix, hclosing.isInfix⟩
    constructor
    · simp [hcuts]
    · simp [hcuts, hbetween]

/-! ### Reading a transcript -/

theorem read_cases (m : Markers) (analyzer : String) (t : Transcript) :
    (m.summaryLine? t = none ∧
        m.read analyzer t = .error (.summaryMissing analyzer m.opening)) ∨
      ∃ line, m.summaryLine? t = some line ∧
        ((m.countOn? line = none ∧ m.read analyzer t = .error (.countUnreadable line)) ∨
          ∃ n, m.countOn? line = some n ∧ m.read analyzer t = .ok n) := by
  rw [read]
  cases m.summaryLine? t with
  | none => exact .inl ⟨rfl, rfl⟩
  | some line =>
    refine .inr ⟨line, rfl, ?_⟩
    cases hcount : m.countOn? line with
    | none => exact .inl ⟨rfl, by simp only [hcount]⟩
    | some n => exact .inr ⟨n, rfl, by simp only [hcount]⟩

theorem read_eq_summaryMissing_iff {m : Markers} {analyzer : String} {t : Transcript} :
    m.read analyzer t = .error (.summaryMissing analyzer m.opening) ↔
      m.summaryLine? t = none := by
  rcases m.read_cases analyzer t with ⟨hline, hread⟩ | ⟨line, hline, ⟨-, hread⟩ | ⟨n, -, hread⟩⟩ <;>
    simp [hline, hread]

theorem read_eq_ok_iff {m : Markers} {analyzer : String} {t : Transcript} {n : Count} :
    m.read analyzer t = .ok n ↔
      ∃ line, m.summaryLine? t = some line ∧ m.countOn? line = some n := by
  rcases m.read_cases analyzer t with
    ⟨hline, hread⟩ | ⟨line, hline, ⟨hcount, hread⟩ | ⟨n', hcount, hread⟩⟩
  · simp [hline, hread]
  · simp [hline, hread, hcount]
  · simp [hline, hread, hcount]

theorem read_eq_countUnreadable_iff {m : Markers} {analyzer : String} {t : Transcript}
    {line : String} :
    m.read analyzer t = .error (.countUnreadable line) ↔
      m.summaryLine? t = some line ∧ m.countOn? line = none := by
  rcases m.read_cases analyzer t with
    ⟨hline, hread⟩ | ⟨line', hline, ⟨hcount, hread⟩ | ⟨n, hcount, hread⟩⟩
  · simp [hline, hread]
  · simp only [hline, hread, Except.error.injEq, Failure.countUnreadable.injEq, Option.some.injEq]
    exact ⟨fun he => ⟨he, he ▸ hcount⟩, And.left⟩
  · simp only [hline, hread, reduceCtorEq, Option.some.injEq, false_iff, not_and]
    rintro rfl
    simp [hcount]

/-- The last line with the opening marker decides alone. Without one the summary is missing. It
gives the count that it bears, and if it bears none it is reported as unreadable, for one of four
reasons. Earlier lines and later ones without the marker have no influence, and cutting the bytes of
a line never meets the inside of a character. -/
theorem read_decided (m : Markers) (analyzer : String) (t : Transcript) :
    (m.read analyzer t = .error (.summaryMissing analyzer m.opening) ↔
        ∀ line ∈ t.lines, ¬ m.opening.toList <:+: line.toList) ∧
      (∀ line ∈ t.lines, m.opening.toList <:+: line.toList → ∃! summary, m.IsSummary t summary) ∧
      (∀ n, m.read analyzer t = .ok n ↔ ∃ line, m.IsSummary t line ∧ m.Bears line n) ∧
      (∀ line, m.read analyzer t = .error (.countUnreadable line) ↔
        m.IsSummary t line ∧ ∀ n, ¬ m.Bears line n) ∧
      (∀ line, m.IsSummary t line → ((∀ n, ¬ m.Bears line n) ↔ m.Unreadable line)) ∧
      (∀ before line after, t.lines = before ++ line :: after →
        m.opening.toList <:+: line.toList →
        (∀ later ∈ after, ¬ m.opening.toList <:+: later.toList) →
        m.read analyzer t = m.read analyzer ⟨[line]⟩) ∧
      ∀ line, m.CutsWhole line := by
  refine ⟨read_eq_summaryMissing_iff.trans summaryLine?_eq_none_iff,
    fun _ hline hopens => existsUnique_isSummary hline hopens, fun n => ?_, fun line => ?_,
    fun line hline => ?_, fun before line after hsplit hopens hafter => ?_, m.cutsWhole⟩
  · simp only [read_eq_ok_iff, summaryLine?_eq_some_iff, countOn?_eq_some_iff]
  · rw [read_eq_countUnreadable_iff, summaryLine?_eq_some_iff,
      countOn?_eq_none_iff_forall_not_bears]
  · rw [← countOn?_eq_none_iff_forall_not_bears, countOn?_eq_none_iff hline.opens]
  · have hline : m.summaryLine? t = some line :=
      summaryLine?_eq_some_iff.mpr ⟨before, after, hsplit, hopens, hafter⟩
    have hsingle : m.summaryLine? ⟨[line]⟩ = some line :=
      summaryLine?_eq_some_iff.mpr ⟨[], [], rfl, hopens, by simp⟩
    rw [read, read, hline, hsingle]

/-- The last line with the marker decides, by its first two markers, though others follow them. -/
theorem read_decided_grouped :
    let m : Markers := ⟨"found", "→"⟩
    let t : Transcript := ⟨["found 7→", "found 1,024\u3000→ found→", "→"]⟩
    (∃ line, m.IsSummary t line ∧ m.Bears line 1024) ∧
      m.read "probe" t = m.read "probe" ⟨["found 1,024\u3000→ found→"]⟩ := by
  intro m t
  obtain ⟨-, -, hok, -, -, halone, -⟩ := read_decided m "probe" t
  refine ⟨(hok 1024).mp (by decide), halone ["found 7→"] _ ["→"] rfl ?_ ?_⟩
  · exact occursIn_iff.mp (by decide)
  · simp only [List.mem_singleton, forall_eq]
    exact fun h => absurd (occursIn_iff.mpr h) (by decide)

/-- A closing marker that begins inside the opening one is the first one all the same. -/
example :
    Markers.read ⟨"found→", "→"⟩ "probe" ⟨["found→7→"]⟩ = .error (.countUnreadable "found→7→") := by
  decide

end DefectGate.Markers
