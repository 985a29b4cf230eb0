import DefectGate.Invocation
import DefectGate.Proofs.Checked

/-! # What is handed on to the target

A command line gives options, each at most once, then the target, then what is handed on to it. The
words after the target are handed on as they stand exactly if the first of them has no meaning of
its own: it is no option, asks for nothing and is no double dash. From that word on nothing is read
as an option any more.
-/
namespace DefectGate.Invocation
open Checked

/-- An option with its value, which stands in a word of its own or behind an equals sign. -/
structure Setting where
  option : Opt
  value : String
  attached : Bool
  deriving DecidableEq, Repr

/-- A word that does not look like an option. -/
def IsPlain (word : String) : Prop := word = "-" ∨ word.toList.head? ≠ some '-'

instance (word : String) : Decidable (IsPlain word) := inferInstanceAs (Decidable (_ ∨ _))

/-- Whether an option takes a value. -/
def Opt.takes : Opt → String → Bool
  | .analyzer, _ | .commit, _ => true
  | .timeoutSeconds, value => (seconds? value).isSome
  | .logDir, value | .config, value | .summaryOut, value => !value.isEmpty

namespace Setting

def words (s : Setting) : List String :=
  if s.attached then ["--" ++ s.option.name ++ "=" ++ s.value] else ["--" ++ s.option.name, s.value]

/-- The option takes the value, and a value in a word of its own does not look like an option. -/
def WellFormed (s : Setting) : Prop :=
  s.option.takes s.value ∧ (s.attached = false → IsPlain s.value)

instance (s : Setting) : Decidable s.WellFormed := inferInstanceAs (Decidable (_ ∧ _))

end Setting

/-- What a list of settings says about an option. -/
def valueOf (settings : List Setting) (o : Opt) : Option String :=
  (settings.find? (·.option = o)).map (·.value)

/-- The invocation that settings, a target and its arguments describe. -/
def described (settings : List Setting) (target : String) (arguments : List String) :
    Invocation where
  target := .ofString target
  arguments := arguments
  analyzer := valueOf settings .analyzer
  logDir := (valueOf settings .logDir).map .ofString
  timeoutSeconds := (valueOf settings .timeoutSeconds).bind seconds?
  config := (valueOf settings .config).map .ofString
  summaryOut := (valueOf settings .summaryOut).map .ofString
  commit := valueOf settings .commit

/-- Whether a word has a meaning of its own directly after the target. -/
def hasMeaning (word : String) : Bool :=
  match Word.ofString word with
  | .plain => false
  | .doubleDash => true
  | .short letters => letters.all fun c => (shortInquiry? c).isSome
  | .long name _ => (inquiry? name).isSome || Opt.all.any fun o => o.name = name

theorem valueOf_append_singleton (settings : List Setting) (s : Setting) (o : Opt) :
    valueOf (settings ++ [s]) o =
      (valueOf settings o).or (if s.option = o then some s.value else none) := by
  rw [valueOf, valueOf, List.find?_append]
  cases settings.find? (·.option = o) with
  | some s' => rfl
  | none => by_cases h : s.option = o <;> simp [h]

theorem valueOf_eq_none {settings : List Setting} {o : Opt} (h : o ∉ settings.map (·.option)) :
    valueOf settings o = none := by
  rw [valueOf, Option.map_eq_none_iff, List.find?_eq_none]
  intro s hs he
  exact h (List.mem_map.mpr ⟨s, hs, by simpa using he⟩)

section Words

theorem ofString_of_isPlain {word : String} (h : IsPlain word) : Word.ofString word = .plain := by
  rcases h with rfl | h
  · rfl
  · rw [Word.ofString]
    cases hw : word.toList with
    | nil => rfl
    | cons c cs =>
      have hc : c ≠ '-' := by
        intro he
        exact h (by rw [hw, he, List.head?_cons])
      split <;> simp_all

theorem ofString_name (o : Opt) : Word.ofString ("--" ++ o.name) = .long o.name none := by
  cases o <;> rfl

theorem ofString_name_value (o : Opt) (value : String) :
    Word.ofString ("--" ++ o.name ++ "=" ++ value) = .long o.name (some value) := by
  cases o <;> simp [Word.ofString, Opt.name, String.toList_append]

theorem inquiry?_name (o : Opt) : inquiry? o.name = none := by cases o <;> rfl

theorem find?_name (o : Opt) : Opt.all.find? (·.name = o.name) = some o := by cases o <;> rfl

end Words

namespace Reader
variable {r : Reader} {settings : List Setting} {s : Setting} {rest : List String}

/-- What has been accepted once a list of settings has been read. -/
def draftOf (settings : List Setting) : Draft where
  target := none
  analyzer := valueOf settings .analyzer
  logDir := (valueOf settings .logDir).map .ofString
  timeoutSeconds := (valueOf settings .timeoutSeconds).bind seconds?
  config := (valueOf settings .config).map .ofString
  summaryOut := (valueOf settings .summaryOut).map .ofString
  commit := valueOf settings .commit

/-- A reader has read these settings and no target. The last value may still be pending. -/
structure HasRead (r : Reader) (settings : List Setting) : Prop where
  unnamed : r.named = false
  settles : r.draft.settle r.pending = .ok (draftOf settings)

theorem hasRead_start : start.HasRead [] := ⟨rfl, rfl⟩

theorem has_draftOf {o : Opt} (h : valueOf settings o = none) :
    (draftOf settings).has o = false := by
  cases o <;> simp [draftOf, Draft.has, h]

/-- A setting that has not been given before is taken as it is. -/
theorem setOption_draftOf (hs : s.WellFormed) (hnew : s.option ∉ settings.map (·.option)) :
    (draftOf settings).setOption s.option s.value = .ok (draftOf (settings ++ [s])) := by
  obtain ⟨o, value, attached⟩ := s
  have hvalue : o.takes value := hs.1
  have hnone : valueOf settings o = none := valueOf_eq_none hnew
  have hfree : (draftOf settings).has o = false := has_draftOf hnone
  rw [Draft.setOption.eq_def, hfree]
  cases o with
  | timeoutSeconds =>
    obtain ⟨n, hn⟩ := Option.isSome_iff_exists.mp hvalue
    simp [draftOf, valueOf_append_singleton, hnone, hn]
  | analyzer | commit => simp [draftOf, valueOf_append_singleton, hnone]
  | logDir | config | summaryOut =>
    have hne : value.isEmpty = false := by simpa [Opt.takes] using hvalue
    simp [draftOf, valueOf_append_singleton, hnone, pathValue, hne, Except.map]

theorem HasRead.advance (h : r.HasRead settings) (next : Pending) :
    r.advance next = .ok ⟨draftOf settings, next, false⟩ := by
  simp [Reader.advance, h.settles, h.unnamed]

/-- After a setting the reader goes on as one that has read it as well. -/
theorem HasRead.read_setting (h : r.HasRead settings) (hs : s.WellFormed)
    (hnew : s.option ∉ settings.map (·.option)) (rest : List String) :
    ∃ r' : Reader, r'.HasRead (settings ++ [s]) ∧ r.read (s.words ++ rest) = r'.read rest := by
  obtain ⟨o, value, attached⟩ := s
  have hset : (draftOf settings).setOption o value =
      .ok (draftOf (settings ++ [⟨o, value, attached⟩])) := setOption_draftOf hs hnew
  cases attached with
  | true =>
    refine ⟨⟨draftOf (settings ++ [⟨o, value, true⟩]), .nothing, false⟩, ⟨rfl, rfl⟩, ?_⟩
    have htake : r.takeOption (.long o.name (some value)) =
        .ok (some ⟨draftOf (settings ++ [⟨o, value, true⟩]), .nothing, false⟩) := by
      simp only [takeOption, inquiry?_name, find?_name, h.advance]
      change ((draftOf settings).setOption o value >>= fun d =>
        Except.ok (some (⟨d, .nothing, false⟩ : Reader))) = _
      rw [hset]
      rfl
    change r.read (("--" ++ o.name ++ "=" ++ value) :: rest) = _
    rw [Reader.read, ofString_name_value, htake, if_neg (by simp)]
  | false =>
    have hplain : Word.ofString value = .plain := ofString_of_isPlain (hs.2 rfl)
    refine ⟨⟨draftOf settings, .option o value, false⟩, ⟨rfl, hset⟩, ?_⟩
    have htake : r.takeOption (.long o.name none) =
        .ok (some ⟨draftOf settings, .waiting o, false⟩) := by
      simp [takeOption, inquiry?_name, find?_name, h.advance]
    change r.read (("--" ++ o.name) :: value :: rest) = _
    rw [Reader.read, ofString_name, htake, if_neg (by simp)]
    change Reader.read _ (value :: rest) = _
    rw [Reader.read, hplain, if_neg (by simp)]
    rfl

theorem HasRead.read_settings (h : r.HasRead settings) (more : List Setting)
    (hmore : ∀ s ∈ more, s.WellFormed) (hnodup : ((settings ++ more).map (·.option)).Nodup)
    (rest : List String) :
    ∃ r' : Reader, r'.HasRead (settings ++ more) ∧
      r.read (more.flatMap Setting.words ++ rest) = r'.read rest := by
  induction more generalizing r settings with
  | nil => exact ⟨r, by simpa using h, rfl⟩
  | cons s more ih =>
    obtain ⟨hs, hmore⟩ := List.forall_mem_cons.mp hmore
    have hnew : s.option ∉ settings.map (·.option) := by
      rw [List.map_append, List.map_cons, List.nodup_middle] at hnodup
      intro hmem
      exact (List.nodup_cons.mp hnodup).1 (List.mem_append_left _ hmem)
    obtain ⟨r₁, h₁, hread₁⟩ := h.read_setting hs hnew (more.flatMap Setting.words ++ rest)
    rw [List.append_cons] at hnodup ⊢
    obtain ⟨r₂, h₂, hread₂⟩ := ih h₁ hmore hnodup
    refine ⟨r₂, h₂, ?_⟩
    rw [List.flatMap_cons, List.append_assoc, hread₁, hread₂]

/-- A reader that has read settings takes the next plain word as the target. -/
theorem HasRead.read_target (h : r.HasRead settings) {target : String} (htarget : IsPlain target)
    (rest : List String) :
    r.read (target :: rest) = Reader.read ⟨draftOf settings, .target target, true⟩ rest := by
  have hplain : Word.ofString target = .plain := ofString_of_isPlain htarget
  rw [Reader.read, hplain, if_neg (by simp)]
  simp only [takeOption, h.unnamed, h.advance]
  cases hpending : r.pending with
  | waiting o =>
    -- a value that is still to come would not have settled
    have hsettles := h.settles
    rw [hpending] at hsettles
    cases hsettles
  | nothing | option o value | target value => rfl

/-! ### What is handed on is a part of what was read -/

section Arguments
variable {r : Reader} {i : Invocation} {rest : List String}

theorem arguments_of_finish (h : r.finish rest = .ok i) : i.arguments = rest := by
  obtain ⟨d, -, hd⟩ := bind_eq_ok_iff.mp h
  cases htarget : d.target with
  | none =>
    rw [htarget] at hd
    cases hd
  | some target =>
    rw [htarget] at hd
    cases hd
    rfl

theorem length_arguments_of_readPlain (h : r.readPlain rest = .ok i) :
    i.arguments.length ≤ rest.length := by
  induction rest generalizing r with
  | nil => rw [arguments_of_finish h]
  | cons word rest ih =>
    rw [Reader.readPlain] at h
    split at h
    · rw [arguments_of_finish h]
    · obtain ⟨_, -, hrest⟩ := bind_eq_ok_iff.mp h
      exact (ih hrest).trans (Nat.le_succ _)

theorem length_arguments_of_read (h : r.read rest = .ok i) :
    i.arguments.length ≤ rest.length := by
  induction rest generalizing r with
  | nil => rw [arguments_of_finish h]
  | cons word rest ih =>
    rw [Reader.read] at h
    split at h
    · exact (length_arguments_of_readPlain h).trans (Nat.le_succ _)
    · split at h
      · cases h
      · exact (ih h).trans (Nat.le_succ _)
      · split at h
        · exact (ih h).trans (Nat.le_succ _)
        · split at h
          · rw [arguments_of_finish h]
          · obtain ⟨_, -, hrest⟩ := bind_eq_ok_iff.mp h
            exact (ih hrest).trans (Nat.le_succ _)

end Arguments

/-! ### The first word after the target -/

section FirstWord
variable {r : Reader} {word : String}

/-- A word without a meaning of its own is taken as an ordinary one. -/
theorem takeOption_of_not_hasMeaning (hr : r.named = true) (h : hasMeaning word = false) :
    r.takeOption (Word.ofString word) = .ok none := by
  rw [hasMeaning] at h
  cases hword : Word.ofString word with
  | plain => rfl
  | doubleDash => simp [hword] at h
  | short letters =>
    have hany : letters.any fun c => (shortInquiry? c).isNone := by
      simpa [hword] using h
    simp [takeOption, hr, hany]
  | long name value =>
    rw [hword] at h
    obtain ⟨hinquiry, hname⟩ := Bool.or_eq_false_iff.mp h
    have hinquiry : inquiry? name = none := by simpa using hinquiry
    have hfind : Opt.all.find? (·.name = name) = none := by simpa using hname
    simp [takeOption, hinquiry, hfind, hr]

/-- A word with a meaning of its own is used up or refused. -/
theorem takeOption_of_hasMeaning (h : hasMeaning word = true)
    (hdash : Word.ofString word ≠ .doubleDash) :
    r.takeOption (Word.ofString word) ≠ .ok none := by
  rw [hasMeaning] at h
  cases hword : Word.ofString word with
  | plain => simp [hword] at h
  | doubleDash => exact absurd hword hdash
  | short letters =>
    have hall : (letters.any fun c => (shortInquiry? c).isNone) = false := by
      simpa [hword, Option.isSome_iff_ne_none] using h
    simp [takeOption, hall]
  | long name value =>
    rw [hword] at h
    intro htake
    cases hinquiry : inquiry? name with
    | some inquiry =>
      cases value with
      | some v => simp [takeOption, hinquiry] at htake
      | none =>
        simp only [takeOption, hinquiry] at htake
        obtain ⟨_, -, hend⟩ := bind_eq_ok_iff.mp htake
        cases hend
    | none =>
      cases hfind : Opt.all.find? (·.name = name) with
      | none =>
        have hname : Opt.all.any (fun o => o.name = name) = true := by simpa [hinquiry] using h
        obtain ⟨o, ho, he⟩ := List.any_eq_true.mp hname
        exact absurd he (List.find?_eq_none.mp hfind o ho)
      | some o =>
        cases value with
        | none =>
          simp only [takeOption, hinquiry, hfind] at htake
          obtain ⟨_, -, hend⟩ := bind_eq_ok_iff.mp htake
          cases hend
        | some v =>
          simp only [takeOption, hinquiry, hfind] at htake
          obtain ⟨_, -, hset⟩ := bind_eq_ok_iff.mp htake
          obtain ⟨_, -, hend⟩ := bind_eq_ok_iff.mp hset
          cases hend

/-- A word with a meaning of its own is not handed on. -/
theorem read_ne_of_hasMeaning (h : hasMeaning word = true) {rest : List String} {i : Invocation}
    (hi : i.arguments = word :: rest) :
    r.read (word :: rest) ≠ .ok i := by
  intro hread
  -- had it been used up, less than all of the words would have been left to hand on
  have hshort : i.arguments.length ≤ rest.length := by
    by_cases hdash : Word.ofString word = .doubleDash
    · rw [Reader.read, if_pos hdash] at hread
      exact length_arguments_of_readPlain hread
    · have htake := takeOption_of_hasMeaning (r := r) h hdash
      rw [Reader.read, if_neg hdash] at hread
      cases hword : r.takeOption (Word.ofString word) with
      | error e => simp [hword] at hread
      | ok next =>
        cases next with
        | none => exact absurd hword htake
        | some r' =>
          simp only [hword] at hread
          exact length_arguments_of_read hread
  simp [hi] at hshort

end FirstWord

/-- After the target, words of which the first has no meaning of its own are handed on. -/
theorem read_arguments {d : Draft} {target : String} {rest : List String}
    (h : ∀ word ∈ rest.head?, hasMeaning word = false) :
    Reader.read ⟨d, .target target, true⟩ rest = Reader.finish ⟨d, .target target, true⟩ rest := by
  cases rest with
  | nil => rfl
  | cons word rest =>
    have hword : hasMeaning word = false := h word rfl
    have hdash : Word.ofString word ≠ .doubleDash := by
      intro he
      simp [hasMeaning, he] at hword
    rw [Reader.read, if_neg hdash, takeOption_of_not_hasMeaning rfl hword]
    rfl

theorem finish_described {settings : List Setting} {target : String} (hne : target ≠ "")
    (rest : List String) :
    Reader.finish ⟨draftOf settings, .target target, true⟩ rest =
      .ok (described settings target rest) := by
  have hpath : pathValue target = .ok (.ofString target) := by
    rw [pathValue, if_neg (by simpa using hne)]
  simp only [Reader.finish, Draft.settle, hpath]
  rfl

end Reader

/-- Whatever options a command line gives before its target, what follows the target is handed on as
it stands exactly if its first word has no meaning of its own. -/
theorem parse_eq_described_iff (settings : List Setting) (hfit : ∀ s ∈ settings, s.WellFormed)
    (hdistinct : (settings.map (·.option)).Nodup) (target : String) (hne : target ≠ "")
    (hplain : IsPlain target) (rest : List String) :
    parse (settings.flatMap Setting.words ++ target :: rest) =
        .ok (described settings target rest) ↔
      ∀ word ∈ rest.head?, hasMeaning word = false := by
  obtain ⟨r, hr, hread⟩ :=
    Reader.hasRead_start.read_settings settings hfit hdistinct (target :: rest)
  rw [parse, hread, hr.read_target hplain]
  constructor
  · intro hparse word hword
    cases rest with
    | nil => cases hword
    | cons first rest =>
      obtain rfl : first = word := Option.some.inj hword
      by_contra hmeaning
      exact Reader.read_ne_of_hasMeaning (by simpa using hmeaning) rfl hparse
  · intro h
    rw [Reader.read_arguments h, List.nil_append, Reader.finish_described hne]

/-- Once a word has been handed on, options, a double dash and a call for help are as well. -/
theorem parse_eq_described_hyphens :
    parse ["--log-dir", "out", "--timeout-secs=5", "app", "-x", "--analyzer", "y", "--", "--help"] =
      .ok (described [⟨.logDir, "out", false⟩, ⟨.timeoutSeconds, "5", true⟩] "app"
        ["-x", "--analyzer", "y", "--", "--help"]) :=
  (parse_eq_described_iff [⟨.logDir, "out", false⟩, ⟨.timeoutSeconds, "5", true⟩] (by decide)
    (by decide) "app" (by decide) (by decide) ["-x", "--analyzer", "y", "--", "--help"]).mpr
    (by decide)

/-- An option directly after the target is read as one, and nothing is handed on. -/
theorem parse_option_after_target :
    parse ["app", "--analyzer", "x"] = .ok (described [⟨.analyzer, "x", false⟩] "app" []) ∧
      parse ["app", "--analyzer", "x"] ≠ .ok (described [] "app" ["--analyzer", "x"]) := by
  decide

end DefectGate.Invocation
