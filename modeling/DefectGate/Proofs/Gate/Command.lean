import DefectGate.Proofs.Gate.Performing

/-! # The whole command

From the words of the command line to the exit status. A command line that can not be read ends with
one status and an analysis that was not clean with another; nothing but a clean one whose summary
was written, if it was asked for, ends with zero. A failure that nobody can be told of has a status
of its own. Settings that can not be loaded leave everything as it was.
-/
namespace DefectGate.Gate
open Host (Path)
open Program

variable {σ : Type}

/-- The command line asks for a text, and there is nothing to run. -/
def AsksForText (words : List String) : Prop :=
  Invocation.parse words = .error .help ∨ Invocation.parse words = .error .version

instance (words : List String) : Decidable (AsksForText words) :=
  inferInstanceAs (Decidable (_ ∨ _))

theorem stop_yields {stop : Invocation.Stop} {steps : List Step} {code : Int32}
    (hhelp : stop ≠ .help) (hversion : stop ≠ .version)
    (h : (Gate.stop stop).Yields steps code) :
    code = 2 ∧ ∃ text answer, steps = [⟨.complain text, answer⟩] := by
  have heq : Gate.stop stop = (complain s!"error: {stop.message}\n").bind fun _ => .done 2 := by
    cases stop with
    | help => exact absurd rfl hhelp
    | version => exact absurd rfl hversion
    | _ => rfl
  rw [heq] at h
  obtain ⟨first, _, rest, rfl, hcomplain, hdone⟩ := yields_bind_iff.mp h
  obtain ⟨rfl, rfl⟩ := yields_done_iff.mp hdone
  obtain ⟨answer, rfl⟩ := complain_yields hcomplain
  exact ⟨rfl, _, answer, rfl⟩

/-- Loading settings reads a file, if one is named, and does nothing else. -/
theorem settings_yields {i : Invocation} {steps : List Step}
    {r : Except Settings.LoadError Settings} (h : (settings i).run.Yields steps r) :
    ∀ step ∈ steps, ∃ path, step.call = .readFile path := by
  rw [settings] at h
  cases hconfig : i.config with
  | none =>
    rw [hconfig] at h
    rcases yields_seq_iff.mp h with ⟨e, -, hpure⟩ | ⟨first, s, rest, rfl, hpure, hdone⟩
    · obtain ⟨-, ⟨⟩⟩ := yields_pure_iff.mp hpure
    · obtain ⟨rfl, -⟩ := yields_pure_iff.mp hpure
      obtain ⟨rfl, -⟩ := yields_pure_iff.mp hdone
      simp
  | some path =>
    rw [hconfig] at h
    have hload {first : List Step} {r : Except Settings.LoadError Settings}
        (h : (Settings.load path).run.Yields first r) :
        ∀ step ∈ first, ∃ path, step.call = .readFile path := by
      rcases yields_seq_iff.mp h with ⟨e, -, hread⟩ | ⟨first, content, rest, rfl, hread, hdone⟩
      · obtain ⟨answer, -, hask⟩ := yields_adapt_iff.mp hread
        rw [yields_ask_iff.mp hask]
        simp
      · obtain ⟨answer, -, hask⟩ := yields_adapt_iff.mp hread
        obtain ⟨rfl, -⟩ := yields_done_iff.mp hdone
        rw [yields_ask_iff.mp hask]
        simp
    rcases yields_seq_iff.mp h with ⟨e, -, hfile⟩ | ⟨first, s, rest, rfl, hfile, hdone⟩
    · exact hload hfile
    · obtain ⟨rfl, -⟩ := yields_pure_iff.mp hdone
      rw [List.append_nil]
      exact hload hfile

/-- What a command line leads to: its exit status, its two streams and its files. -/
structure Accounts (h : Host σ) (s : σ) (words : List String) (steps : List Step) (code : Int32) :
    Prop where
  /-- Zero means a command line, settings, a clean run and a summary, and nothing else does. -/
  passes : code = 0 ↔
    ∃ i loaded s', Invocation.parse words = .ok i ∧
      (settings i).run.run h s = (.ok loaded, s') ∧ Scene.Passes ⟨h, i, analysis i loaded, s'⟩
  unread : code = 2 ↔ ∃ stop, Invocation.parse words = .error stop
  /-- The report of a failure was refused by the stream for diagnostics. -/
  unheard : code = untold ↔
    ∃ i loaded s', Invocation.parse words = .ok i ∧
      (settings i).run.run h s = (.ok loaded, s') ∧ Scene.Unheard ⟨h, i, analysis i loaded, s'⟩
  fails : code = 0 ∨ code = 1 ∨ code = 2 ∨ code = untold
  /-- Where that stream takes what it is offered, all other commands end with one. -/
  listened (hl : h.Listens) : code = 0 ∨ code = 1 ∨ code = 2
  /-- Settings that can not be loaded start no program, change no file and show nothing. -/
  unloaded (i : Invocation) (e : Settings.LoadError) (s' : σ) (hi : Invocation.parse words = .ok i)
    (hs : (settings i).run.run h s = (.error e, s')) :
    Console.shown steps = [] ∧
      ∀ step ∈ steps, step.call.startsProgram = false ∧ step.call.changesFiles = false
  loaded (i : Invocation) (loaded : Settings) (s' : σ) (hi : Invocation.parse words = .ok i)
    (hs : (settings i).run.run h s = (.ok loaded, s')) :
    Performs ⟨h, i, analysis i loaded, s'⟩ steps code

theorem not_complains_of_reading {before : List Step}
    (hbefore : ∀ step ∈ before, ∃ path, step.call = .readFile path) :
    ∀ step ∈ before, ∀ text, step.call ≠ .complain text := by
  intro step hstep text he
  obtain ⟨path, hcall⟩ := hbefore step hstep
  rw [hcall] at he
  cases he

theorem Performs.of_append {x : Scene σ} {before steps : List Step} {code : Int32}
    (h : Performs x steps code) (hbefore : ∀ step ∈ before, ∃ path, step.call = .readFile path) :
    Performs x (before ++ steps) code where
  passes := h.passes
  unheard := h.unheard
  fails := h.fails
  shown := by
    have hshown : Console.shown before = [] := Console.shown_eq_nil fun step hstep => by
      obtain ⟨path, hcall⟩ := hbefore step hstep
      rw [hcall]
      rfl
    rw [Console.shown_append, hshown, List.nil_append, h.shown]
  kept := h.kept
  offered hheard := by
    have hsilent : Console.complaints before = [] :=
      Console.complaints_eq_nil (not_complains_of_reading hbefore)
    rw [Console.complaints_append, hsilent, List.nil_append, h.offered hheard]
  heard hl := by
    have hsilent : Console.heard before = [] :=
      Console.heard_eq_nil (not_complains_of_reading hbefore)
    rw [Console.heard_append, hsilent, List.nil_append, h.heard hl]
  summary path hpath hheard := by
    obtain ⟨hcreate, front, back, rfl, hback⟩ := h.summary path hpath hheard
    exact ⟨hcreate, before ++ front, back, by simp only [List.append_assoc], hback⟩
  written path hpath hheard := by
    have hunchanged : Slot.unknown.after path before = .unknown :=
      Slot.after_of_unchanged fun step hstep => by
        obtain ⟨_, hcall⟩ := hbefore step hstep
        rw [hcall]
        rfl
    have hstored : stored path (before ++ steps) = stored path steps := by
      rw [stored, Slot.after_append, hunchanged, stored]
    rw [hstored]
    exact h.written path hpath hheard
  cut hunheard := by
    obtain ⟨front, f, e, hresult, rfl⟩ := h.cut hunheard
    exact ⟨before ++ front, f, e, hresult, by rw [List.append_assoc]⟩

section Cases
variable {h : Host σ} {s : σ} {words : List String}

/-- A command line leads to settings in one way only. -/
theorem exists_loaded_iff {i : Invocation} {loaded : Settings} {s' : σ}
    {P : Invocation → Settings → σ → Prop} (hparse : Invocation.parse words = .ok i)
    (hsettings : (settings i).run.run h s = (.ok loaded, s')) :
    (∃ i loaded s', Invocation.parse words = .ok i ∧
      (settings i).run.run h s = (.ok loaded, s') ∧ P i loaded s') ↔ P i loaded s' := by
  constructor
  · rintro ⟨i', loaded', s'', hi, hs, hP⟩
    obtain rfl := Except.ok.inj (hparse.symm.trans hi)
    obtain ⟨⟨⟩, rfl⟩ := Prod.mk.inj (hsettings.symm.trans hs)
    exact hP
  · exact fun hP => ⟨i, loaded, s', hparse, hsettings, hP⟩

theorem not_exists_loaded {i : Invocation} {e : Settings.LoadError} {s' : σ}
    {P : Invocation → Settings → σ → Prop} (hparse : Invocation.parse words = .ok i)
    (hsettings : (settings i).run.run h s = (.error e, s')) :
    ¬ ∃ i loaded s', Invocation.parse words = .ok i ∧
      (settings i).run.run h s = (.ok loaded, s') ∧ P i loaded s' := by
  rintro ⟨i', loaded, s'', hi, hs, -⟩
  obtain rfl := Except.ok.inj (hparse.symm.trans hi)
  rw [hsettings] at hs
  cases hs

theorem accounts_of_unread {stop : Invocation.Stop} (hparse : Invocation.parse words = .error stop)
    (steps : List Step) : Accounts h s words steps 2 where
  passes := by simp [hparse]
  unread := by simp [hparse]
  unheard := by simp [hparse, untold]
  fails := .inr (.inr (.inl rfl))
  listened _ := .inr (.inr rfl)
  unloaded i e s' hi := by simp [hparse] at hi
  loaded i loaded s' hi := by simp [hparse] at hi

theorem accounts_of_unloaded {i : Invocation} {e : Settings.LoadError} {s' : σ}
    {reading : List Step} {text : String} {answer : Call.Answer (.complain text)}
    (hparse : Invocation.parse words = .ok i)
    (hsettings : (settings i).run.run h s = (.error e, s'))
    (hreading : ∀ step ∈ reading, ∃ path, step.call = .readFile path) :
    Accounts h s words (reading ++ [⟨.complain text, answer⟩]) 1 where
  passes := iff_of_false (by decide) (not_exists_loaded hparse hsettings)
  unread := by simp [hparse]
  unheard := iff_of_false (by decide) (not_exists_loaded hparse hsettings)
  fails := .inr (.inl rfl)
  listened _ := .inr (.inl rfl)
  unloaded i' e' s'' hi hs := by
    have hquiet : ∀ step ∈ reading ++ [⟨.complain text, answer⟩], step.call.isShown = false ∧
        step.call.startsProgram = false ∧ step.call.changesFiles = false := by
      refine List.forall_mem_append.mpr ⟨fun step hstep => ?_, ?_⟩
      · obtain ⟨path, hcall⟩ := hreading step hstep
        rw [hcall]
        exact ⟨rfl, rfl, rfl⟩
      · simp [Call.isShown, Call.startsProgram, Call.changesFiles]
    exact ⟨Console.shown_eq_nil fun step hstep => (hquiet step hstep).1,
      fun step hstep => (hquiet step hstep).2⟩
  loaded i' loaded s'' hi hs := by
    obtain rfl := Except.ok.inj (hparse.symm.trans hi)
    rw [hsettings] at hs
    cases hs

theorem accounts_of_loaded {i : Invocation} {loaded : Settings} {s' : σ} {steps : List Step}
    {code : Int32} (hparse : Invocation.parse words = .ok i)
    (hsettings : (settings i).run.run h s = (.ok loaded, s'))
    (hperforms : Performs ⟨h, i, analysis i loaded, s'⟩ steps code) :
    Accounts h s words steps code where
  passes := by
    rw [exists_loaded_iff hparse hsettings]
    exact hperforms.passes
  unread := by
    rcases hperforms.fails with rfl | rfl | rfl <;> simp [hparse, untold]
  unheard := by
    rw [exists_loaded_iff hparse hsettings]
    exact hperforms.unheard
  fails := hperforms.fails.imp_right (Or.imp_right .inr)
  listened hl := by
    rcases hperforms.fails with hcode | hcode | hcode
    · exact .inl hcode
    · exact .inr (.inl hcode)
    · exact absurd (hperforms.unheard.mp hcode) (not_unheard hl)
  unloaded i' e s'' hi hs := by
    obtain rfl := Except.ok.inj (hparse.symm.trans hi)
    rw [hsettings] at hs
    cases hs
  loaded i' loaded' s'' hi hs := by
    obtain rfl := Except.ok.inj (hparse.symm.trans hi)
    obtain ⟨⟨⟩, rfl⟩ := Prod.mk.inj (hsettings.symm.trans hs)
    exact hperforms

end Cases

/-- What a host may report of an analyzer that finds nothing. -/
def cleanEvents : List Capture.Event :=
  [.wrote (Text.Utf8.encode "ERROR SUMMARY: 0 errors\n"), .exited, .closed, .read 100, .read 1,
    .polled, .polled]

end DefectGate.Gate
