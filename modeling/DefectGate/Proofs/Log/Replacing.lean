import DefectGate.Log
import DefectGate.Proofs.Program.Yields

/-! # The calls that replace a file

Directories first, then the old file, then an empty one, then the lines in order, then what is still
held back. Each call may fail; the first failure that is not made up for ends everything, and no
call comes out of its turn.
-/
namespace DefectGate.Log
open Host (Path)
open Program

/-- A step that looks for a directory or makes one. -/
def Prepares (step : Step) : Prop :=
  (∃ path, step.call = .makeDirectory path) ∨ ∃ path, step.call = .stat path

/-- A step that looks for one of the paths or makes a directory there. -/
def PreparesAmong (paths : List Path) (step : Step) : Prop :=
  ∃ path ∈ paths, step.call = .makeDirectory path ∨ step.call = .stat path

theorem PreparesAmong.prepares {paths : List Path} {step : Step} (h : PreparesAmong paths step) :
    Prepares step := by
  obtain ⟨path, -, h⟩ := h
  exact h.imp (⟨path, ·⟩) (⟨path, ·⟩)

section Chain
variable {path : Path} {paths : List Path} {steps : List Step}

theorem preparesAmong_of_ask {r : Except Host.Error Unit} (hpath : path ∈ paths)
    (h : (Call.makeDirectory path).ask.run.Yields steps r) :
    ∀ step ∈ steps, PreparesAmong paths step := by
  rw [yields_ask_iff.mp h]
  rintro step (_ | ⟨_, ⟨⟩⟩)
  exact ⟨path, hpath, .inl rfl⟩

theorem isDirectory_preparesAmong {b : Bool} (hpath : path ∈ paths)
    (h : (isDirectory path).Yields steps b) : ∀ step ∈ steps, PreparesAmong paths step := by
  obtain ⟨first, kind, rest, rfl, hask, hrest⟩ := yields_bind_iff.mp h
  have hrest : rest = [] := by
    cases kind <;> exact (yields_done_iff.mp hrest).1
  rw [hrest, List.append_nil, yields_ask_iff.mp hask]
  rintro step (_ | ⟨_, ⟨⟩⟩)
  exact ⟨path, hpath, .inr rfl⟩

theorem accept_preparesAmong {e : Host.Error} {r : Except Host.Error Unit} (hpath : path ∈ paths)
    (h : (accept path e).run.Yields steps r) : ∀ step ∈ steps, PreparesAmong paths step := by
  rcases yields_seq_iff.mp h with ⟨_, -, hlift⟩ | ⟨first, there, rest, rfl, hlift, hrest⟩
  · obtain ⟨_, ⟨⟩, -⟩ := yields_lift_iff.mp hlift
  · obtain ⟨_, -, hfirst⟩ := yields_lift_iff.mp hlift
    have hrest : rest = [] := by
      cases there <;> exact (yields_done_iff.mp hrest).1
    rw [hrest, List.append_nil]
    exact isDirectory_preparesAmong hpath hfirst

/-- Nothing is done but to look for the paths of the chain and to make directories there. -/
theorem makeChain_preparesAmong {r : Except Host.Error Unit}
    (h : (makeChain paths).run.Yields steps r) : ∀ step ∈ steps, PreparesAmong paths step := by
  induction paths generalizing steps r with
  | nil =>
    obtain ⟨rfl, -⟩ := yields_throw_iff.mp h
    simp
  | cons path parents ih =>
    have hself : path ∈ path :: parents := List.mem_cons_self ..
    rw [makeChain] at h
    split at h
    · obtain ⟨rfl, -⟩ := yields_pure_iff.mp h
      simp
    · rcases yields_catch_iff.mp h with ⟨_, -, hask⟩ | ⟨first, e, rest, rfl, hask, hrest⟩
      · exact preparesAmong_of_ask hself hask
      · refine List.forall_mem_append.mpr ⟨preparesAmong_of_ask hself hask, ?_⟩
        split at hrest
        · have hup {steps : List Step} {r : Except Host.Error Unit}
              (h : (makeChain parents).run.Yields steps r) :
              ∀ step ∈ steps, PreparesAmong (path :: parents) step := by
            intro step hstep
            obtain ⟨q, hq, hcall⟩ := ih h step hstep
            exact ⟨q, List.mem_cons_of_mem _ hq, hcall⟩
          rcases yields_seq_iff.mp hrest with ⟨_, -, habove⟩ | ⟨up, _, again, rfl, habove, hagain⟩
          · exact hup habove
          · refine List.forall_mem_append.mpr ⟨hup habove, ?_⟩
            rcases yields_catch_iff.mp hagain with
              ⟨_, -, hask⟩ | ⟨second, e', there, rfl, hask, hthere⟩
            · exact preparesAmong_of_ask hself hask
            · exact List.forall_mem_append.mpr
                ⟨preparesAmong_of_ask hself hask, accept_preparesAmong hself hthere⟩
        · exact accept_preparesAmong hself hrest

theorem makeChain_prepares {r : Except Host.Error Unit} (h : (makeChain paths).run.Yields steps r) :
    ∀ step ∈ steps, Prepares step :=
  fun step hstep => (makeChain_preparesAmong h step hstep).prepares

end Chain

/-- The steps that make the directory of a file, if that could be done. -/
def Prepared (path : Path) (steps : List Step) : Prop :=
  match path.parent? with
  | none => steps = []
  | some directory => (makeDirectories directory).run.Yields steps (.ok ())

theorem Prepared.prepares {path : Path} {steps : List Step} (h : Prepared path steps) :
    ∀ step ∈ steps, Prepares step := by
  unfold Prepared at h
  split at h
  · simp [h]
  · exact makeChain_prepares h

/-- What is left of an old file: it was removed, or there was none. -/
def Clears (path : Path) (step : Step) : Prop :=
  step = ⟨.unlink path, .ok ()⟩ ∨ ∃ e, e.isNotFound ∧ step = ⟨.unlink path, .error e⟩

theorem clear_eq (path : Path) :
    clear path =
      tryCatch (Call.unlink path).ask fun e => if e.isNotFound then pure () else throw e := by
  change Program.call (.unlink path) _ = Program.call (.unlink path) _
  congr 1
  funext answer
  cases answer with
  | ok _ => rfl
  | error e =>
    change Program.bind (if e.isNotFound = true then _ else _) _ =
      if e.isNotFound = true then _ else _
    by_cases he : e.isNotFound = true
    · rw [if_pos he, if_pos he]
      rfl
    · rw [if_neg he, if_neg he]
      rfl

theorem clear_yields {path : Path} {steps : List Step} {r : Except Host.Error Unit}
    (h : (clear path).run.Yields steps r) :
    (∃ step, steps = [step] ∧ Clears path step ∧ r = .ok ()) ∨
      ∃ e, ¬ e.isNotFound ∧ steps = [⟨.unlink path, .error e⟩] ∧ r = .error e := by
  rw [clear_eq] at h
  rcases yields_catch_iff.mp h with ⟨_, rfl, hask⟩ | ⟨first, e, rest, rfl, hask, hrest⟩
  · exact .inl ⟨_, yields_ask_iff.mp hask, .inl rfl, rfl⟩
  · obtain rfl := yields_ask_iff.mp hask
    by_cases he : e.isNotFound = true
    · rw [if_pos he] at hrest
      obtain ⟨rfl, rfl⟩ := yields_pure_iff.mp hrest
      exact .inl ⟨_, rfl, .inr ⟨e, he, rfl⟩, rfl⟩
    · rw [if_neg he] at hrest
      obtain ⟨rfl, rfl⟩ := yields_throw_iff.mp hrest
      exact .inr ⟨e, he, rfl, rfl⟩

/-- Lines that were written to an open file. -/
def written (file : Host.Handle) (lines : List String) : List Step :=
  lines.map fun line => ⟨.write file (Transcript.lineBytes line), .ok ()⟩

theorem writeLines_yields {file : Host.Handle} {lines : List String} {steps : List Step}
    {r : Except Host.Error Unit} (h : (writeLines file lines).run.Yields steps r) :
    (steps = written file lines ∧ r = .ok ()) ∨
      ∃ done line rest e, lines = done ++ line :: rest ∧ r = .error e ∧
        steps = written file done ++ [⟨.write file (Transcript.lineBytes line), .error e⟩] := by
  induction lines generalizing steps with
  | nil => exact .inl (yields_pure_iff.mp h)
  | cons line lines ih =>
    rcases yields_seq_iff.mp h with ⟨e, rfl, hask⟩ | ⟨first, _, later, rfl, hask, hrest⟩
    · exact .inr ⟨[], line, lines, e, rfl, rfl, yields_ask_iff.mp hask⟩
    · obtain rfl := yields_ask_iff.mp hask
      rcases ih hrest with ⟨rfl, rfl⟩ | ⟨done, line', rest, e, rfl, rfl, rfl⟩
      · exact .inl ⟨rfl, rfl⟩
      · exact .inr ⟨line :: done, line', rest, e, rfl, rfl, rfl⟩

/-- The steps up to an empty file in the place of whatever was there. -/
inductive Opens (path : Path) (file : Host.Handle) : List Step → Prop where
  | intro {before : List Step} {old : Step} (hbefore : Prepared path before)
      (hold : Clears path old) : Opens path file (before ++ [old, ⟨.create path, .ok file⟩])

/-- The steps that replace a file by one with the given lines, and how they end. -/
inductive Replaces (path : Path) (lines : List String) :
    List Step → Except Host.Error Unit → Prop where
  | unprepared {directory : Path} {before : List Step} {e : Host.Error}
      (hparent : path.parent? = some directory)
      (hbefore : (makeDirectories directory).run.Yields before (.error e)) :
      Replaces path lines before (.error e)
  | uncleared {before : List Step} {e : Host.Error} (hbefore : Prepared path before)
      (he : ¬ e.isNotFound) :
      Replaces path lines (before ++ [⟨.unlink path, .error e⟩]) (.error e)
  | uncreated {before : List Step} {old : Step} {e : Host.Error} (hbefore : Prepared path before)
      (hold : Clears path old) :
      Replaces path lines (before ++ [old, ⟨.create path, .error e⟩]) (.error e)
  | unwritten {file : Host.Handle} {front : List Step} {done : List String} {line : String}
      {rest : List String} {e : Host.Error} (hfront : Opens path file front)
      (hlines : lines = done ++ line :: rest) :
      Replaces path lines
        (front ++ (written file done ++ [⟨.write file (Transcript.lineBytes line), .error e⟩]))
        (.error e)
  | unflushed {file : Host.Handle} {front : List Step} {e : Host.Error}
      (hfront : Opens path file front) :
      Replaces path lines (front ++ (written file lines ++ [⟨.flush file, .error e⟩])) (.error e)
  | complete {file : Host.Handle} {front : List Step} (hfront : Opens path file front) :
      Replaces path lines (front ++ (written file lines ++ [⟨.flush file, .ok ()⟩])) (.ok ())

/-- Everything after the directories. -/
def replaceIn (path : Path) (lines : List String) : Attempt Unit := do
  clear path
  let file ← (Call.create path).ask
  writeLines file lines
  (Call.flush file).ask

theorem replaceIn_replaces {path : Path} {lines : List String} {before steps : List Step}
    {r : Except Host.Error Unit} (hbefore : Prepared path before)
    (h : (replaceIn path lines).run.Yields steps r) :
    Replaces path lines (before ++ steps) r := by
  rcases yields_seq_iff.mp h with ⟨e, rfl, hclear⟩ | ⟨first, _, rest, rfl, hclear, hopen⟩
  · rcases clear_yields hclear with ⟨_, -, -, ⟨⟩⟩ | ⟨e', he, rfl, ⟨⟩⟩
    exact .uncleared hbefore he
  rcases clear_yields hclear with ⟨old, rfl, hold, -⟩ | ⟨_, -, -, ⟨⟩⟩
  rcases yields_seq_iff.mp hopen with ⟨e, rfl, hcreate⟩ | ⟨second, file, rest, rfl, hcreate, hfill⟩
  · obtain rfl := yields_ask_iff.mp hcreate
    exact .uncreated hbefore hold
  obtain rfl := yields_ask_iff.mp hcreate
  have hfront : Opens path file (before ++ [old, ⟨.create path, .ok file⟩]) := .intro hbefore hold
  have happend (later : List Step) :
      before ++ ([old] ++ ([⟨.create path, .ok file⟩] ++ later)) =
        before ++ [old, ⟨.create path, .ok file⟩] ++ later := by simp
  rw [happend]
  rcases yields_seq_iff.mp hfill with ⟨e, rfl, hwrite⟩ | ⟨third, _, last, rfl, hwrite, hflush⟩
  · rcases writeLines_yields hwrite with ⟨-, ⟨⟩⟩ | ⟨done, line, rest, e', hlines, ⟨⟩, rfl⟩
    exact .unwritten hfront hlines
  rcases writeLines_yields hwrite with ⟨rfl, -⟩ | ⟨_, _, _, _, -, ⟨⟩, -⟩
  obtain rfl := yields_ask_iff.mp hflush
  cases r with
  | error e => exact .unflushed hfront
  | ok _ => exact .complete hfront

theorem replace_replaces {path : Path} {lines : List String} {steps : List Step}
    {r : Except Host.Error Unit} (h : (replace path lines).run.Yields steps r) :
    Replaces path lines steps r := by
  rw [replace] at h
  cases hparent : path.parent? with
  | none =>
    rw [hparent] at h
    have hprepared : Prepared path [] := by simp [Prepared, hparent]
    exact replaceIn_replaces hprepared h
  | some directory =>
    rw [hparent] at h
    rcases yields_seq_iff.mp h with ⟨e, rfl, hbefore⟩ | ⟨before, _, rest, rfl, hbefore, hrest⟩
    · exact .unprepared hparent hbefore
    · exact replaceIn_replaces (by simpa [Prepared, hparent] using hbefore) hrest

end DefectGate.Log
