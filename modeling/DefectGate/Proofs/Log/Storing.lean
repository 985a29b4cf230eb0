import DefectGate.Proofs.Console.Shown
import DefectGate.Proofs.Log.Replacing

/-! # What a log holds

The calls of a run say what is in a file that was opened in it. A log that was stored holds its
transcript and nothing else before any line of it is shown; of a log that could not be stored
nothing is known.
-/
namespace DefectGate
open Host (Path)
open Program

/-- Whether a call changes what is on disk. -/
def Call.changesFiles : Call → Bool
  | .makeDirectory _ | .unlink _ | .create _ | .write _ _ | .flush _ => true
  | _ => false

/-- A file at one path as far as the calls of a run tell. -/
structure Slot where
  /-- The handle through which it is written. -/
  file : Option Host.Handle
  /-- Written and not yet flushed. -/
  pending : Bytes
  /-- What the file is known to hold. -/
  stored : Option Bytes
  deriving DecidableEq, Repr

namespace Slot

def unknown : Slot := ⟨none, [], none⟩

def step (path : Path) (slot : Slot) : Step → Slot
  | ⟨.unlink p, .ok ()⟩ => if p = path then unknown else slot
  | ⟨.create p, .ok file⟩ => if p = path then ⟨some file, [], some []⟩ else slot
  | ⟨.create p, .error _⟩ => if p = path then unknown else slot
  | ⟨.write file bytes, .ok ()⟩ =>
    if slot.file = some file then { slot with pending := slot.pending ++ bytes } else slot
  | ⟨.write file _, .error _⟩ | ⟨.flush file, .error _⟩ =>
    if slot.file = some file then { slot with stored := none } else slot
  | ⟨.flush file, .ok ()⟩ =>
    if slot.file = some file then
      { slot with pending := [], stored := slot.stored.map (· ++ slot.pending) }
    else slot
  | _ => slot

/-- The file after a run. -/
def after (path : Path) (slot : Slot) (steps : List Step) : Slot := steps.foldl (step path) slot

variable {path : Path} {slot : Slot} {steps : List Step}

@[simp] theorem after_nil : after path slot [] = slot := rfl

@[simp] theorem after_cons (s : Step) :
    after path slot (s :: steps) = after path (slot.step path s) steps := rfl

@[simp] theorem after_append (rest : List Step) :
    after path slot (steps ++ rest) = after path (after path slot steps) rest :=
  List.foldl_append

theorem after_of_step_eq (h : ∀ s ∈ steps, slot.step path s = slot) :
    after path slot steps = slot := by
  induction steps with
  | nil => rfl
  | cons s steps ih =>
    obtain ⟨hs, hsteps⟩ := List.forall_mem_cons.mp h
    rw [after_cons, hs, ih hsteps]

theorem after_of_unchanged (h : ∀ s ∈ steps, s.call.changesFiles = false) :
    after path slot steps = slot := by
  refine after_of_step_eq fun s hs => ?_
  obtain ⟨c, answer⟩ := s
  have hc : c.changesFiles = false := h _ hs
  cases c <;> first | rfl | simp [Call.changesFiles] at hc

theorem after_of_prepares (h : ∀ s ∈ steps, Log.Prepares s) : after path slot steps = slot := by
  refine after_of_step_eq fun s hs => ?_
  obtain ⟨c, answer⟩ := s
  obtain ⟨p, rfl : c = _⟩ | ⟨p, rfl : c = _⟩ := h _ hs <;> rfl

theorem after_opens {file : Host.Handle} (h : Log.Opens path file steps) :
    after path slot steps = ⟨some file, [], some []⟩ := by
  cases h with
  | intro hbefore hold =>
    rw [after_append, after_of_prepares hbefore.prepares, after_cons, after_cons, after_nil]
    exact if_pos rfl

theorem after_written {file : Host.Handle} (held : Bytes) (content : Option Bytes)
    (lines : List String) :
    after path ⟨some file, held, content⟩ (Log.written file lines) =
      ⟨some file, held ++ lines.flatMap Transcript.lineBytes, content⟩ := by
  induction lines generalizing held with
  | nil => simp [Log.written]
  | cons line lines ih =>
    have hstep : step path ⟨some file, held, content⟩
        ⟨.write file (Transcript.lineBytes line), .ok ()⟩ =
          ⟨some file, held ++ Transcript.lineBytes line, content⟩ := if_pos rfl
    change after path (step path _ ⟨.write file _, .ok ()⟩) (Log.written file lines) = _
    rw [hstep, ih, List.flatMap_cons, List.append_assoc]

/-- A file that was replaced holds exactly the lines. -/
theorem after_replaces {lines : List String} (h : Log.Replaces path lines steps (.ok ())) :
    ∃ file, after path slot steps =
      ⟨some file, [], some (lines.flatMap Transcript.lineBytes)⟩ := by
  cases h with
  | @complete file front hfront =>
    refine ⟨file, ?_⟩
    rw [after_append, after_opens hfront, after_append, after_written, after_cons, after_nil]
    exact if_pos rfl

/-- Nothing is known of a file that was not replaced completely. -/
theorem stored_after_replaces {lines : List String} {e : Host.Error} (hslot : slot.stored = none)
    (h : Log.Replaces path lines steps (.error e)) : (after path slot steps).stored = none := by
  cases h with
  | unprepared hparent hbefore => rwa [after_of_prepares (Log.makeChain_prepares hbefore)]
  | uncleared hbefore he =>
    rw [after_append, after_of_prepares hbefore.prepares]
    exact hslot
  | uncreated hbefore hold =>
    rw [after_append, after_of_prepares hbefore.prepares, after_cons, after_cons, after_nil]
    exact congrArg Slot.stored (if_pos rfl)
  | unwritten hfront hlines =>
    rw [after_append, after_opens hfront, after_append, after_written, after_cons, after_nil]
    exact congrArg Slot.stored (if_pos rfl)
  | unflushed hfront =>
    rw [after_append, after_opens hfront, after_append, after_written, after_cons, after_nil]
    exact congrArg Slot.stored (if_pos rfl)

end Slot

/-- What a run is known to leave in a file that it opens. -/
def stored (path : Path) (steps : List Step) : Option Bytes :=
  (Slot.unknown.after path steps).stored

namespace Log

/-- A step that belongs to the replacing of a file. -/
def Files (step : Step) : Prop := step.call.changesFiles ∨ ∃ path, step.call = .stat path

theorem Files.isShown_eq {step : Step} (h : Files step) : step.call.isShown = false := by
  rcases h with h | ⟨path, h⟩
  · obtain ⟨c, answer⟩ := step
    cases c <;> first | rfl | cases h
  · rw [h]
    rfl

theorem Prepares.files {step : Step} (h : Prepares step) : Files step := by
  rcases h with ⟨path, h⟩ | ⟨path, h⟩
  · exact .inl (by rw [h]; rfl)
  · exact .inr ⟨path, h⟩

theorem Clears.files {path : Path} {step : Step} (h : Clears path step) : Files step := by
  rcases h with rfl | ⟨e, -, rfl⟩ <;> exact .inl rfl

theorem Opens.files {path : Path} {file : Host.Handle} {steps : List Step}
    (h : Opens path file steps) : ∀ step ∈ steps, Files step := by
  obtain ⟨hbefore, hold⟩ := h
  refine List.forall_mem_append.mpr ⟨fun step hstep => (hbefore.prepares step hstep).files, ?_⟩
  simpa using ⟨hold.files, Or.inl rfl⟩

theorem files_of_mem_written {file : Host.Handle} {lines : List String} :
    ∀ step ∈ written file lines, Files step := by
  intro step hstep
  obtain ⟨line, -, rfl⟩ := List.mem_map.mp hstep
  exact .inl rfl

theorem Replaces.files {path : Path} {lines : List String} {steps : List Step}
    {r : Except Host.Error Unit} (h : Replaces path lines steps r) :
    ∀ step ∈ steps, Files step := by
  cases h with
  | unprepared hparent hbefore =>
    exact fun step hstep => (makeChain_prepares hbefore step hstep).files
  | uncleared hbefore he =>
    refine List.forall_mem_append.mpr ⟨fun step hstep => (hbefore.prepares step hstep).files, ?_⟩
    simpa using .inl rfl
  | uncreated hbefore hold =>
    refine List.forall_mem_append.mpr ⟨fun step hstep => (hbefore.prepares step hstep).files, ?_⟩
    simpa using ⟨hold.files, Or.inl rfl⟩
  | unwritten hfront hlines =>
    refine List.forall_mem_append.mpr ⟨hfront.files, List.forall_mem_append.mpr
      ⟨files_of_mem_written, ?_⟩⟩
    simpa using .inl rfl
  | unflushed hfront =>
    refine List.forall_mem_append.mpr ⟨hfront.files, List.forall_mem_append.mpr
      ⟨files_of_mem_written, ?_⟩⟩
    simpa using .inl rfl
  | complete hfront =>
    refine List.forall_mem_append.mpr ⟨hfront.files, List.forall_mem_append.mpr
      ⟨files_of_mem_written, ?_⟩⟩
    simpa using .inl rfl

/-- The steps that keep a transcript and show it, and how they end. -/
inductive Keeps (t : Transcript) (path : Path) : List Step → Except Failure LogFile → Prop where
  | failed {steps : List Step} {e : Host.Error} (h : Replaces path t.lines steps (.error e)) :
      Keeps t path steps (.error (.logUnwritable path e))
  | kept {steps shown : List Step} (h : Replaces path t.lines steps (.ok ()))
      (hshown : Console.Shows t.logBytes shown) :
      Keeps t path (steps ++ shown) (.ok ⟨path, t.length⟩)

/-- Either the file could not be replaced, or it was, and what follows is the showing alone. -/
theorem store_yields {t : Transcript} {path : Path} {steps : List Step}
    {r : Except Failure LogFile} (h : (store t path).run.Yields steps r) :
    (∃ e, r = .error (.logUnwritable path e) ∧ Replaces path t.lines steps (.error e)) ∨
      ∃ first rest, steps = first ++ rest ∧ r = .ok ⟨path, t.length⟩ ∧
        Replaces path t.lines first (.ok ()) ∧ (Console.echo t.lines).Yields rest () := by
  rcases yields_seq_iff.mp h with ⟨f, rfl, hadapt⟩ | ⟨first, _, rest, rfl, hadapt, hrest⟩
  · rcases yields_adapt_iff.mp hadapt with ⟨e | _, ⟨⟩, hreplace⟩
    exact .inl ⟨e, rfl, replace_replaces hreplace⟩
  rcases yields_adapt_iff.mp hadapt with ⟨_ | _, ⟨⟩, hreplace⟩
  rcases yields_seq_iff.mp hrest with ⟨f, -, hlift⟩ | ⟨shown, _, rest, rfl, hlift, hdone⟩
  · obtain ⟨_, ⟨⟩, -⟩ := yields_lift_iff.mp hlift
  obtain ⟨_, -, hecho⟩ := yields_lift_iff.mp hlift
  obtain ⟨rfl, rfl⟩ := yields_pure_iff.mp hdone
  rw [List.append_nil]
  exact .inr ⟨first, shown, rfl, rfl, replace_replaces hreplace, hecho⟩

theorem store_keeps {t : Transcript} {path : Path} {steps : List Step}
    {r : Except Failure LogFile} (h : (store t path).run.Yields steps r) :
    Keeps t path steps r := by
  rcases store_yields h with ⟨e, rfl, hreplaces⟩ | ⟨first, rest, rfl, rfl, hreplaces, hecho⟩
  · exact .failed hreplaces
  · exact .kept hreplaces (Console.echo_shows hecho)

variable {t : Transcript} {path : Path} {steps : List Step}

theorem Keeps.files_or_prints {r : Except Failure LogFile} (h : Keeps t path steps r) :
    ∀ step ∈ steps, Files step ∨ ∃ bytes, step.call = .print bytes := by
  cases h with
  | failed h => exact fun step hstep => .inl (h.files step hstep)
  | kept h hshown =>
    exact List.forall_mem_append.mpr
      ⟨fun step hstep => .inl (h.files step hstep),
        fun step hstep => .inr (hshown.printing step hstep)⟩

/-- The calls that keep a log are to files, directories and the console. -/
theorem Keeps.call_ne {r : Except Failure LogFile} (h : Keeps t path steps r) {c : Call}
    (hchanges : c.changesFiles = false) (hstat : ∀ path, c ≠ .stat path)
    (hprint : ∀ bytes, c ≠ .print bytes) : ∀ step ∈ steps, step.call ≠ c := by
  rintro step hstep rfl
  rcases h.files_or_prints step hstep with (hfiles | ⟨path, hfiles⟩) | ⟨bytes, hprints⟩
  · rw [hchanges] at hfiles
    cases hfiles
  · exact hstat path hfiles
  · exact hprint bytes hprints

theorem Keeps.stored_of_ok {log : LogFile} (h : Keeps t path steps (.ok log)) :
    stored path steps = some t.logBytes ∧ log = ⟨path, t.length⟩ := by
  cases h with
  | @kept steps shown h hshown =>
    obtain ⟨file, hafter⟩ : ∃ file, Slot.unknown.after path steps = ⟨some file, [], _⟩ :=
      Slot.after_replaces h
    have hunchanged : ∀ step ∈ shown, step.call.changesFiles = false := by
      intro step hstep
      obtain ⟨bytes, hcall⟩ := hshown.printing step hstep
      rw [hcall]
      rfl
    rw [stored, Slot.after_append, hafter, Slot.after_of_unchanged hunchanged]
    exact ⟨rfl, rfl⟩

theorem Keeps.stored_of_error {f : Failure} (h : Keeps t path steps (.error f)) :
    stored path steps = none := by
  cases h with
  | failed h => exact Slot.stored_after_replaces rfl h

/-- A console that never refuses shows a log that was kept, and nothing of one that was not. -/
theorem Keeps.shown_eq {r : Except Failure LogFile} (h : Keeps t path steps r)
    (haccepted : ∀ step ∈ steps, step.Accepted) :
    Console.shown steps = (stored path steps).getD [] := by
  cases h with
  | failed h =>
    rw [(Keeps.failed h).stored_of_error]
    exact Console.shown_eq_nil fun step hstep => (h.files step hstep).isShown_eq
  | kept h hshown =>
    rw [(Keeps.kept h hshown).stored_of_ok.1, Console.shown_append,
      Console.shown_eq_nil fun step hstep => (h.files step hstep).isShown_eq]
    exact hshown.whole fun step hstep => haccepted step (List.mem_append_right _ hstep)

end Log
end DefectGate
