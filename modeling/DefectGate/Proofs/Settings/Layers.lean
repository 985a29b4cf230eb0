import DefectGate.Gate
import DefectGate.Proofs.Program.Success
import DefectGate.Proofs.Settings.Decoding
import DefectGate.Proofs.Text.Boundaries
import DefectGate.Proofs.Toml.Writing

/-! # Command line over document over defaults

Three keys of a document can also be given on the command line. Giving them there is the same as
setting them in the document, and leaves all the other fields as the document and the defaults have
them. No document at all is the same as an empty one.
-/
namespace DefectGate
open Host (Path)
open Toml (Document Entries Ranged)

/-- A number of seconds that a document can hold. -/
abbrev Seconds := { n : UInt64 // n.toNat < 2 ^ 63 }

/-- What a command line says about the settings. -/
structure Flags where
  analyzer : Option String
  logDir : Option String
  seconds : Option Seconds

/-- A value that a document can hold. -/
abbrev Toml.Holdable := { v : Toml // Ranged v }

namespace Toml.Holdable

def text (s : String) : Holdable := ⟨.string s, .of_ne (by simp)⟩

def seconds (n : Seconds) : Holdable :=
  ⟨.integer n.1.toNat, fun m hm => by
    obtain rfl := Toml.integer.inj hm
    have := n.2
    omega⟩

end Toml.Holdable

namespace Toml.Document

/-- A document with one key set, if there is something to set it to. -/
def setOption (d : Document) (key : String) : Option Holdable → Document
  | none => d
  | some v => d.set key v.1 v.2

theorem value?_setOption (d : Document) (key : String) (v : Option Holdable) (other : String) :
    (d.setOption key v).entries.value? other =
      if key = other then (v.map (·.1)).or (d.entries.value? other)
      else d.entries.value? other := by
  cases v with
  | none => simp [setOption]
  | some v => exact Entries.value?_put key v.1 d.entries other

theorem mem_setOption {d : Document} {key : String} {v : Option Holdable} {e : String × Toml}
    (h : e ∈ (d.setOption key v).entries) : (∃ w ∈ v, e = (key, w.1)) ∨ e ∈ d.entries := by
  cases v with
  | none => exact .inr h
  | some v => exact (mem_put h).imp_left fun he => ⟨v, rfl, he⟩

end Toml.Document

namespace Flags

/-- A command line with these flags in place of its own. -/
def onto (f : Flags) (i : Invocation) : Invocation :=
  { i with
    analyzer := f.analyzer
    logDir := f.logDir.map .ofString
    timeoutSeconds := f.seconds.map (·.1) }

def none : Flags := ⟨.none, .none, .none⟩

/-- An analysis with what these flags say in its fields, each flag in its own. -/
def amend (f : Flags) (a : Analysis) : Analysis :=
  { a with
    analyzer := f.analyzer.getD a.analyzer
    logDir := (f.logDir.map .ofString).getD a.logDir
    limit := f.seconds.map (fun n => .ofSeconds n.1.toNat) <|> a.limit }

/-- A document with the keys of these flags set. -/
def within (f : Flags) (d : Document) : Document :=
  ((d.setOption "analyzer" (f.analyzer.map .text)).setOption "log_dir"
    (f.logDir.map .text)).setOption "timeout_secs" (f.seconds.map .seconds)

theorem fits_within (f : Flags) {d : Document} (h : ∀ e ∈ d.entries, Settings.Fits e.1 e.2) :
    ∀ e ∈ (f.within d).entries, Settings.Fits e.1 e.2 := by
  intro e he
  rcases Document.mem_setOption he with ⟨w, hw, rfl⟩ | he
  · obtain ⟨n, -, rfl⟩ := Option.map_eq_some_iff.mp hw
    have := n.2
    exact .seconds _ ⟨by omega, by omega⟩
  rcases Document.mem_setOption he with ⟨w, hw, rfl⟩ | he
  · obtain ⟨s, -, rfl⟩ := Option.map_eq_some_iff.mp hw
    exact .text s (by simp)
  rcases Document.mem_setOption he with ⟨w, hw, rfl⟩ | he
  · obtain ⟨s, -, rfl⟩ := Option.map_eq_some_iff.mp hw
    exact .text s (by simp)
  · exact h e he

/-- A flag and the key of the same name come to the same. -/
theorem overlay_within (f : Flags) (d : Document) (s : Settings) (i : Invocation) :
    s.overlay (f.within d).entries = (f.onto i).override (s.overlay d.entries) := by
  obtain ⟨analyzer, logDir, seconds⟩ := f
  simp only [Settings.overlay, Entries.get, within, Document.value?_setOption, Invocation.override,
    onto, String.reduceEq, if_true, if_false, Settings.mk.injEq, true_and]
  refine ⟨?_, ?_, ?_⟩
  · cases analyzer <;> rfl
  · cases logDir <;> rfl
  · cases seconds <;> simp [Toml.Holdable.seconds, Settings.seconds?]

theorem analysis_override (f : Flags) (i : Invocation) (s : Settings) :
    Gate.analysis (f.onto i) ((f.onto i).override s) =
      f.amend (s.analysis i.target i.arguments) := by
  obtain ⟨analyzer, logDir, seconds⟩ := f
  cases seconds <;> rfl

theorem none_amend (a : Analysis) : none.amend a = a := rfl

end Flags

/-- Every document that holds settings has a text. -/
theorem Settings.exists_text {d : Document} {s : Settings} (h : ofEntries d.entries = .ok s) :
    ∃ text, Toml.parse? text = some d.entries := by
  refine Toml.Writing.exists_text d fun ⟨key, v⟩ he => ?_
  cases (ofEntries_eq_ok_iff.mp h).1 (key, v) he with
  | text t => exact ⟨.text t, rfl⟩
  | texts ss => exact ⟨.texts ss, rfl⟩
  | seconds n hn =>
    obtain ⟨hnonneg, hbound⟩ := hn
    lift n to Nat using hnonneg
    exact ⟨.natural ⟨n, by omega⟩, rfl⟩

theorem Text.Utf8.toString?_encode (s : String) : toString? (encode s) = some s := by
  rw [toString?, decode?, encode, items_encodeChars]
  simp [Function.comp_def]

namespace Gate
variable {σ : Type} {h : Host σ} {st : σ}

/-- The settings that a configuration holds: those of a document, or the default ones. -/
def held : Option Document → Except Decoding.Error Settings
  | none => .ok .default
  | some d => Settings.ofEntries d.entries

/-- The analysis that a command line asks for under a configuration. -/
def requested (i : Invocation) (c : Option Document) : Except Decoding.Error Analysis :=
  (held c).map fun s => analysis i (i.override s)

/-- The first part of the command: it puts an analysis together. -/
def request (i : Invocation) : ExceptT Settings.LoadError Program Analysis := do
  return analysis i (← settings i)

/-- The second part: the analysis is performed, if there is one. -/
def proceed (i : Invocation) : Except Settings.LoadError Analysis → Program Int32
  | .error e => giveUp e.message (some e.cause)
  | .ok a => perform i a

theorem run_of_parse {words : List String} {i : Invocation} (hi : Invocation.parse words = .ok i) :
    run words = (request i).run.bind (proceed i) := by
  rw [run, hi]
  change (settings i).run.bind _ = ((settings i).run.bind _).bind _
  rw [Program.bind_assoc]
  congr 1
  funext r
  cases r with
  | error e =>
    change _ = (Program.done (Except.error e)).bind _
    rw [Program.done_bind, proceed]
  | ok s =>
    change _ = (Program.done (Except.ok (analysis i s))).bind _
    rw [Program.done_bind, proceed]

/-- What a host has where a command line looks for a configuration: no file is named, or the file
is the text of a document. -/
inductive Finds (h : Host σ) (st : σ) : Option Path → Option Document → Prop
  | nothing : Finds h st none none
  | file {path : Path} {text : String} {d : Document}
    (hread : (h.answer (.readFile path) st).1 = .ok (Text.Utf8.encode text))
    (hparse : Toml.parse? text = some d.entries) : Finds h st (some path) (some d)

theorem settings_run {i : Invocation} {c : Option Document} {s : Settings}
    (hc : Finds h st i.config c) (hs : held c = .ok s) :
    ∃ st', (settings i).run.run h st = (.ok (i.override s), st') := by
  generalize hconfig : i.config = config at hc
  cases hc with
  | nothing =>
    obtain rfl := Except.ok.inj hs
    refine ⟨st, ?_⟩
    rw [settings, hconfig]
    rfl
  | @file path text d hread hparse =>
    have hload : (Settings.load path).run.run h st =
        (.ok s, (h.answer (.readFile path) st).2) := by
      refine Program.run_seq_ok_iff.mpr
        ⟨Text.Utf8.encode text, _, Program.run_adapt_ok_iff.mpr (Prod.ext hread rfl), ?_⟩
      have hbytes : Settings.ofBytes path (Text.Utf8.encode text) = .ok s := by
        rw [Settings.ofBytes, Text.Utf8.toString?_encode]
        simp only [Settings.ofText_of_parse? hparse]
        rw [show Settings.ofEntries d.entries = .ok s from hs]
        rfl
      change (Settings.ofBytes path (Text.Utf8.encode text), _) = _
      rw [hbytes, Program.run_ask]
    refine ⟨(h.answer (.readFile path) st).2, ?_⟩
    rw [settings, hconfig]
    exact Program.run_seq_ok_iff.mpr ⟨s, _, hload, rfl⟩

theorem request_run {i : Invocation} {c : Option Document} {a : Analysis}
    (hc : Finds h st i.config c) (ha : requested i c = .ok a) :
    ((request i).run.run h st).1 = .ok a := by
  obtain ⟨s, hs, rfl⟩ := Checked.map_eq_ok_iff.mp ha
  obtain ⟨st', hsettings⟩ := settings_run hc hs
  have hrun : (request i).run.run h st = (.ok (analysis i (i.override s)), st') :=
    Program.run_seq_ok_iff.mpr ⟨i.override s, st', hsettings, rfl⟩
  rw [hrun]

theorem held_eq (c : Option Document) : held c = Settings.ofEntries (c.getD .empty).entries := by
  cases c <;> rfl

theorem requested_onto {c : Option Document} {s : Settings} (hs : held c = .ok s) (f : Flags)
    (i : Invocation) :
    requested (f.onto i) c = .ok (f.amend (s.analysis i.target i.arguments)) := by
  rw [requested, hs, Except.map, f.analysis_override]

/-- Setting the keys of the flags in a document of settings gives settings again, the same as if the
flags had been given over it. -/
theorem held_within {d : Document} {s : Settings} (hs : held (some d) = .ok s) (f : Flags)
    (i : Invocation) : held (some (f.within d)) = .ok ((f.onto i).override s) := by
  obtain ⟨hfits, rfl⟩ := Settings.ofEntries_eq_ok_iff.mp hs
  refine Settings.ofEntries_eq_ok_iff.mpr ⟨f.fits_within hfits, ?_⟩
  rw [f.overlay_within]

/-- The settings are those of the document, or the defaults key by key. Flags are put over them,
each in its own field and in no other, and that is the same as setting their keys in the document.
Without a document everything is as with an empty one. The document with the keys set has a text
too, and this is the analysis that the command puts together and performs on any host that has the
one text or the other at hand. -/
theorem requested_layers (i : Invocation) (f : Flags) (c : Option Document) (s : Settings)
    (hs : held c = .ok s) :
    let d := c.getD .empty
    let a := s.analysis i.target i.arguments
    (s = Settings.default.overlay d.entries ∧
      requested (Flags.none.onto i) c = .ok a ∧
      requested (f.onto i) c = .ok (f.amend a) ∧
      requested (Flags.none.onto i) (some (f.within d)) = .ok (f.amend a)) ∧
      (requested (f.onto i) none = requested (f.onto i) (some .empty) ∧
        Toml.parse? "" = some Document.empty.entries ∧
        ∃ text, Toml.parse? text = some (f.within d).entries) ∧
      (∀ {σ : Type} (h : Host σ) (st : σ),
        (Finds h st i.config c → ((request (f.onto i)).run.run h st).1 = .ok (f.amend a)) ∧
        ∀ path, Finds h st (some path) (some (f.within d)) →
          ((request (Flags.none.onto { i with config := some path })).run.run h st).1 =
            .ok (f.amend a)) ∧
      ∀ words j, Invocation.parse words = .ok j →
        run words = (request j).run.bind (proceed j) := by
  intro d a
  have hd : held (some d) = .ok s := (held_eq c).symm.trans hs
  have hset (j : Invocation) (hj : j.target = i.target ∧ j.arguments = i.arguments) :
      requested (Flags.none.onto j) (some (f.within d)) = .ok (f.amend a) := by
    have hoverridden : ((f.onto i).override s).analysis i.target i.arguments = f.amend a :=
      f.analysis_override i s
    rw [requested_onto (held_within hd f i), Flags.none_amend, hj.1, hj.2, hoverridden]
  have hwritten : ∃ text, Toml.parse? text = some (f.within d).entries :=
    Settings.exists_text (held_within hd f i)
  refine ⟨⟨(Settings.ofEntries_eq_ok_iff.mp hd).2, requested_onto hs .none i, requested_onto hs f i,
    hset i ⟨rfl, rfl⟩⟩, ⟨rfl, rfl, hwritten⟩, fun h st => ⟨fun hfinds => ?_, fun path hfinds => ?_⟩,
    fun words j => run_of_parse⟩
  · exact request_run hfinds (requested_onto hs f i)
  · exact request_run hfinds (hset _ ⟨rfl, rfl⟩)

/-- A host on which every file holds the same text. -/
def uniform (text : String) : Host Unit where
  answer
    | .readFile _, u => (.ok (Text.Utf8.encode text), u)
    | _, u => (.error .notText, u)

/-- Flags over a file that has one of their keys and a marker: the flag goes before the key, the
marker stays, and all else is the default. -/
theorem requested_layers_file :
    let i : Invocation :=
      ⟨.ofString "app", ["-x"], none, none, none, some (.ofString "gate.toml"), none, none⟩
    let f : Flags := ⟨some "drmemory", none, some ⟨5, by decide⟩⟩
    let text := "timeout_secs = 60\nend_marker = \".\"\n"
    ((request (f.onto i)).run.run (uniform text) ()).1 =
      .ok ⟨"drmemory", Settings.default.optionFlags, .ofString "app", ["-x"],
        some ⟨"ERROR SUMMARY: ", "."⟩, .ofString ".", some (.ofSeconds 5)⟩ := by
  intro i f text
  let s := { Settings.default with endMarker := some ".", timeoutSeconds := some 60 }
  have hsome : (Toml.parse? text).isSome := by decide +kernel
  obtain ⟨entries, hparse⟩ := Option.isSome_iff_exists.mp hsome
  obtain ⟨d, rfl⟩ := Toml.exists_document_of_parse? hparse
  have hs : held (some d) = .ok s :=
    Settings.ofEntries_of_ofText hparse (by decide +kernel)
  obtain ⟨-, -, hrun, -⟩ := requested_layers i f (some d) s hs
  exact (hrun (uniform text) ()).1 (.file rfl hparse)

end Gate
end DefectGate
