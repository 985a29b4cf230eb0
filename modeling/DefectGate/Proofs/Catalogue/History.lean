import DefectGate.Catalogue
import DefectGate.Settings
import Mathlib.Data.List.Basic

/-! # Catalogues by their history

A catalogue is made by entering markers under names, one after another. Of all that was entered only
the last markers under the short name of an analysis have a say, and only if the settings leave both
markers open. The entry that the standard catalogue starts with gives the markers that stand in for
a missing entry anyway, so starting without it makes no difference to what is read.
-/
namespace DefectGate.Catalogue

/-- Markers as they were entered, the oldest first. -/
abbrev History := List (String × Markers)

/-- Enters markers one after another. -/
def enter (c : Catalogue) (history : History) : Catalogue :=
  history.foldl (fun c e => c.insert e.1 e.2) c

/-- The markers that were entered last under a name. -/
def History.last? (history : History) (name : String) : Option Markers :=
  (history.reverse.find? (·.1 = name)).map (·.2)

theorem History.last?_cons (e : String × Markers) (history : History) (name : String) :
    History.last? (e :: history) name =
      (history.last? name).or (if e.1 = name then some e.2 else none) := by
  rw [last?, List.reverse_cons, List.find?_append, last?]
  cases history.reverse.find? (·.1 = name) with
  | some found => rfl
  | none => by_cases h : e.1 = name <;> simp [h]

theorem History.last?_filter (history : History) (name : String) :
    History.last? (history.filter (·.1 = name)) name = history.last? name := by
  rw [last?, last?, ← List.filter_reverse, List.find?_filter]
  simp

theorem find?_insert_self (c : Catalogue) (name : String) (m : Markers) :
    (c.insert name m).find? name = some m := by
  simp [find?, insert]

theorem find?_insert_of_ne (c : Catalogue) {name other : String} (h : name ≠ other) (m : Markers) :
    (c.insert name m).find? other = c.find? other := by
  rw [find?, insert, List.find?_cons_of_neg (by simpa using h), List.find?_filter, find?]
  congr 2
  funext e
  by_cases he : e.1 = other <;> simp [he, Ne.symm h]

/-- What a catalogue knows after a history: what was entered last, or what it knew before. -/
theorem find?_enter (c : Catalogue) (history : History) (name : String) :
    (c.enter history).find? name = (history.last? name).or (c.find? name) := by
  induction history generalizing c with
  | nil => rfl
  | cons e history ih =>
    rw [enter, List.foldl_cons, ← enter, ih, History.last?_cons, Option.or_assoc]
    by_cases h : e.1 = name
    · rw [h, find?_insert_self, if_pos rfl, Option.some_or]
    · rw [find?_insert_of_ne c h, if_neg h, Option.none_or]

theorem contains_enter (c : Catalogue) (history : History) (name : String) :
    (c.enter history).contains name = ((history.last? name).isSome || c.contains name) := by
  rw [contains, find?_enter, Option.isSome_or, contains]

/-- The catalogues that a history may start with. -/
inductive IsStart : Catalogue → Prop
  | empty : IsStart empty
  | standard : IsStart standard

/-- At the start there are no other markers than the standard ones. -/
theorem IsStart.getD_find? {c : Catalogue} (h : IsStart c) (name : String) :
    (c.find? name).getD Markers.standard = Markers.standard := by
  cases h with
  | empty => rfl
  | standard =>
    by_cases hname : "valgrind" = name
    · rw [← hname, Catalogue.standard, find?_insert_self]
      rfl
    · rw [Catalogue.standard, find?_insert_of_ne _ hname]
      rfl

/-- What applies to an analysis: its own markers, else those entered last under its short name, else
the standard ones. -/
theorem IsStart.markersFor_enter {c : Catalogue} (h : IsStart c) (history : History)
    (a : Analysis) :
    (c.enter history).markersFor a =
      a.markers.getD ((history.last? a.shortName).getD Markers.standard) := by
  rw [markersFor, find?_enter]
  cases history.last? a.shortName with
  | some m => rfl
  | none => rw [Option.none_or, h.getD_find?, Option.getD_none]

/-- The markers that settings and a history call for under a name: those of the settings if one of
the two is set, the other one being the standard one, else those entered last under the name, else
the standard ones. -/
def called (s : Settings) (history : History) (name : String) : Markers :=
  if s.beginMarker = none ∧ s.endMarker = none then
    (history.last? name).getD Markers.standard
  else
    ⟨s.beginMarker.getD Markers.standard.opening, s.endMarker.getD Markers.standard.closing⟩

theorem called_eq (s : Settings) (history : History) (name : String) :
    called s history name = s.markers.getD ((history.last? name).getD Markers.standard) := by
  rw [called, Settings.markers]
  cases s.beginMarker <;> cases s.endMarker <;> rfl

/-- A transcript is read by the markers that the settings and the history call for. Entries under
other names, however many and in whatever order, have no influence, and neither has the start, which
only decides whether the default analyzer is known. -/
theorem read_enter (history : History) :
    (∀ c, IsStart c → ∀ (s : Settings) (target : Host.Path) (arguments : List String)
      (t : Transcript),
      let a := s.analysis target arguments
      (c.enter history).read a t =
        (called s history a.shortName).read a.shortName t) ∧
      (∀ (c : Catalogue) (history' : History) (a : Analysis) (t : Transcript),
        history.filter (·.1 = a.shortName) = history'.filter (·.1 = a.shortName) →
        (c.enter history).read a t = (c.enter history').read a t) ∧
      (∀ (a : Analysis) (t : Transcript),
        (empty.enter history).read a t = (standard.enter history).read a t) ∧
      ∀ name, (standard.enter history).contains name =
        ((empty.enter history).contains name || name = "valgrind") := by
  refine ⟨fun c hc s target arguments t => ?_, fun c history' a t h => ?_, fun a t => ?_,
    fun name => ?_⟩
  · intro a
    rw [read, hc.markersFor_enter, called_eq]
    rfl
  · have hlast : history.last? a.shortName = history'.last? a.shortName := by
      rw [← History.last?_filter history, h, History.last?_filter]
    rw [read, read, markersFor, markersFor, find?_enter, find?_enter, hlast]
  · rw [read, read, IsStart.empty.markersFor_enter, IsStart.standard.markersFor_enter]
  · have hvalgrind : standard.contains name = decide (name = "valgrind") := by
      by_cases h : "valgrind" = name
      · rw [contains, standard, ← h, find?_insert_self]
        rfl
      · rw [contains, standard, find?_insert_of_ne _ h, decide_eq_false (Ne.symm h)]
        rfl
    have hempty : empty.contains name = false := rfl
    rw [contains_enter, contains_enter, hvalgrind, hempty, Bool.or_false]

/-- The built-in entry is replaced twice, with entries of another analyzer in between, and one
marker of the settings goes before them all. -/
theorem read_enter_replaced :
    let history : History :=
      [("valgrind", ⟨"A", "B"⟩), ("probe", ⟨"C", "D"⟩), ("valgrind", ⟨"N:", ";"⟩),
        ("probe", ⟨"E", "F"⟩)]
    let history' : History := [("probe", ⟨"X", "Y"⟩), ("valgrind", ⟨"A", "B"⟩),
        ("valgrind", ⟨"N:", ";"⟩)]
    let t : Transcript := ⟨["N:12; of 3 errors"]⟩
    let a := Settings.default.analysis (.ofString "app") []
    let a' := { Settings.default with endMarker := some " of" }.analysis (.ofString "app") []
    history.filter (·.1 = a.shortName) = history'.filter (·.1 = a.shortName) ∧
      (empty.enter history).read a t = .ok 12 ∧
      (standard.enter history').read a t = .ok 12 ∧
      (standard.enter history).read a' t =
        .error (.summaryMissing "valgrind" "ERROR SUMMARY: ") := by
  intro history history' t a a'
  obtain ⟨hcalled, hother, hstart, -⟩ := read_enter history
  have hfilter : history.filter (·.1 = a.shortName) = history'.filter (·.1 = a.shortName) := by
    decide
  have hread : (standard.enter history).read a t = .ok 12 :=
    (hcalled standard .standard Settings.default (.ofString "app") [] t).trans (by decide)
  have hread' : (standard.enter history').read a t = .ok 12 :=
    (hother standard history' a t hfilter).symm.trans hread
  refine ⟨hfilter, (hstart a t).trans hread, hread', ?_⟩
  exact (hcalled standard .standard { Settings.default with endMarker := some " of" }
    (.ofString "app") [] t).trans (by decide)

end DefectGate.Catalogue
