import DefectGate.Catalogue
import DefectGate.Proofs.Log.Location
import DefectGate.Proofs.Path.FileName

/-! # Where an analyzer is installed

An analyzer may be named by its file name alone or by a path that leads to it through any directory.
The command starts what is named; everything else that a run does with the analyzer goes by its
short name, and so is the same for both. This holds for a catalogue of markers and for any other way
in which a count could be read.
-/
namespace DefectGate
open Host (Path)
open Text.Utf8

/-- Any way to read the count out of the transcript of a named analyzer. -/
abbrev CountReader := String → Transcript → Except Failure Count

/-- Readers by the short name of the analyzer, the newest first. -/
structure ReaderTable where
  entries : List (String × CountReader)

namespace ReaderTable

def find? (r : ReaderTable) (name : String) : Option CountReader :=
  (r.entries.find? (·.1 = name)).map (·.2)

/-- The markers of the analysis come first, then the reader that is listed, then the standard
markers. -/
def read (r : ReaderTable) (a : Analysis) (t : Transcript) : Except Failure Count :=
  match a.markers with
  | some m => m.read a.shortName t
  | none => ((r.find? a.shortName).getD Markers.standard.read) a.shortName t

def ofCatalogue (c : Catalogue) : ReaderTable := ⟨c.entries.map fun e => (e.1, e.2.read)⟩

theorem find?_ofCatalogue (c : Catalogue) (name : String) :
    (ofCatalogue c).find? name = (c.find? name).map Markers.read := by
  rw [find?, ofCatalogue, Catalogue.find?, List.find?_map, Option.map_map, Option.map_map]
  rfl

/-- A catalogue of markers is a table of readers of one kind. -/
theorem read_ofCatalogue (c : Catalogue) (a : Analysis) (t : Transcript) :
    (ofCatalogue c).read a t = c.read a t := by
  rw [read, Catalogue.read, Catalogue.markersFor, find?_ofCatalogue]
  cases a.markers with
  | some m => rfl
  | none => cases c.find? a.shortName <;> rfl

end ReaderTable

namespace Analysis

theorem isName_encode {name : String} (hne : name ≠ "") (hslash : '/' ∉ name.toList)
    (hdot : name ≠ ".") (hdots : name ≠ "..") : Path.IsName (encode name) := by
  have hinj : ∀ other : String, encode name = encode other → name = other := fun other h =>
    String.toList_injective (encodeChars_injective h)
  refine ⟨Path.slash_mem_encodeChars_iff.not.mpr hslash, ?_, ?_, ?_⟩
  · exact fun h => hne (hinj "" h)
  · exact fun h => hdot (hinj "." h)
  · exact fun h => hdots (hinj ".." h)

theorem encode_join (pieces : List String) :
    encode (String.join pieces) = (pieces.map encode).flatten := by
  induction pieces with
  | nil => rfl
  | cons piece pieces ih =>
    rw [String.join_cons, encode_append, ih, List.map_cons, List.flatten_cons]

theorem nameOf_of_fileName? {analyzer name : String}
    (h : (Path.ofString analyzer).fileName? = some (encode name)) : nameOf analyzer = name := by
  rw [nameOf, h]
  simp [toStringLossy, encode]

theorem nameOf_plain {name : String} (h : Path.IsName (encode name)) : nameOf name = name :=
  nameOf_of_fileName? h.fileName?_eq

theorem nameOf_placed {name : String} (h : Path.IsName (encode name)) (directory : String)
    {pieces : List String} (hpieces : ∀ piece ∈ pieces, piece = "/" ∨ piece = "/.") :
    nameOf (directory ++ "/" ++ name ++ String.join pieces) = name := by
  have hidle : ∀ piece ∈ pieces.map encode, Path.IsIdle piece := by
    intro piece hpiece
    obtain ⟨text, htext, rfl⟩ := List.mem_map.mp hpiece
    rcases hpieces text htext with rfl | rfl
    · exact .inl rfl
    · exact .inr rfl
  have hslash : encode "/" = [Path.slash] := rfl
  apply nameOf_of_fileName?
  rw [Path.ofString, encode_append, encode_append, encode_append, encode_join, hslash,
    List.append_assoc (encode directory)]
  exact h.fileName?_placed _ hidle

theorem banner_congr {a b : Analysis} (hname : a.shortName = b.shortName)
    (htarget : a.target = b.target) (harguments : a.arguments = b.arguments) :
    a.banner = b.banner := by
  unfold banner
  rw [hname, htarget, harguments]

/-- Whether an analyzer is named alone or in a directory changes the first word of the command and
nothing else: not the short name, the log, the banner, nor the count or the failure that is read. -/
theorem placement_irrelevant (a : Analysis) (directory name : String) (pieces : List String)
    (hne : name ≠ "") (hslash : '/' ∉ name.toList) (hdot : name ≠ ".") (hdots : name ≠ "..")
    (hpieces : ∀ piece ∈ pieces, piece = "/" ∨ piece = "/.") :
    let location := directory ++ "/" ++ name ++ String.join pieces
    let plain := { a with analyzer := name }
    let placed := { a with analyzer := location }
    (plain.shortName = name ∧ placed.shortName = name) ∧
      placed.logPath = plain.logPath ∧
      placed.banner = plain.banner ∧
      (∀ (r : ReaderTable) (t : Transcript), r.read placed t = r.read plain t) ∧
      (∀ (c : Catalogue) (t : Transcript), c.read placed t = c.read plain t) ∧
      ∃ rest, plain.commandLine = encode name :: rest ∧
        placed.commandLine = encode location :: rest := by
  intro location plain placed
  have hname : Path.IsName (encode name) := isName_encode hne hslash hdot hdots
  have hplain : plain.shortName = name := nameOf_plain hname
  have hplaced : placed.shortName = name := nameOf_placed hname directory hpieces
  have hread : ∀ (r : ReaderTable) (t : Transcript), r.read placed t = r.read plain t := by
    intro r t
    rw [ReaderTable.read, ReaderTable.read, hplaced, hplain]
  refine ⟨⟨hplain, hplaced⟩, ?_, ?_, hread, ?_, ?_⟩
  · rw [logPath, logPath, hplaced, hplain]
  · exact banner_congr (hplaced.trans hplain.symm) rfl rfl
  · intro c t
    rw [← ReaderTable.read_ofCatalogue, hread, ReaderTable.read_ofCatalogue]
  · exact ⟨_, rfl, rfl⟩

/-- Doubled slashes and a parent step before the name, slashes and a dot after it: the log keeps its
place, and a reader that is listed under the short name is found. -/
theorem placement_irrelevant_toolbox :
    let a : Analysis := ⟨"", ["-q"], .ofString "app", ["x"], none, .ofString "logs", none⟩
    let location := "/opt/..//tools/./" ++ "/" ++ "drmemory" ++ String.join ["/", "/.", "/"]
    let plain := { a with analyzer := "drmemory" }
    let placed := { a with analyzer := location }
    let r : ReaderTable := ⟨[("drmemory", fun _ t => .ok (UInt64.ofNat t.length))]⟩
    location = "/opt/..//tools/.//drmemory//./" ∧ '/' ∉ "drmemory".toList ∧
      (∀ piece ∈ ["/", "/.", "/"], piece = "/" ∨ piece = "/.") ∧
      placed.shortName = "drmemory" ∧
      placed.logPath = .ofString "logs/drmemory-results.log" ∧
      placed.banner = plain.banner ∧
      r.read placed ⟨["a", "b"]⟩ = .ok 2 := by
  intro a location plain placed r
  obtain ⟨⟨-, hname⟩, hlog, hbanner, hread, -⟩ :=
    placement_irrelevant a "/opt/..//tools/./" "drmemory" ["/", "/.", "/"] (by decide) (by decide)
      (by decide) (by decide) (by decide)
  refine ⟨by decide, by decide, by decide, hname, hlog.trans (by decide), hbanner, ?_⟩
  exact (hread r ⟨["a", "b"]⟩).trans (by decide)

end Analysis
end DefectGate
