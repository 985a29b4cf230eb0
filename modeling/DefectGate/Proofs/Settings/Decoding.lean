import DefectGate.Settings
import DefectGate.Proofs.Checked
import DefectGate.Proofs.Toml.Reading

/-! # Settings from a document

Each entry of a document fits one of six fields or offends, whatever the settings are so far. If all
fit, every field is what its key says or else its default, in whatever order the keys stand. If one
does not, the first that offends is reported, whatever follows it.
-/
namespace DefectGate.Settings
open Toml (Document Entries Ranged)

/-- A known key with a value that its field takes. -/
inductive Fits : String → Toml → Prop
  | text {key : String} (s : String)
    (h : key ∈ ["analyzer", "begin_marker", "end_marker", "log_dir"]) : Fits key (.string s)
  | texts (ss : List String) : Fits "option_flags" (.array (ss.map .string))
  | seconds (n : Int) (h : 0 ≤ n ∧ n < 2 ^ 63) : Fits "timeout_secs" (.integer n)

/-- What is wrong with an entry that does not fit. -/
inductive Offends : String → Toml → Decoding.Error → Prop
  | key {key : String} {v : Toml} (h : key ∉ keys) : Offends key v (.unknownField key keys)
  | text {key : String} {v : Toml} (h : key ∈ ["analyzer", "begin_marker", "end_marker"])
    (hv : ∀ s, v ≠ .string s) : Offends key v (.wrongType (found v) "a string")
  | path {v : Toml} (hv : ∀ s, v ≠ .string s) :
    Offends "log_dir" v (.wrongType (found v) "path string")
  | texts {v : Toml} (hv : ∀ vs, v ≠ .array vs) :
    Offends "option_flags" v (.wrongType (found v) "a sequence")
  | element (ss : List String) {v : Toml} (hv : ∀ s, v ≠ .string s) (after : List Toml) :
    Offends "option_flags" (.array (ss.map .string ++ v :: after)) (.wrongType (found v) "a string")
  | seconds {v : Toml} (hv : ∀ n, v ≠ .integer n) :
    Offends "timeout_secs" v (.wrongType (found v) "u64")
  | negative {n : Int} (h : n < 0) :
    Offends "timeout_secs" (.integer n) (.wrongValue (.integer n) "u64")

def text? : Toml → Option String
  | .string s => some s
  | _ => none

def texts? : Toml → Option (List String)
  | .array vs => vs.mapM text?
  | _ => none

def seconds? : Toml → Option UInt64
  | .integer n => if 0 ≤ n then some (UInt64.ofNat n.toNat) else none
  | _ => none

/-- Settings with what a document says in their place, each field by its own key. -/
def overlay (s : Settings) (entries : Entries) : Settings where
  analyzer := entries.get "analyzer" text? s.analyzer
  optionFlags := entries.get "option_flags" texts? s.optionFlags
  beginMarker := entries.get "begin_marker" (fun v => (text? v).map some) s.beginMarker
  endMarker := entries.get "end_marker" (fun v => (text? v).map some) s.endMarker
  logDir := entries.get "log_dir" (fun v => (text? v).map .ofString) s.logDir
  timeoutSeconds := entries.get "timeout_secs" (fun v => (seconds? v).map some) s.timeoutSeconds

theorem overlay_nil (s : Settings) : s.overlay [] = s := by
  simp only [overlay, Entries.get_nil]

theorem overlay_cons (s : Settings) {e : String × Toml} {entries : Entries}
    (h : e.1 ∉ entries.map (·.1)) : (s.overlay [e]).overlay entries = s.overlay (e :: entries) := by
  simp only [overlay, Entries.get_get_singleton h]

theorem overlay_congr (s : Settings) {entries entries' : Entries}
    (h : ∀ key, entries.value? key = entries'.value? key) :
    s.overlay entries = s.overlay entries' := by
  simp only [overlay, Entries.get_congr (h _)]

theorem texts?_array (ss : List String) : texts? (.array (ss.map .string)) = some ss := by
  rw [texts?, List.mapM_map]
  induction ss with
  | nil => rfl
  | cons s ss ih => simp_all [text?]

theorem mapM_asText (ss : List String) : (ss.map Toml.string).mapM asText = .ok ss := by
  induction ss with
  | nil => rfl
  | cons s ss ih =>
    rw [List.map_cons, List.mapM_cons, ih]
    rfl

theorem asString_error {v : Toml} (hv : ∀ s, v ≠ .string s) (expected : String) :
    asString expected v = .error (.wrongType (found v) expected) := by
  cases v with
  | string s => exact absurd rfl (hv s)
  | _ => rfl

theorem mapM_asText_error (ss : List String) {v : Toml} (hv : ∀ s, v ≠ .string s)
    (after : List Toml) :
    (ss.map Toml.string ++ v :: after).mapM asText = .error (.wrongType (found v) "a string") := by
  rw [List.mapM_append, mapM_asText, List.mapM_cons, asText, asString_error hv]
  rfl

/-- An entry that fits is taken over. -/
theorem set_of_fits (s : Settings) {key : String} {v : Toml} (h : Fits key v) :
    s.set key v = .ok (s.overlay [(key, v)]) := by
  cases h with
  | text t h =>
    simp only [List.mem_cons, List.not_mem_nil, or_false] at h
    rcases h with rfl | rfl | rfl | rfl <;> rfl
  | texts ss =>
    have hset : s.set "option_flags" (.array (ss.map .string)) =
        (do return { s with optionFlags := ← (ss.map Toml.string).mapM asText }) := rfl
    rw [hset, mapM_asText]
    simp [overlay, texts?_array]
  | seconds n h =>
    have hset : s.set "timeout_secs" (.integer n) =
      (do return { s with timeoutSeconds := some (← asSeconds (.integer n)) }) := rfl
    rw [hset, asSeconds, if_pos h.1]
    simp [overlay, seconds?, h.1]

theorem asText_error {v : Toml} (hv : ∀ s, v ≠ .string s) :
    asText v = .error (.wrongType (found v) "a string") := asString_error hv "a string"

theorem asTexts_error {v : Toml} (hv : ∀ vs, v ≠ .array vs) :
    asTexts v = .error (.wrongType (found v) "a sequence") := by
  cases v with
  | array vs => exact absurd rfl (hv vs)
  | _ => rfl

theorem asSeconds_error {v : Toml} (hv : ∀ n, v ≠ .integer n) :
    asSeconds v = .error (.wrongType (found v) "u64") := by
  cases v with
  | integer n => exact absurd rfl (hv n)
  | _ => rfl

theorem asSeconds_negative {n : Int} (h : n < 0) :
    asSeconds (.integer n) = .error (.wrongValue (.integer n) "u64") := if_neg (by omega)

/-- An entry that offends is refused. -/
theorem set_of_offends (s : Settings) {key : String} {v : Toml} {e : Decoding.Error}
    (h : Offends key v e) : s.set key v = .error e := by
  cases h with
  | key h =>
    simp only [keys, List.mem_cons, List.not_mem_nil, or_false, not_or] at h
    obtain ⟨h1, h2, h3, h4, h5, h6⟩ := h
    rw [set, if_neg h1, if_neg h2, if_neg h3, if_neg h4, if_neg h5, if_neg h6]
  | text h hv =>
    simp only [List.mem_cons, List.not_mem_nil, or_false] at h
    rcases h with rfl | rfl | rfl <;> simp [set, asText_error hv]
  | path hv => simp [set, asString_error hv]
  | texts hv => simp [set, asTexts_error hv]
  | element ss hv after => simp [set, asTexts, mapM_asText_error ss hv]
  | seconds hv => simp [set, asSeconds_error hv]
  | negative h => simp [set, asSeconds_negative h]

/-- An array holds texts only, or a first element that is none. -/
theorem texts_or_element (vs : List Toml) :
    (∃ ss : List String, vs = ss.map .string) ∨
      ∃ (ss : List String) (v : Toml) (after : List Toml),
        vs = ss.map .string ++ v :: after ∧ ∀ s, v ≠ .string s := by
  induction vs with
  | nil => exact .inl ⟨[], rfl⟩
  | cons v vs ih =>
    by_cases hv : ∃ s, v = .string s
    · obtain ⟨s, rfl⟩ := hv
      rcases ih with ⟨ss, rfl⟩ | ⟨ss, w, after, rfl, hw⟩
      · exact .inl ⟨s :: ss, rfl⟩
      · exact .inr ⟨s :: ss, w, after, rfl, hw⟩
    · exact .inr ⟨[], v, vs, rfl, not_exists.mp hv⟩

theorem fits_or_offends (key : String) {v : Toml} (hr : Ranged v) :
    Fits key v ∨ ∃ e, Offends key v e := by
  by_cases hkey : key ∈ keys
  swap
  · exact .inr ⟨_, .key hkey⟩
  have hcases : key ∈ ["analyzer", "begin_marker", "end_marker"] ∨ key = "log_dir" ∨
      key = "option_flags" ∨ key = "timeout_secs" := by
    simp only [keys, List.mem_cons, List.not_mem_nil, or_false] at hkey ⊢
    tauto
  rcases hcases with htext | rfl | rfl | rfl
  · by_cases hv : ∃ s, v = .string s
    · obtain ⟨s, rfl⟩ := hv
      exact .inl (.text s (by simp at htext ⊢; tauto))
    · exact .inr ⟨_, .text htext (not_exists.mp hv)⟩
  · by_cases hv : ∃ s, v = .string s
    · obtain ⟨s, rfl⟩ := hv
      exact .inl (.text s (by decide))
    · exact .inr ⟨_, .path (not_exists.mp hv)⟩
  · by_cases hv : ∃ vs, v = .array vs
    · obtain ⟨vs, rfl⟩ := hv
      rcases texts_or_element vs with ⟨ss, rfl⟩ | ⟨ss, w, after, rfl, hw⟩
      · exact .inl (.texts ss)
      · exact .inr ⟨_, .element ss hw after⟩
    · exact .inr ⟨_, .texts (not_exists.mp hv)⟩
  · by_cases hv : ∃ n, v = .integer n
    · obtain ⟨n, rfl⟩ := hv
      by_cases hn : 0 ≤ n
      · exact .inl (.seconds n ⟨hn, (hr n rfl).2⟩)
      · exact .inr ⟨_, .negative (not_le.mp hn)⟩
    · exact .inr ⟨_, .seconds (not_exists.mp hv)⟩

theorem Fits.not_offends {key : String} {v : Toml} (h : Fits key v) (e : Decoding.Error) :
    ¬ Offends key v e := by
  intro he
  have hset := set_of_fits default h
  rw [set_of_offends default he] at hset
  cases hset

/-- Entries that fit are taken over one after another, and what they say comes together. -/
theorem foldlM_of_fits {entries : Entries} (hd : (entries.map (·.1)).Nodup)
    (h : ∀ e ∈ entries, Fits e.1 e.2) (s : Settings) :
    entries.foldlM (fun s e => s.set e.1 e.2) s = .ok (s.overlay entries) := by
  induction entries generalizing s with
  | nil => rw [overlay_nil]; rfl
  | cons e entries ih =>
    obtain ⟨hfirst, hd⟩ := List.nodup_cons.mp hd
    rw [List.foldlM_cons, set_of_fits s (h e List.mem_cons_self), Checked.ok_bind,
      ih hd (fun e he => h e (List.mem_cons_of_mem _ he)), overlay_cons s hfirst]

/-- The first entry that offends ends the reading. -/
theorem foldlM_of_offends {before : Entries} (hd : (before.map (·.1)).Nodup)
    (h : ∀ e ∈ before, Fits e.1 e.2) {key : String} {v : Toml} {e : Decoding.Error}
    (he : Offends key v e) (after : Entries) (s : Settings) :
    (before ++ (key, v) :: after).foldlM (fun s e => s.set e.1 e.2) s = .error e := by
  rw [List.foldlM_append, foldlM_of_fits hd h, Checked.ok_bind, List.foldlM_cons,
    set_of_offends _ he]
  rfl

/-- All entries fit, or there is a first that offends. -/
theorem fit_or_offend {entries : Entries} (hr : ∀ e ∈ entries, Ranged e.2) :
    (∀ e ∈ entries, Fits e.1 e.2) ∨
      ∃ (before : Entries) (key : String) (v : Toml) (after : Entries) (e : Decoding.Error),
        entries = before ++ (key, v) :: after ∧ (∀ e ∈ before, Fits e.1 e.2) ∧
          Offends key v e := by
  induction entries with
  | nil => exact .inl (by simp)
  | cons entry entries ih =>
    rcases fits_or_offends entry.1 (hr entry List.mem_cons_self) with hfits | ⟨e, he⟩
    · rcases ih fun e he => hr e (List.mem_cons_of_mem _ he) with
        hall | ⟨before, key, v, after, e, rfl, hbefore, he⟩
      · exact .inl (List.forall_mem_cons.mpr ⟨hfits, hall⟩)
      · exact .inr ⟨entry :: before, key, v, after, e, rfl,
          List.forall_mem_cons.mpr ⟨hfits, hbefore⟩, he⟩
    · exact .inr ⟨[], entry.1, entry.2, entries, e, rfl, by simp, he⟩

theorem ofEntries_eq_error_of_offends {d : Document} {before after : Entries} {key : String}
    {v : Toml} {e : Decoding.Error} (hsplit : d.entries = before ++ (key, v) :: after)
    (hbefore : ∀ e ∈ before, Fits e.1 e.2) (he : Offends key v e) :
    ofEntries d.entries = .error e := by
  have hd := d.distinct
  rw [hsplit, List.map_append] at hd
  rw [ofEntries, hsplit]
  exact foldlM_of_offends hd.of_append_left hbefore he after default

/-- All entries fit and are taken over, or the first that offends is reported. -/
theorem ofEntries_cases (d : Document) :
    ((∀ e ∈ d.entries, Fits e.1 e.2) ∧ ofEntries d.entries = .ok (default.overlay d.entries)) ∨
      ∃ (before : Entries) (key : String) (v : Toml) (after : Entries) (e : Decoding.Error),
        d.entries = before ++ (key, v) :: after ∧ (∀ e ∈ before, Fits e.1 e.2) ∧
          Offends key v e ∧ ofEntries d.entries = .error e := by
  rcases fit_or_offend d.ranged with hall | ⟨before, key, v, after, e, hsplit, hbefore, he⟩
  · exact .inl ⟨hall, foldlM_of_fits d.distinct hall default⟩
  · refine .inr ⟨before, key, v, after, e, hsplit, hbefore, he, ?_⟩
    exact ofEntries_eq_error_of_offends hsplit hbefore he

theorem ofEntries_eq_ok_iff {d : Document} {s : Settings} :
    ofEntries d.entries = .ok s ↔
      (∀ e ∈ d.entries, Fits e.1 e.2) ∧ s = default.overlay d.entries := by
  rcases ofEntries_cases d with ⟨hall, hok⟩ | ⟨before, key, v, after, e, hsplit, -, he, herror⟩
  · rw [hok, Except.ok.injEq]
    exact ⟨fun heq => ⟨hall, heq.symm⟩, fun h => h.2.symm⟩
  · rw [herror]
    constructor
    · intro h
      cases h
    · intro h
      have hmem : (key, v) ∈ d.entries := by simp [hsplit]
      exact absurd he (Fits.not_offends (h.1 (key, v) hmem) e)

theorem ofText_of_parse? {text : String} {entries : Entries}
    (h : Toml.parse? text = some entries) :
    ofText text = (ofEntries entries).mapError .invalid := by
  rw [ofText, h]
  cases hentries : ofEntries entries <;> simp only [hentries] <;> rfl

/-- What is read from a text is what its entries give. -/
theorem ofEntries_of_ofText {text : String} {entries : Entries}
    (hparse : Toml.parse? text = some entries) {r : Except Decoding.Error Settings}
    (h : ofText text = r.mapError .invalid) : ofEntries entries = r := by
  rw [ofText_of_parse? hparse] at h
  cases hentries : ofEntries entries <;> rw [hentries] at h <;> cases r <;> cases h <;> rfl

/-- A document holds settings exactly if all of its entries fit. Then each field is what its key
says, or its default if the key is absent, and the order of the entries has no influence. Otherwise
the error is that of the first entry that offends, whatever follows it. Every text that is read is
such a document. -/
theorem ofText_decides :
    (∀ d : Document,
      ((∃ s, ofEntries d.entries = .ok s) ↔ ∀ e ∈ d.entries, Fits e.1 e.2) ∧
        (∀ s, ofEntries d.entries = .ok s →
          s = default.overlay d.entries ∧
            ∀ d' : Document, d'.entries.Perm d.entries → ofEntries d'.entries = .ok s) ∧
        ∀ e, ofEntries d.entries = .error e ↔
          ∃ (before : Entries) (key : String) (v : Toml) (after : Entries),
            d.entries = before ++ (key, v) :: after ∧ (∀ e ∈ before, Fits e.1 e.2) ∧
              Offends key v e) ∧
      ∀ text, Toml.parse? text = none ∧ ofText text = .error .syntaxError ∨
        ∃ d : Document, Toml.parse? text = some d.entries ∧
          ofText text = (ofEntries d.entries).mapError .invalid := by
  refine ⟨fun d => ⟨?_, fun s hs => ?_, fun e => ?_⟩, fun text => ?_⟩
  · simp only [ofEntries_eq_ok_iff, exists_and_left, exists_eq, and_true]
  · obtain ⟨hall, rfl⟩ := ofEntries_eq_ok_iff.mp hs
    refine ⟨rfl, fun d' hperm => ofEntries_eq_ok_iff.mpr ⟨?_, ?_⟩⟩
    · exact fun e he => hall e (hperm.mem_iff.mp he)
    · exact overlay_congr default fun key => (Entries.value?_perm d.distinct hperm key).symm
  · refine ⟨fun h => ?_, fun ⟨before, key, v, after, hsplit, hbefore, he⟩ =>
      ofEntries_eq_error_of_offends hsplit hbefore he⟩
    rcases ofEntries_cases d with
      ⟨-, hok⟩ | ⟨before, key, v, after, e', hsplit, hbefore, he, herror⟩
    · rw [hok] at h
      cases h
    · obtain rfl := Except.error.inj (herror.symm.trans h)
      exact ⟨before, key, v, after, hsplit, hbefore, he⟩
  · cases hparse : Toml.parse? text with
    | none => exact .inl ⟨rfl, by rw [ofText, hparse]⟩
    | some entries =>
      obtain ⟨d, rfl⟩ := Toml.exists_document_of_parse? hparse
      exact .inr ⟨d, rfl, ofText_of_parse? hparse⟩

/-- Two entries in either order, and a text in which a negative number stands before an unknown
key. -/
theorem ofText_decides_seconds :
    let entries : Entries := [("log_dir", .string "logs"), ("timeout_secs", .integer 30)]
    let held := { default with logDir := .ofString "logs", timeoutSeconds := some 30 }
    (ofEntries entries = .ok held ∧ held = default.overlay entries ∧
      entries.reverse.Perm entries ∧ ofEntries entries.reverse = .ok held) ∧
      ∃ d : Document, Toml.parse? "timeout_secs = -1\nanalyser = 3\n" = some d.entries ∧
        ofEntries d.entries = .error (.wrongValue (.integer (-1)) "u64") := by
  intro entries held
  have hranged : ∀ e ∈ entries, Ranged e.2 := by simp [entries, Ranged]
  let d : Document := ⟨entries, by decide, hranged⟩
  let d' : Document :=
    ⟨entries.reverse, by decide, fun e he => hranged e (List.mem_reverse.mp he)⟩
  obtain ⟨hdecides, htext⟩ := ofText_decides
  obtain ⟨-, hheld, -⟩ := hdecides d
  have hok : ofEntries entries = .ok held := by decide
  obtain ⟨hoverlay, hperm⟩ := hheld held hok
  refine ⟨⟨hok, hoverlay, entries.reverse_perm, hperm d' entries.reverse_perm⟩, ?_⟩
  rcases htext "timeout_secs = -1\nanalyser = 3\n" with ⟨-, hsyntax⟩ | ⟨d, hparse, -⟩
  · exact absurd hsyntax (by decide +kernel)
  · exact ⟨d, hparse, ofEntries_of_ofText hparse (by decide +kernel)⟩

end DefectGate.Settings
