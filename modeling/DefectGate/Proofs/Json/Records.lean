import DefectGate.Json.Record
import DefectGate.Proofs.Checked
import Mathlib.Data.String.Basic

/-! # What a record says of a field

An object says of a field what the last one of that name says, an array what stands in the field's
place. Opening a record, looking up its fields and closing it come down to this.
-/
namespace DefectGate.Json

/-! ### Fields in the order of their names -/

theorem find?_insertField (f : String × Json) (fs : List (String × Json)) (name : String) :
    (insertField f.1 f.2 fs).find? (·.1 = name) =
      if f.1 = name then some f else fs.find? (·.1 = name) := by
  by_cases hname : f.1 = name
  · subst hname
    rw [if_pos rfl]
    induction fs with
    | nil => simp [insertField]
    | cons g gs ih =>
      rw [insertField]
      split_ifs with hsame hbefore
      · simp
      · simp
      · rw [List.find?_cons_of_neg (by simp [Ne.symm hsame]), ih]
  · rw [if_neg hname]
    induction fs with
    | nil => simp [insertField, hname]
    | cons g gs ih =>
      rw [insertField]
      split_ifs with hsame hbefore
      · simp [hname, ← hsame]
      · simp [hname]
      · rw [List.find?_cons, List.find?_cons, ih]

theorem sortFields_append_singleton (fs : List (String × Json)) (f : String × Json) :
    sortFields (fs ++ [f]) = insertField f.1 f.2 (sortFields fs) := by
  simp [sortFields]

/-- Sorting keeps the last field of a name. -/
theorem find?_sortFields (fs : List (String × Json)) (name : String) :
    (sortFields fs).find? (·.1 = name) = fs.reverse.find? (·.1 = name) := by
  induction fs using List.reverseRecOn with
  | nil => rfl
  | append_singleton fs f ih =>
    rw [sortFields_append_singleton, find?_insertField, ih, List.reverse_append]
    by_cases h : f.1 = name <;> simp [h]

theorem mem_insertField {f g : String × Json} {fs : List (String × Json)}
    (h : g ∈ insertField f.1 f.2 fs) : g = f ∨ g ∈ fs := by
  induction fs with
  | nil => simpa [insertField] using h
  | cons k ks ih =>
    rw [insertField] at h
    split_ifs at h
    · exact (List.mem_cons.mp h).imp id (List.mem_cons_of_mem k)
    · exact List.mem_cons.mp h
    · obtain rfl | hmem := List.mem_cons.mp h
      · simp
      · exact (ih hmem).imp id (List.mem_cons_of_mem k)

theorem pairwise_insertField (f : String × Json) {fs : List (String × Json)}
    (h : fs.Pairwise (·.1 < ·.1)) : (insertField f.1 f.2 fs).Pairwise (·.1 < ·.1) := by
  induction fs with
  | nil => simp [insertField]
  | cons g gs ih =>
    obtain ⟨hg, hgs⟩ := List.pairwise_cons.mp h
    rw [insertField]
    split_ifs with hsame hbefore
    · exact List.pairwise_cons.mpr ⟨fun k hk => hsame ▸ hg k hk, hgs⟩
    · refine List.pairwise_cons.mpr ⟨fun k hk => ?_, h⟩
      obtain rfl | hk := List.mem_cons.mp hk
      · exact hbefore
      · exact lt_trans hbefore (hg k hk)
    · refine List.pairwise_cons.mpr ⟨fun k hk => ?_, ih hgs⟩
      obtain rfl | hk := mem_insertField hk
      · exact lt_of_le_of_ne (not_lt.mp hbefore) (Ne.symm hsame)
      · exact hg k hk

theorem pairwise_sortFields (fs : List (String × Json)) :
    (sortFields fs).Pairwise (·.1 < ·.1) := by
  induction fs using List.reverseRecOn with
  | nil => exact List.Pairwise.nil
  | append_singleton fs f ih =>
    rw [sortFields_append_singleton]
    exact pairwise_insertField f ih

/-- Each sorted field is the one that is found by its name. -/
theorem find?_of_mem_sortFields {fs : List (String × Json)} {f : String × Json}
    (h : f ∈ sortFields fs) : (sortFields fs).find? (·.1 = f.1) = some f := by
  have hsorted := pairwise_sortFields fs
  generalize sortFields fs = sorted at h hsorted
  induction sorted with
  | nil => simp at h
  | cons g gs ih =>
    obtain ⟨hg, hgs⟩ := List.pairwise_cons.mp hsorted
    obtain rfl | hmem := List.mem_cons.mp h
    · simp
    · rw [List.find?_cons_of_neg (by simpa using ne_of_lt (hg f hmem)), ih hmem hgs]

theorem sortFields_append_same {name : String} {earlier : List (String × Json)}
    (h : ∀ f ∈ earlier, f.1 = name) (v : Json) :
    sortFields (earlier ++ [(name, v)]) = [(name, v)] := by
  induction earlier using List.reverseRecOn generalizing v with
  | nil => rfl
  | append_singleton fs f ih =>
    have hf : f = (name, f.2) := Prod.ext (h f (by simp)) rfl
    have hfs : sortFields (fs ++ [(name, f.2)]) = [(name, f.2)] :=
      ih (fun g hg => h g (by simp [hg])) f.2
    rw [sortFields_append_singleton, hf, hfs]
    simp [insertField]

/-- A single field is left exactly if all fields have one name. -/
theorem sortFields_eq_singleton_iff {fs : List (String × Json)} {name : String} {v : Json} :
    sortFields fs = [(name, v)] ↔
      ∃ earlier, fs = earlier ++ [(name, v)] ∧ ∀ f ∈ earlier, f.1 = name := by
  constructor
  · intro h
    have hfind (f : String × Json) : fs.reverse.find? (·.1 = f.1) =
        if name = f.1 then some (name, v) else none := by
      rw [← find?_sortFields, h]
      by_cases hname : name = f.1 <;> simp [hname]
    obtain rfl | ⟨earlier, last, rfl⟩ := fs.eq_nil_or_concat'
    · simp [sortFields] at h
    · have hname : ∀ f ∈ earlier ++ [last], f.1 = name := by
        intro f hf
        by_contra hne
        have hnone := hfind f
        rw [if_neg (Ne.symm hne), List.find?_eq_none] at hnone
        exact hnone f (List.mem_reverse.mpr hf) (by simp)
      have hlast := hfind last
      rw [List.reverse_append, List.reverse_singleton, List.singleton_append,
        List.find?_cons_of_pos (by simp), if_pos (hname last (by simp)).symm] at hlast
      cases Option.some.inj hlast
      exact ⟨earlier, rfl, fun f hf => hname f (List.mem_append_left _ hf)⟩
  · rintro ⟨earlier, rfl, h⟩
    exact sortFields_append_same h v

/-! ### Spellings of values -/

section Reads
variable {α : Type} {decode : Decoder α} {spelled : Json → α → Prop}

theorem check_eq_ok {v : Json} {a : α} (h : decode v = .ok a) : check decode v = .ok () := by
  simp [check, h, Except.map]

/-- A decoder accepts exactly the spellings of its values; null is none of them. -/
structure Reads (decode : Decoder α) (spelled : Json → α → Prop) : Prop where
  decodes (v : Json) (a : α) : decode v = .ok a ↔ spelled v a
  null (a : α) : ¬ spelled .null a

theorem Reads.optional_eq_ok_iff (h : Reads decode spelled) {v : Json} {o : Option α} :
    optional decode v = .ok o ↔ (v = .null ∧ o = none) ∨ ∃ a, o = some a ∧ spelled v a := by
  cases v with
  | null => simp [optional, h.null, eq_comm]
  | _ =>
    simp only [optional, Checked.map_eq_ok_iff, h.decodes]
    simp [eq_comm, and_comm]

end Reads

def IsString (j : Json) (s : String) : Prop := j = .string s

def IsUInt64 (j : Json) (n : UInt64) : Prop := j = .nat n.toNat

def IsInt32 (j : Json) (n : Int32) : Prop := j = .number (.integer n.toInt)

theorem isString_string (s : String) : IsString (.string s) s := rfl

theorem isUInt64_nat (n : UInt64) : IsUInt64 (.nat n.toNat) n := rfl

theorem asString_reads : Reads asString IsString := by
  refine ⟨fun j s => ?_, by simp [IsString]⟩
  cases j <;> simp [asString, wrongType, IsString]

theorem asUInt64_reads : Reads asUInt64 IsUInt64 := by
  refine ⟨fun j n => ?_, by simp [IsUInt64, nat]⟩
  unfold IsUInt64
  match j with
  | .number (.integer k) =>
    simp only [asUInt64, nat, number.injEq, Number.integer.injEq]
    split_ifs with hrange
    · have hk : (UInt64.ofNat k.toNat).toNat = k.toNat := UInt64.toNat_ofNat_of_lt' (by omega)
      rw [Except.ok.injEq, ← UInt64.toNat_inj, hk]
      omega
    · have hn : n.toNat < UInt64.size := n.toNat_lt
      simp only [false_iff]
      omega
  | .number (.real _) | .null | .bool _ | .string _ | .array _ | .object _ =>
    simp [asUInt64, wrongType, nat]

theorem asInt32_reads : Reads asInt32 IsInt32 := by
  refine ⟨fun j n => ?_, by simp [IsInt32]⟩
  unfold IsInt32
  match j with
  | .number (.integer k) =>
    simp only [asInt32, number.injEq, Number.integer.injEq]
    split_ifs with hrange
    · have hk : (Int32.ofInt k).toInt = k :=
        Int32.toInt_ofInt_of_le hrange.1 (Int.lt_of_le_of_lt hrange.2 (by decide))
      rw [Except.ok.injEq, ← Int32.toInt_inj, hk]
    · simp only [false_iff]
      rintro rfl
      exact hrange ⟨n.minValue_le_toInt, n.toInt_le⟩
  | .number (.real _) | .null | .bool _ | .string _ | .array _ | .object _ =>
    simp [asInt32, wrongType]

/-! ### Records -/

namespace RecordType
variable {t : RecordType} {j : Json} {r : Record} {name : String} {α : Type}
  {decode : Decoder α} {spelled : Json → α → Prop}

/-- What a record says of a field. -/
def given? (t : RecordType) (name : String) : Json → Option Json
  | .object fields => (fields.reverse.find? (·.1 = name)).map (·.2)
  | .array elements => elements[t.place name]?
  | _ => none

/-- An object of any fields, or an array with no element beyond the last field. -/
def Admits (t : RecordType) : Json → Prop
  | .object _ => True
  | .array elements => elements.length ≤ t.size
  | _ => False

/-- What a record says of a field stands for a value. -/
def Gives (t : RecordType) (name : String) (j : Json) (spelled : Json → α → Prop) (a : α) : Prop :=
  ∃ v, t.given? name j = some v ∧ spelled v a

/-- As `Gives` for a field that an object may leave out; null stands for nothing. -/
def Offers (t : RecordType) (name : String) (j : Json) (spelled : Json → α → Prop) :
    Option α → Prop
  | none => t.given? name j = some .null ∨ (t.given? name j = none ∧ ∃ fields, j = .object fields)
  | some a => t.Gives name j spelled a

/-- A value as the record that it is opened as. -/
inductive Opens : Json → Record → Prop where
  | named (fields : List (String × Json)) : Opens (.object fields) (.named (sortFields fields))
  | placed (elements : List Json) : Opens (.array elements) (.placed elements)

theorem Admits.opens (h : t.Admits j) : ∃ r, Opens j r := by
  cases j with
  | object fields => exact ⟨_, .named fields⟩
  | array elements => exact ⟨_, .placed elements⟩
  | _ => exact absurd h id

theorem checkFields_eq_ok {sorted : List (String × Json)}
    (h : ∀ f ∈ sorted, ∀ field ∈ t.fields, field.1 = f.1 → field.2 f.2 = .ok ()) :
    t.checkFields sorted = .ok () := by
  induction sorted with
  | nil => rfl
  | cons f fs ih =>
    have hrest : t.checkFields fs = .ok () := ih fun g hg => h g (List.mem_cons_of_mem f hg)
    rw [checkFields]
    cases hfind : t.fields.find? (·.1 = f.1) with
    | none => exact hrest
    | some field =>
      have hname : field.1 = f.1 := by simpa using List.find?_some hfind
      simp only [h f List.mem_cons_self field (List.mem_of_find?_eq_some hfind) hname, hrest]

theorem opens_of_openRecord (h : t.openRecord j = .ok r) : Opens j r := by
  cases j with
  | object fields =>
    obtain ⟨u, -, hr⟩ := Checked.bind_eq_ok_iff.mp h
    cases hr
    exact .named fields
  | array elements =>
    cases h
    exact .placed elements
  | _ => simp [openRecord, wrongType] at h

/-- A record is opened if whatever it says of a field fits the field. -/
theorem Opens.openRecord (h : Opens j r)
    (hchecks : ∀ field ∈ t.fields, ∀ v, t.given? field.1 j = some v → field.2 v = .ok ()) :
    t.openRecord j = .ok r := by
  cases h with
  | named fields =>
    have hchecked : t.checkFields (sortFields fields) = .ok () := by
      apply checkFields_eq_ok
      intro f hf field hfield hname
      apply hchecks field hfield
      -- names are not repeated any more, so the checked field is the one that is found
      rw [given?, hname, ← find?_sortFields, find?_of_mem_sortFields hf]
      rfl
    exact Checked.bind_eq_ok_iff.mpr ⟨(), hchecked, rfl⟩
  | placed elements => rfl

theorem Opens.required_eq_ok_iff (h : Opens j r) {a : α} :
    t.required r name decode = .ok a ↔ ∃ v, t.given? name j = some v ∧ decode v = .ok a := by
  cases h with
  | named fields =>
    rw [required, given?, find?_sortFields]
    cases fields.reverse.find? (·.1 = name) <;> simp
  | placed elements =>
    rw [required, given?]
    cases elements[t.place name]? <;> simp

theorem Opens.required_iff (h : Opens j r) (hreads : Reads decode spelled) {a : α} :
    t.required r name decode = .ok a ↔ t.Gives name j spelled a := by
  simp only [h.required_eq_ok_iff, hreads.decodes, Gives]

theorem Opens.allowed_iff (h : Opens j r) (hreads : Reads decode spelled) {o : Option α} :
    t.allowed r name decode = .ok o ↔ t.Offers name j spelled o := by
  cases h with
  | named fields =>
    rw [allowed, find?_sortFields]
    cases hfind : fields.reverse.find? (·.1 = name) with
    | none => cases o <;> simp [Offers, Gives, given?, hfind]
    | some f =>
      rw [hreads.optional_eq_ok_iff]
      cases o <;> simp [Offers, Gives, given?, hfind]
  | placed elements =>
    simp only [allowed, (Opens.placed elements).required_eq_ok_iff, hreads.optional_eq_ok_iff]
    cases o <;> simp [Offers, Gives]

theorem Opens.closeRecord_iff (h : Opens j r) {u : Unit} :
    t.closeRecord r = .ok u ↔ t.Admits j := by
  cases h with
  | named fields => simp [closeRecord, Admits]
  | placed elements => simp [closeRecord, Admits]

theorem Gives.check {a : α} (h : t.Gives name j spelled a) (hreads : Reads decode spelled) :
    ∀ v, t.given? name j = some v → check decode v = .ok () := by
  intro v hv
  obtain ⟨w, hw, hspelled⟩ := h
  obtain rfl : w = v := Option.some.inj (hw.symm.trans hv)
  exact check_eq_ok ((hreads.decodes w a).mpr hspelled)

theorem Offers.check {o : Option α} (h : t.Offers name j spelled o)
    (hreads : Reads decode spelled) :
    ∀ v, t.given? name j = some v → check (optional decode) v = .ok () := by
  intro v hv
  cases o with
  | none =>
    obtain hnull | ⟨hnone, -⟩ := h
    · obtain rfl : .null = v := Option.some.inj (hnull.symm.trans hv)
      rfl
    · simp [hnone] at hv
  | some a =>
    obtain ⟨w, hw, hspelled⟩ := h
    obtain rfl : w = v := Option.some.inj (hw.symm.trans hv)
    exact check_eq_ok (hreads.optional_eq_ok_iff.mpr (.inr ⟨a, rfl, hspelled⟩))

/-- A record is decoded exactly to what it spells, if that is so field by field. -/
theorem openRecord_bind_iff {body : Record → Except Decoding.Error α} {a : α} {P : Prop}
    (hbody : ∀ r, Opens j r → (body r = .ok a ↔ P)) (hadmits : P → t.Admits j)
    (hchecks : P → ∀ field ∈ t.fields, ∀ v, t.given? field.1 j = some v → field.2 v = .ok ()) :
    (t.openRecord j >>= body) = .ok a ↔ P := by
  -- the checks on opening refuse nothing that would be decoded afterwards
  rw [Checked.bind_eq_ok_iff]
  constructor
  · rintro ⟨r, hopen, hread⟩
    exact (hbody r (opens_of_openRecord hopen)).mp hread
  · intro h
    obtain ⟨r, hr⟩ := (hadmits h).opens
    exact ⟨r, hr.openRecord (hchecks h), (hbody r hr).mpr h⟩

end RecordType
end DefectGate.Json
