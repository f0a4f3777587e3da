import Mintage.Proofs.Json.Reader
import Mintage.Proofs.Json.Structures

/-!
# Proofs: structures that are read back

A field of a structure is always there, or a value stands for it if it is not there, or it is there
if it is set. A layout lists the fields of a structure with their names and forms, and says how the
structure is made of them. If the names differ, if nothing but the fields is written and if the
reader is that of the layout, then nothing of the structure is lost: it is read back from what was
written, in any order of the members, and a field that need not be set is there exactly if it is
set.
-/

namespace Mintage.Json

open Outcome

variable {α β ρ : Type}

/-! ## Values -/

theorem Reordered.ne_null {j j' : Json} (h : j.Reordered j') (hj : j ≠ .null) : j' ≠ .null := by
  cases h with
  | null => exact absurd rfl hj
  | _ => nofun

theorem readOption_toDraft_iff {read : Reader α} {j : Json} {a? : Option α} :
    Draft.readOption read j.toDraft = .ok a? ↔
      (j = .null ∧ a? = none) ∨ j ≠ .null ∧ ∃ a, read j.toDraft = .ok a ∧ some a = a? := by
  by_cases hNull : j = .null
  · have hRead : Draft.readOption read Json.null.toDraft = .ok none := rfl
    rw [hNull, hRead]
    simp [eq_comm]
  · have hRead : Draft.readOption read j.toDraft = some <$> read j.toDraft := by
      cases j with
      | null => exact absurd rfl hNull
      | _ => rfl
    rw [hRead, map_eq_ok_iff]
    simp [hNull]

theorem reads_bool (b : Bool) : Reads Draft.readBool (.bool b) b := by
  intro j' hj
  cases hj
  rfl

theorem reads_u8 (n : UInt8) : Reads Draft.readU8 (.ofNat n.toNat) n := by
  have hNat := (reads_nat n.toNat_lt).map UInt8.ofNat
  rwa [UInt8.ofNat_toNat] at hNat

/-- A number of 64 bits is read from the integer that it is and from nothing else. -/
theorem readU64_toDraft_iff {j : Json} {n : UInt64} :
    Draft.readU64 j.toDraft = .ok n ↔ j = .ofNat n.toNat := by
  constructor
  · intro h
    obtain ⟨k, hRead, rfl⟩ := map_eq_ok_iff.mp h
    obtain ⟨hRange, passing, hDraft⟩ := Draft.eq_num_of_readNat hRead
    cases j with
    | num number =>
      cases hDraft
      rw [UInt64.toNat_ofNat_of_lt' hRange]
      rfl
    | _ => cases hDraft
  · rintro rfl
    exact (reads_u64 n).of_refl

/-- A way to write values and to read them back, with members in any order. -/
structure Codec (α : Type) where
  write : α → Json
  read : Reader α
  reads : ∀ a, Reads read (write a) a
  ne_null : ∀ a, write a ≠ .null

namespace Codec

def text : Codec String := ⟨.str, Draft.readString, reads_string, nofun⟩

def bool : Codec Bool := ⟨.bool, Draft.readBool, reads_bool, nofun⟩

def u8 : Codec UInt8 := ⟨fun n => .ofNat n.toNat, Draft.readU8, reads_u8, nofun⟩

def u64 : Codec UInt64 := ⟨fun n => .ofNat n.toNat, Draft.readU64, reads_u64, nofun⟩

end Codec

/-! ## Forms of fields -/

/-- How a field is written and read. -/
inductive Form : Type → Type 1 where
  /-- The field is always there. -/
  | required {α : Type} (codec : Codec α) : Form α
  /-- The field is always written. A value stands for it where it is not there. -/
  | defaulted {α : Type} (codec : Codec α) (default : α) : Form α
  /-- The field is there if it is set. Null says that it is not. -/
  | optional {α : Type} (codec : Codec α) : Form (Option α)

namespace Form

/-- The member that is written of a field. -/
def member? (name : String) : {α : Type} → Form α → α → Option (String × Json)
  | _, required codec, a => member name (codec.write a)
  | _, defaulted codec _, a => member name (codec.write a)
  | _, optional codec, a? => Json.member? name codec.write a?

/-- How the field is read. -/
def field (name : String) : {α : Type} → Form α → Record α
  | _, required codec => .required name codec.read
  | _, defaulted codec default => .defaulted name codec.read default
  | _, optional codec => .optionalTail name codec.read

/-- What the field is read as among members. -/
def Stands (ms : List (String × Json)) (name : String) : {α : Type} → Form α → α → Prop
  | _, required codec, a => ∃ j, Has ms name j ∧ codec.read j.toDraft = .ok a
  | _, defaulted codec default, a =>
    (∃ j, Has ms name j ∧ codec.read j.toDraft = .ok a) ∨ (Absent ms name ∧ a = default)
  | _, optional codec, a? =>
    (∃ j a, Has ms name j ∧ j ≠ .null ∧ codec.read j.toDraft = .ok a ∧ a? = some a) ∨
      (a? = none ∧ (Absent ms name ∨ Has ms name .null))

variable {ms : List (String × Json)} {name : String}

theorem made_iff (form : Form α) {a : α} :
    (form.field name).Made (drafts ms) a ↔ form.Stands ms name a := by
  have hRead {β : Type} {read : Reader β} {b : β} :
      (∃ d, Has (drafts ms) name d ∧ read d = .ok b) ↔
        ∃ j, Has ms name j ∧ read j.toDraft = .ok b := by
    simp only [has_drafts_iff]
    constructor
    · rintro ⟨_, ⟨j, hHas, rfl⟩, hRead⟩
      exact ⟨j, hHas, hRead⟩
    · rintro ⟨j, hHas, hRead⟩
      exact ⟨_, ⟨j, hHas, rfl⟩, hRead⟩
  cases form with
  | required codec =>
    refine (Record.made_field_iff (passable_drafts ms)).trans ?_
    rw [hRead]
    exact or_iff_left nofun
  | defaulted codec default =>
    refine (Record.made_field_iff (passable_drafts ms)).trans ?_
    rw [hRead, absent_drafts_iff, Option.some_inj, eq_comm]
    rfl
  | optional codec =>
    refine (Record.made_field_iff (passable_drafts ms)).trans ?_
    rw [hRead, absent_drafts_iff, Option.some_inj]
    simp only [readOption_toDraft_iff, Stands]
    constructor
    · rintro (⟨j, hHas, ⟨rfl, rfl⟩ | ⟨hNull, b, hb, rfl⟩⟩ | ⟨hAbsent, rfl⟩)
      · exact .inr ⟨rfl, .inr hHas⟩
      · exact .inl ⟨j, b, hHas, hNull, hb, rfl⟩
      · exact .inr ⟨rfl, .inl hAbsent⟩
    · rintro (⟨j, b, hHas, hNull, hb, rfl⟩ | ⟨rfl, hAbsent | hHas⟩)
      · exact .inl ⟨j, hHas, .inr ⟨hNull, b, hb, rfl⟩⟩
      · exact .inr ⟨hAbsent, rfl⟩
      · exact .inl ⟨.null, hHas, .inl ⟨rfl, rfl⟩⟩

theorem others_field (form : Form α) (s : (form.field name).State) (key : String) (d : Draft)
    (hKey : key ∉ [name]) : (form.field name).take? s key d = none := by
  cases form with
  | required codec => exact Record.others_field s key d hKey
  | defaulted codec default => exact Record.others_field s key d hKey
  | optional codec => exact Record.others_field s key d hKey

theorem determined (ms : List (String × Json)) (name : String) (form : Form α) :
    (form.field name).Determined [name] (drafts ms) (form.Stands ms name) where
  others := form.others_field
  made_iff := fun _ _ => form.made_iff

/-- What was written of a field is read as it, in whatever order. -/
theorem stands_of_reordered {ms' ns : List (String × Json)} (form : Form α) {a : α}
    (hOnce : ms.filter (·.1 = name) = (form.member? name a).toList)
    (hms : ReorderedMembers ms ms') (hPerm : ms'.Perm ns) : form.Stands ns name a := by
  have hHas {β : Type} (codec : Codec β) (b : β) (hOne : Has ms name (codec.write b)) :
      ∃ j, Has ns name j ∧ j ≠ .null ∧ codec.read j.toDraft = .ok b := by
    obtain ⟨j, hj, hThere⟩ := hOne.reordered hms hPerm
    exact ⟨j, hThere, hj.ne_null (codec.ne_null b), codec.reads b j hj⟩
  cases form with
  | required codec =>
    obtain ⟨j, hThere, -, hRead⟩ := hHas codec a hOnce
    exact ⟨j, hThere, hRead⟩
  | defaulted codec default =>
    obtain ⟨j, hThere, -, hRead⟩ := hHas codec a hOnce
    exact .inl ⟨j, hThere, hRead⟩
  | optional codec =>
    cases a with
    | none => exact .inr ⟨rfl, .inl (Absent.reordered hOnce hms hPerm)⟩
    | some b =>
      obtain ⟨j, hThere, hNull, hRead⟩ := hHas codec b hOnce
      exact .inl ⟨j, b, hThere, hNull, hRead, rfl⟩

end Form

/-! ## Fields of a structure -/

/-- A field of a structure. -/
structure Member (ρ : Type) where
  name : String
  {α : Type}
  form : Form α
  value : ρ → α

namespace Member

/-- What is written of the field. -/
def member? (m : Member ρ) (r : ρ) : Option (String × Json) := m.form.member? m.name (m.value r)

/-- The members of all fields that are there. -/
def written (fields : List (Member ρ)) (r : ρ) : List (String × Json) :=
  fields.filterMap fun m => m.member? r

/-- What the field is read as among members. -/
def Stands (m : Member ρ) (ms : List (String × Json)) (r : ρ) : Prop :=
  m.form.Stands ms m.name (m.value r)

variable {fields : List (Member ρ)} {m : Member ρ} {r : ρ}

theorem written_cons (m : Member ρ) (fields : List (Member ρ)) (r : ρ) :
    written (m :: fields) r = (m.member? r).toList ++ written fields r := by
  rw [written, List.filterMap_cons]
  cases m.member? r with
  | none => rfl
  | some entry => rfl

theorem name_of_member? {entry : String × Json} (h : entry ∈ (m.member? r).toList) :
    entry.1 = m.name := by
  obtain ⟨name, form, value⟩ := m
  rw [Option.mem_toList] at h
  cases form with
  | required codec =>
    cases h
    rfl
  | defaulted codec default =>
    cases h
    rfl
  | optional codec =>
    obtain ⟨a, -, rfl⟩ := Option.map_eq_some_iff.mp h
    rfl

theorem name_of_written {entry : String × Json} (h : entry ∈ written fields r) :
    entry.1 ∈ fields.map (·.name) := by
  obtain ⟨m, hm, hEntry⟩ := List.mem_filterMap.mp h
  rw [name_of_member? (Option.mem_toList.mpr hEntry)]
  exact List.mem_map_of_mem hm

/-- Under different names, what stands under the name of a field is what is written of it. -/
theorem filter_written (hNames : (fields.map (·.name)).Nodup) (hm : m ∈ fields) (r : ρ) :
    (written fields r).filter (·.1 = m.name) = (m.member? r).toList := by
  induction fields with
  | nil => cases hm
  | cons g fields ih =>
    obtain ⟨hHead, hTail⟩ := List.nodup_cons.mp hNames
    rw [written_cons, List.filter_append]
    rcases List.mem_cons.mp hm with rfl | hm
    · have hOwn : (m.member? r).toList.filter (·.1 = m.name) = (m.member? r).toList := by
        refine List.filter_eq_self.mpr fun entry h => ?_
        simpa using name_of_member? h
      have hOthers : (written fields r).filter (·.1 = m.name) = [] := by
        refine List.filter_eq_nil_iff.mpr fun entry h hName => hHead ?_
        have hKey := name_of_written h
        rwa [of_decide_eq_true hName] at hKey
      rw [hOwn, hOthers, List.append_nil]
    · have hOther : (g.member? r).toList.filter (·.1 = m.name) = [] := by
        refine List.filter_eq_nil_iff.mpr fun entry h hName => hHead ?_
        have hSame : m.name = g.name :=
          (of_decide_eq_true hName).symm.trans (name_of_member? h)
        exact List.mem_map.mpr ⟨m, hm, hSame⟩
      rw [hOther, List.nil_append, ih hTail hm]

theorem filter_written_optional {name : String} {codec : Codec α} {value : ρ → Option α}
    (hNames : (fields.map (·.name)).Nodup) (hm : ⟨name, .optional codec, value⟩ ∈ fields) (r : ρ) :
    (written fields r).filter (·.1 = name) =
      (Json.member? name codec.write (value r)).toList :=
  filter_written hNames hm r

/-- What was written is what stands there, in whatever order. -/
theorem stands_of_reordered {ms ns : List (String × Json)}
    (hNames : (fields.map (·.name)).Nodup) (hm : m ∈ fields)
    (hms : ReorderedMembers (written fields r) ms) (hPerm : ms.Perm ns) : m.Stands ns r :=
  m.form.stands_of_reordered (filter_written hNames hm r) hms hPerm

end Member

/-! ## Structures -/

/-- How structures are made of their fields, from the first one on. -/
inductive Layout (ρ : Type) : Type → Type 1 where
  /-- The first field. -/
  | first {α β : Type} (make : α → β) (name : String) (form : Form α) (value : ρ → α) : Layout ρ β
  /-- A further field. -/
  | field {α β : Type} (before : Layout ρ (α → β)) (name : String) (form : Form α)
    (value : ρ → α) : Layout ρ β

namespace Layout

/-- The fields. -/
def fields : {β : Type} → Layout ρ β → List (Member ρ)
  | _, first _ name form value => [⟨name, form, value⟩]
  | _, field before name form value => before.fields ++ [⟨name, form, value⟩]

/-- How the fields are read. -/
def record : {β : Type} → Layout ρ β → Record β
  | _, first make name form _ => make <$> form.field name
  | _, field before name form _ => before.record <*> form.field name

/-- Values of the fields. -/
def Values : {β : Type} → Layout ρ β → Type
  | _, @first _ α _ _ _ _ _ => α
  | _, @field _ α _ before _ _ _ => before.Values × α

/-- What is made of the values. -/
def make : {β : Type} → (l : Layout ρ β) → l.Values → β
  | _, first make _ _ _, a => make a
  | _, field before _ _ _, v => before.make v.1 v.2

/-- The values of the fields. -/
def values : {β : Type} → (l : Layout ρ β) → ρ → l.Values
  | _, first _ _ _ value, r => value r
  | _, field before _ _ value, r => (before.values r, value r)

/-- What the fields are read as among members. -/
def Stand (ms : List (String × Json)) : {β : Type} → (l : Layout ρ β) → l.Values → Prop
  | _, first _ name form _, a => form.Stands ms name a
  | _, field before name form _, v => before.Stand ms v.1 ∧ form.Stands ms name v.2

theorem determined (ms : List (String × Json)) (l : Layout ρ β) :
    l.record.Determined (l.fields.map (·.name)) (drafts ms)
      fun b => ∃ v, l.Stand ms v ∧ l.make v = b := by
  have hPass := passable_drafts ms
  induction l with
  | first make name form value => exact (form.determined ms name).map hPass make
  | field before name form value ih =>
    rw [fields, List.map_append]
    refine (ih.seq (form.determined ms name) hPass).congr fun b => ?_
    constructor
    · rintro ⟨_, a, ⟨⟨v, hv, rfl⟩, ha⟩, rfl⟩
      exact ⟨(v, a), ⟨hv, ha⟩, rfl⟩
    · rintro ⟨⟨v, a⟩, ⟨hv, ha⟩, rfl⟩
      exact ⟨before.make v, a, ⟨⟨v, hv, rfl⟩, ha⟩, rfl⟩

theorem stand_values_iff {ms : List (String × Json)} {r : ρ} (l : Layout ρ β) :
    l.Stand ms (l.values r) ↔ ∀ m ∈ l.fields, m.Stands ms r := by
  induction l with
  | first make name form value =>
    rw [fields, List.forall_mem_singleton]
    rfl
  | field before name form value ih =>
    rw [fields, List.forall_mem_append, List.forall_mem_singleton, ← ih]
    rfl

/-- An object is read as the structure of which the fields stand there. -/
theorem read_eq_ok_iff {l : Layout ρ ρ} (hNames : (l.fields.map (·.name)).Nodup)
    (hMake : ∀ r, l.make (l.values r) = r) (hValues : ∀ v, l.values (l.make v) = v)
    (title : String) {ms : List (String × Json)} {r : ρ} :
    l.record.read title (Json.obj ms).toDraft = .ok r ↔ ∀ m ∈ l.fields, m.Stands ms r := by
  rw [toDraft, toDraftMembers_eq_named, (l.determined ms).read_eq_ok_iff hNames rfl,
    ← stand_values_iff]
  constructor
  · rintro ⟨v, hv, rfl⟩
    rwa [hValues]
  · intro h
    exact ⟨l.values r, h, hMake r⟩

end Layout

theorem Form.eq_none_iff_of_stands {ms : List (String × Json)} {name : String} {codec : Codec α}
    {a? : Option α} (h : (Form.optional codec).Stands ms name a?) :
    a? = none ↔ Absent ms name ∨ Has ms name .null := by
  rcases h with ⟨j, a, hHas, hNull, -, rfl⟩ | ⟨rfl, hNone⟩
  · refine iff_of_false nofun ?_
    rintro (hAbsent | hOther)
    · exact List.cons_ne_nil _ _ (hHas.symm.trans hAbsent)
    · cases hHas.symm.trans hOther
      exact hNull rfl
  · exact iff_of_true rfl hNone

/-- Nothing of a structure with these fields is lost in JSON. -/
structure Lossless (fields : List (Member ρ)) (toJson : ρ → Json) (readJson : Reader ρ) :
    Prop where
  names : (fields.map (·.name)).Nodup
  /-- Nothing but the fields is written. -/
  written : ∀ r, toJson r = .obj (Member.written fields r)
  /-- Each field is read from what stands under its name. -/
  read : ∀ ms r, readJson (Json.obj ms).toDraft = .ok r ↔ ∀ m ∈ fields, m.Stands ms r
  /-- What was written is read back, in whatever order it stands. -/
  readBack : ∀ r, Reads readJson (toJson r) r
  /-- A field that is set is written, whatever it is set to. -/
  set : ∀ (α : Type) (name : String) (codec : Codec α) (value : ρ → Option α),
    ⟨name, .optional codec, value⟩ ∈ fields → ∀ r a, value r = some a →
      Has (Member.written fields r) name (codec.write a)
  /-- A field that is not set is not written. -/
  unset : ∀ (α : Type) (name : String) (codec : Codec α) (value : ρ → Option α),
    ⟨name, .optional codec, value⟩ ∈ fields → ∀ r, value r = none →
      Absent (Member.written fields r) name
  /-- A field is read as not set exactly if it is not there or null. -/
  unset_iff : ∀ (α : Type) (name : String) (codec : Codec α) (value : ρ → Option α),
    ⟨name, .optional codec, value⟩ ∈ fields → ∀ ms r, readJson (Json.obj ms).toDraft = .ok r →
      (value r = none ↔ Absent ms name ∨ Has ms name .null)
  /-- A number of 64 bits stands there as the integer that it is. -/
  exact : ∀ (name : String) (value : ρ → UInt64), ⟨name, .required .u64, value⟩ ∈ fields →
    ∀ ms r, readJson (Json.obj ms).toDraft = .ok r → Has ms name (.ofNat (value r).toNat)
  exact_optional : ∀ (name : String) (value : ρ → Option UInt64),
    ⟨name, .optional .u64, value⟩ ∈ fields → ∀ ms r n, readJson (Json.obj ms).toDraft = .ok r →
      value r = some n → Has ms name (.ofNat n.toNat)

theorem lossless_of {fields : List (Member ρ)} {toJson : ρ → Json} {readJson : Reader ρ}
    (hNames : (fields.map (·.name)).Nodup)
    (hWritten : ∀ r, toJson r = .obj (Member.written fields r))
    (hRead : ∀ ms r, readJson (Json.obj ms).toDraft = .ok r ↔ ∀ m ∈ fields, m.Stands ms r) :
    Lossless fields toJson readJson where
  names := hNames
  written := hWritten
  read := hRead
  readBack := by
    intro r j' hj
    rw [hWritten] at hj
    cases hj with
    | obj hms hPerm =>
      exact (hRead _ r).mpr fun m hm => Member.stands_of_reordered hNames hm hms hPerm
  set := by
    intro α name codec value hm r a hSet
    have hOnce := Member.filter_written_optional hNames hm r
    rw [hSet] at hOnce
    exact hOnce
  unset := by
    intro α name codec value hm r hUnset
    have hOnce := Member.filter_written_optional hNames hm r
    rw [hUnset] at hOnce
    exact hOnce
  unset_iff := by
    intro α name codec value hm ms r h
    exact Form.eq_none_iff_of_stands ((hRead ms r).mp h _ hm)
  exact := by
    intro name value hm ms r h
    obtain ⟨j, hHas, hNumber⟩ := (hRead ms r).mp h _ hm
    rwa [← readU64_toDraft_iff.mp hNumber]
  exact_optional := by
    intro name value hm ms r n h hSet
    rcases (hRead ms r).mp h _ hm with ⟨j, n', hHas, -, hNumber, hSome⟩ | ⟨hNone, -⟩
    · cases hSet.symm.trans hSome
      rwa [← readU64_toDraft_iff.mp hNumber]
    · cases hSet.symm.trans hNone

/-- Nothing is lost if writer and reader follow one layout. -/
theorem Layout.lossless (l : Layout ρ ρ) {toJson : ρ → Json} {title : String}
    (hNames : (l.fields.map (·.name)).Nodup)
    (hWritten : ∀ r, toJson r = .obj (Member.written l.fields r))
    (hMake : ∀ r, l.make (l.values r) = r) (hValues : ∀ v, l.values (l.make v) = v) :
    Lossless l.fields toJson (l.record.read title) :=
  lossless_of hNames hWritten fun _ _ => read_eq_ok_iff hNames hMake hValues title

end Mintage.Json
