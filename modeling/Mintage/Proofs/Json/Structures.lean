import Mintage.Proofs.Json.Record
import Mintage.Proofs.Json.Text

/-!
# Proofs: what objects are read as

What a record makes of the members of an object is decided by what stands under the names of its
fields. Of single fields and of records that are put together this is said both ways: a structure is
made of an object exactly if the object has just one member for each field, from which the field is
read, or none, if the field has a value for that.
-/

namespace Mintage.Json

open Outcome

variable {α β : Type}

/-! ## Members and their drafts -/

theorem has_drafts_iff {ms : List (String × Json)} {name : String} {d : Draft} :
    Has (drafts ms) name d ↔ ∃ j, Has ms name j ∧ j.toDraft = d := by
  unfold Has
  rw [filter_drafts, drafts, List.map_eq_singleton_iff]
  constructor
  · rintro ⟨⟨key, j⟩, hOnce, hPair⟩
    cases hPair
    exact ⟨j, hOnce, rfl⟩
  · rintro ⟨j, hOnce, rfl⟩
    exact ⟨(name, j), hOnce, rfl⟩

theorem absent_drafts_iff {ms : List (String × Json)} {name : String} :
    Absent (drafts ms) name ↔ Absent ms name := by
  unfold Absent
  rw [filter_drafts, drafts, List.map_eq_nil_iff]

namespace Record

/-- A record makes a structure of members. -/
def Made (r : Record α) (ds : List (String × Draft)) (a : α) : Prop :=
  ∃ s, r.takeAll r.start (named ds) = .ok s ∧ r.finish s = .ok a

theorem read_eq_ok_iff {r : Record α} {title : String} {ds : List (String × Draft)}
    {ending : Ending} (hEnding : ending.wantMember ds.isEmpty = none) {a : α} :
    r.read title (.obj (named ds) ending) = .ok a ↔ Made r ds a := by
  have hEmpty : (named ds).isEmpty = ds.isEmpty := by rw [named, List.isEmpty_map]
  rw [read, hEmpty, hEnding, bind_eq_ok_iff]
  rfl

/-! ## Single fields -/

section Field

variable {name : String} {read : Reader α} {absent short : Option α} {ds : List (String × Draft)}
  {a : α}

/-- A field that has been read takes no other member of its name. -/
theorem takeAll_field_seen {b : α} {seen : Option α} (hNames : ∀ m ∈ ds, m.1 = name)
    (h : (field name read absent short).takeAll (some b) (named ds) = .ok seen) :
    ds = [] ∧ seen = some b := by
  cases ds with
  | nil =>
    cases h
    exact ⟨rfl, rfl⟩
  | cons m ds =>
    obtain ⟨key, d⟩ := m
    obtain rfl : key = name := hNames _ List.mem_cons_self
    have hAgain : (field key read absent short).take? (some b) key d =
        some (.error (.duplicateField key)) := if_pos rfl
    rw [takeAll_cons_of_some hAgain] at h
    cases h

/-- Of members of its name a field takes one and no other. -/
theorem takeAll_field_cons_iff {d : Draft} {seen : Option α} (hNames : ∀ m ∈ ds, m.1 = name) :
    (field name read absent short).takeAll none (named ((name, d) :: ds)) = .ok seen ↔
      ds = [] ∧ ∃ b, read d = .ok b ∧ some b = seen := by
  have hTake : (field name read absent short).take? none name d = some (some <$> read d) :=
    if_pos rfl
  rw [takeAll_cons_of_some hTake]
  constructor
  · intro h
    obtain ⟨s, hSeen, hRest⟩ := bind_eq_ok_iff.mp h
    obtain ⟨b, hRead, rfl⟩ := map_eq_ok_iff.mp hSeen
    obtain ⟨hNil, hSame⟩ := takeAll_field_seen hNames hRest
    exact ⟨hNil, b, hRead, hSame.symm⟩
  · rintro ⟨rfl, b, hRead, rfl⟩
    rw [hRead]
    rfl

theorem finish_field_eq_ok_iff {s : Option α} :
    (field name read absent short).finish s = .ok a ↔ s.or absent = some a := by
  cases hOr : s.or absent with
  | none => simp [field, hOr]
  | some b => simp [field, hOr]

/-- A field is made of the one member of its name, or without a member of its value for that. -/
theorem made_field_iff (hPass : Passable ds) : Made (field name read absent short) ds a ↔
    (∃ d, Has ds name d ∧ read d = .ok a) ∨ (Absent ds name ∧ absent = some a) := by
  have hMade : Made (field name read absent short) ds a ↔ ∃ seen : Option α,
      (field name read absent short).takeAll none (named (ds.filter (·.1 = name))) = .ok seen ∧
        seen.or absent = some a := by
    refine exists_congr fun seen => and_congr ?_ finish_field_eq_ok_iff
    exact iff_of_eq (congrArg (· = Except.ok seen) (takeAll_field hPass none))
  have hNames : ∀ m ∈ ds.filter (·.1 = name), m.1 = name := by
    intro m hm
    simpa using (List.mem_filter.mp hm).2
  rw [hMade]
  unfold Has Absent
  cases hFilter : ds.filter (·.1 = name) with
  | nil =>
    constructor
    · rintro ⟨seen, hSeen, hAbsent⟩
      cases hSeen
      exact .inr ⟨rfl, hAbsent⟩
    · rintro (⟨d, hHas, -⟩ | ⟨-, hAbsent⟩)
      · cases hHas
      · exact ⟨none, rfl, hAbsent⟩
  | cons m es =>
    rw [hFilter] at hNames
    obtain ⟨key, d⟩ := m
    obtain ⟨rfl, hMore⟩ := List.forall_mem_cons.mp hNames
    constructor
    · rintro ⟨seen, hSeen, hSome⟩
      obtain ⟨rfl, b, hRead, rfl⟩ := (takeAll_field_cons_iff hMore).mp hSeen
      cases hSome
      exact .inl ⟨d, rfl, hRead⟩
    · rintro (⟨d', hHas, hRead⟩ | ⟨hNone, -⟩)
      · cases hHas
        exact ⟨some a, (takeAll_field_cons_iff hMore).mpr ⟨rfl, a, hRead, rfl⟩, rfl⟩
      · cases hNone

end Field

/-! ## Records put together -/

section And

variable {r : Record α} {r' : Record β} {s t : r.State} {s' t' : r'.State}
  {ds : List (String × Draft)}

theorem none_of_take?_and {name : String} {d : Draft}
    (h : (r.and r').take? (s, s') name d = none) :
    r.take? s name d = none ∧ r'.take? s' name d = none := by
  cases hFirst : r.take? s name d with
  | some found => simp [Record.and, hFirst] at h
  | none =>
    simp only [Record.and, hFirst, Option.map_eq_none_iff] at h
    exact ⟨rfl, h⟩

/-- What two records have taken together each of them takes by itself. -/
theorem takeAll_of_and (hPass : Passable ds)
    (hApart : ∀ name d, (∀ s, r.take? s name d = none) ∨ ∀ s, r'.take? s name d = none)
    (h : (r.and r').takeAll (s, s') (named ds) = .ok (t, t')) :
    r.takeAll s (named ds) = .ok t ∧ r'.takeAll s' (named ds) = .ok t' := by
  induction ds generalizing s s' with
  | nil =>
    cases h
    exact ⟨rfl, rfl⟩
  | cons m ds ih =>
    obtain ⟨hHere, hRest⟩ := List.forall_mem_cons.mp hPass
    have hNot := hApart m.1 m.2
    rcases (takeAll_cons_eq_ok_iff hHere).mp h with ⟨hNone, hMore⟩ | ⟨⟨u, u'⟩, hTake, hMore⟩
    · obtain ⟨hFirst, hSecond⟩ := none_of_take?_and hNone
      obtain ⟨hAll, hAll'⟩ := ih hRest hMore
      exact ⟨(takeAll_cons_eq_ok_iff hHere).mpr (.inl ⟨hFirst, hAll⟩),
        (takeAll_cons_eq_ok_iff hHere).mpr (.inl ⟨hSecond, hAll'⟩)⟩
    · obtain ⟨hAll, hAll'⟩ := ih hRest hMore
      rcases take?_and hTake with ⟨hFirst, rfl⟩ | ⟨hSecond, rfl⟩
      · have hOther : r'.take? u' m.1 m.2 = none := by
          rcases hNot with hNone | hNone
          · simp [hNone] at hFirst
          · exact hNone u'
        exact ⟨(takeAll_cons_eq_ok_iff hHere).mpr (.inr ⟨u, hFirst, hAll⟩),
          (takeAll_cons_eq_ok_iff hHere).mpr (.inl ⟨hOther, hAll'⟩)⟩
      · have hOther : r.take? u m.1 m.2 = none := by
          rcases hNot with hNone | hNone
          · exact hNone u
          · simp [hNone] at hSecond
        exact ⟨(takeAll_cons_eq_ok_iff hHere).mpr (.inl ⟨hOther, hAll⟩),
          (takeAll_cons_eq_ok_iff hHere).mpr (.inr ⟨u', hSecond, hAll'⟩)⟩

theorem made_and_iff (hPass : Passable ds)
    (hApart : ∀ name d, (∀ s, r.take? s name d = none) ∨ ∀ s, r'.take? s name d = none) {a : α}
    {b : β} : Made (r.and r') ds (a, b) ↔ Made r ds a ∧ Made r' ds b := by
  constructor
  · rintro ⟨⟨s, s'⟩, hTake, hFinish⟩
    obtain ⟨hFirst, hSecond⟩ := takeAll_of_and hPass hApart hTake
    obtain ⟨a', ha, hMore⟩ := bind_eq_ok_iff.mp hFinish
    obtain ⟨b', hb, hPair⟩ := bind_eq_ok_iff.mp hMore
    cases hPair
    exact ⟨⟨s, hFirst, ha⟩, s', hSecond, hb⟩
  · rintro ⟨⟨s, hFirst, ha⟩, s', hSecond, hb⟩
    refine ⟨(s, s'), takeAll_and hPass hApart hFirst hSecond, ?_⟩
    exact bind_eq_ok_iff.mpr ⟨a, ha, bind_eq_ok_iff.mpr ⟨b, hb, rfl⟩⟩

end And

theorem made_map_iff {r : Record α} {ds : List (String × Draft)} (hPass : Passable ds) (f : α → β)
    {b : β} : Made (r.map f) ds b ↔ ∃ a, Made r ds a ∧ f a = b := by
  constructor
  · rintro ⟨s, hTake, hFinish⟩
    obtain ⟨a, ha, rfl⟩ := map_eq_ok_iff.mp hFinish
    exact ⟨a, ⟨s, (takeAll_map_iff f hPass).mp hTake, ha⟩, rfl⟩
  · rintro ⟨a, ⟨s, hTake, ha⟩, rfl⟩
    exact ⟨s, (takeAll_map_iff f hPass).mpr hTake, map_eq_ok_iff.mpr ⟨a, ha, rfl⟩⟩

/-- A record takes members of the given names alone, and if these differ, then the structures that
it makes are those of which `P` holds. -/
structure Determined (r : Record α) (names : List String) (ds : List (String × Draft))
    (P : α → Prop) : Prop where
  others : ∀ s name d, name ∉ names → r.take? s name d = none
  made_iff : names.Nodup → ∀ a, Made r ds a ↔ P a

section Determined

variable {names names' : List String} {ds : List (String × Draft)}

theorem Determined.congr {r : Record α} {P P' : α → Prop} (h : Determined r names ds P)
    (hIff : ∀ a, P a ↔ P' a) : Determined r names ds P' where
  others := h.others
  made_iff := fun hNames a => (h.made_iff hNames a).trans (hIff a)

theorem determined_required (hPass : Passable ds) (name : String) (read : Reader α) :
    Determined (required name read) [name] ds fun a => ∃ d, Has ds name d ∧ read d = .ok a where
  others := others_field
  made_iff := fun _ _ => (made_field_iff hPass).trans (or_iff_left nofun)

theorem Determined.map {r : Record α} {P : α → Prop} (h : Determined r names ds P)
    (hPass : Passable ds) (f : α → β) :
    Determined (f <$> r) names ds fun b => ∃ a, P a ∧ f a = b where
  others := h.others
  made_iff := by
    intro hNames b
    refine (made_map_iff hPass f).trans ?_
    exact exists_congr fun a => and_congr_left fun _ => h.made_iff hNames a

theorem Determined.seq {f : Record (α → β)} {r : Record α} {P : (α → β) → Prop} {P' : α → Prop}
    (h : Determined f names ds P) (h' : Determined r names' ds P') (hPass : Passable ds) :
    Determined (f <*> r) (names ++ names') ds fun b => ∃ g a, (P g ∧ P' a) ∧ g a = b where
  others := by
    rintro ⟨s, s'⟩ name d hName
    rw [List.mem_append, not_or] at hName
    exact take?_and_of_none (h.others s name d hName.1) (h'.others s' name d hName.2)
  made_iff := by
    intro hNames b
    obtain ⟨hFirst, hSecond, hDisjoint⟩ := List.nodup_append.mp hNames
    have hApart : ∀ name d, (∀ s, f.take? s name d = none) ∨ ∀ s, r.take? s name d = none := by
      intro name d
      by_cases hName : name ∈ names
      · exact .inr fun s => h'.others s name d fun hOther => hDisjoint name hName name hOther rfl
      · exact .inl fun s => h.others s name d hName
    have hBoth : ∀ g a, Made (f.and r) ds (g, a) ↔ P g ∧ P' a := by
      intro g a
      rw [made_and_iff hPass hApart, h.made_iff hFirst, h'.made_iff hSecond]
    refine (made_map_iff hPass _).trans (Prod.exists.trans ?_)
    exact exists_congr fun g => exists_congr fun a => and_congr_left fun _ => hBoth g a

/-- What an object is read as is decided by what stands under the names of the fields. -/
theorem Determined.read_eq_ok_iff {r : Record α} {P : α → Prop} (h : Determined r names ds P)
    (hNames : names.Nodup) {title : String} {ending : Ending}
    (hEnding : ending.wantMember ds.isEmpty = none) {a : α} :
    r.read title (.obj (named ds) ending) = .ok a ↔ P a :=
  (Record.read_eq_ok_iff hEnding).trans (h.made_iff hNames a)

end Determined

end Record

end Mintage.Json
