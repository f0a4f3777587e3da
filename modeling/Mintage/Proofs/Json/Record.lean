import Mintage.Json.Record
import Mintage.Proofs.Outcome

/-!
# Proofs: structures read from JSON

A structure that is read comes from its fields: each field is read from a draft that stands under
its name in the object, or at its position in the array. Nothing else enters into the structure. The
invariant of an object is that of every state on the way, whatever order the members come in.
-/

namespace Mintage.Json

open Outcome

variable {α β γ : Type}

/-- Where fields stand: which drafts are found for a name and a position. -/
abbrev Fields := String → Nat → Draft → Prop

/-- The fields from a position on. -/
def Fields.drop (n : Nat) (fields : Fields) : Fields := fun name i => fields name (n + i)

/-- The members of an object stand under their names, the items of an array at their positions. -/
def Draft.fields : Draft → Fields
  | .obj members _ => fun name _ d => ∃ passing, (⟨.ok name, passing⟩, d) ∈ members
  | .arr items _ => fun _ i d => items[i]? = some d
  | _ => fun _ _ _ => False

namespace Record

/-- The states that are reached by taking members from a supply. -/
inductive Reached (r : Record α) (supply : String → Draft → Prop) : r.State → Prop
  | start : Reached r supply r.start
  | take {s t : r.State} {name : String} {d : Draft} : Reached r supply s → supply name d →
      r.take? s name d = some (.ok t) → Reached r supply t

theorem reached_takeAll {r : Record α} {supply : String → Draft → Prop} {s t : r.State}
    {members : List (Token String × Draft)} (hs : Reached r supply s)
    (hSupply : ∀ name passing d, (⟨.ok name, passing⟩, d) ∈ members → supply name d)
    (h : r.takeAll s members = .ok t) : Reached r supply t := by
  induction members generalizing s with
  | nil =>
    cases h
    exact hs
  | cons m members ih =>
    obtain ⟨⟨value, passing⟩, d⟩ := m
    have hRest : ∀ name passing d, (⟨.ok name, passing⟩, d) ∈ members → supply name d := by
      intro name passing d hMem
      exact hSupply name passing d (List.mem_cons_of_mem _ hMem)
    obtain ⟨name, hName, hTake⟩ := bind_eq_ok_iff.mp h
    cases value with
    | error fault => cases hName
    | ok found =>
      cases hName
      split at hTake
      · rename_i result hResult
        obtain ⟨u, rfl, hMore⟩ := bind_eq_ok_iff.mp hTake
        exact ih (.take hs (hSupply _ _ _ List.mem_cons_self) hResult) hRest hMore
      · obtain ⟨-, -, hMore⟩ := bind_eq_ok_iff.mp hTake
        exact ih hs hRest hMore

/-- What a record reads from an object or an array has the given relation to the fields of it. -/
structure Yields (r : Record α) (Spec : Fields → α → Prop) : Prop where
  finish : ∀ {supply s a}, Reached r supply s → r.finish s = .ok a →
    Spec (fun name _ d => supply name d) a
  items : ∀ {expected index ending items a rest},
    r.fromItems expected index ending items = .ok (a, rest) →
      rest = items.drop r.size ∧ Spec (fun _ i d => items[i]? = some d) a

theorem eq_some_of_take?_required {name key : String} {read : Reader α} {s t : Option α} {d : Draft}
    (h : (required name read).take? s key d = some (.ok t)) :
    key = name ∧ ∃ a, read d = .ok a ∧ t = some a := by
  by_cases hKey : key = name
  · cases s with
    | some b => simp [required, field, hKey] at h
    | none =>
      simp only [required, field, hKey, if_true, Option.some.injEq] at h
      obtain ⟨a, hRead, rfl⟩ := map_eq_ok_iff.mp h
      exact ⟨hKey, a, hRead, rfl⟩
  · simp [required, field, hKey] at h

theorem eq_some_of_finish_required {name : String} {read : Reader α} {s : Option α} {a : α}
    (h : (required name read).finish s = .ok a) : s = some a := by
  cases s with
  | none => cases h
  | some b =>
    cases h
    rfl

/-- What has been read of a field was read from a draft under its name. -/
theorem read_of_reached {name : String} {read : Reader α} {supply : String → Draft → Prop}
    {s : (required name read).State} (hs : Reached (.required name read) supply s) {a : α}
    (ha : (s : Option α) = some a) : ∃ d, supply name d ∧ read d = .ok a := by
  cases hs with
  | start => cases ha
  | take hs hSupply hTake =>
    obtain ⟨rfl, b, hRead, rfl⟩ := eq_some_of_take?_required hTake
    cases ha
    exact ⟨_, hSupply, hRead⟩

/-- A field is read from a draft that stands where the field does. -/
theorem yields_required (name : String) (read : Reader α) :
    Yields (.required name read) fun fields a => ∃ d, fields name 0 d ∧ read d = .ok a where
  finish := by
    intro supply s a hs h
    exact read_of_reached hs (eq_some_of_finish_required h)
  items := by
    intro expected index ending items a rest h
    cases items with
    | nil =>
      obtain ⟨-, -, hThrow⟩ := bind_eq_ok_iff.mp h
      cases hThrow
    | cons d items =>
      obtain ⟨b, hRead, hPair⟩ := bind_eq_ok_iff.mp h
      cases hPair
      exact ⟨rfl, d, rfl, hRead⟩

/-- Of two records one takes the member, and the state of the other stays. -/
theorem take?_and {r : Record α} {r' : Record β} {s t : r.State} {s' t' : r'.State} {name : String}
    {d : Draft} (h : (r.and r').take? (s, s') name d = some (.ok (t, t'))) :
    (r.take? s name d = some (.ok t) ∧ t' = s') ∨ (r'.take? s' name d = some (.ok t') ∧ t = s) := by
  cases hFirst : r.take? s name d with
  | some found =>
    simp only [Record.and, hFirst, Option.some.injEq] at h
    cases found with
    | error e => cases h
    | ok u =>
      cases h
      exact .inl ⟨rfl, rfl⟩
  | none =>
    simp only [Record.and, hFirst] at h
    obtain ⟨found, hSecond, hFound⟩ := Option.map_eq_some_iff.mp h
    cases found with
    | error e => cases hFound
    | ok u =>
      cases hFound
      exact .inr ⟨hSecond, rfl⟩

/-- The states that two records reach together are reached by each of them. -/
theorem reached_and {r : Record α} {r' : Record β} {supply : String → Draft → Prop}
    {s : (r.and r').State} (h : Reached (r.and r') supply s) :
    Reached r supply (Prod.fst s) ∧ Reached r' supply (Prod.snd s) := by
  induction h with
  | start => exact ⟨.start, .start⟩
  | @take s t name d _ hSupply hTake ih =>
    obtain ⟨s, s'⟩ := s
    obtain ⟨t, t'⟩ := t
    rcases take?_and hTake with ⟨hFirst, rfl⟩ | ⟨hSecond, rfl⟩
    · exact ⟨.take ih.1 hSupply hFirst, ih.2⟩
    · exact ⟨ih.1, .take ih.2 hSupply hSecond⟩

theorem reached_map {r : Record α} (f : α → β) {supply : String → Draft → Prop}
    {s : (r.map f).State} (h : Reached (r.map f) supply s) : Reached r supply s := by
  induction h with
  | start => exact .start
  | take _ hSupply hTake ih => exact .take ih hSupply hTake

variable {r : Record α} {Spec : Fields → α → Prop}

theorem Yields.and {r' : Record β} {Spec' : Fields → β → Prop} (h : Yields r Spec)
    (h' : Yields r' Spec') :
    Yields (r.and r') fun fields p => Spec fields p.1 ∧ Spec' (fields.drop r.size) p.2 where
  finish := by
    intro supply s p hs hFinish
    obtain ⟨a, hFirst, hMore⟩ := bind_eq_ok_iff.mp hFinish
    obtain ⟨b, hSecond, hPair⟩ := bind_eq_ok_iff.mp hMore
    cases hPair
    obtain ⟨hReached, hReached'⟩ := reached_and hs
    exact ⟨h.finish hReached hFirst, h'.finish hReached' hSecond⟩
  items := by
    intro expected index ending items p rest hItems
    obtain ⟨⟨a, mid⟩, hFirst, hMore⟩ := bind_eq_ok_iff.mp hItems
    obtain ⟨⟨b, rest'⟩, hSecond, hPair⟩ := bind_eq_ok_iff.mp hMore
    cases hPair
    obtain ⟨rfl, ha⟩ := h.items hFirst
    obtain ⟨rfl, hb⟩ := h'.items hSecond
    refine ⟨List.drop_drop .., ha, ?_⟩
    simp only [List.getElem?_drop] at hb
    exact hb

theorem Yields.map (h : Yields r Spec) (f : α → β) :
    Yields (r.map f) fun fields b => ∃ a, Spec fields a ∧ f a = b where
  finish := by
    intro supply s b hs hFinish
    obtain ⟨a, ha, rfl⟩ := map_eq_ok_iff.mp hFinish
    exact ⟨a, h.finish (reached_map f hs) ha, rfl⟩
  items := by
    intro expected index ending items b rest hItems
    obtain ⟨⟨a, rest'⟩, ha, hPair⟩ := bind_eq_ok_iff.mp hItems
    cases hPair
    obtain ⟨hRest, hSpec⟩ := h.items ha
    exact ⟨hRest, a, hSpec, rfl⟩

theorem Yields.imp {Spec' : Fields → α → Prop} (h : Yields r Spec)
    (hSpec : ∀ fields a, Spec fields a → Spec' fields a) : Yields r Spec' where
  finish hs hFinish := hSpec _ _ (h.finish hs hFinish)
  items hItems := ⟨(h.items hItems).1, hSpec _ _ (h.items hItems).2⟩

/-- What the fields of one record make is applied to what the fields of another make. -/
theorem Yields.seq {f : Record (α → β)} {Spec' : Fields → (α → β) → Prop} (h' : Yields f Spec')
    (h : Yields r Spec) :
    Yields (f <*> r) fun fields b =>
      ∃ g a, Spec' fields g ∧ Spec (fields.drop f.size) a ∧ g a = b := by
  refine ((h'.and h).map fun p => p.1 p.2).imp ?_
  rintro fields b ⟨⟨g, a⟩, ⟨hg, ha⟩, hb⟩
  exact ⟨g, a, hg, ha, hb⟩

/-- The structure that a record reads comes from the fields of the draft. -/
theorem Yields.of_read (h : Yields r Spec) {title : String} {d : Draft} {a : α}
    (hRead : r.read title d = .ok a) : Spec d.fields a := by
  cases d with
  | obj members ending =>
    obtain ⟨s, hTake, hMore⟩ := bind_eq_ok_iff.mp hRead
    obtain ⟨-, -, hFinish⟩ := bind_eq_ok_iff.mp hMore
    refine h.finish (reached_takeAll .start ?_ hTake) hFinish
    intro name passing d hMem
    exact ⟨passing, hMem⟩
  | arr items ending =>
    obtain ⟨⟨b, rest⟩, hItems, hMore⟩ := bind_eq_ok_iff.mp hRead
    obtain ⟨-, -, hPure⟩ := bind_eq_ok_iff.mp hMore
    cases hPure
    exact (h.items hItems).2
  | buried inner => cases hRead
  | _ => cases hRead

end Record

end Mintage.Json
