import Mintage.Json.Record
import Mintage.Proofs.Outcome

/-!
# Proofs: members that a record takes

A record meets the members of an object one by one. It takes those of its fields and passes over the
others, so as soon as nothing in the others is misspelled, what it makes of an object is decided by
the members of its names alone. Records that are put together make what their parts make of the
same members, if no name is for both parts.
-/

namespace Mintage.Json

open Outcome

variable {α β : Type}

/-- Members as a reader meets them, if all of their names can be read. -/
def named (ds : List (String × Draft)) : List (Token String × Draft) :=
  ds.map fun m => (.of m.1, m.2)

/-- Whoever asks for none of the members can pass over all of them. -/
def Passable (ds : List (String × Draft)) : Prop := ∀ m ∈ ds, m.2.passOver = .ok ()

namespace Record

/-- A record makes `a` of members, and takes no members but those of the given names. -/
structure Gives (r : Record α) (names : List String) (ds : List (String × Draft)) (a : α) :
    Prop where
  others : ∀ s name d, name ∉ names → r.take? s name d = none
  gives : ∃ s, r.takeAll r.start (named ds) = .ok s ∧ r.finish s = .ok a

/-! ## One member -/

/-- Members that are not taken are passed over. -/
theorem takeAll_cons_of_none {r : Record α} {s : r.State} {name : String} {d : Draft}
    {ds : List (String × Draft)} (hPass : d.passOver = .ok ()) (h : r.take? s name d = none) :
    r.takeAll s (named ((name, d) :: ds)) = r.takeAll s (named ds) := by
  have hName : Draft.readToken (.of name) = .ok name := rfl
  simp only [named, List.map_cons, takeAll, hName, bind, Except.bind, h, hPass]
  rfl

theorem takeAll_cons_of_some {r : Record α} {s : r.State} {name : String} {d : Draft}
    {ds : List (String × Draft)} {result : Except ReadError r.State}
    (h : r.take? s name d = some result) :
    r.takeAll s (named ((name, d) :: ds)) = result >>= fun s => r.takeAll s (named ds) := by
  have hName : Draft.readToken (.of name) = .ok name := rfl
  simp only [named, List.map_cons, takeAll, hName, bind, Except.bind, h]

/-- A member is taken or passed over. -/
theorem takeAll_cons_eq_ok_iff {r : Record α} {s t : r.State} {name : String} {d : Draft}
    {ds : List (String × Draft)} (hPass : d.passOver = .ok ()) :
    r.takeAll s (named ((name, d) :: ds)) = .ok t ↔
      (r.take? s name d = none ∧ r.takeAll s (named ds) = .ok t) ∨
      ∃ u, r.take? s name d = some (.ok u) ∧ r.takeAll u (named ds) = .ok t := by
  cases hTake : r.take? s name d with
  | none => simp [takeAll_cons_of_none hPass hTake]
  | some result => simp [takeAll_cons_of_some hTake, bind_eq_ok_iff]

/-! ## Single fields -/

section Field

variable {name : String} {read : Reader α} {absent short : Option α} {ds : List (String × Draft)}

theorem take?_field_of_ne {key : String} (hKey : key ≠ name)
    (s : (field name read absent short).State) (d : Draft) :
    (field name read absent short).take? s key d = none :=
  if_neg hKey

/-- A field passes over all but the members of its name. -/
theorem takeAll_field (hPass : Passable ds) (s : (field name read absent short).State) :
    (field name read absent short).takeAll s (named ds) =
      (field name read absent short).takeAll s (named (ds.filter (·.1 = name))) := by
  induction ds generalizing s with
  | nil => rfl
  | cons m ds ih =>
    obtain ⟨key, d⟩ := m
    obtain ⟨hHere, hRest⟩ := List.forall_mem_cons.mp hPass
    by_cases hKey : key = name
    · obtain ⟨result, hTake⟩ : ∃ result,
          (field name read absent short).take? s key d = some result := ⟨_, if_pos hKey⟩
      rw [List.filter_cons_of_pos (by simpa using hKey), takeAll_cons_of_some hTake,
        takeAll_cons_of_some hTake]
      congr 1
      funext s
      exact ih hRest s
    · rw [List.filter_cons_of_neg (by simpa using hKey),
        takeAll_cons_of_none hHere (take?_field_of_ne hKey s d), ih hRest]

theorem others_field (s : (field name read absent short).State) (key : String) (d : Draft)
    (hKey : key ∉ [name]) : (field name read absent short).take? s key d = none :=
  take?_field_of_ne (fun hEq => hKey (List.mem_singleton.mpr hEq)) s d

/-- A field is read from the one member of its name. -/
theorem gives_field {d : Draft} {a : α} (hPass : Passable ds)
    (hOnce : ds.filter (·.1 = name) = [(name, d)]) (h : read d = .ok a) :
    Gives (field name read absent short) [name] ds a where
  others := others_field
  gives := by
    have hTake : (field name read absent short).take? none name d = some (some <$> read d) :=
      if_pos rfl
    have hAll : (field name read absent short).takeAll none (named [(name, d)]) = .ok (some a) :=
      (takeAll_cons_of_some hTake).trans (by rw [h]; rfl)
    refine ⟨some a, (takeAll_field hPass none).trans ?_, rfl⟩
    rw [hOnce]
    exact hAll

/-- A field without a member has the value for that. -/
theorem gives_field_of_absent {a : α} (hPass : Passable ds)
    (hNone : ds.filter (·.1 = name) = []) :
    Gives (field name read (some a) short) [name] ds a where
  others := others_field
  gives := by
    refine ⟨none, (takeAll_field hPass none).trans ?_, rfl⟩
    rw [hNone]
    rfl

end Field

/-! ## Records put together -/

section

variable {r : Record α} {names : List String} {ds : List (String × Draft)}

/-- Another structure of the same fields is read from the same members. -/
theorem takeAll_map_iff (f : α → β) {s t : r.State} (hPass : Passable ds) :
    (r.map f).takeAll s (named ds) = .ok t ↔ r.takeAll s (named ds) = .ok t := by
  induction ds generalizing s with
  | nil => exact Iff.rfl
  | cons m ds ih =>
    obtain ⟨hHere, hRest⟩ := List.forall_mem_cons.mp hPass
    refine (takeAll_cons_eq_ok_iff hHere).trans (Iff.trans ?_ (takeAll_cons_eq_ok_iff hHere).symm)
    exact or_congr (and_congr Iff.rfl (ih hRest))
      (exists_congr fun u => and_congr Iff.rfl (ih hRest))

theorem Gives.map {a : α} (h : Gives r names ds a) (hPass : Passable ds) (f : α → β) :
    Gives (r.map f) names ds (f a) where
  others := h.others
  gives := by
    obtain ⟨s, hTake, hFinish⟩ := h.gives
    exact ⟨s, (takeAll_map_iff f hPass).mpr hTake, map_eq_ok_iff.mpr ⟨a, hFinish, rfl⟩⟩

end

section And

variable {r : Record α} {r' : Record β} {s : r.State} {s' : r'.State} {name : String} {d : Draft}

theorem take?_and_of_none (h : r.take? s name d = none) (h' : r'.take? s' name d = none) :
    (r.and r').take? (s, s') name d = none := by
  simp only [Record.and, h, h', Option.map_none]

theorem take?_and_of_left {result : Except ReadError r.State}
    (h : r.take? s name d = some result) :
    (r.and r').take? (s, s') name d = some (result.map fun t => (t, s')) := by
  simp only [Record.and, h]

theorem take?_and_of_right {t' : r'.State} (h : r.take? s name d = none)
    (h' : r'.take? s' name d = some (.ok t')) :
    (r.and r').take? (s, s') name d = some (.ok (s, t')) := by
  simp only [Record.and, h, h', Option.map_some, Except.map]

/-- What two records take of the same members they take together, if no member is for both. -/
theorem takeAll_and {t : r.State} {t' : r'.State} {ds : List (String × Draft)}
    (hPass : Passable ds)
    (hApart : ∀ name d, (∀ s, r.take? s name d = none) ∨ ∀ s, r'.take? s name d = none)
    (hFirst : r.takeAll s (named ds) = .ok t) (hSecond : r'.takeAll s' (named ds) = .ok t') :
    (r.and r').takeAll (s, s') (named ds) = .ok (t, t') := by
  induction ds generalizing s s' with
  | nil =>
    cases hFirst
    cases hSecond
    rfl
  | cons m ds ih =>
    obtain ⟨hHere, hRest⟩ := List.forall_mem_cons.mp hPass
    refine (takeAll_cons_eq_ok_iff hHere).mpr ?_
    rcases (takeAll_cons_eq_ok_iff hHere).mp hFirst with ⟨hTake, hMore⟩ | ⟨u, hTake, hMore⟩
    · rcases (takeAll_cons_eq_ok_iff hHere).mp hSecond with ⟨hTake', hMore'⟩ | ⟨u', hTake', hMore'⟩
      · exact .inl ⟨take?_and_of_none hTake hTake', ih hRest hMore hMore'⟩
      · exact .inr ⟨(s, u'), take?_and_of_right hTake hTake', ih hRest hMore hMore'⟩
    · rcases (takeAll_cons_eq_ok_iff hHere).mp hSecond with ⟨hTake', hMore'⟩ | ⟨u', hTake', hMore'⟩
      · exact .inr ⟨(u, s'), take?_and_of_left hTake, ih hRest hMore hMore'⟩
      · rcases hApart m.1 m.2 with hNone | hNone
        · rw [hNone] at hTake
          cases hTake
        · rw [hNone] at hTake'
          cases hTake'

end And

/-- Nothing is read of an object if its first member is taken and cannot be read. -/
theorem read_of_take?_error {r : Record α} {name : String} {d : Draft} {e : ReadError}
    (h : r.take? r.start name d = some (.error e)) (title : String) (ds : List (String × Draft))
    (ending : Ending) : r.read title (.obj (named ((name, d) :: ds)) ending) = .error e := by
  have hAll : r.takeAll r.start (named ((name, d) :: ds)) = .error e := by
    rw [takeAll_cons_of_some h]
    rfl
  rw [read, hAll]
  rfl

/-- A structure is made if each of its parts is, and all of them have different names. -/
theorem Gives.seq {f : Record (α → β)} {r : Record α} {names names' : List String}
    {ds : List (String × Draft)} {g : α → β} {a : α} (h : Gives f names ds g)
    (h' : Gives r names' ds a) (hPass : Passable ds) (hApart : ∀ name ∈ names', name ∉ names) :
    Gives (f <*> r) (names ++ names') ds (g a) := by
  have hAnd : Gives (f.and r) (names ++ names') ds (g, a) := by
    constructor
    · rintro ⟨s, s'⟩ name d hName
      rw [List.mem_append, not_or] at hName
      exact take?_and_of_none (h.others s name d hName.1) (h'.others s' name d hName.2)
    · obtain ⟨s, hTake, hFinish⟩ := h.gives
      obtain ⟨s', hTake', hFinish'⟩ := h'.gives
      refine ⟨(s, s'), takeAll_and hPass ?_ hTake hTake', ?_⟩
      · intro name d
        by_cases hName : name ∈ names'
        · exact .inl fun s => h.others s name d (hApart name hName)
        · exact .inr fun s => h'.others s name d hName
      · simp only [Record.and, hFinish, hFinish', bind, Except.bind, pure, Except.pure]
  exact hAnd.map hPass fun p => p.1 p.2

/-- An object is read by a record that makes the structure of its members. -/
theorem Gives.read_eq {r : Record α} {names : List String} {ds : List (String × Draft)} {a : α}
    (h : Gives r names ds a) (title : String) {ending : Ending}
    (hEnding : ending.wantMember ds.isEmpty = none) :
    r.read title (.obj (named ds) ending) = .ok a := by
  obtain ⟨s, hTake, hFinish⟩ := h.gives
  have hEmpty : (named ds).isEmpty = ds.isEmpty := by rw [named, List.isEmpty_map]
  rw [read, hTake, hEmpty, hEnding]
  exact hFinish

end Record

end Mintage.Json
