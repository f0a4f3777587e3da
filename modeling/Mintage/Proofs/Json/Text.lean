import Mintage.Proofs.Json.RoundTrip

/-!
# Proofs: values read from texts

The draft of a text is like that of its value, but for the brackets, which are there to be closed.
Bytes are the text of a value if their draft is this one and nothing stands behind: then everything
can be read, and nothing is nested too deeply. The members of an object are those of the text, in
their order; a name may come several times. A record is not disturbed by that, as long as the names
of its own fields come once, nor by members that it does not read, even if they are nested too
deeply.

A reader of values of any form keeps one member for each name and sorts the members. A member whose
name comes once is kept.
-/

namespace Mintage.Json

open Outcome

variable {α β : Type}

/-! ## Drafts of texts -/

mutual

/-- The draft of a text of the value. -/
def inText : Json → Draft
  | .null => .null
  | .bool b => .bool b
  | .num n => .num (.of n)
  | .str s => .str (.of s)
  | .arr items => .arr (inTextItems items) .closed
  | .obj ms => .obj (named (inTextMembers ms)) .closed

/-- The drafts of the items of an array in a text. -/
def inTextItems : List Json → List Draft
  | [] => []
  | item :: items => inText item :: inTextItems items

/-- The drafts of the members of an object in a text. -/
def inTextMembers : List (String × Json) → List (String × Draft)
  | [] => []
  | (name, value) :: ms => (name, inText value) :: inTextMembers ms

end

/-- The bytes are a text of the value. -/
def IsText (bytes : Bytes) (j : Json) : Prop := Draft.ofBytes bytes = (j.inText, none)

mutual

theorem passOver_inText : (j : Json) → j.inText.passOver = .ok ()
  | .null => rfl
  | .bool _ => rfl
  | .num _ => rfl
  | .str _ => rfl
  | .arr items => by
    rw [inText, Draft.passOver, passItems_inText items]
    rfl
  | .obj ms => by
    rw [inText, Draft.passOver, passMembers_inText ms]
    rfl

theorem passItems_inText : (items : List Json) → Draft.passItems (inTextItems items) = .ok ()
  | [] => rfl
  | j :: items => by
    rw [inTextItems, Draft.passItems, passOver_inText j]
    exact passItems_inText items

theorem passMembers_inText :
    (ms : List (String × Json)) → Draft.passMembers (named (inTextMembers ms)) = .ok ()
  | [] => rfl
  | (name, j) :: ms => by
    rw [inTextMembers, named, List.map_cons, Draft.passMembers, passOver_inText j]
    exact passMembers_inText ms

end

/-! ## Members -/

/-- No member has the name, or one that is null. -/
def Lacks (ds : List (String × Draft)) (name : String) : Prop :=
  ds.filter (·.1 = name) = [] ∨ Has ds name .null

theorem Has.mem {β : Type} {ms : List (String × β)} {name : String} {b : β} (h : Has ms name b) :
    (name, b) ∈ ms := by
  have hMem : (name, b) ∈ ms.filter (·.1 = name) := h ▸ List.mem_singleton_self _
  exact (List.mem_filter.mp hMem).1

theorem Has.get? {ms : List (String × Json)} {name : String} {j : Json} (h : Has ms name j) :
    (Json.obj ms).get? name = some j := by
  have hFind : ms.reverse.find? (·.1 = name) = some (name, j) := by
    rw [← List.head?_filter, List.filter_reverse, h]
    rfl
  rw [Json.get?, hFind]
  rfl

theorem passMembers_named_iff {ds : List (String × Draft)} :
    Draft.passMembers (named ds) = .ok () ↔ Passable ds := by
  induction ds with
  | nil => exact iff_of_true rfl fun _ hNone => by cases hNone
  | cons m ds ih =>
    have hCons : Draft.passMembers (named (m :: ds)) =
        m.2.passOver >>= fun _ => Draft.passMembers (named ds) := rfl
    rw [hCons, bind_eq_ok_iff, Passable, List.forall_mem_cons, ← Passable, ← ih]
    exact ⟨fun ⟨_, h, hRest⟩ => ⟨h, hRest⟩, fun ⟨h, hRest⟩ => ⟨(), h, hRest⟩⟩

theorem passable_inText (ms : List (String × Json)) : Passable (inTextMembers ms) :=
  passMembers_named_iff.mp (passMembers_inText ms)

/-- Whoever passes over an object passes over its members. -/
theorem Passable.of_has {ds es : List (String × Draft)} {name : String} {ending : Ending}
    (h : Passable ds) (hObj : Has ds name (.obj (named es) ending)) : Passable es := by
  have hPass := h _ hObj.mem
  rw [Draft.passOver, bind_eq_ok_iff] at hPass
  obtain ⟨⟨⟩, hMembers, -⟩ := hPass
  exact passMembers_named_iff.mp hMembers

/-! ## Reading texts -/

theorem readBytes_of_ofBytes {read : Reader α} {bytes : Bytes} {d : Draft} {a : α}
    (hBytes : Draft.ofBytes bytes = (d, none)) (h : read d = .ok a) :
    readBytes read bytes = .ok a := by
  simp only [readBytes, hBytes, h, bind, Except.bind]
  rfl

theorem readString_inText (s : String) : Draft.readString (Json.str s).inText = .ok s := rfl

theorem readInt_inText {bits : Nat} {i : Int} (h : -2 ^ (bits - 1) ≤ i ∧ i < 2 ^ (bits - 1)) :
    Draft.readInt bits (Json.num (.int i)).inText = .ok i :=
  if_pos h

/-- A value that may be null, and is not. -/
theorem readOption_inText {read : Reader α} {j : Json} {a : α} (hNull : j ≠ .null)
    (h : read j.inText = .ok a) : Draft.readOption read j.inText = .ok (some a) := by
  cases j with
  | null => exact absurd rfl hNull
  | _ =>
    rw [inText] at h ⊢
    rw [Draft.readOption, h]
    · rfl
    all_goals
      intros
      contradiction

theorem readOption_obj {read : Reader α} {ms : List (Token String × Draft)} {ending : Ending}
    {a : α} (h : read (.obj ms ending) = .ok a) :
    Draft.readOption read (.obj ms ending) = .ok (some a) := by
  have hSome : Draft.readOption read (.obj ms ending) = some <$> read (.obj ms ending) := rfl
  rw [hSome, h]
  rfl

namespace Record

variable {ds : List (String × Draft)} {name : String} {read : Reader α} {d : Draft} {a : α}

theorem gives_required (hPass : Passable ds) (hOnce : Has ds name d) (h : read d = .ok a) :
    Gives (.required name read) [name] ds a :=
  gives_field hPass hOnce h

/-- A member that may be absent or null is neither. -/
theorem gives_optional (hPass : Passable ds) (hOnce : Has ds name d)
    (h : Draft.readOption read d = .ok (some a)) :
    Gives (.optional name read) [name] ds (some a) :=
  gives_field hPass hOnce h

/-- A member that may be absent or null is one of the two. -/
theorem gives_optional_of_lacks (hPass : Passable ds) (h : Lacks ds name) :
    Gives (.optional name read) [name] ds none := by
  rcases h with hAbsent | hNull
  · exact gives_field_of_absent hPass hAbsent
  · exact gives_field hPass hNull rfl

theorem Gives.read_closed {r : Record α} {names : List String} (h : Gives r names ds a)
    (title : String) : r.read title (.obj (named ds) .closed) = .ok a :=
  h.read_eq title rfl

end Record

/-! ## Values of any form -/

mutual

/-- What a reader of any form keeps of a value. -/
def kept : Json → Json
  | .null => .null
  | .bool b => .bool b
  | .num n => .num n
  | .str s => .str s
  | .arr items => .arr (keptItems items)
  | .obj ms => .obj (Draft.sortMembers (keptMembers ms))

/-- What is kept of the items of an array. -/
def keptItems : List Json → List Json
  | [] => []
  | item :: items => kept item :: keptItems items

/-- What is kept of the values of members. -/
def keptMembers : List (String × Json) → List (String × Json)
  | [] => []
  | (name, value) :: ms => (name, kept value) :: keptMembers ms

end

mutual

/-- A reader of any form reads every text. -/
theorem readAny_inText : (j : Json) → j.inText.readAny = .ok j.kept
  | .null => rfl
  | .bool _ => rfl
  | .num _ => rfl
  | .str _ => rfl
  | .arr items => by
    rw [inText, Draft.readAny, readAnyItems_inText items]
    rfl
  | .obj ms => by
    rw [inText, Draft.readAny, readAnyMembers_inText ms]
    rfl

theorem readAnyItems_inText :
    (items : List Json) → Draft.readAnyItems (inTextItems items) = .ok (keptItems items)
  | [] => rfl
  | j :: items => by
    rw [inTextItems, Draft.readAnyItems, readAny_inText j, readAnyItems_inText items]
    rfl

theorem readAnyMembers_inText : (ms : List (String × Json)) →
    Draft.readAnyMembers (named (inTextMembers ms)) = .ok (keptMembers ms)
  | [] => rfl
  | (name, j) :: ms => by
    have hRest := readAnyMembers_inText ms
    rw [named] at hRest
    rw [inTextMembers, named, List.map_cons, Draft.readAnyMembers, readAny_inText j, hRest]
    rfl

end

theorem kept_single (name : String) (j : Json) :
    (Json.obj [(name, j)]).kept = .obj [(name, j.kept)] := by
  have hAlone : Draft.keepLast [(name, j.kept)] = [(name, j.kept)] := rfl
  rw [kept, keptMembers, keptMembers, Draft.sortMembers, hAlone, List.mergeSort_singleton]

theorem keptMembers_eq_map (ms : List (String × Json)) :
    keptMembers ms = ms.map fun m => (m.1, m.2.kept) := by
  induction ms with
  | nil => rfl
  | cons m ms ih => rw [keptMembers, ih, List.map_cons]

theorem keepLast_sublist (ms : List (String × Json)) : (Draft.keepLast ms).Sublist ms := by
  induction ms with
  | nil => exact .slnil
  | cons m ms ih =>
    rw [Draft.keepLast]
    split
    · exact ih.cons m
    · exact ih.cons_cons m

/-- A member stays if no other one has its name. -/
theorem Has.keepLast {ms : List (String × Json)} {name : String} {j : Json} (h : Has ms name j) :
    Has (Draft.keepLast ms) name j := by
  induction ms with
  | nil => cases h
  | cons m ms ih =>
    by_cases hName : m.1 = name
    · rw [Has, List.filter_cons_of_pos (by simpa using hName), List.cons.injEq] at h
      obtain ⟨rfl, hNone⟩ := h
      have hAlone : ms.any (fun n => n.1 = name) = false := by
        rw [List.any_eq_false]
        exact List.filter_eq_nil_iff.mp hNone
      have hRest : (Draft.keepLast ms).filter (·.1 = name) = [] :=
        List.sublist_nil.mp (hNone ▸ (keepLast_sublist ms).filter _)
      rw [Has, Draft.keepLast, hAlone, if_neg Bool.false_ne_true,
        List.filter_cons_of_pos (by simp), hRest]
    · have hSkip : ∀ ns : List (String × Json),
          (m :: ns).filter (·.1 = name) = ns.filter (·.1 = name) := fun ns =>
        List.filter_cons_of_neg (by simpa using hName)
      have hKept := ih (by rwa [Has, hSkip] at h)
      rw [Draft.keepLast]
      split
      · exact hKept
      · rwa [Has, hSkip]

theorem Has.sortMembers {ms : List (String × Json)} {name : String} {j : Json}
    (h : Has ms name j) : Has (Draft.sortMembers ms) name j := by
  have hPerm := (List.mergeSort_perm (Draft.keepLast ms) fun m n => m.1 ≤ n.1).filter (·.1 = name)
  rw [h.keepLast] at hPerm
  exact List.perm_singleton.mp hPerm

theorem Has.kept {ms : List (String × Json)} {name : String} {j : Json} (h : Has ms name j) :
    Has (Draft.sortMembers (keptMembers ms)) name j.kept := by
  have hKept : Has (keptMembers ms) name j.kept := by
    rw [Has, keptMembers_eq_map, List.filter_map]
    exact congrArg (List.map _) h
  exact hKept.sortMembers

end Mintage.Json
