import Mintage.Proofs.Json.Members

/-!
# Proofs: values that are read back

The members of an object have no order: some writers keep that of the declaration, others sort the
names. So what has to be read back of a value is every value that has the same members in any order,
at every depth. `Reads read j a` says that of a reader, with one law for each way of reading. A
record meets every member, in whatever order: it takes the one of each field and passes over the
others, so a structure is read back as soon as each name is there exactly once.
-/

namespace Mintage.Json

open Outcome

variable {α β ε : Type}

/-! ## The order of members -/

mutual

/-- Values that differ at most in the order of the members of their objects. -/
inductive Reordered : Json → Json → Prop
  | null : Reordered .null .null
  | bool (b : Bool) : Reordered (.bool b) (.bool b)
  | num (n : Number) : Reordered (.num n) (.num n)
  | str (s : String) : Reordered (.str s) (.str s)
  | arr {items items' : List Json} : ReorderedItems items items' →
      Reordered (.arr items) (.arr items')
  | obj {ms ms' ns : List (String × Json)} : ReorderedMembers ms ms' → ms'.Perm ns →
      Reordered (.obj ms) (.obj ns)

/-- Lists of such values. -/
inductive ReorderedItems : List Json → List Json → Prop
  | nil : ReorderedItems [] []
  | cons {j j' : Json} {items items' : List Json} : Reordered j j' →
      ReorderedItems items items' → ReorderedItems (j :: items) (j' :: items')

/-- Members of the same names in the same order, each with such values. -/
inductive ReorderedMembers : List (String × Json) → List (String × Json) → Prop
  | nil : ReorderedMembers [] []
  | cons {j j' : Json} {ms ms' : List (String × Json)} (name : String) : Reordered j j' →
      ReorderedMembers ms ms' → ReorderedMembers ((name, j) :: ms) ((name, j') :: ms')

end

mutual

theorem Reordered.refl : (j : Json) → j.Reordered j
  | .null => .null
  | .bool b => .bool b
  | .num n => .num n
  | .str s => .str s
  | .arr items => .arr (ReorderedItems.refl items)
  | .obj ms => .obj (ReorderedMembers.refl ms) (.refl ms)

theorem ReorderedItems.refl : (items : List Json) → ReorderedItems items items
  | [] => .nil
  | j :: items => .cons (Reordered.refl j) (ReorderedItems.refl items)

theorem ReorderedMembers.refl : (ms : List (String × Json)) → ReorderedMembers ms ms
  | [] => .nil
  | (name, j) :: ms => .cons name (Reordered.refl j) (ReorderedMembers.refl ms)

end

/-- The members of one name stay those of that name. -/
theorem ReorderedMembers.filter {ms ms' : List (String × Json)} (h : ReorderedMembers ms ms')
    (p : String → Bool) :
    ReorderedMembers (ms.filter fun m => p m.1) (ms'.filter fun m => p m.1) := by
  cases h with
  | nil => exact .nil
  | cons name hj hms =>
    have ih := hms.filter p
    cases hName : p name with
    | true =>
      simp only [List.filter_cons, hName, if_true]
      exact .cons name hj ih
    | false =>
      simp only [List.filter_cons, hName, if_neg Bool.false_ne_true]
      exact ih

theorem ReorderedMembers.of_single {name : String} {j : Json} {ms : List (String × Json)}
    (h : ReorderedMembers [(name, j)] ms) : ∃ j', j.Reordered j' ∧ ms = [(name, j')] := by
  cases h with
  | cons _ hj hNil =>
    cases hNil
    exact ⟨_, hj, rfl⟩

/-- Exactly one member has the name, and this is its value. -/
def Has {β : Type} (ms : List (String × β)) (name : String) (b : β) : Prop :=
  ms.filter (·.1 = name) = [(name, b)]

/-- No member has the name. -/
def Absent {β : Type} (ms : List (String × β)) (name : String) : Prop :=
  ms.filter (·.1 = name) = []

section Reordered

variable {ms ms' ns : List (String × Json)} {name : String}

/-- The one member of a name is there in any order. -/
theorem Has.reordered {j : Json} (h : Has ms name j) (hms : ReorderedMembers ms ms')
    (hPerm : ms'.Perm ns) : ∃ j', j.Reordered j' ∧ Has ns name j' := by
  have hFilter := hms.filter fun key => key = name
  rw [h] at hFilter
  obtain ⟨j', hj, hSingle⟩ := hFilter.of_single
  have hPermFilter := hPerm.filter (·.1 = name)
  rw [hSingle] at hPermFilter
  exact ⟨j', hj, (List.singleton_perm.mp hPermFilter).symm⟩

theorem Absent.reordered (h : Absent ms name) (hms : ReorderedMembers ms ms')
    (hPerm : ms'.Perm ns) : Absent ns name := by
  have hFilter := hms.filter fun key => key = name
  rw [h] at hFilter
  have hPermFilter := hPerm.filter (·.1 = name)
  cases hNone : ms'.filter (·.1 = name) with
  | nil =>
    rw [hNone] at hPermFilter
    exact List.nil_perm.mp hPermFilter
  | cons m more =>
    rw [hNone] at hFilter
    cases hFilter

end Reordered

/-- An object with one member stays one. -/
theorem Reordered.of_single {name : String} {j k : Json} (h : Reordered (.obj [(name, j)]) k) :
    ∃ j', j.Reordered j' ∧ k = .obj [(name, j')] := by
  cases h with
  | obj hms hPerm =>
    obtain ⟨j', hj, rfl⟩ := hms.of_single
    exact ⟨j', hj, by rw [List.singleton_perm.mp hPerm]⟩

/-! ## Passing over -/

mutual

/-- A value can be passed over: nothing in it is misspelled. -/
theorem passOver_toDraft : (j : Json) → j.toDraft.passOver = .ok ()
  | .null => rfl
  | .bool _ => rfl
  | .num _ => rfl
  | .str _ => rfl
  | .arr items => by
    rw [toDraft, Draft.passOver, passItems_toDraftItems items]
    rfl
  | .obj ms => by
    rw [toDraft, Draft.passOver, passMembers_toDraftMembers ms]
    rfl

theorem passItems_toDraftItems :
    (items : List Json) → Draft.passItems (toDraftItems items) = .ok ()
  | [] => rfl
  | j :: items => by
    rw [toDraftItems, Draft.passItems, passOver_toDraft j]
    exact passItems_toDraftItems items

theorem passMembers_toDraftMembers :
    (ms : List (String × Json)) → Draft.passMembers (toDraftMembers ms) = .ok ()
  | [] => rfl
  | (name, j) :: ms => by
    rw [toDraftMembers, Draft.passMembers, passOver_toDraft j]
    exact passMembers_toDraftMembers ms

end

/-- The drafts of the members of an object. -/
def drafts (ms : List (String × Json)) : List (String × Draft) :=
  ms.map fun m => (m.1, m.2.toDraft)

theorem toDraftMembers_eq_named (ms : List (String × Json)) :
    toDraftMembers ms = named (drafts ms) := by
  rw [toDraftMembers_eq_map, named, drafts, List.map_map]
  rfl

theorem passable_drafts (ms : List (String × Json)) : Passable (drafts ms) := by
  intro m hm
  obtain ⟨⟨name, j⟩, -, rfl⟩ := List.mem_map.mp hm
  exact passOver_toDraft j

theorem filter_drafts (ms : List (String × Json)) (name : String) :
    (drafts ms).filter (·.1 = name) = drafts (ms.filter (·.1 = name)) :=
  List.filter_map ..

/-! ## Plain values -/

/-- A value is read as `a`, whatever the order of its members. -/
def Reads (read : Reader α) (j : Json) (a : α) : Prop :=
  ∀ j', j.Reordered j' → read j'.toDraft = .ok a

theorem Reads.of_refl {read : Reader α} {j : Json} {a : α} (h : Reads read j a) :
    read j.toDraft = .ok a :=
  h j (.refl j)

theorem Reads.map {read : Reader α} {j : Json} {a : α} (h : Reads read j a) (f : α → β) :
    Reads (fun d => f <$> read d) j (f a) := by
  intro j' hj
  simp only [h j' hj]
  rfl

/-- A string has no members to reorder. -/
theorem Reads.of_str {read : Reader α} {s : String} {a : α} (h : read (.str (.of s)) = .ok a) :
    Reads read (.str s) a := by
  intro j' hj
  cases hj
  exact h

theorem reads_string (s : String) : Reads Draft.readString (.str s) s := .of_str rfl

theorem reads_parsed {parse : String → Except ε α} {s : String} {a : α} (h : parse s = .ok a)
    (message : ε → String) : Reads (Draft.readParsed parse message) (.str s) a := by
  refine .of_str ?_
  have hString : Draft.readString (.str (.of s)) = .ok s := rfl
  simp only [Draft.readParsed, hString, bind, Except.bind, h, pure, Except.pure]

theorem reads_nat {bits n : Nat} (h : n < 2 ^ bits) : Reads (Draft.readNat bits) (.ofNat n) n := by
  intro j' hj
  cases hj
  have hRange : (0 : Int) ≤ n ∧ (n : Int) < 2 ^ bits := ⟨Int.natCast_nonneg n, by exact_mod_cast h⟩
  simp only [toDraft, Token.of, Draft.readNat, if_pos hRange, Int.toNat_natCast]

theorem reads_u64 (n : UInt64) : Reads Draft.readU64 (.ofNat n.toNat) n := by
  have hNat := (reads_nat n.toNat_lt).map UInt64.ofNat
  rwa [UInt64.ofNat_toNat] at hNat

/-- The items of an array are read one by one. -/
theorem reads_list {read : Reader α} {write : α → Json} {as : List α}
    (h : ∀ a ∈ as, Reads read (write a) a) :
    Reads (Draft.readList read) (.arr (as.map write)) as := by
  intro j' hj
  cases hj with
  | arr hItems =>
    rename_i items
    have hRead : (toDraftItems items).mapM read = .ok as := by
      induction as generalizing items with
      | nil =>
        cases hItems
        rfl
      | cons a as ih =>
        cases hItems with
        | cons hj hItems =>
          obtain ⟨ha, has⟩ := List.forall_mem_cons.mp h
          rw [toDraftItems, List.mapM_cons, ha _ hj, ih has hItems]
          rfl
    rw [toDraft, Draft.readList, hRead]
    rfl

/-- An array of two items is read as a pair. -/
theorem reads_pair {first : Reader α} {second : Reader β} {j k : Json} {a : α} {b : β}
    (hFirst : Reads first j a) (hSecond : Reads second k b) :
    Reads (Draft.readPair first second) (.arr [j, k]) (a, b) := by
  intro l hl
  cases hl with
  | arr hItems =>
    cases hItems with
    | cons hj hItems =>
      cases hItems with
      | cons hk hNil =>
        cases hNil
        have ha := hFirst _ hj
        have hb := hSecond _ hk
        simp only [toDraft, toDraftItems, Draft.readPair, Draft.nextItem, ha, hb, bind, Except.bind,
          pure, Except.pure]
        rfl

/-! ## Structures -/

namespace Record

/-- A record reads the members `ms` as `a`, in whatever order they stand, and takes no members but
those of the given names. -/
structure Makes (r : Record α) (names : List String) (ms : List (String × Json)) (a : α) :
    Prop where
  others : ∀ s name d, name ∉ names → r.take? s name d = none
  makes : ∀ ms' ns, ReorderedMembers ms ms' → ms'.Perm ns →
    ∃ s, r.takeAll r.start (toDraftMembers ns) = .ok s ∧ r.finish s = .ok a

theorem makes_iff {r : Record α} {names : List String} {ms : List (String × Json)} {a : α} :
    Makes r names ms a ↔
      ∀ ms' ns, ReorderedMembers ms ms' → ms'.Perm ns → Gives r names (drafts ns) a := by
  constructor
  · intro h ms' ns hms hPerm
    obtain ⟨s, hTake, hFinish⟩ := h.makes ms' ns hms hPerm
    rw [toDraftMembers_eq_named] at hTake
    exact ⟨h.others, s, hTake, hFinish⟩
  · intro h
    refine ⟨(h ms ms (.refl ms) (.refl ms)).others, ?_⟩
    intro ms' ns hms hPerm
    rw [toDraftMembers_eq_named]
    exact (h ms' ns hms hPerm).gives

/-- A field is read back if its name is there exactly once. -/
theorem makes_required (name : String) {read : Reader α} {ms : List (String × Json)} {j : Json}
    {a : α} (hOnce : ms.filter (·.1 = name) = [(name, j)]) (h : Reads read j a) :
    Makes (.required name read) [name] ms a := by
  refine makes_iff.mpr fun ms' ns hms hPerm => ?_
  obtain ⟨j', hj, hHas⟩ := Has.reordered hOnce hms hPerm
  refine gives_field (passable_drafts ns) ?_ (h j' hj)
  rw [filter_drafts, hHas]
  rfl

theorem Makes.map {r : Record α} {names : List String} {ms : List (String × Json)} {a : α}
    (h : Makes r names ms a) (f : α → β) : Makes (r.map f) names ms (f a) :=
  makes_iff.mpr fun ms' ns hms hPerm =>
    (makes_iff.mp h ms' ns hms hPerm).map (passable_drafts ns) f

/-- A further field. -/
theorem Makes.field {f : Record (α → β)} {names : List String} {ms : List (String × Json)}
    {g : α → β} (h : Makes f names ms g) (name : String) {read : Reader α} {j : Json} {a : α}
    (hNew : name ∉ names) (hOnce : ms.filter (·.1 = name) = [(name, j)]) (hRead : Reads read j a) :
    Makes (f <*> .required name read) (names ++ [name]) ms (g a) := by
  refine makes_iff.mpr fun ms' ns hms hPerm => ?_
  have hField := makes_iff.mp (makes_required name hOnce hRead) ms' ns hms hPerm
  refine (makes_iff.mp h ms' ns hms hPerm).seq hField (passable_drafts ns) ?_
  intro key hKey
  rwa [List.mem_singleton.mp hKey]

/-- An object is read by a record that makes the structure of its members. -/
theorem Makes.reads {r : Record α} (names : List String) {ms : List (String × Json)} {a : α}
    (h : Makes r names ms a) (title : String) : Reads (r.read title) (.obj ms) a := by
  intro j' hj
  cases hj with
  | obj hms hPerm =>
    rw [toDraft, toDraftMembers_eq_named]
    exact (makes_iff.mp h _ _ hms hPerm).read_eq title rfl

end Record

end Mintage.Json
