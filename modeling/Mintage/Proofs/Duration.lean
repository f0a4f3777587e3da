import Mathlib.Algebra.GroupWithZero.Nat
import Mathlib.Data.List.Perm.Basic
import Mintage.Proofs.Arithmetic
import Mintage.Proofs.Outcome
import Mintage.Time.Duration

/-!
# Proofs: durations as text

A text is read as the exact sum of its parts, and is read at all if that sum fits in 64 bits: the
reader looks at each product and at each sum on the way, but none of these exceeds the whole. So the
order of the parts does not matter.

The text of a duration is read back as that duration. A reader cuts the text at its blanks, which no
part has, and a part at the first character that is no digit, which is where its unit begins. What
the parts stand for adds up to the milliseconds, since the last unit leaves nothing over.

A number of minutes is a duration in two ways, by its text and by itself. Both give the exact
product where it fits in 64 bits. Beyond that the text is refused, and the program stops, unless it
is built without checks of its arithmetic.
-/

namespace Mintage.Duration

/-! ## Words -/

/-- The words of a text: what stands between its blanks. -/
def words (s : String) : List (List Char) := (s.toList.splitOnP isBlank).filter (!·.isEmpty)

theorem modifyHead_behindNothing (ws : List (List Char)) :
    ws.modifyHead (([] : List Char).reverse ++ ·) = ws := by
  cases ws <;> simp

/-- What is read of the current word is joined to what goes on until the first blank. -/
theorem wordsFrom_eq (word cs : List Char) : wordsFrom word cs =
    ((cs.splitOnP isBlank).modifyHead (word.reverse ++ ·)).filter (!·.isEmpty) := by
  induction cs generalizing word with
  | nil => cases word <;> simp [wordsFrom]
  | cons c cs ih =>
    rw [wordsFrom, List.splitOnP_cons_eq_if_modifyHead]
    by_cases hBlank : isBlank c = true
    · have hNext : wordsFrom [] cs = (cs.splitOnP isBlank).filter (!·.isEmpty) := by
        rw [ih, modifyHead_behindNothing]
      rw [if_pos hBlank, if_pos hBlank, hNext]
      cases word <;> simp
    · rw [if_neg hBlank, if_neg hBlank, ih, List.modifyHead_modifyHead]
      simp [Function.comp_def]

theorem wordsFrom_toList (s : String) : wordsFrom [] s.toList = words s := by
  rw [wordsFrom_eq, modifyHead_behindNothing, words]

/-- A word goes on until the first blank. -/
theorem wordsFrom_append {w : List Char} (h : ∀ c ∈ w, isBlank c = false) (word rest : List Char) :
    wordsFrom word (w ++ rest) = wordsFrom (w.reverse ++ word) rest := by
  induction w generalizing word with
  | nil => rfl
  | cons c w ih =>
    obtain ⟨hc, hw⟩ := List.forall_mem_cons.mp h
    rw [List.cons_append, wordsFrom, hc, if_neg Bool.false_ne_true, ih hw, List.reverse_cons,
      List.append_assoc, List.singleton_append]

/-- The words that stand between single blanks. -/
theorem wordsFrom_intercalate {ws : List (List Char)}
    (h : ∀ w ∈ ws, w ≠ [] ∧ ∀ c ∈ w, isBlank c = false) :
    wordsFrom [] ([' '].intercalate ws) = ws := by
  induction ws with
  | nil => rfl
  | cons w ws ih =>
    obtain ⟨⟨hSome, hBlank⟩, hws⟩ := List.forall_mem_cons.mp h
    have hWord : w.reverse.isEmpty = false := by
      rw [List.isEmpty_eq_false_iff, ne_eq, List.reverse_eq_nil_iff]
      exact hSome
    cases ws with
    | nil =>
      have hEnd := wordsFrom_append hBlank [] []
      simp only [List.append_nil] at hEnd
      simp only [List.intercalate_singleton, hEnd, wordsFrom, hWord, if_neg Bool.false_ne_true,
        List.reverse_reverse]
    | cons v ws =>
      have hSpace : isBlank ' ' = true := by decide
      rw [List.intercalate_cons_cons, List.append_assoc, wordsFrom_append hBlank,
        List.singleton_append, wordsFrom, if_pos hSpace, List.append_nil, hWord,
        if_neg Bool.false_ne_true, List.reverse_reverse, ih hws]

/-! ## Parts -/

/-- The names of the units, each with its size in milliseconds. -/
def unitNames : List (String × Nat) :=
  [("d", 86400000), ("day", 86400000), ("days", 86400000), ("h", 3600000), ("m", 60000),
    ("s", 1000), ("ms", 1)]

/-- A part is digits and the name of a unit, and stands for so many times this unit. -/
def IsPart (part : List Char) (millis : Nat) : Prop :=
  ∃ digits, ∃ unit ∈ unitNames, part = digits ++ unit.1.toList ∧ digits ≠ [] ∧
    (∀ c ∈ digits, c.isDigit = true) ∧ millis = Nat.ofDigitChars 10 digits 0 * unit.2

theorem units_subset_unitNames : units ⊆ unitNames := by decide

theorem unitSize?_eq_some_iff {name : String} {size : Nat} :
    unitSize? name = some size ↔ (name, size) ∈ unitNames := by
  constructor
  · intro h
    unfold unitSize? at h
    split at h
    · rename_i hDay
      cases h
      rcases hDay with rfl | rfl
      · decide
      · decide
    · obtain ⟨before, after, hUnits, -⟩ := List.lookup_eq_some_iff.mp h
      apply units_subset_unitNames
      rw [hUnits]
      exact List.mem_append_right _ List.mem_cons_self
  · intro h
    have hSizes : ∀ unit ∈ unitNames, unitSize? unit.1 = some unit.2 := by decide
    exact hSizes _ h

section Parts

variable {unit : String × Nat}

theorem size_pos (hUnit : unit ∈ unitNames) : 0 < unit.2 := by
  have hSizes : ∀ unit ∈ unitNames, 0 < unit.2 := by decide
  exact hSizes unit hUnit

/-- The name of a unit goes on from the digits in front of it, and not from the next word. -/
theorem not_isDigit_isBlank (hUnit : unit ∈ unitNames) {c : Char} (hc : c ∈ unit.1.toList) :
    c.isDigit = false ∧ isBlank c = false := by
  have hLetters : unitNames.all fun unit =>
      unit.1.toList.all fun c => !c.isDigit && !isBlank c := by decide
  simpa using List.all_eq_true.mp (List.all_eq_true.mp hLetters unit hUnit) c hc

theorem not_isBlank_of_isDigit {c : Char} (h : c.isDigit = true) : isBlank c = false := by
  have hRange : 48 ≤ c.toNat ∧ c.toNat ≤ 57 := by
    simpa [Char.isDigit, UInt32.le_iff_toNat_le] using h
  unfold isBlank
  generalize c.toNat = n at hRange
  simp only [Bool.or_eq_false_iff, Bool.and_eq_false_iff, decide_eq_false_iff_not]
  omega

/-- A part is a word. -/
theorem IsPart.word {part : List Char} {millis : Nat} (h : IsPart part millis) :
    part ≠ [] ∧ ∀ c ∈ part, isBlank c = false := by
  obtain ⟨digits, unit, hUnit, rfl, hSome, hDigits, -⟩ := h
  constructor
  · intro hEmpty
    exact hSome (List.append_eq_nil_iff.mp hEmpty).1
  · intro c hc
    rcases List.mem_append.mp hc with hDigit | hLetter
    · exact not_isBlank_of_isDigit (hDigits c hDigit)
    · exact (not_isDigit_isBlank hUnit hLetter).2

/-- The digits of a part end where its unit begins. -/
theorem split_part (hUnit : unit ∈ unitNames) {digits : List Char}
    (hDigits : ∀ c ∈ digits, c.isDigit = true) :
    (digits ++ unit.1.toList).takeWhile Char.isDigit = digits ∧
      (digits ++ unit.1.toList).dropWhile Char.isDigit = unit.1.toList := by
  have hNoDigit : unit.1.toList.takeWhile Char.isDigit = [] ∧
      unit.1.toList.dropWhile Char.isDigit = unit.1.toList := by
    cases hLetters : unit.1.toList with
    | nil => exact ⟨rfl, rfl⟩
    | cons c cs =>
      have hc := (not_isDigit_isBlank hUnit (by rw [hLetters]; exact List.mem_cons_self)).1
      simp [hc]
  constructor
  · rw [List.takeWhile_append_of_pos hDigits, hNoDigit.1, List.append_nil]
  · rw [List.dropWhile_append_of_pos hDigits, hNoDigit.2]

theorem IsPart.unique {part : List Char} {m n : Nat} (hm : IsPart part m) (hn : IsPart part n) :
    m = n := by
  obtain ⟨digits, unit, hUnit, rfl, -, hDigits, rfl⟩ := hm
  obtain ⟨digits', unit', hUnit', hPart, -, hDigits', rfl⟩ := hn
  obtain ⟨hTake, hDrop⟩ := split_part hUnit hDigits
  obtain ⟨hTake', hDrop'⟩ := split_part hUnit' hDigits'
  have hSame : digits' = digits := by rw [← hTake', ← hPart, hTake]
  have hName : unit'.1 = unit.1 := String.toList_inj.mp (by rw [← hDrop', ← hPart, hDrop])
  have hSize : unit'.2 = unit.2 := by
    have hLookup := unitSize?_eq_some_iff.mpr hUnit'
    rw [hName, unitSize?_eq_some_iff.mpr hUnit] at hLookup
    exact (Option.some.inj hLookup).symm
  rw [hSame, hSize]

theorem exists_sizes {parts : List (List Char)} (h : ∀ part ∈ parts, ∃ millis, IsPart part millis) :
    ∃ sizes, List.Forall₂ IsPart parts sizes := by
  induction parts with
  | nil => exact ⟨[], .nil⟩
  | cons part parts ih =>
    obtain ⟨⟨size, hPart⟩, hParts⟩ := List.forall_mem_cons.mp h
    obtain ⟨sizes, hSizes⟩ := ih hParts
    exact ⟨size :: sizes, .cons hPart hSizes⟩

theorem exists_part {parts : List (List Char)} {sizes : List Nat}
    (h : List.Forall₂ IsPart parts sizes) {part : List Char} (hPart : part ∈ parts) :
    ∃ millis, IsPart part millis := by
  induction h with
  | nil => cases hPart
  | cons hFirst _ ih =>
    rcases List.mem_cons.mp hPart with rfl | hLater
    · exact ⟨_, hFirst⟩
    · exact ih hLater

theorem number?_eq_some_iff {digits : List Char} {x : Bounded 64} :
    number? digits = some x ↔ digits ≠ [] ∧ Nat.ofDigitChars 10 digits 0 = x.val := by
  unfold number?
  split
  · rename_i hEmpty
    simp [List.isEmpty_iff.mp hEmpty]
  · rename_i hSome
    rw [← Nat.ofDigitChars_eq_foldl, Bounded.ofNat?_eq_some_iff]
    simp [List.isEmpty_iff.not.mp hSome]

/-- A part is read as what it stands for. That fits only if its number does. -/
theorem partMillis?_eq_some_iff {part : List Char} {x : Bounded 64} :
    partMillis? part = some x ↔ IsPart part x.val := by
  constructor
  · intro h
    obtain ⟨number, hNumber, hMore⟩ := Option.bind_eq_some_iff.mp h
    obtain ⟨size, hSize, hProduct⟩ := Option.bind_eq_some_iff.mp hMore
    obtain ⟨hSome, hValue⟩ := number?_eq_some_iff.mp hNumber
    refine ⟨part.takeWhile Char.isDigit, _, unitSize?_eq_some_iff.mp hSize, ?_, hSome, ?_, ?_⟩
    · rw [String.toList_ofList, List.takeWhile_append_dropWhile]
    · exact List.all_eq_true.mp List.all_takeWhile
    · rw [hValue]
      exact (Bounded.ofNat?_eq_some_iff.mp hProduct).symm
  · rintro ⟨digits, unit, hUnit, rfl, hSome, hDigits, hMillis⟩
    obtain ⟨hTake, hDrop⟩ := split_part hUnit hDigits
    have hLe : Nat.ofDigitChars 10 digits 0 ≤ x.val := by
      rw [hMillis]
      exact Nat.le_mul_of_pos_right _ (size_pos hUnit)
    let number : Bounded 64 := ⟨Nat.ofDigitChars 10 digits 0, Nat.lt_of_le_of_lt hLe x.isLt⟩
    have hNumber : number? digits = some number := number?_eq_some_iff.mpr ⟨hSome, rfl⟩
    have hSize := unitSize?_eq_some_iff.mpr hUnit
    have hProduct : Bounded.ofNat? (number.val * unit.2) = some x :=
      Bounded.ofNat?_eq_some_iff.mpr hMillis.symm
    simp only [partMillis?, hTake, hDrop, String.ofList_toList, hNumber, hSize,
      Option.bind_eq_bind, Option.bind_some, hProduct]

end Parts

/-! ## Sums -/

theorem addParts?_cons_eq_some_iff {millis total : Bounded 64} {part : List Char}
    {parts : List (List Char)} : addParts? millis (part :: parts) = some total ↔
      ∃ more sum : Bounded 64, IsPart part more.val ∧ more.val + millis.val = sum.val ∧
        addParts? sum parts = some total := by
  simp only [addParts?, Option.bind_eq_bind, Option.bind_eq_some_iff, partMillis?_eq_some_iff,
    Bounded.checkedAdd_eq_some_iff]
  constructor
  · rintro ⟨more, hPart, sum, hSum, hRest⟩
    exact ⟨more, sum, hPart, hSum, hRest⟩
  · rintro ⟨more, sum, hPart, hSum, hRest⟩
    exact ⟨more, hPart, sum, hSum, hRest⟩

/-- Parts are added up as if there were no bound, as long as the whole is within it. -/
theorem addParts?_eq_some_iff {millis total : Bounded 64} {parts : List (List Char)} :
    addParts? millis parts = some total ↔
      ∃ sizes, List.Forall₂ IsPart parts sizes ∧ millis.val + sizes.sum = total.val := by
  induction parts generalizing millis with
  | nil => simp [addParts?, Bounded.val_inj]
  | cons part parts ih =>
    rw [addParts?_cons_eq_some_iff]
    constructor
    · rintro ⟨more, sum, hPart, hSum, hRest⟩
      obtain ⟨sizes, hSizes, hTotal⟩ := ih.mp hRest
      refine ⟨more.val :: sizes, .cons hPart hSizes, ?_⟩
      rw [List.sum_cons]
      omega
    · rintro ⟨sizes, hSizes, hTotal⟩
      obtain ⟨size, sizes, hPart, hRest, rfl⟩ := List.forall₂_cons_left_iff.mp hSizes
      rw [List.sum_cons] at hTotal
      have hFits := total.isLt
      let sum : Bounded 64 := ⟨size + millis.val, by omega⟩
      have hSum : sum.val = size + millis.val := rfl
      exact ⟨⟨size, by omega⟩, sum, hPart, rfl, ih.mpr ⟨sizes, hRest, by omega⟩⟩

/-- A text is read as the exact sum of its parts. -/
theorem parse?_eq_some_iff {s : String} {d : Duration} : parse? s = some d ↔
    words s ≠ [] ∧ ∃ sizes, List.Forall₂ IsPart (words s) sizes ∧ d.millis.toNat = sizes.sum := by
  have hZero : (Bounded.zero : Bounded 64).val = 0 := rfl
  simp only [parse?, wordsFrom_toList, Option.bind_eq_bind, Option.bind_eq_some_iff,
    addParts?_eq_some_iff, List.isEmpty_iff, hZero, Nat.zero_add]
  constructor
  · rintro ⟨total, ⟨sizes, hSizes, hTotal⟩, hParsed⟩
    by_cases hNone : words s = []
    · rw [if_pos hNone] at hParsed
      cases hParsed
    · rw [if_neg hNone, Option.some.injEq] at hParsed
      subst hParsed
      refine ⟨hNone, sizes, hSizes, ?_⟩
      rw [hTotal]
      exact UInt64.toNat_ofNat_of_lt' total.isLt
  · rintro ⟨hSome, sizes, hSizes, hSum⟩
    let total : Bounded 64 := ⟨d.millis.toNat, d.millis.toNat_lt⟩
    refine ⟨total, ⟨sizes, hSizes, hSum.symm⟩, ?_⟩
    rw [if_neg hSome, UInt64.ofNat_toNat]

/-- A text without parts, with a word that is no part or with too large a sum is not read. -/
theorem parse?_eq_none_iff {s : String} : parse? s = none ↔
    words s = [] ∨ (∃ word ∈ words s, ∀ millis, ¬ IsPart word millis) ∨
      ∃ sizes, List.Forall₂ IsPart (words s) sizes ∧ 2 ^ 64 ≤ sizes.sum := by
  constructor
  · intro h
    by_contra hOther
    rw [not_or, not_or] at hOther
    obtain ⟨hSome, hNoOther, hNotLarge⟩ := hOther
    have hParts : ∀ word ∈ words s, ∃ millis, IsPart word millis := by
      intro word hWord
      by_contra hNone
      exact hNoOther ⟨word, hWord, fun millis hPart => hNone ⟨millis, hPart⟩⟩
    obtain ⟨sizes, hSizes⟩ := exists_sizes hParts
    have hFits : sizes.sum < 2 ^ 64 :=
      Nat.lt_of_not_le fun hLarge => hNotLarge ⟨sizes, hSizes, hLarge⟩
    have hRead : parse? s = some ⟨UInt64.ofNat sizes.sum⟩ :=
      parse?_eq_some_iff.mpr ⟨hSome, sizes, hSizes, UInt64.toNat_ofNat_of_lt' hFits⟩
    rw [h] at hRead
    cases hRead
  · intro h
    refine Option.eq_none_iff_forall_ne_some.mpr ?_
    intro d hRead
    obtain ⟨hSome, sizes, hSizes, hSum⟩ := parse?_eq_some_iff.mp hRead
    rcases h with hNone | ⟨word, hWord, hNoPart⟩ | ⟨sizes', hSizes', hLarge⟩
    · exact hSome hNone
    · obtain ⟨millis, hPart⟩ := exists_part hSizes hWord
      exact hNoPart millis hPart
    · have hUnique : Relator.RightUnique IsPart := fun _ _ _ => IsPart.unique
      obtain rfl := List.right_unique_forall₂' hUnique hSizes hSizes'
      have hFits := d.millis.toNat_lt
      omega

/-- The order of the parts does not matter. -/
theorem parse?_of_perm {s t : String} (h : (words s).Perm (words t)) : parse? s = parse? t := by
  have hRead : ∀ {s t : String}, (words s).Perm (words t) → ∀ d, parse? s = some d →
      parse? t = some d := by
    intro s t h d hRead
    obtain ⟨hSome, sizes, hSizes, hSum⟩ := parse?_eq_some_iff.mp hRead
    obtain ⟨sizes', hSizes', hSame⟩ := List.perm_comp_forall₂ h.symm hSizes
    refine parse?_eq_some_iff.mpr ⟨?_, sizes', hSizes', ?_⟩
    · intro hNone
      rw [hNone] at h
      exact hSome h.eq_nil
    · rw [hSum, hSame.sum_nat]
  ext d
  exact ⟨hRead h d, hRead h.symm d⟩

/-! ## The text of a duration -/

/-- What is left of a number of milliseconds behind the units. -/
def leftOver (us : List (String × Nat)) (ms : Nat) : Nat := us.foldl (fun ms unit => ms % unit.2) ms

theorem leftOver_units (ms : Nat) : leftOver units ms = 0 := by
  simp only [leftOver, units, List.foldl_cons, List.foldl_nil, Nat.mod_one]

/-- What is written of a number and a unit is a part. -/
theorem isPart_toString {unit : String × Nat} (hUnit : unit ∈ unitNames) (k : Nat) :
    IsPart (toString k ++ unit.1).toList (k * unit.2) := by
  refine ⟨Nat.toDigits 10 k, unit, hUnit, ?_, Nat.toDigits_ne_nil, ?_, ?_⟩
  · rw [String.toList_append, Nat.toString_eq_repr, Nat.toList_repr]
  · intro c hc
    exact Nat.isDigit_of_mem_toDigits (by decide) (by decide) hc
  · rw [Nat.ofDigitChars_ten_toDigits]

/-- The parts stand for all but what is left over. -/
theorem parts_read {us : List (String × Nat)} (hUnits : us ⊆ unitNames) (ms : Nat) :
    ∃ sizes, List.Forall₂ IsPart ((parts us ms).map String.toList) sizes ∧
      sizes.sum + leftOver us ms = ms := by
  induction us generalizing ms with
  | nil => exact ⟨[], .nil, Nat.zero_add ms⟩
  | cons unit us ih =>
    obtain ⟨hUnit, hus⟩ := List.cons_subset.mp hUnits
    obtain ⟨sizes, hSizes, hSum⟩ := ih hus (ms % unit.2)
    have hLeft : leftOver (unit :: us) ms = leftOver us (ms % unit.2) := rfl
    rw [hLeft, parts]
    by_cases hLarge : unit.2 ≤ ms
    · rw [if_pos hLarge, List.map_cons]
      refine ⟨_, .cons (isPart_toString hUnit (ms / unit.2)) hSizes, ?_⟩
      have hWhole : ms / unit.2 * unit.2 + ms % unit.2 = ms := Nat.div_add_mod' ms unit.2
      rw [List.sum_cons]
      omega
    · have hSmall : ms % unit.2 = ms := Nat.mod_eq_of_lt (Nat.lt_of_not_le hLarge)
      rw [hSmall] at hSizes hSum ⊢
      rw [if_neg hLarge]
      exact ⟨sizes, hSizes, hSum⟩

/-- The text of a duration is read as that duration. -/
theorem parse?_text (d : Duration) : parse? d.text = some d := by
  by_cases hZero : d.millis = 0
  · obtain ⟨millis⟩ := d
    subst hZero
    rfl
  · obtain ⟨sizes, hSizes, hSum⟩ := parts_read units_subset_unitNames d.millis.toNat
    rw [leftOver_units, Nat.add_zero] at hSum
    have hWords : words d.text = (parts units d.millis.toNat).map String.toList := by
      rw [← wordsFrom_toList, text, if_neg hZero, String.toList_intercalate]
      refine wordsFrom_intercalate ?_
      intro word hWord
      obtain ⟨millis, hPart⟩ := exists_part hSizes hWord
      exact hPart.word
    refine parse?_eq_some_iff.mpr ⟨?_, sizes, hWords ▸ hSizes, hSum.symm⟩
    rw [hWords]
    intro hNone
    rw [hNone] at hSizes
    cases hSizes
    exact hZero (UInt64.toNat_inj.mp hSum.symm)

theorem parse_eq_ok_iff {s : String} {d : Duration} : parse s = .ok d ↔ parse? s = some d := by
  unfold parse
  cases parse? s <;> simp

theorem parse_eq_error_iff {s : String} : parse s = .error (parseFailure s) ↔ parse? s = none := by
  unfold parse
  cases parse? s <;> simp

theorem parse_text (d : Duration) : parse d.text = .ok d := parse_eq_ok_iff.mpr (parse?_text d)

/-- Durations are read exactly and written without loss.

- A text is read as a duration exactly if it has words, each word is a part, that is, digits and the
  name of a unit, and the milliseconds of the duration are the exact sum of what the parts stand
  for.
- Otherwise the text is refused: it has no word, a word is no part, or the exact sum does not fit in
  64 bits.
- The order of the words matters neither for this nor for the sum.
- The text of a duration is read as just that duration. -/
theorem texts_are_exact_sums :
    (∀ (s : String) (d : Duration), parse s = .ok d ↔ words s ≠ [] ∧
      ∃ sizes, List.Forall₂ IsPart (words s) sizes ∧ d.millis.toNat = sizes.sum) ∧
    (∀ s : String, parse s = .error (parseFailure s) ↔
      words s = [] ∨ (∃ word ∈ words s, ∀ millis, ¬ IsPart word millis) ∨
        ∃ sizes, List.Forall₂ IsPart (words s) sizes ∧ 2 ^ 64 ≤ sizes.sum) ∧
    (∀ (s t : String) (d : Duration), (words s).Perm (words t) →
      (parse s = .ok d ↔ parse t = .ok d)) ∧
    ∀ d : Duration, parse d.text = .ok d := by
  refine ⟨?_, ?_, ?_, ?_⟩
  · intro s d
    rw [parse_eq_ok_iff, parse?_eq_some_iff]
  · intro s
    rw [parse_eq_error_iff, parse?_eq_none_iff]
  · intro s t d hOrder
    rw [parse_eq_ok_iff, parse_eq_ok_iff, parse?_of_perm hOrder]
  · intro d
    exact parse_text d

/-- The longest duration is read from its parts in another order, and one more millisecond is
refused. -/
theorem texts_are_exact_sums_of_longest :
    let longest : Duration := ⟨18446744073709551615⟩
    (words "615ms\t51s 25m 14h\n213503982334d").Perm (words longest.text) ∧
      parse "615ms\t51s 25m 14h\n213503982334d" = .ok longest ∧
      parse "213503982334d 14h 25m 51s 616ms" =
        .error "Invalid duration `213503982334d 14h 25m 51s 616ms`." := by
  intro longest
  have hOrder : (words "615ms\t51s 25m 14h\n213503982334d").Perm (words longest.text) := by
    decide
  obtain ⟨-, -, hSame, hText⟩ := texts_are_exact_sums
  refine ⟨hOrder, ?_, rfl⟩
  exact (hSame _ _ longest hOrder).mpr (hText longest)

/-! ## Minutes -/

/-- The text for so many minutes. -/
def minutesText (n : UInt64) : String := toString n.toNat ++ "m"

theorem isPart_minutesText (n : UInt64) : IsPart (minutesText n).toList (n.toNat * 60000) := by
  have hUnit : ("m", 60000) ∈ unitNames := by decide
  exact isPart_toString hUnit n.toNat

theorem words_minutesText (n : UInt64) : words (minutesText n) = [(minutesText n).toList] := by
  have hWords : wordsFrom [] ([' '].intercalate [(minutesText n).toList]) =
      [(minutesText n).toList] := by
    refine wordsFrom_intercalate fun word hWord => ?_
    rw [List.mem_singleton.mp hWord]
    exact (isPart_minutesText n).word
  rwa [List.intercalate_singleton, wordsFrom_toList] at hWords

/-- The text for some minutes is read as the exact product. -/
theorem parse?_minutesText_eq_some_iff {n : UInt64} {d : Duration} :
    parse? (minutesText n) = some d ↔ d.millis.toNat = n.toNat * 60000 := by
  rw [parse?_eq_some_iff, words_minutesText]
  constructor
  · rintro ⟨-, sizes, hSizes, hSum⟩
    obtain ⟨size, rest, hSize, hRest, rfl⟩ := List.forall₂_cons_left_iff.mp hSizes
    cases hRest
    rw [hSum, List.sum_singleton, hSize.unique (isPart_minutesText n)]
  · intro hProduct
    refine ⟨List.cons_ne_nil _ _, [n.toNat * 60000], .cons (isPart_minutesText n) .nil, ?_⟩
    rw [hProduct, List.sum_singleton]

/-- The text for some minutes is refused if the product does not fit. -/
theorem parse?_minutesText_eq_none_iff {n : UInt64} :
    parse? (minutesText n) = none ↔ 2 ^ 64 ≤ n.toNat * 60000 := by
  rw [Option.eq_none_iff_forall_ne_some]
  constructor
  · intro hNone
    by_contra hSmall
    have hFits : n.toNat * 60000 < 2 ^ 64 := Nat.lt_of_not_le hSmall
    exact hNone ⟨UInt64.ofNat (n.toNat * 60000)⟩
      (parse?_minutesText_eq_some_iff.mpr (UInt64.toNat_ofNat_of_lt' hFits))
  · intro hLarge d hRead
    have hFits := d.millis.toNat_lt
    rw [parse?_minutesText_eq_some_iff.mp hRead] at hFits
    omega

/-! ### Products of words -/

/-- A build with checks stops where the product does not fit. -/
theorem mul_checked_eq_error_iff {a b : UInt64} {fault : Abort} :
    Build.checked.mul a b = .error fault ↔ 2 ^ 64 ≤ a.toNat * b.toNat ∧ fault = .overflow := by
  rw [Build.mul]
  split
  · rename_i hFits
    exact iff_of_false (by simp) fun hLarge => Nat.not_le_of_lt hFits hLarge.1
  · rename_i hLarge
    rw [Except.error.injEq, eq_comm]
    exact (and_iff_right (Nat.le_of_not_lt hLarge)).symm

theorem mul_checked_eq_ok_iff {a b c : UInt64} :
    Build.checked.mul a b = .ok c ↔ c.toNat = a.toNat * b.toNat := by
  have hProduct : (a * b).toNat = a.toNat * b.toNat % 2 ^ 64 := UInt64.toNat_mul a b
  rw [Build.mul]
  split
  · rename_i hFits
    rw [Nat.mod_eq_of_lt hFits] at hProduct
    rw [Except.ok.injEq, ← UInt64.toNat_inj, hProduct, eq_comm]
  · rename_i hLarge
    refine iff_of_false (by simp) fun hExact => hLarge ?_
    rw [← hExact]
    exact c.toNat_lt

theorem mul_of_fits {a b : UInt64} (hFits : a.toNat * b.toNat < 2 ^ 64) (build : Build) :
    build.mul a b = .ok (a * b) := by
  cases build with
  | checked => exact if_pos hFits
  | unchecked => rfl

/-! ### Minutes and their text -/

theorem ofMinutes_eq_ok_iff {build : Build} {n : UInt64} {d : Duration} :
    ofMinutes build n = .ok d ↔ build.mul n 60000 = .ok d.millis := by
  rw [ofMinutes]
  cases build.mul n 60000 with
  | error fault => simp
  | ok millis =>
    constructor
    · rintro ⟨⟩
      rfl
    · intro hSame
      cases hSame
      rfl

theorem ofMinutes_eq_error_iff {build : Build} {n : UInt64} {fault : Abort} :
    ofMinutes build n = .error fault ↔ build.mul n 60000 = .error fault := by
  rw [ofMinutes]
  cases build.mul n 60000 with
  | error fault => simp
  | ok millis => simp

/-- Minutes that fit make the same duration as their text, in every build. Where the product does
not fit in 64 bits, the text is refused, and a program that is built to check arithmetic stops, so
that neither of them ever wraps. A program that is built without the checks goes on with what is
left of the product. -/
theorem minutes_agree_with_their_text (n : UInt64) :
    (∀ build d, parse (minutesText n) = .ok d → ofMinutes build n = .ok d) ∧
    (∀ d, ofMinutes .checked n = .ok d ↔ parse (minutesText n) = .ok d) ∧
    (∀ d, ofMinutes .checked n = .ok d → d.millis.toNat = n.toNat * 60000) ∧
    (ofMinutes .checked n = .error .overflow ↔ 2 ^ 64 ≤ n.toNat * 60000) ∧
    (parse (minutesText n) = .error (parseFailure (minutesText n)) ↔
      2 ^ 64 ≤ n.toNat * 60000) ∧
    ∀ d, ofMinutes .unchecked n = .ok d ↔ d.millis.toNat = n.toNat * 60000 % 2 ^ 64 := by
  have hText : ∀ d, parse (minutesText n) = .ok d ↔ d.millis.toNat = n.toNat * 60000 := by
    intro d
    rw [parse_eq_ok_iff, parse?_minutesText_eq_some_iff]
  have hChecked : ∀ d, ofMinutes .checked n = .ok d ↔ d.millis.toNat = n.toNat * 60000 := by
    intro d
    rw [ofMinutes_eq_ok_iff, mul_checked_eq_ok_iff]
    rfl
  refine ⟨?_, ?_, fun d => (hChecked d).mp, ?_, ?_, ?_⟩
  · intro build d hRead
    have hProduct := (hText d).mp hRead
    have hFits : n.toNat * (60000 : UInt64).toNat < 2 ^ 64 := hProduct ▸ d.millis.toNat_lt
    rw [ofMinutes_eq_ok_iff, mul_of_fits hFits, ← mul_of_fits hFits .checked]
    exact ofMinutes_eq_ok_iff.mp ((hChecked d).mpr hProduct)
  · intro d
    rw [hChecked, hText]
  · rw [ofMinutes_eq_error_iff, mul_checked_eq_error_iff]
    exact and_iff_left rfl
  · rw [parse_eq_error_iff, parse?_minutesText_eq_none_iff]
  · intro d
    rw [ofMinutes_eq_ok_iff, Build.mul, Except.ok.injEq, ← UInt64.toNat_inj, UInt64.toNat_mul,
      eq_comm]
    rfl

/-- Without checks the first product that does not fit leaves some seconds. -/
example : ofMinutes .unchecked 307445734561826 = .ok ⟨8384⟩ := rfl

end Mintage.Duration
