import Mintage.Proofs.Bounded
import Mintage.Proofs.Json.Reader

/-!
# Proofs: arithmetic with amounts

Amounts are made of machine words, natural numbers, texts, JSON and bytes, and of sums and products
of amounts. Whichever way it is made, an amount is the exact number, as if the width had no bound;
if that number does not fit, there is no amount at all. So the result of a computation, however
long, is the exact one, and there is a result if each number on the way to it fits.
-/

namespace Mintage.Bounded

open Outcome Wire

variable {bits : Nat}

/-! ## Texts -/

/-- A text is a numeral: a digit, then digits and underscores, perhaps behind a plus sign. It stands
for the number that its digits stand for. -/
def IsNumeral (text : String) (n : Nat) : Prop :=
  ∃ first rest, (text.toList = first :: rest ∨ text.toList = '+' :: first :: rest) ∧
    first.isDigit ∧ (∀ c ∈ rest, c.isDigit ∨ c = '_') ∧
    n = Nat.ofDigitChars 10 ((first :: rest).filter (· ≠ '_')) 0

theorem ne_underscore_of_isDigit {c : Char} (h : c.isDigit = true) : c ≠ '_' := by
  rintro rfl
  exact absurd h (by decide)

theorem readDigits_cons_of_isDigit {c : Char} (h : c.isDigit = true) (n : Nat) (cs : List Char) :
    readDigits n (c :: cs) = readDigits (10 * n + (c.toNat - '0'.toNat)) cs := by
  have hNe : c ≠ '_' := ne_underscore_of_isDigit h
  rw [readDigits]
  · rw [if_pos h]
  · exact hNe

theorem readDigits_eq_ok_iff {n m : Nat} {cs : List Char} : readDigits n cs = .ok m ↔
    (∀ c ∈ cs, c.isDigit ∨ c = '_') ∧ m = Nat.ofDigitChars 10 (cs.filter (· ≠ '_')) n := by
  induction cs generalizing n with
  | nil =>
    rw [readDigits, Except.ok.injEq]
    constructor
    · rintro rfl
      exact ⟨nofun, rfl⟩
    · rintro ⟨-, rfl⟩
      rfl
  | cons c cs ih =>
    rw [List.forall_mem_cons]
    by_cases hDigit : c.isDigit = true
    · have hNe : c ≠ '_' := ne_underscore_of_isDigit hDigit
      rw [readDigits_cons_of_isDigit hDigit, ih]
      simp [hDigit, hNe, Nat.ofDigitChars]
    · by_cases hUnderscore : c = '_'
      · subst hUnderscore
        rw [readDigits, ih]
        simp
      · rw [readDigits, if_neg hDigit]
        · simp [hDigit, hUnderscore]
        · exact hUnderscore

/-- What is wrong with digits is one of them, never how many they are. -/
theorem readDigits_ok_or_invalidDigit (n : Nat) (cs : List Char) :
    (∃ m, readDigits n cs = .ok m) ∨ readDigits n cs = .error .invalidDigit := by
  fun_induction readDigits n cs with
  | case1 n => exact .inl ⟨n, rfl⟩
  | case2 n cs ih => exact ih
  | case3 n c cs hNe hDigit ih => exact ih
  | case4 n c cs hNe hDigit => exact .inr rfl

/-- One plus sign is passed over. -/
theorem readNat_behindSign {c : Char} (h : c ≠ '+') (cs : List Char) :
    readNat ('+' :: c :: cs) = readNat (c :: cs) := by
  simp [readNat, h]

theorem readNat_twoSigns (cs : List Char) : readNat ('+' :: '+' :: cs) = .error .invalidDigit := by
  simp [readNat, readDigits]

theorem readNat_of_ne {c : Char} (hSign : c ≠ '+') (hNe : c ≠ '_') (cs : List Char) :
    readNat (c :: cs) = readDigits 0 (c :: cs) := by
  simp [readNat, hSign, hNe]

theorem readNat_unsigned_eq_ok_iff {c : Char} {cs : List Char} {n : Nat} (hSign : c ≠ '+') :
    readNat (c :: cs) = .ok n ↔ c.isDigit ∧ (∀ d ∈ cs, d.isDigit ∨ d = '_') ∧
      n = Nat.ofDigitChars 10 ((c :: cs).filter (· ≠ '_')) 0 := by
  by_cases hNe : c = '_'
  · subst hNe
    constructor
    · intro h
      cases h
    · rintro ⟨hDigit, -⟩
      exact absurd hDigit (by decide)
  · rw [readNat_of_ne hSign hNe, readDigits_eq_ok_iff, List.forall_mem_cons, and_assoc,
      or_iff_left hNe]

theorem ne_plus_of_isDigit {c : Char} (h : c.isDigit = true) : c ≠ '+' := by
  rintro rfl
  exact absurd h (by decide)

theorem readNat_eq_ok_iff {text : String} {n : Nat} :
    readNat text.toList = .ok n ↔ IsNumeral text n := by
  constructor
  · intro h
    cases hText : text.toList with
    | nil =>
      rw [hText] at h
      cases h
    | cons c cs =>
      rw [hText] at h
      by_cases hSign : c = '+'
      · subst hSign
        cases cs with
        | nil => cases h
        | cons d ds =>
          by_cases hTwo : d = '+'
          · subst hTwo
            rw [readNat_twoSigns] at h
            cases h
          · rw [readNat_behindSign hTwo, readNat_unsigned_eq_ok_iff hTwo] at h
            exact ⟨d, ds, .inr hText, h⟩
      · rw [readNat_unsigned_eq_ok_iff hSign] at h
        exact ⟨c, cs, .inl hText, h⟩
  · rintro ⟨c, cs, hText | hText, hDigit, hRest⟩
    · rw [hText, readNat_unsigned_eq_ok_iff (ne_plus_of_isDigit hDigit)]
      exact ⟨hDigit, hRest⟩
    · have hSign : c ≠ '+' := ne_plus_of_isDigit hDigit
      rw [hText, readNat_behindSign hSign, readNat_unsigned_eq_ok_iff hSign]
      exact ⟨hDigit, hRest⟩

/-- What is no numeral has no digits or a character that is none. -/
theorem readNat_error {cs : List Char} {e : Error} (h : readNat cs = .error e) :
    e = .empty ∨ e = .invalidDigit := by
  have hDigits {cs : List Char} (hError : readDigits 0 cs = .error e) : e = .invalidDigit := by
    rcases readDigits_ok_or_invalidDigit 0 cs with ⟨m, hOk⟩ | hInvalid
    · rw [hOk] at hError
      cases hError
    · rw [hInvalid] at hError
      cases hError
      rfl
  simp only [readNat] at h
  split at h
  · cases h
    exact .inl rfl
  · cases h
    exact .inr rfl
  · exact .inr (hDigits h)

/-! ## Numbers that fit -/

theorem ofNat?_eq_none_iff {n : Nat} :
    (ofNat? n : Option (Bounded bits)) = none ↔ 2 ^ bits ≤ n := by
  unfold ofNat?
  split
  · rename_i hFits
    simp [hFits]
  · rename_i hFits
    simpa using hFits

theorem ofNat_eq_ok_iff {n : Nat} {x : Bounded bits} : ofNat n = .ok x ↔ n = x.val := by
  rw [← ofNat?_eq_some_iff, ofNat]
  cases (ofNat? n : Option (Bounded bits)) with
  | none => simp
  | some y => simp

theorem ofNat_eq_error_iff {n : Nat} {e : Error} :
    (ofNat n : Except Error (Bounded bits)) = .error e ↔ 2 ^ bits ≤ n ∧ e = .overflow bits := by
  rw [← ofNat?_eq_none_iff, ofNat]
  cases (ofNat? n : Option (Bounded bits)) with
  | none => simp [eq_comm]
  | some y => simp

theorem parse_eq_ok_iff {text : String} {x : Bounded bits} :
    parse text = .ok x ↔ IsNumeral text x.val := by
  rw [parse, Outcome.bind_eq_ok_iff, ← readNat_eq_ok_iff]
  constructor
  · rintro ⟨n, hNat, hFits⟩
    rwa [ofNat_eq_ok_iff.mp hFits] at hNat
  · intro hNat
    exact ⟨x.val, hNat, ofNat_eq_ok_iff.mpr rfl⟩

/-- A numeral is refused for its size alone. -/
theorem parse_eq_overflow_iff {text : String} :
    (parse text : Except Error (Bounded bits)) = .error (.overflow bits) ↔
      ∃ n, IsNumeral text n ∧ 2 ^ bits ≤ n := by
  simp only [← readNat_eq_ok_iff]
  rw [parse]
  cases hNat : readNat text.toList with
  | error e =>
    have hOther : e ≠ .overflow bits := by
      rcases readNat_error hNat with rfl | rfl
      all_goals exact nofun
    constructor
    · intro h
      cases h
      exact absurd rfl hOther
    · rintro ⟨n, hOk, -⟩
      cases hOk
  | ok n =>
    rw [Outcome.bind_of_ok, ofNat_eq_error_iff]
    simp

/-- What is read is what was written. -/
theorem isNumeral_toString (x : Bounded bits) : IsNumeral (toString x) x.val := by
  have hText : (toString x).toList = Nat.toDigits 10 x.val := by
    change (toString x.val).toList = _
    rw [Nat.toString_eq_repr, Nat.toList_repr]
  have hDigits : ∀ c ∈ Nat.toDigits 10 x.val, c.isDigit = true := by
    intro c hc
    exact Nat.isDigit_of_mem_toDigits (by decide) (by decide) hc
  have hSome : Nat.toDigits 10 x.val ≠ [] := Nat.toDigits_ne_nil
  obtain ⟨first, rest, hCons⟩ := List.exists_cons_of_ne_nil hSome
  rw [hCons] at hText hDigits
  obtain ⟨hFirst, hRest⟩ := List.forall_mem_cons.mp hDigits
  refine ⟨first, rest, .inl hText, hFirst, fun c hc => .inl (hRest c hc), ?_⟩
  have hFilter : (first :: rest).filter (· ≠ '_') = first :: rest := by
    refine List.filter_eq_self.mpr fun c hc => ?_
    exact decide_eq_true (ne_underscore_of_isDigit (hDigits c hc))
  rw [hFilter, ← hCons]
  exact Nat.ofDigitChars_ten_toDigits.symm

theorem parse_toString (x : Bounded bits) : parse (toString x) = .ok x :=
  parse_eq_ok_iff.mpr (isNumeral_toString x)

/-! ## JSON -/

/-- A string is read as the text that it is. -/
theorem readJson_text (text : String) (passing : Option Json.Fault) :
    (readJson (.str ⟨.ok text, passing⟩) : Except Json.ReadError (Bounded bits)) =
      (parse text).mapError fun e => .refused e.message := by
  have hText : Json.Draft.readString (.str ⟨.ok text, passing⟩) = .ok text := rfl
  rw [readJson, Json.Draft.readParsed, hText, Outcome.bind_of_ok]
  cases (parse text : Except Error (Bounded bits)) with
  | ok x => rfl
  | error e => rfl

theorem readJson_eq_ok_iff {d : Json.Draft} {x : Bounded bits} : readJson d = .ok x ↔
    ∃ text passing, d = .str ⟨.ok text, passing⟩ ∧ parse text = .ok x := by
  constructor
  · intro h
    obtain ⟨text, hText, -⟩ := Outcome.bind_eq_ok_iff.mp h
    obtain ⟨passing, rfl⟩ := Json.Draft.eq_str_of_readString hText
    rw [readJson_text, Outcome.mapError_eq_ok_iff] at h
    exact ⟨text, passing, rfl, h⟩
  · rintro ⟨text, passing, rfl, hParse⟩
    rwa [readJson_text, Outcome.mapError_eq_ok_iff]

/-! ## Bytes -/

/-- The shortest binary form of a natural number. -/
def shortest (n : Nat) : Bytes := UInt8.ofNat (byteLength n) :: digits n

theorem run_decode_eq_ok_iff {bs : Bytes} {x : Bounded bits} : decode.run bs = .ok x ↔
    ∃ length bytes, bs = length :: bytes ∧ bytes.length = length.toNat ∧ 8 * bytes.length ≤ bits ∧
      ofLittleEndian bytes = x.val := by
  rw [Wire.run_eq_ok_iff, decode_eq_ok_iff]
  simp only [List.append_nil]

/-- Of a number that does not fit, the shortest form is too long. -/
theorem width_lt_of_le {n : Nat} (h : 2 ^ bits ≤ n) : bits < 8 * byteLength n := by
  have hPow : 256 ^ byteLength n = 2 ^ (8 * byteLength n) := (Nat.pow_mul 2 8 _).symm
  have hBelow : 2 ^ bits < 2 ^ (8 * byteLength n) := by
    rw [← hPow]
    exact Nat.lt_of_le_of_lt h (lt_pow_byteLength n)
  exact (Nat.pow_lt_pow_iff_right (by decide)).mp hBelow

theorem run_shortest_eq_ok_iff (hBytes : 8 ∣ bits) {n : Nat} (hLength : byteLength n < 256)
    {x : Bounded bits} : decode.run (shortest n) = .ok x ↔ n = x.val := by
  have hCount : (digits n).length = (UInt8.ofNat (byteLength n)).toNat := by
    rw [length_digits, UInt8.toNat_ofNat_of_lt' hLength]
  rw [run_decode_eq_ok_iff]
  constructor
  · rintro ⟨length, bytes, hForm, -, -, hValue⟩
    obtain ⟨-, rfl⟩ := List.cons.inj hForm
    rwa [ofLittleEndian_digits] at hValue
  · rintro rfl
    refine ⟨_, _, rfl, hCount, ?_, ofLittleEndian_digits _⟩
    rw [length_digits]
    exact byteLength_le_width hBytes

theorem run_shortest_of_le {n : Nat} (hLength : byteLength n < 256) (h : 2 ^ bits ≤ n) :
    (decode : Decoder (Bounded bits)).run (shortest n) =
      .error (.tooWide (UInt8.ofNat (byteLength n)) s!"U{bits}") := by
  have hWidth : bits < 8 * (UInt8.ofNat (byteLength n)).toNat := by
    rw [UInt8.toNat_ofNat_of_lt' hLength]
    exact width_lt_of_le h
  have hByte : decodeByte (shortest n) = .ok (UInt8.ofNat (byteLength n), digits n) := rfl
  refine run_of_error ?_
  rw [decode, Wire.bind_of_ok hByte]
  exact congrFun (if_pos hWidth) _

/-! ## Sums, products and order -/

theorem checkedAdd_eq_some_iff {x y z : Bounded bits} :
    x.checkedAdd y = some z ↔ x.val + y.val = z.val := ofNat?_eq_some_iff

theorem checkedMul_eq_some_iff {x y z : Bounded bits} :
    x.checkedMul y = some z ↔ x.val * y.val = z.val := ofNat?_eq_some_iff

theorem checkedAdd_eq_none_iff {x y : Bounded bits} :
    x.checkedAdd y = none ↔ 2 ^ bits ≤ x.val + y.val := ofNat?_eq_none_iff

theorem checkedMul_eq_none_iff {x y : Bounded bits} :
    x.checkedMul y = none ↔ 2 ^ bits ≤ x.val * y.val := ofNat?_eq_none_iff

theorem compare_eq (x y : Bounded bits) : compare x y = compare x.val y.val := by
  change (compare x.val y.val).then .eq = compare x.val y.val
  cases compare x.val y.val with
  | lt => rfl
  | eq => rfl
  | gt => rfl

/-! ## Computations -/

/-- The ways in which amounts are made. -/
inductive Computation where
  | word (n : UInt64)
  | natural (n : Nat)
  | text (s : String)
  | json (d : Json.Draft)
  | bytes (bs : Bytes)
  | sum (c d : Computation)
  | product (c d : Computation)

namespace Computation

/-- The amount that is made, if every step succeeds. -/
def run (wide : 64 ≤ bits) : Computation → Option (Bounded bits)
  | word n => some (ofUInt64 n wide)
  | natural n => (ofNat n).toOption
  | text s => (parse s).toOption
  | json d => (readJson d).toOption
  | bytes bs => (decode.run bs).toOption
  | sum c d => do (← c.run wide).checkedAdd (← d.run wide)
  | product c d => do (← c.run wide).checkedMul (← d.run wide)

/-- The natural number that a computation comes to, where each number on the way is less than
`2 ^ bits`. Bytes come with their length, which may not exceed the width. -/
inductive HasValue (bits : Nat) : Computation → Nat → Prop where
  | word (n : UInt64) : HasValue bits (word n) n.toNat
  | natural {n : Nat} (hFits : n < 2 ^ bits) : HasValue bits (natural n) n
  | text {s : String} {n : Nat} (hNumeral : IsNumeral s n) (hFits : n < 2 ^ bits) :
      HasValue bits (text s) n
  | json {s : String} {n : Nat} (passing : Option Json.Fault) (hNumeral : IsNumeral s n)
      (hFits : n < 2 ^ bits) : HasValue bits (json (.str ⟨.ok s, passing⟩)) n
  | bytes {length : UInt8} {digits : Bytes} (hLength : digits.length = length.toNat)
      (hWidth : 8 * digits.length ≤ bits) :
      HasValue bits (bytes (length :: digits)) (ofLittleEndian digits)
  | sum {c d : Computation} {m n : Nat} (hLeft : HasValue bits c m) (hRight : HasValue bits d n)
      (hFits : m + n < 2 ^ bits) : HasValue bits (sum c d) (m + n)
  | product {c d : Computation} {m n : Nat} (hLeft : HasValue bits c m)
      (hRight : HasValue bits d n) (hFits : m * n < 2 ^ bits) : HasValue bits (product c d) (m * n)

theorem HasValue.lt (wide : 64 ≤ bits) {c : Computation} {n : Nat} (h : c.HasValue bits n) :
    n < 2 ^ bits := by
  cases h with
  | word n => exact Nat.lt_of_lt_of_le n.toNat_lt (Nat.pow_le_pow_right (by decide) wide)
  | bytes hLength hWidth =>
    rename_i length digits
    have hPow : 256 ^ digits.length = 2 ^ (8 * digits.length) := (Nat.pow_mul 2 8 _).symm
    calc ofLittleEndian digits
      _ < 256 ^ digits.length := ofLittleEndian_lt digits
      _ = 2 ^ (8 * digits.length) := hPow
      _ ≤ 2 ^ bits := Nat.pow_le_pow_right (by decide) hWidth
  | natural hFits | text _ hFits | json _ _ hFits | sum _ _ hFits | product _ _ hFits =>
    exact hFits

/-- What a computation makes is the number that it comes to: one step each, by induction on the
computation. -/
theorem run_eq_some_iff (wide : 64 ≤ bits) {c : Computation} {x : Bounded bits} :
    c.run wide = some x ↔ c.HasValue bits x.val := by
  constructor
  · intro h
    induction c generalizing x with
    | word n =>
      cases h
      exact .word n
    | natural n =>
      obtain rfl := ofNat_eq_ok_iff.mp (eq_ok_of_toOption h)
      exact .natural x.isLt
    | text s => exact .text (parse_eq_ok_iff.mp (eq_ok_of_toOption h)) x.isLt
    | json d =>
      obtain ⟨s, passing, rfl, hParse⟩ := readJson_eq_ok_iff.mp (eq_ok_of_toOption h)
      exact .json passing (parse_eq_ok_iff.mp hParse) x.isLt
    | bytes bs =>
      obtain ⟨length, digits, rfl, hLength, hWidth, hValue⟩ :=
        run_decode_eq_ok_iff.mp (eq_ok_of_toOption h)
      exact hValue ▸ .bytes hLength hWidth
    | sum c d ihc ihd =>
      obtain ⟨y, hLeft, hRest⟩ := Option.bind_eq_some_iff.mp h
      obtain ⟨z, hRight, hSum⟩ := Option.bind_eq_some_iff.mp hRest
      have hVal := checkedAdd_eq_some_iff.mp hSum
      exact hVal ▸ .sum (ihc hLeft) (ihd hRight) (hVal ▸ x.isLt)
    | product c d ihc ihd =>
      obtain ⟨y, hLeft, hRest⟩ := Option.bind_eq_some_iff.mp h
      obtain ⟨z, hRight, hProduct⟩ := Option.bind_eq_some_iff.mp hRest
      have hVal := checkedMul_eq_some_iff.mp hProduct
      exact hVal ▸ .product (ihc hLeft) (ihd hRight) (hVal ▸ x.isLt)
  · intro h
    generalize hVal : x.val = n at h
    induction h generalizing x with
    | word n => exact congrArg some (val_inj.mp hVal.symm)
    | natural hFits => exact toOption_eq_some_iff.mpr (ofNat_eq_ok_iff.mpr hVal.symm)
    | text hNumeral hFits =>
      exact toOption_eq_some_iff.mpr (parse_eq_ok_iff.mpr (hVal ▸ hNumeral))
    | json passing hNumeral hFits =>
      exact toOption_eq_some_iff.mpr
        (readJson_eq_ok_iff.mpr ⟨_, passing, rfl, parse_eq_ok_iff.mpr (hVal ▸ hNumeral)⟩)
    | bytes hLength hWidth =>
      exact toOption_eq_some_iff.mpr
        (run_decode_eq_ok_iff.mpr ⟨_, _, rfl, hLength, hWidth, hVal.symm⟩)
    | @sum c d m n hLeft hRight hFits ihc ihd =>
      let y : Bounded bits := ⟨m, hLeft.lt wide⟩
      let z : Bounded bits := ⟨n, hRight.lt wide⟩
      have hSum : y.checkedAdd z = some x := checkedAdd_eq_some_iff.mpr hVal.symm
      rw [run, ihc (x := y) rfl, ihd (x := z) rfl]
      exact hSum
    | @product c d m n hLeft hRight hFits ihc ihd =>
      let y : Bounded bits := ⟨m, hLeft.lt wide⟩
      let z : Bounded bits := ⟨n, hRight.lt wide⟩
      have hProduct : y.checkedMul z = some x := checkedMul_eq_some_iff.mpr hVal.symm
      rw [run, ihc (x := y) rfl, ihd (x := z) rfl]
      exact hProduct

end Computation

theorem wide_of_bits (hBits : bits = 256 ∨ bits = 512) : 64 ≤ bits := by omega

/-- Amounts are exact natural numbers below a bound. Whatever an amount is made of, and in however
many steps, it is the exact number, which is below the bound, and it is made exactly if each number
on the way is below the bound. A natural number, a numeral and the shortest form of a number are
refused for their size alone, and JSON as the text that it holds. Sums and products are missing
exactly if they do not fit. Amounts are ordered as numbers, and the text of an amount is read as the
same amount. -/
theorem exact_or_nothing (hBits : bits = 256 ∨ bits = 512) :
    (∀ (c : Computation) (x : Bounded bits),
      c.run (wide_of_bits hBits) = some x ↔ c.HasValue bits x.val) ∧
    (∀ (c : Computation) (n : Nat), c.HasValue bits n → n < 2 ^ bits) ∧
    (∀ n : Nat, (ofNat n : Except Error (Bounded bits)) = .error (.overflow bits) ↔ 2 ^ bits ≤ n) ∧
    (∀ text : String, (parse text : Except Error (Bounded bits)) = .error (.overflow bits) ↔
      ∃ n, IsNumeral text n ∧ 2 ^ bits ≤ n) ∧
    (∀ (text : String) (passing : Option Json.Fault),
      (readJson (.str ⟨.ok text, passing⟩) : Except Json.ReadError (Bounded bits)) =
        (parse text).mapError fun e => .refused e.message) ∧
    (∀ n : Nat, byteLength n < 256 →
      (∀ x : Bounded bits, decode.run (shortest n) = .ok x ↔ n = x.val) ∧
      ((decode : Decoder (Bounded bits)).run (shortest n) =
        .error (.tooWide (UInt8.ofNat (byteLength n)) s!"U{bits}") ↔ 2 ^ bits ≤ n)) ∧
    (∀ x y z : Bounded bits, (x.checkedAdd y = some z ↔ x.val + y.val = z.val) ∧
      (x.checkedAdd y = none ↔ 2 ^ bits ≤ x.val + y.val)) ∧
    (∀ x y z : Bounded bits, (x.checkedMul y = some z ↔ x.val * y.val = z.val) ∧
      (x.checkedMul y = none ↔ 2 ^ bits ≤ x.val * y.val)) ∧
    (∀ x y : Bounded bits, (compare x y = .lt ↔ x.val < y.val) ∧ (compare x y = .eq ↔ x = y) ∧
      (compare x y = .gt ↔ y.val < x.val)) ∧
    ∀ x : Bounded bits, parse (toString x) = .ok x := by
  have hWide : 64 ≤ bits := wide_of_bits hBits
  have hBytes : 8 ∣ bits := by omega
  refine ⟨?_, ?_, ?_, ?_, ?_, ?_, ?_, ?_, ?_, ?_⟩
  · intro c x
    exact Computation.run_eq_some_iff hWide
  · intro c n hValue
    exact hValue.lt hWide
  · intro n
    rw [ofNat_eq_error_iff]
    exact and_iff_left rfl
  · intro text
    exact parse_eq_overflow_iff
  · intro text passing
    exact readJson_text text passing
  · intro n hLength
    refine ⟨fun x => run_shortest_eq_ok_iff hBytes hLength, ?_, run_shortest_of_le hLength⟩
    intro hError
    refine Nat.le_of_not_lt fun hFits => ?_
    have hRead : decode.run (shortest n) = .ok (⟨n, hFits⟩ : Bounded bits) :=
      (run_shortest_eq_ok_iff hBytes hLength).mpr rfl
    rw [hRead] at hError
    cases hError
  · intro x y z
    exact ⟨checkedAdd_eq_some_iff, checkedAdd_eq_none_iff⟩
  · intro x y z
    exact ⟨checkedMul_eq_some_iff, checkedMul_eq_none_iff⟩
  · intro x y
    rw [compare_eq, Nat.compare_eq_lt, Nat.compare_eq_eq, Nat.compare_eq_gt, val_inj]
    exact ⟨Iff.rfl, Iff.rfl, Iff.rfl⟩
  · intro x
    exact parse_toString x

/-- The square of `2 ^ 128` does not fit in 256 bits, and is exact in 512. -/
theorem exact_or_nothing_of_square :
    let root : U256 := ⟨2 ^ 128, by decide⟩
    let square : Computation :=
      .product (.text "+340_282_366_920_938_463_463_374_607_431_768_211_456") (.natural (2 ^ 128))
    root.checkedMul root = none ∧
      ∃ x : U512, square.run (by decide) = some x ∧ x.val = 2 ^ 256 ∧
        parse (toString x) = .ok x := by
  intro root square
  obtain ⟨-, -, -, -, -, -, -, hProduct, -⟩ := @exact_or_nothing 256 (.inl rfl)
  obtain ⟨hExact, -, -, -, -, -, -, -, -, hText⟩ := @exact_or_nothing 512 (.inr rfl)
  refine ⟨(hProduct root root root).2.mpr (by decide), ?_⟩
  have hNumeral : IsNumeral "+340_282_366_920_938_463_463_374_607_431_768_211_456" (2 ^ 128) :=
    readNat_eq_ok_iff.mp (eq_ok_of_toOption (by decide))
  have hWider (m n : Nat) (h : m < n) : 2 ^ m < 2 ^ n := Nat.pow_lt_pow_right (by decide) h
  have hRoot := hWider 128 512 (by decide)
  have hSquare := hWider 256 512 (by decide)
  have hPow : 2 ^ 128 * 2 ^ 128 = 2 ^ 256 := (Nat.pow_add 2 128 128).symm
  have hValue : square.HasValue 512 (2 ^ 128 * 2 ^ 128) :=
    .product (.text hNumeral hRoot) (.natural hRoot)
      (Nat.lt_of_le_of_lt (Nat.le_of_eq hPow) hSquare)
  rw [hPow] at hValue
  let x : U512 := ⟨2 ^ 256, hSquare⟩
  exact ⟨x, (hExact square x).mpr hValue, rfl, hText x⟩

end Mintage.Bounded
