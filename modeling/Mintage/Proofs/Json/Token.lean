import Mintage.Json.Token
import Mintage.Proofs.Json.Spelling

/-!
# Proofs: numbers and strings that are spelled

The digits of a number and the characters of a string are read as a token of just that number or
string. A number ends where neither a digit nor a fraction nor an exponent follows, as behind an
item, an array or an object. In a string each character is either escaped, or written in bytes of
which none is a quote, a backslash or a control character.
-/

namespace Mintage

namespace Json.Token

/-! ## Blanks -/

theorem isBlank_of_mem {blanks : Bytes} (h : Blanks blanks) : ∀ b ∈ blanks, isBlank b = true := by
  intro b hb
  rcases h b hb with rfl | rfl | rfl | rfl
  all_goals rfl

/-- Blanks are skipped. -/
theorem next?_blanks {blanks : Bytes} (h : Blanks blanks) (rest : Bytes) :
    next? (blanks ++ rest) = next? rest := by
  induction blanks with
  | nil => rfl
  | cons b blanks ih =>
    rw [List.cons_append, next?, isBlank_of_mem h b List.mem_cons_self, if_pos rfl,
      ih (List.forall_mem_cons.mp h).2]

/-! ## Numbers -/

/-- The byte does not go on with a number: it is no digit, and begins no fraction and no
exponent. -/
def EndsNumber (b : UInt8) : Prop := isDigit b = false ∧ Char.ofUInt8 b ∉ ['.', 'e', 'E']

/-- What may stand behind a number. -/
def Ends (rest : Bytes) : Prop := ∀ b ∈ rest.head?, EndsNumber b

theorem ends_nil : Ends [] := fun _ hNone => by cases hNone

theorem EndsNumber.ends {b : UInt8} (h : EndsNumber b) (rest : Bytes) : Ends (b :: rest) := by
  intro c hc
  obtain rfl := Option.some.inj hc
  exact h

/-- A comma and the closing brackets end a number. -/
theorem ends_of_mem {b : UInt8} (h : b ∈ [0x2c, 0x5d, 0x7d]) (rest : Bytes) : Ends (b :: rest) := by
  refine EndsNumber.ends ?_ rest
  simp only [List.mem_cons, List.not_mem_nil, or_false] at h
  rcases h with rfl | rfl | rfl
  all_goals exact ⟨rfl, by decide⟩

theorem ends_blanks {blanks rest : Bytes} (hBlanks : Blanks blanks) (h : Ends rest) :
    Ends (blanks ++ rest) := by
  cases blanks with
  | nil => exact h
  | cons b blanks =>
    refine EndsNumber.ends ?_ _
    rcases hBlanks b List.mem_cons_self with rfl | rfl | rfl | rfl
    all_goals exact ⟨rfl, by decide⟩

/-- The digits of a natural number. -/
def decimal (n : Nat) : Bytes := (Nat.toDigits 10 n).map Char.toUInt8

theorem toNat_of_isDigit {c : Char} (h : c.isDigit = true) : 48 ≤ c.toNat ∧ c.toNat ≤ 57 := by
  simpa [Char.isDigit, UInt32.le_iff_toNat_le] using h

theorem ascii_of_isDigit {c : Char} (h : c.isDigit = true) : c.toNat < 128 :=
  Nat.lt_of_le_of_lt (toNat_of_isDigit h).2 (by decide)

theorem isDigit_toUInt8 {c : Char} (h : c.isDigit = true) : isDigit c.toUInt8 = true := by
  rw [isDigit, Utf8.ofUInt8_toUInt8 (ascii_of_isDigit h), h]

theorem digitValue_toUInt8 {c : Char} (h : c.isDigit = true) :
    digitValue c.toUInt8 = c.toNat - '0'.toNat := by
  have hMod : c.toUInt8.toNat = c.toNat :=
    Nat.mod_eq_of_lt (Nat.lt_trans (ascii_of_isDigit h) (by decide))
  rw [digitValue, hMod]

theorem isDigit_of_mem_toDigits {n : Nat} {c : Char} (h : c ∈ Nat.toDigits 10 n) :
    c.isDigit = true :=
  Nat.isDigit_of_mem_toDigits (by decide) (by decide) h

theorem isDigit_of_mem_decimal {n : Nat} : ∀ b ∈ decimal n, isDigit b = true := by
  intro b hb
  obtain ⟨c, hc, rfl⟩ := List.mem_map.mp hb
  exact isDigit_toUInt8 (isDigit_of_mem_toDigits hc)

theorem decimal_ne_nil (n : Nat) : decimal n ≠ [] := by
  rw [decimal, ne_eq, List.map_eq_nil_iff]
  exact Nat.toDigits_ne_nil

theorem encode_repr (n : Nat) : Utf8.encode n.repr = decimal n := by
  rw [← String.ofList_toList (s := n.repr), Nat.toList_repr, Utf8.encode_ofList]
  exact Utf8.flatMap_of_ascii fun c hc => ascii_of_isDigit (isDigit_of_mem_toDigits hc)

theorem Ends.takeWhile {rest : Bytes} (h : Ends rest) : rest.takeWhile isDigit = [] := by
  cases rest with
  | nil => rfl
  | cons b rest => rw [List.takeWhile_cons, (h b rfl).1, if_neg Bool.false_ne_true]

theorem Ends.dropWhile {rest : Bytes} (h : Ends rest) : rest.dropWhile isDigit = rest := by
  cases rest with
  | nil => rfl
  | cons b rest => rw [List.dropWhile_cons, (h b rfl).1, if_neg Bool.false_ne_true]

theorem Ends.exponentPart {rest : Bytes} (h : Ends rest) :
    exponentPart rest = .ok (none, rest) := by
  cases rest with
  | nil => rfl
  | cons b rest =>
    have hNot := (h b rfl).2
    simp only [List.mem_cons, List.not_mem_nil, or_false, not_or] at hNot
    unfold Token.exponentPart
    dsimp only
    rw [if_neg (not_or.mpr hNot.2)]
    rfl

theorem needDigits_decimal (n : Nat) {rest : Bytes} (h : Ends rest) :
    needDigits (decimal n ++ rest) = .ok (decimal n, rest) := by
  have hTake : (decimal n ++ rest).takeWhile isDigit = decimal n := by
    rw [List.takeWhile_append_of_pos isDigit_of_mem_decimal, h.takeWhile, List.append_nil]
  have hDrop : (decimal n ++ rest).dropWhile isDigit = rest := by
    rw [List.dropWhile_append_of_pos isDigit_of_mem_decimal, h.dropWhile]
  unfold needDigits
  split
  · rename_i hNone _
    exact absurd (hTake.symm.trans hNone) (decimal_ne_nil n)
  · rename_i hNone _
    exact absurd (hTake.symm.trans hNone) (decimal_ne_nil n)
  · rw [hTake, hDrop]

/-- The digits of a number do not begin with a zero that is not needed. -/
theorem head?_toDigits {n : Nat} (h : 0 < n) : (Nat.toDigits 10 n).head? ≠ some '0' := by
  induction n using Nat.strongRecOn with
  | _ n ih =>
    by_cases hSmall : n < 10
    · have hDigits : ∀ n ∈ List.range 10, 0 < n → n.digitChar ≠ '0' := by decide
      rw [Nat.toDigits_of_lt_base hSmall, List.head?_cons, ne_eq, Option.some.injEq]
      exact hDigits n (List.mem_range.mpr hSmall) h
    · have hFront := ih (n / 10) (by omega) (by omega)
      rw [Nat.toDigits_of_base_le (by decide) (by omega)]
      cases hRest : Nat.toDigits 10 (n / 10) with
      | nil => exact absurd hRest Nat.toDigits_ne_nil
      | cons c cs => rwa [hRest] at hFront

theorem decimal_minimal (n : Nat) :
    ¬ ((decimal n).length > 1 ∧ (decimal n).head?.map digitValue = some 0) := by
  rintro ⟨hLength, hZero⟩
  have hPos : 0 < n := by
    rcases Nat.eq_zero_or_pos n with rfl | hPos
    · exact absurd hLength (by decide)
    · exact hPos
  have hHead := head?_toDigits hPos
  cases hDigits : Nat.toDigits 10 n with
  | nil => exact Nat.toDigits_ne_nil hDigits
  | cons c cs =>
    have hDigit : c.isDigit = true := isDigit_of_mem_toDigits (hDigits ▸ List.mem_cons_self)
    rw [decimal, hDigits, List.map_cons, List.head?_cons, Option.map_some, Option.some.injEq,
      digitValue_toUInt8 hDigit] at hZero
    rw [hDigits, List.head?_cons, ne_eq, Option.some.injEq] at hHead
    have hRange := toNat_of_isDigit hDigit
    have hCode : '0'.toNat = 48 := rfl
    exact hHead (Char.toNat_inj.mp (by omega))

/-- As long as a number fits in 64 bits, so do its beginnings, and no digit is dropped. -/
theorem appendDigits_of_lt {cs : List Char} (hDigits : ∀ c ∈ cs, c.isDigit = true) {n : Nat}
    (h : Nat.ofDigitChars 10 cs n < 2 ^ 64) :
    appendDigits n (cs.map Char.toUInt8) = (Nat.ofDigitChars 10 cs n, 0) := by
  induction cs generalizing n with
  | nil => rfl
  | cons c cs ih =>
    obtain ⟨hc, hcs⟩ := List.forall_mem_cons.mp hDigits
    rw [Nat.ofDigitChars_cons] at h ⊢
    have hNext : 10 * n + (c.toNat - '0'.toNat) < 2 ^ 64 := by
      refine Nat.lt_of_le_of_lt ?_ h
      rw [Nat.ofDigitChars_eq_ofDigitChars_zero]
      exact Nat.le_trans (Nat.le_mul_of_pos_left _ (Nat.pow_pos (by decide)))
        (Nat.le_add_right _ _)
    rw [List.map_cons, appendDigits, digitValue_toUInt8 hc, if_pos hNext]
    exact ih hcs h

theorem appendDigits_decimal {n : Nat} (h : n < 2 ^ 64) : appendDigits 0 (decimal n) = (n, 0) := by
  have hDigits := appendDigits_of_lt (n := 0) fun c hc => isDigit_of_mem_toDigits (n := n) hc
  rw [Nat.ofDigitChars_ten_toDigits] at hDigits
  exact hDigits h

/-- Behind a number stands neither a fraction nor an exponent. -/
theorem magnitude_decimal (negative : Bool) (n : Nat) {rest : Bytes} (h : Ends rest) :
    magnitude negative (decimal n ++ rest) = .ok (integer? negative (decimal n), rest) := by
  rw [magnitude, needDigits_decimal n h]
  simp only [bind, Except.bind, if_neg (decimal_minimal n)]
  cases rest with
  | nil => rfl
  | cons b rest =>
    have hNot := (h b rfl).2
    simp only [List.mem_cons, List.not_mem_nil, or_false, not_or] at hNot
    simp only [if_neg hNot.1, pure, Except.pure, h.exponentPart, Option.isNone_none, and_self,
      if_true]

theorem number_of_nat {n : Nat} (h : n < 2 ^ 64) {rest : Bytes} (hEnds : Ends rest) :
    number false (decimal n ++ rest) = (of (.int n), rest) := by
  rw [number, magnitude_decimal false n hEnds, integer?, appendDigits_decimal h]
  rfl

theorem number_of_negative {n : Nat} (hPos : 1 ≤ n) (h : n ≤ 2 ^ 63) {rest : Bytes}
    (hEnds : Ends rest) : number true (decimal n ++ rest) = (of (.int (-n)), rest) := by
  have hFits : n < 2 ^ 64 := Nat.lt_of_le_of_lt h (by decide)
  rw [number, magnitude_decimal true n hEnds, integer?, appendDigits_decimal hFits]
  simp only [ne_eq, not_true_eq_false, if_false, if_pos (And.intro hPos h)]

/-! ## Strings -/

/-- A byte that stands for itself within a string. -/
structure IsPlain (b : UInt8) : Prop where
  quote : Char.ofUInt8 b ≠ '"'
  backslash : Char.ofUInt8 b ≠ '\\'
  control : ¬ b < 0x20

/-- An escape and what both readers make of it. -/
structure IsEscape (c : Char) (bs : Bytes) : Prop where
  read : ∀ rest, escape (bs ++ rest) = .ok (c, rest)
  pass : ∀ rest, passEscape (bs ++ rest) = .ok rest

theorem isEscape_short {letter c : Char} (h : (letter, c) ∈ shortEscapes) :
    IsEscape c [letter.toUInt8] := by
  simp only [shortEscapes, List.mem_cons, List.not_mem_nil, or_false, Prod.mk.injEq] at h
  rcases h with ⟨rfl, rfl⟩ | ⟨rfl, rfl⟩ | ⟨rfl, rfl⟩ | ⟨rfl, rfl⟩ | ⟨rfl, rfl⟩ | ⟨rfl, rfl⟩ |
    ⟨rfl, rfl⟩ | ⟨rfl, rfl⟩
  all_goals exact ⟨fun _ => rfl, fun _ => rfl⟩

theorem hex4_of_length {digits : Bytes} (hLength : digits.length = 4) {ns : List Nat}
    (hDigits : digits.mapM Hex.digitValue? = some ns) (rest : Bytes) :
    hex4 (digits ++ rest) = .ok (ns.foldl (fun n d => 16 * n + d) 0, rest) := by
  match digits, hLength with
  | [a, b, c, d], _ =>
    simp only [List.cons_append, List.nil_append, hex4, hDigits]

/-- The number of a character is not that of a surrogate. -/
theorem isEscape_code {c : Char} {digits : Bytes} {ns : List Nat} (hLength : digits.length = 4)
    (hDigits : digits.mapM Hex.digitValue? = some ns)
    (hCode : ns.foldl (fun n d => 16 * n + d) 0 = c.toNat) : IsEscape c (0x75 :: digits) where
  read rest := by
    have hChar : Char.ofUInt8 0x75 = 'u' := rfl
    have hScalar : c.toNat < 0xd800 ∨ 0xe000 ≤ c.toNat := c.valid.imp_right (·.1)
    simp only [List.cons_append, escape, hChar, if_true, hexEscape, hex4_of_length hLength hDigits,
      hCode, bind, Except.bind, if_pos hScalar, Char.ofNat_toNat]
    rfl
  pass rest := by
    have hChar : Char.ofUInt8 0x75 = 'u' := rfl
    simp only [List.cons_append, passEscape, hChar, if_true, hex4_of_length hLength hDigits]
    rfl

/-- None of the bytes of a character is taken for anything else. -/
theorem isPlain_of_mem {c : Char} (hQuote : c ≠ '"') (hBackslash : c ≠ '\\')
    (hControl : 0x20 ≤ c.toNat) : ∀ b ∈ String.utf8EncodeChar c, IsPlain b := by
  intro b hb
  by_cases hAscii : c.toNat < 128
  · obtain rfl : b = c.toUInt8 := by
      rwa [Utf8.utf8EncodeChar_of_ascii hAscii, List.mem_singleton] at hb
    have hChar := Utf8.ofUInt8_toUInt8 hAscii
    have hMod : c.toUInt8.toNat = c.toNat :=
      Nat.mod_eq_of_lt (Nat.lt_trans hAscii (by decide))
    refine ⟨by rwa [hChar], by rwa [hChar], ?_⟩
    rw [UInt8.lt_iff_toNat_lt, hMod]
    exact Nat.not_lt_of_le hControl
  · have hHigh := Utf8.utf8EncodeChar_high (Nat.le_of_not_lt hAscii) b hb
    have hCode : (Char.ofUInt8 b).toNat = b.toNat := rfl
    refine ⟨?_, ?_, ?_⟩
    · intro h
      rw [h] at hCode
      exact absurd (hCode ▸ hHigh) (by decide)
    · intro h
      rw [h] at hCode
      exact absurd (hCode ▸ hHigh) (by decide)
    · rw [UInt8.lt_iff_toNat_lt]
      exact Nat.not_lt_of_le (Nat.le_trans (by decide) hHigh)

/-! ### Reading and passing over strings -/

theorem text_cons_plain {b : UInt8} (h : IsPlain b) (fuel : Nat) (acc rest : Bytes) :
    text (fuel + 1) acc (b :: rest) = text fuel (b :: acc) rest := by
  rw [text]
  split
  · exact absurd ‹_› h.quote
  · exact absurd ‹_› h.backslash
  · rw [if_neg h.control]

theorem passText_cons_plain {b : UInt8} (h : IsPlain b) (fuel : Nat) (rest : Bytes) :
    passText (fuel + 1) (b :: rest) = passText fuel rest := by
  rw [passText]
  split
  · exact absurd ‹_› h.quote
  · exact absurd ‹_› h.backslash
  · rw [if_neg h.control]

theorem text_plain {bs : Bytes} (hPlain : ∀ b ∈ bs, IsPlain b) (fuel : Nat) (acc rest : Bytes) :
    text (fuel + bs.length) acc (bs ++ rest) = text fuel (bs.reverse ++ acc) rest := by
  induction bs generalizing acc with
  | nil => rfl
  | cons b bs ih =>
    obtain ⟨hb, hbs⟩ := List.forall_mem_cons.mp hPlain
    rw [List.length_cons, ← Nat.add_assoc, List.cons_append, text_cons_plain hb, ih hbs,
      List.reverse_cons, List.append_assoc]
    rfl

theorem passText_plain {bs : Bytes} (hPlain : ∀ b ∈ bs, IsPlain b) (fuel : Nat) (rest : Bytes) :
    passText (fuel + bs.length) (bs ++ rest) = passText fuel rest := by
  induction bs with
  | nil => rfl
  | cons b bs ih =>
    obtain ⟨hb, hbs⟩ := List.forall_mem_cons.mp hPlain
    rw [List.length_cons, ← Nat.add_assoc, List.cons_append, passText_cons_plain hb, ih hbs]

theorem encode_toString (c : Char) : Utf8.encode c.toString = String.utf8EncodeChar c := by
  rw [Char.toString_eq_singleton, String.singleton_eq_ofList, Utf8.encode_ofList,
    List.flatMap_singleton]

theorem text_cons_escape {c : Char} {bs : Bytes} (h : IsEscape c bs) (fuel : Nat)
    (acc rest : Bytes) :
    text (fuel + 1) acc (0x5c :: (bs ++ rest)) =
      text fuel ((String.utf8EncodeChar c).reverse ++ acc) rest := by
  have hChar : Char.ofUInt8 0x5c = '\\' := rfl
  rw [text]
  simp only [hChar, h.read, encode_toString]

theorem passText_cons_escape {c : Char} {bs : Bytes} (h : IsEscape c bs) (fuel : Nat)
    (rest : Bytes) : passText (fuel + 1) (0x5c :: (bs ++ rest)) = passText fuel rest := by
  have hChar : Char.ofUInt8 0x5c = '\\' := rfl
  rw [passText]
  simp only [hChar, h.pass]

/-- Both readers get past a character, in no more rounds than it has bytes. -/
theorem text_spellsChar {c : Char} {bs : Bytes} (h : SpellsChar c bs) (fuel : Nat)
    (acc rest : Bytes) :
    ∃ left, fuel ≤ left ∧
      text (fuel + bs.length) acc (bs ++ rest) =
        text left ((String.utf8EncodeChar c).reverse ++ acc) rest ∧
      passText (fuel + bs.length) (bs ++ rest) = passText left rest := by
  cases h with
  | plain hQuote hBackslash hControl =>
    have hPlain := isPlain_of_mem hQuote hBackslash hControl
    exact ⟨fuel, Nat.le_refl _, text_plain hPlain _ _ _, passText_plain hPlain _ _⟩
  | short letter hEscape =>
    exact ⟨fuel + 1, Nat.le_add_right _ _, text_cons_escape (isEscape_short hEscape) _ _ _,
      passText_cons_escape (isEscape_short hEscape) _ _⟩
  | code digits _ hLength hDigits hCode =>
    have hEscape := isEscape_code hLength hDigits hCode
    exact ⟨fuel + (digits.length + 1), Nat.le_add_right _ _, text_cons_escape hEscape _ _ _,
      passText_cons_escape hEscape _ _⟩

/-- The characters up to the closing quote are read, and what follows the quote is left. -/
theorem text_spellsChars {cs : List Char} {bs : Bytes} (h : SpellsChars cs bs) {fuel : Nat}
    (hFuel : bs.length < fuel) (acc rest : Bytes) :
    text fuel acc (bs ++ 0x22 :: rest) =
        (Utf8.decode (acc.reverse ++ cs.flatMap String.utf8EncodeChar)).mapError
          (fun _ => .invalidCodePoint) ∧
      passText fuel (bs ++ 0x22 :: rest) = .ok rest := by
  induction h generalizing fuel acc with
  | nil =>
    obtain ⟨fuel, rfl⟩ := Nat.exists_eq_add_of_lt hFuel
    constructor
    · rw [List.flatMap_nil, List.append_nil]
      rfl
    · rfl
  | @cons c cs bs more hChar _ ih =>
    rw [List.length_append] at hFuel
    obtain ⟨left, hLeft, hText, hPass⟩ := text_spellsChar hChar (fuel - bs.length) acc
      (more ++ 0x22 :: rest)
    rw [Nat.sub_add_cancel (by omega)] at hText hPass
    obtain ⟨hRest, hPassRest⟩ := ih (show more.length < left by omega)
      ((String.utf8EncodeChar c).reverse ++ acc)
    rw [List.append_assoc, hText, hPass, hRest, hPassRest]
    simp

theorem string_of_spells {s : String} {bs : Bytes} (h : SpellsChars s.toList bs) (rest : Bytes) :
    string (bs ++ 0x22 :: rest) = (of s, rest) := by
  have hFuel : bs.length < (bs ++ 0x22 :: rest).length + 1 := by
    rw [List.length_append]
    omega
  obtain ⟨hText, hPass⟩ := text_spellsChars h hFuel [] rest
  have hDecode : Utf8.decode (s.toList.flatMap String.utf8EncodeChar) = .ok s := by
    rw [Utf8.decode_eq_ok_iff, ← Utf8.encode_ofList, String.ofList_toList]
  rw [List.reverse_nil, List.nil_append, hDecode] at hText
  simp only [string, hText, hPass]
  rfl

end Json.Token

end Mintage
