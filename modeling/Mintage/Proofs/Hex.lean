import Mintage.Bytes.Hex
import Mintage.Digest.Text
import Mintage.Proofs.Bytes
import Mintage.Proofs.Outcome

/-!
# Proofs: hexadecimal text

Two digits stand for one byte, by their values. A text is read as a byte string exactly if it is
the text of that byte string up to the case of its letters; so what is written is read back. Where
reading fails, the number of bytes is odd, or it is even and the first byte that is no digit is
told. A character that takes several bytes is no digit, and neither is any of its bytes.
-/

namespace Mintage

namespace Hex

/-! ## Digits -/

/-- The digits of either case. -/
def alphabet : List Char := "0123456789abcdefABCDEF".toList

/-- The byte is a digit of either case. -/
def IsDigit (b : UInt8) : Prop := b ∈ alphabet.map Char.toUInt8

instance (b : UInt8) : Decidable (IsDigit b) := inferInstanceAs (Decidable (_ ∈ _))

/-- The byte of the digit of a value. -/
def digitByte (n : Nat) : UInt8 := UInt8.ofNat (digit n).toNat

theorem utf8EncodeChar_digit {n : Nat} (h : n < 16) :
    String.utf8EncodeChar (digit n) = [digitByte n] := by
  have digits : ∀ n ∈ List.range 16, String.utf8EncodeChar (digit n) = [digitByte n] := by decide
  exact digits n (List.mem_range.mpr h)

theorem digitValue?_digitByte {n : Nat} (h : n < 16) : digitValue? (digitByte n) = some n := by
  have digits : ∀ n ∈ List.range 16, digitValue? (digitByte n) = some n := by decide
  exact digits n (List.mem_range.mpr h)

theorem toLower_digit {n : Nat} (h : n < 16) : (digit n).toLower = digit n := by
  have digits : ∀ n ∈ List.range 16, (digit n).toLower = digit n := by decide
  exact digits n (List.mem_range.mpr h)

theorem isDigit_iff (b : UInt8) : IsDigit b ↔ ∃ n, digitValue? b = some n := by
  have bytes : ∀ n ∈ List.range 256,
      (digitValue? (UInt8.ofNat n)).isSome = true ↔ IsDigit (UInt8.ofNat n) := by decide +kernel
  have h := bytes b.toNat (List.mem_range.mpr b.toNat_lt)
  rwa [UInt8.ofNat_toNat, Option.isSome_iff_exists, Iff.comm] at h

theorem lt_of_digitValue? {b : UInt8} {n : Nat} (h : digitValue? b = some n) :
    n < 16 ∧ b.toNat < 128 := by
  unfold digitValue? at h
  simp only at h
  split at h
  · cases h
    omega
  split at h
  · cases h
    omega
  split at h
  · cases h
    omega
  · cases h

/-- Only a character of one byte is a digit in another case. -/
theorem ascii_of_toLower {c : Char} {n : Nat} (hn : n < 16) (h : c.toLower = digit n) :
    c.toNat < 128 := by
  have digits : ∀ n ∈ List.range 16, (digit n).toNat < 128 := by decide
  unfold Char.toLower at h
  split at h
  · rename_i hUpper
    have hBound : c.val.toNat ≤ 90 := UInt32.le_iff_toNat_le.mp hUpper.2
    exact Nat.lt_of_le_of_lt hBound (by decide)
  · rw [h]
    exact digits n (List.mem_range.mpr hn)

/-- The byte of a character has the value of the digit that the character is in lowercase. -/
theorem digitValue?_toUInt8 {c : Char} (h : c.toNat < 128) {n : Nat} (hn : n < 16) :
    digitValue? c.toUInt8 = some n ↔ c.toLower = digit n := by
  have ascii : ∀ k ∈ List.range 128, ∀ n ∈ List.range 16,
      digitValue? (Char.ofNat k).toUInt8 = some n ↔ (Char.ofNat k).toLower = digit n := by
    decide +kernel
  have hc := ascii c.toNat (List.mem_range.mpr h) n (List.mem_range.mpr hn)
  rwa [Char.ofNat_toNat] at hc

theorem ascii_of_mem_alphabet {c : Char} (h : c ∈ alphabet) : c.toNat < 128 := by
  have letters : alphabet.all fun c => c.toNat < 128 := by decide
  exact of_decide_eq_true (List.all_eq_true.mp letters c h)

theorem isDigit_toUInt8 {c : Char} (h : c.toNat < 128) : IsDigit c.toUInt8 ↔ c ∈ alphabet := by
  constructor
  · intro hDigit
    obtain ⟨d, hd, hByte⟩ := List.mem_map.mp hDigit
    have hSame := Utf8.ofUInt8_toUInt8 (ascii_of_mem_alphabet hd)
    rw [hByte, Utf8.ofUInt8_toUInt8 h] at hSame
    rwa [hSame]
  · exact List.mem_map_of_mem

theorem mem_alphabet_iff {c : Char} : c ∈ alphabet ↔ ∃ n, n < 16 ∧ c.toLower = digit n := by
  constructor
  · intro h
    have hAscii := ascii_of_mem_alphabet h
    obtain ⟨n, hValue⟩ := (isDigit_iff _).mp ((isDigit_toUInt8 hAscii).mpr h)
    have hn := (lt_of_digitValue? hValue).1
    exact ⟨n, hn, (digitValue?_toUInt8 hAscii hn).mp hValue⟩
  · rintro ⟨n, hn, h⟩
    have hAscii := ascii_of_toLower hn h
    have hValue := (digitValue?_toUInt8 hAscii hn).mpr h
    exact (isDigit_toUInt8 hAscii).mp ((isDigit_iff _).mpr ⟨n, hValue⟩)

/-! ## Byte strings as digits -/

/-- The values of the digits in which a byte string is written. -/
def nibbles : Bytes → List Nat
  | [] => []
  | b :: bs => b.toNat / 16 :: b.toNat % 16 :: nibbles bs

theorem length_nibbles (bs : Bytes) : (nibbles bs).length = 2 * bs.length := by
  induction bs with
  | nil => rfl
  | cons b bs ih =>
    simp only [nibbles, List.length_cons, ih]
    omega

theorem lt_of_mem_nibbles {bs : Bytes} : ∀ n ∈ nibbles bs, n < 16 := by
  induction bs with
  | nil => nofun
  | cons b bs ih =>
    have hb : b.toNat < 256 := b.toNat_lt
    rw [nibbles, List.forall_mem_cons, List.forall_mem_cons]
    exact ⟨by omega, by omega, ih⟩

theorem encodeChars_eq (bs : Bytes) : encodeChars bs = (nibbles bs).map digit := by
  induction bs with
  | nil => rfl
  | cons b bs ih => rw [encodeChars, nibbles, ih, List.map_cons, List.map_cons]

theorem length_encodeChars (bs : Bytes) : (encodeChars bs).length = 2 * bs.length := by
  rw [encodeChars_eq, List.length_map, length_nibbles]

/-- The digits that stand for a byte string of the given length are as many pairs. -/
theorem exists_toLower_eq_encodeChars_iff {cs : List Char} {length : Nat} :
    (∃ bs : Bytes, bs.length = length ∧ cs.map Char.toLower = encodeChars bs) ↔
      cs.length = 2 * length ∧ ∀ c ∈ cs, c ∈ alphabet := by
  constructor
  · rintro ⟨bs, rfl, h⟩
    refine ⟨by rw [← length_encodeChars, ← h, List.length_map], fun c hc => ?_⟩
    have hMem : c.toLower ∈ (nibbles bs).map digit := by
      rw [← encodeChars_eq, ← h]
      exact List.mem_map_of_mem hc
    obtain ⟨n, hn, hDigit⟩ := List.mem_map.mp hMem
    exact mem_alphabet_iff.mpr ⟨n, lt_of_mem_nibbles n hn, hDigit.symm⟩
  · induction length generalizing cs with
    | zero =>
      rintro ⟨hLength, -⟩
      obtain rfl := List.eq_nil_of_length_eq_zero hLength
      exact ⟨[], rfl, rfl⟩
    | succ length ih =>
      rintro ⟨hLength, hDigits⟩
      obtain ⟨a, b, rest, rfl⟩ : ∃ a b rest, cs = a :: b :: rest := by
        match cs, hLength with
        | a :: b :: rest, _ => exact ⟨a, b, rest, rfl⟩
        | [a], h => simp at h; omega
        | [], h => simp at h
      simp only [List.forall_mem_cons] at hDigits
      obtain ⟨ha, hb, hRest⟩ := hDigits
      obtain ⟨high, hHigh, ha⟩ := mem_alphabet_iff.mp ha
      obtain ⟨low, hLow, hb⟩ := mem_alphabet_iff.mp hb
      obtain ⟨bs, hbs, h⟩ := ih ⟨by simp only [List.length_cons] at hLength; omega, hRest⟩
      have hByte : (UInt8.ofNat (16 * high + low)).toNat = 16 * high + low := by
        rw [UInt8.toNat_ofNat']
        omega
      refine ⟨UInt8.ofNat (16 * high + low) :: bs, by rw [List.length_cons, hbs], ?_⟩
      have hDiv : (16 * high + low) / 16 = high := by omega
      have hMod : (16 * high + low) % 16 = low := by omega
      rw [List.map_cons, List.map_cons, encodeChars, hByte, hDiv, hMod, ha, hb, h]

/-! ## Reading -/

theorem digitAt_eq_ok_iff {b : UInt8} {index n : Nat} :
    digitAt b index = .ok n ↔ digitValue? b = some n := by
  unfold digitAt
  cases digitValue? b with
  | none => exact ⟨nofun, nofun⟩
  | some m => exact ⟨fun h => by cases h; rfl, fun h => by cases h; rfl⟩

theorem byte_eq_iff {high low : Nat} (hHigh : high < 16) (hLow : low < 16) (b : UInt8) :
    UInt8.ofNat (16 * high + low) = b ↔ high = b.toNat / 16 ∧ low = b.toNat % 16 := by
  have hb : b.toNat < 256 := b.toNat_lt
  rw [← UInt8.toNat_inj, UInt8.toNat_ofNat']
  omega

theorem decodeFrom_eq_ok_iff {index : Nat} {bs out : Bytes} :
    decodeFrom index bs = .ok out ↔ bs.map digitValue? = (nibbles out).map some := by
  induction index, bs using decodeFrom.induct generalizing out with
  | case1 index =>
    cases out with
    | nil => exact ⟨fun _ => rfl, fun _ => rfl⟩
    | cons b out => exact ⟨nofun, nofun⟩
  | case2 index a =>
    cases out with
    | nil => exact ⟨nofun, nofun⟩
    | cons b out => simp [decodeFrom, nibbles]
  | case3 index a b rest ih =>
    simp only [decodeFrom, Outcome.bind_eq_ok_iff, Outcome.pure_eq_ok_iff, digitAt_eq_ok_iff]
    cases out with
    | nil => simp [nibbles]
    | cons c out =>
      simp only [List.map_cons, nibbles, List.cons.injEq, ← ih]
      constructor
      · rintro ⟨high, hHigh, low, hLow, tail, hTail, hByte, rfl⟩
        obtain ⟨rfl, rfl⟩ :=
          (byte_eq_iff (lt_of_digitValue? hHigh).1 (lt_of_digitValue? hLow).1 c).mp hByte
        exact ⟨hHigh, hLow, hTail⟩
      · rintro ⟨hHigh, hLow, hTail⟩
        refine ⟨_, hHigh, _, hLow, out, hTail, ?_, rfl⟩
        exact (byte_eq_iff (lt_of_digitValue? hHigh).1 (lt_of_digitValue? hLow).1 c).mpr ⟨rfl, rfl⟩

/-- The bytes of a text have the values of digits exactly if its characters are those digits. -/
theorem map_digitValue?_flatMap {cs : List Char} {ns : List Nat} (h : ∀ n ∈ ns, n < 16) :
    (cs.flatMap String.utf8EncodeChar).map digitValue? = ns.map some ↔
      cs.map Char.toLower = ns.map digit := by
  induction cs generalizing ns with
  | nil => cases ns with
    | nil => exact ⟨fun _ => rfl, fun _ => rfl⟩
    | cons n ns => exact ⟨nofun, nofun⟩
  | cons c cs ih =>
    cases ns with
    | nil =>
      refine ⟨fun hNil => ?_, nofun⟩
      rw [List.flatMap_cons, List.map_nil, List.map_eq_nil_iff, List.append_eq_nil_iff] at hNil
      exact absurd hNil.1 String.utf8EncodeChar_ne_nil
    | cons n ns =>
      obtain ⟨hn, hns⟩ := List.forall_mem_cons.mp h
      by_cases hAscii : c.toNat < 128
      · rw [List.flatMap_cons, Utf8.utf8EncodeChar_of_ascii hAscii, List.singleton_append]
        simp only [List.map_cons, List.cons.injEq, digitValue?_toUInt8 hAscii hn, ih hns]
      · have hNot : ¬ c.toLower = digit n := fun hLower => hAscii (ascii_of_toLower hn hLower)
        simp only [List.map_cons, List.cons.injEq, hNot, false_and, iff_false]
        intro hValues
        have hNonempty : String.utf8EncodeChar c ≠ [] := String.utf8EncodeChar_ne_nil
        obtain ⟨b, rest, hBytes⟩ := List.exists_cons_of_ne_nil hNonempty
        have hHigh := Utf8.utf8EncodeChar_high (Nat.le_of_not_lt hAscii) b
          (hBytes ▸ List.mem_cons_self)
        rw [List.flatMap_cons, hBytes, List.cons_append, List.map_cons, List.cons.injEq] at hValues
        exact Nat.not_le_of_lt (lt_of_digitValue? hValues.1).2 hHigh

/-- A text is read as a byte string exactly if it is its text, up to the case of the letters. -/
theorem decode_eq_ok_iff {text : String} {out : Bytes} :
    decode text = .ok out ↔ text.toList.map Char.toLower = encodeChars out := by
  have bytes : text.toUTF8.data.toList = text.toList.flatMap String.utf8EncodeChar := by
    rw [← Utf8.encode_ofList, String.ofList_toList]
    rfl
  have digits : decodeFrom 0 text.toUTF8.data.toList = .ok out ↔
      text.toList.map Char.toLower = encodeChars out := by
    rw [decodeFrom_eq_ok_iff, bytes, map_digitValue?_flatMap lt_of_mem_nibbles, encodeChars_eq]
  rw [decode, ← digits]
  split
  · rename_i hOdd
    refine ⟨nofun, fun h => ?_⟩
    have hLength := congrArg List.length (decodeFrom_eq_ok_iff.mp h)
    rw [List.length_map, List.length_map, length_nibbles] at hLength
    omega
  · exact Iff.rfl

/-- What is written in hexadecimal is read back. -/
theorem decode_encode (bs : Bytes) : decode (encode bs) = .ok bs := by
  rw [decode_eq_ok_iff, encode, String.toList_ofList, encodeChars_eq, List.map_map]
  exact List.map_congr_left fun n hn => toLower_digit (lt_of_mem_nibbles n hn)

theorem encode_injective {bs cs : Bytes} (h : encode bs = encode cs) : bs = cs := by
  have hDecode := decode_encode bs
  rw [h, decode_encode] at hDecode
  exact (Except.ok.inj hDecode).symm

/-! ## Refusals -/

/-- The fault of a byte string that is no hexadecimal text. -/
inductive Fault (bs : Bytes) : Error → Prop
  | oddLength (odd : bs.length % 2 = 1) : Fault bs .oddLength
  | invalidByte {before after : Bytes} {b : UInt8} (even : bs.length % 2 = 0)
      (split : bs = before ++ b :: after) (digits : ∀ a ∈ before, IsDigit a) (other : ¬ IsDigit b) :
      Fault bs (.invalidByte b before.length)

theorem digitAt_eq_error_iff {b : UInt8} {index : Nat} {e : Error} :
    digitAt b index = .error e ↔ ¬ IsDigit b ∧ e = .invalidByte b index := by
  rw [isDigit_iff, digitAt]
  cases digitValue? b with
  | none => simp [eq_comm]
  | some n => simp

/-- The first of the bytes that is no digit, counted from `index`, is the fault. -/
def FaultFrom (index : Nat) (bs : Bytes) (e : Error) : Prop :=
  ∃ before b after, bs = before ++ b :: after ∧ (∀ a ∈ before, IsDigit a) ∧ ¬ IsDigit b ∧
    e = .invalidByte b (index + before.length)

theorem faultFrom_nil {index : Nat} {e : Error} : ¬ FaultFrom index [] e := by
  rintro ⟨before, b, after, h, -⟩
  cases before with
  | nil => cases h
  | cons a before => cases h

theorem faultFrom_cons {index : Nat} {a : UInt8} {bs : Bytes} {e : Error} :
    FaultFrom index (a :: bs) e ↔ (¬ IsDigit a ∧ e = .invalidByte a index) ∨
      (IsDigit a ∧ FaultFrom (index + 1) bs e) := by
  constructor
  · rintro ⟨before, b, after, hSplit, hBefore, hOther, rfl⟩
    cases before with
    | nil =>
      obtain ⟨rfl, rfl⟩ := List.cons.inj hSplit
      exact .inl ⟨hOther, rfl⟩
    | cons c before =>
      obtain ⟨rfl, rfl⟩ := List.cons.inj hSplit
      obtain ⟨hDigit, hBefore⟩ := List.forall_mem_cons.mp hBefore
      refine .inr ⟨hDigit, before, b, after, rfl, hBefore, hOther, ?_⟩
      rw [List.length_cons, Nat.add_right_comm, Nat.add_assoc]
  · rintro (⟨hOther, rfl⟩ | ⟨hDigit, before, b, after, rfl, hBefore, hOther, rfl⟩)
    · exact ⟨[], a, bs, rfl, by simp, hOther, rfl⟩
    · refine ⟨a :: before, b, after, rfl, List.forall_mem_cons.mpr ⟨hDigit, hBefore⟩, hOther, ?_⟩
      rw [List.length_cons, Nat.add_right_comm, Nat.add_assoc]

theorem exists_faultFrom_iff {bs : Bytes} (index : Nat) :
    (∃ e, FaultFrom index bs e) ↔ ∃ b ∈ bs, ¬ IsDigit b := by
  induction bs generalizing index with
  | nil => simp [faultFrom_nil]
  | cons a bs ih =>
    simp only [faultFrom_cons, exists_or, exists_and_left, exists_eq, and_true, ih,
      List.mem_cons, exists_eq_or_imp]
    by_cases hDigit : IsDigit a
    · simp [hDigit]
    · simp [hDigit]

theorem decodeFrom_eq_error_iff {index : Nat} {bs : Bytes} {e : Error} (even : bs.length % 2 = 0) :
    decodeFrom index bs = .error e ↔ FaultFrom index bs e := by
  induction index, bs using decodeFrom.induct with
  | case1 index => exact iff_of_false nofun faultFrom_nil
  | case2 index a => cases even
  | case3 index a b rest ih =>
    have hRest : rest.length % 2 = 0 := by
      simp only [List.length_cons] at even
      omega
    simp only [decodeFrom, Outcome.bind_eq_error_iff, digitAt_eq_error_iff, digitAt_eq_ok_iff,
      Outcome.pure_ne_error, and_false, exists_false, or_false, exists_and_right, ← isDigit_iff,
      faultFrom_cons, ← ih hRest]

theorem decode_eq_error_iff {text : String} {e : Error} :
    decode text = .error e ↔ Fault (Utf8.encode text) e := by
  have bytes : text.toUTF8.data.toList = Utf8.encode text := rfl
  rw [decode, bytes]
  by_cases hOdd : (Utf8.encode text).length % 2 = 1
  · rw [if_pos hOdd]
    constructor
    · rintro ⟨⟩
      exact .oddLength hOdd
    · rintro (_ | ⟨even, -, -, -⟩)
      · rfl
      · omega
  · have hEven : (Utf8.encode text).length % 2 = 0 := by omega
    rw [if_neg hOdd, decodeFrom_eq_error_iff hEven]
    constructor
    · rintro ⟨before, b, after, hSplit, hBefore, hOther, rfl⟩
      rw [Nat.zero_add]
      exact .invalidByte hEven hSplit hBefore hOther
    · rintro (odd | ⟨-, hSplit, hBefore, hOther⟩)
      · exact absurd odd hOdd
      · exact ⟨_, _, _, hSplit, hBefore, hOther, by rw [Nat.zero_add]⟩

theorem exists_fault_iff {bs : Bytes} :
    (∃ e, Fault bs e) ↔ bs.length % 2 = 1 ∨ ∃ b ∈ bs, ¬ IsDigit b := by
  constructor
  · rintro ⟨e, hOdd | ⟨-, rfl, -, hOther⟩⟩
    · exact .inl hOdd
    · exact .inr ⟨_, by simp, hOther⟩
  · intro h
    by_cases hOdd : bs.length % 2 = 1
    · exact ⟨_, .oddLength hOdd⟩
    · obtain ⟨e, before, b, after, hSplit, hBefore, hOther, -⟩ :=
        (exists_faultFrom_iff 0).mpr (h.resolve_left hOdd)
      exact ⟨_, .invalidByte (by omega) hSplit hBefore hOther⟩

end Hex

theorem Digest.parse_text (d : Digest) : Digest.parse d.text = .ok d := by
  simp only [Digest.parse, Digest.text, Hex.decode_encode, Block.ofBytes?_bytes]

end Mintage
