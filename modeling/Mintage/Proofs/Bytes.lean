import Mintage.Bytes.Utf8

/-!
# Proofs: numbers and texts as bytes

Writing undoes reading: a byte string is the little-endian form of the number it stands for, and
the UTF-8 form of the text it stands for.
-/

namespace Mintage

/-- A byte string is laid out by the number it stands for. -/
theorem littleEndian_ofLittleEndian (bs : Bytes) :
    littleEndian bs.length (ofLittleEndian bs) = bs := by
  induction bs with
  | nil => rfl
  | cons b bs ih =>
    have hb : b.toNat < 256 := b.toNat_lt
    have low : UInt8.ofNat (b.toNat + 256 * ofLittleEndian bs) = b := by
      apply UInt8.toNat.inj
      rw [UInt8.toNat_ofNat']
      omega
    have high : (b.toNat + 256 * ofLittleEndian bs) / 256 = ofLittleEndian bs := by omega
    rw [List.length_cons, ofLittleEndian, littleEndian, low, high, ih]

theorem littleEndian_zero (width : Nat) : littleEndian width 0 = List.replicate width 0 := by
  induction width with
  | zero => rfl
  | succ width ih =>
    rw [littleEndian, Nat.zero_div, ih, List.replicate_succ]
    rfl

/-- A number that fits is laid out in more bytes with zeros behind it. -/
theorem littleEndian_add {width n : Nat} (h : n < 256 ^ width) (zeros : Nat) :
    littleEndian (width + zeros) n = littleEndian width n ++ List.replicate zeros 0 := by
  induction width generalizing n with
  | zero =>
    obtain rfl : n = 0 := by simpa using h
    rw [Nat.zero_add, littleEndian_zero, littleEndian, List.nil_append]
  | succ width ih =>
    have hDiv : n / 256 < 256 ^ width := by
      apply Nat.div_lt_of_lt_mul
      rwa [Nat.mul_comm, ← Nat.pow_succ]
    rw [Nat.succ_add, littleEndian, littleEndian, ih hDiv, List.cons_append]

namespace Utf8

/-- A byte string is read as a text exactly if it is the UTF-8 form of that text. -/
theorem decode_eq_ok_iff {bs : Bytes} {s : String} : decode bs = .ok s ↔ encode s = bs := by
  constructor
  · intro h
    unfold decode String.fromUTF8? at h
    split at h
    · rename_i text hText
      split at hText
      · cases h
        cases hText
        rfl
      · cases hText
    · cases h
  · rintro rfl
    have valid : (⟨(encode s).toArray⟩ : ByteArray).IsValidUTF8 := s.isValidUTF8
    unfold decode String.fromUTF8?
    rw [dif_pos valid]
    rfl

theorem encode_injective {s t : String} (h : encode s = encode t) : s = t := by
  have hRead := decode_eq_ok_iff.mpr h
  rw [decode_eq_ok_iff.mpr rfl] at hRead
  exact (Except.ok.inj hRead).symm

theorem encode_append (s t : String) : encode (s ++ t) = encode s ++ encode t := by
  simp [encode]

theorem encode_ofList (cs : List Char) :
    encode (String.ofList cs) = cs.flatMap String.utf8EncodeChar := by
  simp [encode, List.utf8Encode]

theorem utf8EncodeChar_of_ascii {c : Char} (h : c.toNat < 128) :
    String.utf8EncodeChar c = [c.toUInt8] := by
  have hSize : c.utf8Size = 1 := by
    rw [Char.utf8Size_eq_one_iff, UInt32.le_iff_toNat_le]
    exact Nat.le_of_lt_succ h
  exact String.utf8EncodeChar_eq_singleton hSize

theorem flatMap_of_ascii {cs : List Char} (h : ∀ c ∈ cs, c.toNat < 128) :
    cs.flatMap String.utf8EncodeChar = cs.map Char.toUInt8 := by
  induction cs with
  | nil => rfl
  | cons c cs ih =>
    rw [List.flatMap_cons, List.map_cons, utf8EncodeChar_of_ascii (h c List.mem_cons_self),
      ih fun d hd => h d (List.mem_cons_of_mem c hd)]
    rfl

theorem ofUInt8_toUInt8 {c : Char} (h : c.toNat < 128) : Char.ofUInt8 c.toUInt8 = c := by
  apply Char.ext
  apply UInt32.toNat.inj
  change c.val.toNat % 256 = c.val.toNat
  exact Nat.mod_eq_of_lt (Nat.lt_trans h (by decide))

theorem utf8EncodeChar_high {c : Char} (h : 128 ≤ c.toNat) :
    ∀ b ∈ String.utf8EncodeChar c, 128 ≤ b.toNat := by
  have hVal : c.val.toNat = c.toNat := rfl
  intro b hb
  unfold String.utf8EncodeChar at hb
  simp only [hVal] at hb
  rw [if_neg (by omega)] at hb
  split at hb
  all_goals try split at hb
  all_goals
    simp only [List.mem_cons, List.not_mem_nil, or_false] at hb
    rcases hb with rfl | rfl | rfl | rfl
  all_goals
    rw [UInt8.toNat_ofNat']
    omega

end Utf8

end Mintage
