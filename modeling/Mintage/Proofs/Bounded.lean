import Mintage.Number.Bounded
import Mintage.Proofs.Wire

/-!
# Proofs: the binary form of amounts

The encoder writes as many bytes as a number needs. The decoder looks at the width only: it takes
zero bytes behind the digits for more digits. So each amount has several binary forms, one for each
number of zeros that the width has room for, and of these the encoder writes the shortest.
-/

namespace Mintage

open Wire

namespace Bounded

/-! ## Digits -/

theorem byteLength_le_iff {n width : Nat} : byteLength n ≤ width ↔ n < 256 ^ width := by
  have hPow : 256 ^ width = 2 ^ (8 * width) := (Nat.pow_mul 2 8 width).symm
  unfold byteLength
  split
  · rename_i hn
    have hPos : 0 < 256 ^ width := Nat.pow_pos (by decide)
    omega
  · rename_i hn
    rw [hPow, ← Nat.log2_lt hn]
    omega

theorem lt_pow_byteLength (n : Nat) : n < 256 ^ byteLength n :=
  byteLength_le_iff.mp (Nat.le_refl _)

/-- The bytes that a number needs. -/
def digits (n : Nat) : Bytes := littleEndian (byteLength n) n

@[simp] theorem length_digits (n : Nat) : (digits n).length = byteLength n :=
  length_littleEndian _ _

theorem ofLittleEndian_digits (n : Nat) : ofLittleEndian (digits n) = n := by
  rw [digits, ofLittleEndian_littleEndian, Nat.mod_eq_of_lt (lt_pow_byteLength n)]

/-- The bytes of a number are its digits, and zeros behind them. -/
theorem ofLittleEndian_eq_iff {bs : Bytes} {n : Nat} :
    ofLittleEndian bs = n ↔ ∃ zeros, bs = digits n ++ List.replicate zeros 0 := by
  constructor
  · rintro rfl
    have hLength := byteLength_le_iff.mpr (ofLittleEndian_lt bs)
    obtain ⟨zeros, hZeros⟩ := Nat.exists_eq_add_of_le hLength
    refine ⟨zeros, ?_⟩
    rw [digits, ← littleEndian_add (lt_pow_byteLength _), ← hZeros, littleEndian_ofLittleEndian]
  · rintro ⟨zeros, rfl⟩
    have hPow : n < 256 ^ (byteLength n + zeros) := byteLength_le_iff.mp (Nat.le_add_right _ _)
    rw [digits, ← littleEndian_add (lt_pow_byteLength n), ofLittleEndian_littleEndian,
      Nat.mod_eq_of_lt hPow]

/-- The last of the bytes that a number needs is not zero. -/
theorem getLast?_digits (n : Nat) : (digits n).getLast? ≠ some 0 := by
  intro hLast
  obtain ⟨bs, hEq⟩ := List.getLast?_eq_some_iff.mp hLast
  have hValue : ofLittleEndian bs = n := by
    obtain ⟨zeros, hZeros⟩ := ofLittleEndian_eq_iff.mp (rfl : ofLittleEndian bs = _)
    rw [← ofLittleEndian_digits n, hEq]
    refine (ofLittleEndian_eq_iff.mpr ⟨zeros + 1, ?_⟩).symm
    rw [List.replicate_succ', ← List.append_assoc, ← hZeros]
  have hLength := byteLength_le_iff.mpr (hValue ▸ ofLittleEndian_lt bs)
  rw [← length_digits n, hEq, List.length_append] at hLength
  exact absurd hLength (by simp)

/-! ## Reading -/

variable {bits : Nat}

theorem ofNat?_eq_some_iff {n : Nat} {x : Bounded bits} : ofNat? n = some x ↔ n = x.val := by
  unfold ofNat?
  split
  · rename_i hn
    constructor
    · intro h
      cases h
      rfl
    · rintro rfl
      rfl
  · rename_i hn
    constructor
    · intro h
      cases h
    · rintro rfl
      exact absurd x.isLt hn

/-- A number is read from its length and as many bytes, whatever is on top of them. -/
theorem decode_eq_ok_iff {bs rest : Bytes} {x : Bounded bits} :
    decode bs = .ok (x, rest) ↔ ∃ length bytes, bs = length :: (bytes ++ rest) ∧
      bytes.length = length.toNat ∧ 8 * bytes.length ≤ bits ∧ ofLittleEndian bytes = x.val := by
  rw [decode, bind_eq_ok_iff]
  constructor
  · rintro ⟨length, mid, hLength, hNumber⟩
    obtain ⟨-, rfl⟩ := (exact_decodeByte _ _ _).mp hLength
    split at hNumber
    · simp [bind_eq_ok_iff] at hNumber
    · rename_i hWidth
      obtain ⟨bytes, mid', hBytes, hValue⟩ := bind_eq_ok_iff.mp hNumber
      obtain ⟨hCount, rfl⟩ := (exact_decodeBytesOr _ _ _ _ _).mp hBytes
      cases hSome : (ofNat? (ofLittleEndian bytes) : Option (Bounded bits)) with
      | none => simp [hSome] at hValue
      | some y =>
        rw [hSome] at hValue
        obtain ⟨rfl, rfl⟩ := pure_eq_ok_iff.mp hValue
        exact ⟨length, bytes, rfl, hCount, by omega, ofNat?_eq_some_iff.mp hSome⟩
  · rintro ⟨length, bytes, rfl, hCount, hWidth, hValue⟩
    refine ⟨length, bytes ++ rest, rfl, ?_⟩
    rw [if_neg (by omega)]
    refine bind_eq_ok_iff.mpr ⟨bytes, rest, ?_, ?_⟩
    · exact (exact_decodeBytesOr _ _).decode_append hCount rest
    · rw [ofNat?_eq_some_iff.mpr hValue]
      exact pure_eq_ok_iff.mpr ⟨rfl, rfl⟩

/-- The form of a number with zeros behind its digits, which count as digits. -/
def padded (x : Bounded bits) (zeros : Nat) : Bytes :=
  UInt8.ofNat (byteLength x.val + zeros) :: (digits x.val ++ List.replicate zeros 0)

theorem padded_zero (x : Bounded bits) : x.padded 0 = x.encode := by
  rw [padded, List.replicate_zero, List.append_nil]
  rfl

/-- A number is read from all of its padded forms that the width has room for. -/
theorem run_eq_ok_iff {bs : Bytes} {x : Bounded bits} (hBits : bits < 8 * 256) :
    decode.run bs = .ok x ↔
      ∃ zeros, 8 * (byteLength x.val + zeros) ≤ bits ∧ bs = x.padded zeros := by
  rw [Wire.run_eq_ok_iff, decode_eq_ok_iff]
  constructor
  · rintro ⟨length, bytes, rfl, hCount, hWidth, hValue⟩
    obtain ⟨zeros, rfl⟩ := ofLittleEndian_eq_iff.mp hValue
    rw [List.length_append, length_digits, List.length_replicate] at hCount hWidth
    refine ⟨zeros, hWidth, ?_⟩
    rw [padded, hCount, UInt8.ofNat_toNat, List.append_nil]
  · rintro ⟨zeros, hWidth, rfl⟩
    have hLength : (digits x.val ++ List.replicate zeros 0).length = byteLength x.val + zeros := by
      rw [List.length_append, length_digits, List.length_replicate]
    refine ⟨_, digits x.val ++ List.replicate zeros 0, by rw [List.append_nil, padded], ?_, ?_, ?_⟩
    · have hCount : byteLength x.val + zeros < 256 := by omega
      rw [hLength, UInt8.toNat_ofNat_of_lt' hCount]
    · rw [hLength]
      exact hWidth
    · exact ofLittleEndian_eq_iff.mpr ⟨zeros, rfl⟩

/-- The bytes end with a digit that is not zero, or stand for zero without digits. -/
def Minimal (bs : Bytes) : Prop := bs = [0] ∨ bs.getLast? ≠ some 0

/-- Of the padded forms only the one without zeros is minimal. -/
theorem minimal_padded_iff {x : Bounded bits} {zeros : Nat} :
    Minimal (x.padded zeros) ↔ zeros = 0 := by
  constructor
  · intro h
    cases zeros with
    | zero => rfl
    | succ zeros =>
      rw [padded, List.replicate_succ', ← List.append_assoc] at h
      rcases h with hNil | hLast
      · simp at hNil
      · rw [← List.cons_append, List.getLast?_concat] at hLast
        exact absurd rfl hLast
  · rintro rfl
    rw [padded_zero]
    by_cases hDigits : digits x.val = []
    · left
      have hLength : byteLength x.val = 0 := by rw [← length_digits, hDigits, List.length_nil]
      simp only [encode, hLength, littleEndian]
      rfl
    · right
      change (_ :: digits x.val).getLast? ≠ some 0
      rw [List.getLast?_cons, List.getLast?_eq_some_getLast hDigits, Option.getD_some,
        ← List.getLast?_eq_some_getLast hDigits]
      exact getLast?_digits x.val

theorem byteLength_le_width {x : Bounded bits} (hBytes : 8 ∣ bits) :
    8 * byteLength x.val ≤ bits := by
  obtain ⟨width, rfl⟩ := hBytes
  refine Nat.mul_le_mul_left 8 (byteLength_le_iff.mpr ?_)
  have hPow : 2 ^ (8 * width) = 256 ^ width := Nat.pow_mul 2 8 width
  rw [← hPow]
  exact x.isLt

/-- A number is restored from its encoding, which is the form without zeros. -/
theorem restores_decode (hBytes : 8 ∣ bits) (hBits : bits < 8 * 256) :
    Restores (fun _ => True) (@encode bits) decode := by
  intro x rest _
  have hWidth := byteLength_le_width (x := x) hBytes
  have hCount : byteLength x.val < 256 := by omega
  refine decode_eq_ok_iff.mpr ⟨UInt8.ofNat (byteLength x.val), digits x.val, rfl, ?_, ?_,
    ofLittleEndian_digits x.val⟩
  · rw [length_digits, UInt8.toNat_ofNat_of_lt' hCount]
  · rw [length_digits]
    exact hWidth

theorem encode_eq_iff {bs : Bytes} {x : Bounded bits} (hBytes : 8 ∣ bits) (hBits : bits < 8 * 256) :
    x.encode = bs ↔ decode.run bs = .ok x ∧ Minimal bs := by
  rw [run_eq_ok_iff hBits]
  constructor
  · rintro rfl
    refine ⟨⟨0, byteLength_le_width hBytes, (padded_zero x).symm⟩, ?_⟩
    rw [← padded_zero]
    exact minimal_padded_iff.mpr rfl
  · rintro ⟨⟨zeros, -, rfl⟩, hMinimal⟩
    obtain rfl := minimal_padded_iff.mp hMinimal
    exact (padded_zero x).symm

/-- What is accepted for an amount, and which of it is canonical. An amount is read from its digits
with any number of zeros behind them that the width has room for. Its own encoding is the one of
these byte strings that is minimal, so a byte string is written again as it was read exactly if it
is minimal. -/
theorem accepts_padded_forms (hBits : bits = 256 ∨ bits = 512) (bs : Bytes) (x : Bounded bits) :
    (decode.run bs = .ok x ↔
      ∃ zeros, 8 * (byteLength x.val + zeros) ≤ bits ∧ bs = x.padded zeros) ∧
    (x.encode = bs ↔ decode.run bs = .ok x ∧ Minimal bs) ∧
    (Minimal bs → (decode.run bs = .ok x ↔ x.encode = bs)) ∧
    decode.run x.encode = .ok x ∧
    x.encode = UInt8.ofNat (digits x.val).length :: digits x.val ∧
    8 * (digits x.val).length ≤ bits ∧ ofLittleEndian (digits x.val) = x.val ∧
    (digits x.val).getLast? ≠ some 0 := by
  have hBytes : 8 ∣ bits := by omega
  have hWidth : bits < 8 * 256 := by omega
  have hEncode : ∀ bs, x.encode = bs ↔ decode.run bs = .ok x ∧ Minimal bs := by
    intro bs
    exact encode_eq_iff hBytes hWidth
  refine ⟨run_eq_ok_iff hWidth, hEncode bs, ?_, ((hEncode _).mp rfl).1, ?_, ?_,
    ofLittleEndian_digits x.val, getLast?_digits x.val⟩
  · intro hMinimal
    rw [hEncode bs]
    exact (and_iff_left hMinimal).symm
  · rw [length_digits, encode, digits]
  · rw [length_digits]
    exact byteLength_le_width hBytes

theorem accepts_padded_forms_one :
    ((256 = 256 ∨ 256 = 512) ∧ decode.run [2, 1, 0] = .ok (ofUInt64 1 : U256)) ∧
    ((512 = 256 ∨ 512 = 512) ∧ Minimal [1, 1] ∧ decode.run [1, 1] = .ok (ofUInt64 1 : U512)) := by
  refine ⟨⟨.inl rfl, ?_⟩, .inr rfl, .inr (by decide), ?_⟩
  · exact (accepts_padded_forms (.inl rfl) _ _).1.mpr ⟨1, by decide, by decide⟩
  · exact ((accepts_padded_forms (.inr rfl) _ _).2.2.1 (.inr (by decide))).mpr (by decide)

/-- A zero behind the only digit of one is read over, so one has two forms. -/
theorem two_forms_of_one :
    ¬ (∀ (bs : Bytes) (x : U256), decode.run bs = .ok x ↔ x.encode = bs) ∧
    ¬ (∀ (bs : Bytes) (x : U512), decode.run bs = .ok x ↔ x.encode = bs) := by
  constructor
  · intro h
    have hPadded : decode.run [2, 1, 0] = .ok (ofUInt64 1 : U256) :=
      (run_eq_ok_iff (by decide)).mpr ⟨1, by decide, by decide⟩
    exact absurd ((h _ _).mp hPadded) (by decide)
  · intro h
    have hPadded : decode.run [2, 1, 0] = .ok (ofUInt64 1 : U512) :=
      (run_eq_ok_iff (by decide)).mpr ⟨1, by decide, by decide⟩
    exact absurd ((h _ _).mp hPadded) (by decide)

end Bounded

end Mintage
