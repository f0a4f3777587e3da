import Mintage.Bytes.Base64

/-!
# Proofs: base 64 text

A text in base 64 is read back as the bytes that it was made of. The character of a value stands for
that value and is no padding, so a group of four characters is read by its values; these are the
digits to base 64 of the number that the bytes of the group make up. Hence different bytes have
different texts.
-/

namespace Mintage.Base64

/-! ## Characters -/

/-- A character stands for its value. -/
theorem value?_char {n : Nat} (h : n < 64) : value? (char n) = some n := by
  have values : ∀ n ∈ List.range 64, value? (char n) = some n := by decide +kernel
  exact values n (List.mem_range.mpr h)

theorem char_ne_padding {n : Nat} (h : n < 64) : char n ≠ '=' := by
  have letters : ∀ n ∈ List.range 64, char n ≠ '=' := by decide +kernel
  exact letters n (List.mem_range.mpr h)

/-! ## Groups of characters -/

section Groups

variable {j k m n v : Nat} (hj : j < 64) (hk : k < 64)

include hj hk

theorem decode?_twoValues (hv : j * 64 + k = v) : decode? [char j, char k, '=', '='] =
    if v % 16 = 0 then some [UInt8.ofNat (v / 16)] else none := by
  simp only [decode?, value?_char hj, value?_char hk, Option.bind_eq_bind, Option.bind_some, hv]

theorem decode?_threeValues (hm : m < 64) (hv : (j * 64 + k) * 64 + m = v) :
    decode? [char j, char k, char m, '='] =
      if v % 4 = 0 then some [UInt8.ofNat (v / 1024), UInt8.ofNat (v / 4)] else none := by
  rw [decode?.eq_3 _ _ _ (char_ne_padding hm)]
  simp only [value?_char hj, value?_char hk, value?_char hm, Option.bind_eq_bind, Option.bind_some,
    hv]

theorem decode?_fourValues (hm : m < 64) (hn : n < 64) (hv : ((j * 64 + k) * 64 + m) * 64 + n = v)
    (rest : List Char) : decode? (char j :: char k :: char m :: char n :: rest) =
      (decode? rest).map fun tail =>
        UInt8.ofNat (v / 65536) :: UInt8.ofNat (v / 256) :: UInt8.ofNat v :: tail := by
  have hLast := char_ne_padding hn
  rw [decode?.eq_4 _ _ _ _ _ (fun _ h _ => hLast h) (fun h _ => hLast h)]
  simp only [value?_char hj, value?_char hk, value?_char hm, value?_char hn, Option.bind_eq_bind,
    Option.bind_some, hv]
  cases decode? rest with
  | none => rfl
  | some tail => rfl

end Groups

/-! ## Reading back -/

theorem ofNat_eq_of_mod {n : Nat} {b : UInt8} (h : n % 256 = b.toNat) : UInt8.ofNat n = b := by
  rw [← UInt8.toNat_inj, UInt8.toNat_ofNat', h]

/-- What is written in base 64 is read back. -/
theorem decode?_encodeChars (bs : Bytes) : decode? (encodeChars bs) = some bs := by
  induction bs using encodeChars.induct with
  | case1 => rfl
  | case2 a =>
    have ha : a.toNat < 256 := a.toNat_lt
    generalize hv : a.toNat * 16 = v
    have hWhole : v % 16 = 0 := by omega
    have hFirst : UInt8.ofNat (v / 16) = a := ofNat_eq_of_mod (by omega)
    simp only [encodeChars, hv]
    rw [decode?_twoValues (v := v) (by omega) (by omega) (by omega), if_pos hWhole, hFirst]
  | case3 a b =>
    have ha : a.toNat < 256 := a.toNat_lt
    have hb : b.toNat < 256 := b.toNat_lt
    generalize hv : (a.toNat * 256 + b.toNat) * 4 = v
    have hWhole : v % 4 = 0 := by omega
    have hFirst : UInt8.ofNat (v / 1024) = a := ofNat_eq_of_mod (by omega)
    have hSecond : UInt8.ofNat (v / 4) = b := ofNat_eq_of_mod (by omega)
    simp only [encodeChars, hv]
    rw [decode?_threeValues (v := v) (by omega) (by omega) (by omega) (by omega), if_pos hWhole,
      hFirst, hSecond]
  | case4 a b c rest ih =>
    have ha : a.toNat < 256 := a.toNat_lt
    have hb : b.toNat < 256 := b.toNat_lt
    have hc : c.toNat < 256 := c.toNat_lt
    generalize hv : (a.toNat * 256 + b.toNat) * 256 + c.toNat = v
    have hFirst : UInt8.ofNat (v / 65536) = a := ofNat_eq_of_mod (by omega)
    have hSecond : UInt8.ofNat (v / 256) = b := ofNat_eq_of_mod (by omega)
    have hThird : UInt8.ofNat v = c := ofNat_eq_of_mod (by omega)
    simp only [encodeChars, hv]
    rw [decode?_fourValues (v := v) (by omega) (by omega) (by omega) (by omega) (by omega), ih,
      Option.map_some, hFirst, hSecond, hThird]

theorem decode?_encode (bs : Bytes) : decode? (encode bs).toList = some bs := by
  rw [encode, String.toList_ofList, decode?_encodeChars]

theorem encode_injective {bs cs : Bytes} (h : encode bs = encode cs) : bs = cs := by
  have hRead := decode?_encode bs
  rw [h, decode?_encode] at hRead
  exact (Option.some.inj hRead).symm

end Mintage.Base64
