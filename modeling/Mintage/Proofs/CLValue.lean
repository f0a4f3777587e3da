import Mintage.CLValue
import Mintage.Proofs.Wire

/-!
# Proofs: the binary forms of types, keys and typed values

Each decoder is exact for its encoder. The tags in front tell the cases apart, and behind a tag the
parts are exact by `Mintage.Proofs.Wire`. Types are nested to any depth, so their proof goes by
induction: along the input for what is read, along the type for what is written.
-/

namespace Mintage

open Wire

namespace CLType

/-- Nothing but the encoding of a type is read as that type. -/
theorem eq_encode_of_decode {t : CLType} {bs rest : Bytes} (h : decode bs = .ok (t, rest)) :
    bs = t.encode ++ rest := by
  fun_induction decode bs generalizing t rest with
  | case12 bs ih =>
    obtain ⟨inner, mid, hInner, hEq⟩ := bind_pair_eq_ok_iff.mp h
    cases hEq
    rw [ih hInner, encode, List.cons_append]
  | case13 bs ih =>
    obtain ⟨item, mid, hItem, hEq⟩ := bind_pair_eq_ok_iff.mp h
    cases hEq
    rw [ih hItem, encode, List.cons_append]
  | case14 bs =>
    obtain ⟨length, mid, hLength, hEq⟩ := bind_pair_eq_ok_iff.mp h
    cases hEq
    rw [((exact_decodeU32 _ _ _).mp hLength).2, encode, List.cons_append]
  | case1 => cases h
  | case17 => cases h
  | _ =>
    cases h
    rfl

theorem decode_encode_append (t : CLType) (rest : Bytes) :
    decode (t.encode ++ rest) = .ok (t, rest) := by
  induction t generalizing rest with
  | option inner ih =>
    rw [encode, List.cons_append, decode, ih]
    rfl
  | list item ih =>
    rw [encode, List.cons_append, decode, ih]
    rfl
  | byteArray length =>
    rw [encode, List.cons_append, decode, exact_decodeU32.decode_append trivial]
    rfl
  | _ => rfl

theorem exact_decode : Exact (fun _ => True) encode decode := by
  intro bs t rest
  constructor
  · intro h
    exact ⟨trivial, eq_encode_of_decode h⟩
  · rintro ⟨-, rfl⟩
    exact decode_encode_append t rest

/-- The tags of the types. -/
def tags : List UInt8 := [0, 3, 4, 5, 7, 8, 9, 10, 11, 12, 13, 14, 15, 21, 22]

/-- The bytes begin with a tag of no type, maybe within options and lists. -/
inductive Mistagged (tag : UInt8) : Bytes → Prop
  | tag (rest : Bytes) : tag ∉ tags → Mistagged tag (tag :: rest)
  | option {bs : Bytes} : Mistagged tag bs → Mistagged tag (13 :: bs)
  | list {bs : Bytes} : Mistagged tag bs → Mistagged tag (14 :: bs)

theorem decode_of_mistagged {tag : UInt8} {bs : Bytes} (h : Mistagged tag bs) :
    decode bs = .error (.unknownType tag) := by
  induction h with
  | tag rest hTag =>
    unfold decode
    split <;> simp_all [tags]
  | option _ ih =>
    rw [decode, ih]
    rfl
  | list _ ih =>
    rw [decode, ih]
    rfl

end CLType

theorem URef.exact_decode : Exact (fun _ => True) URef.encode URef.decode := by
  intro bs u rest
  simp only [URef.decode, bind_eq_ok_iff, pure_eq_ok_iff]
  constructor
  · rintro ⟨address, mid, hAddress, rights, mid', hRights, rfl, rfl⟩
    obtain ⟨-, rfl⟩ := (exact_decodeBlock 32 _ _ _).mp hAddress
    obtain ⟨-, rfl⟩ := (exact_decodeByte _ _ _).mp hRights
    exact ⟨trivial, by simp [URef.encode]⟩
  · rintro ⟨-, rfl⟩
    refine ⟨u.address, u.rights :: rest, ?_, u.rights, rest, rfl, rfl, rfl⟩
    rw [URef.encode, List.append_assoc]
    exact (exact_decodeBlock 32).decode_append trivial _

namespace Key

theorem exact_decode : Exact (fun _ => True) encode decode := by
  intro bs k rest
  rw [decode, bind_eq_ok_iff]
  constructor
  · rintro ⟨tag, mid, hTag, hContent⟩
    obtain ⟨-, rfl⟩ := (exact_decodeByte _ _ _).mp hTag
    split at hContent
    · obtain ⟨h, rfl, -, rfl⟩ := (map_eq_ok_iff (exact_decodeBlock 32)).mp hContent
      exact ⟨trivial, rfl⟩
    · obtain ⟨h, rfl, -, rfl⟩ := (map_eq_ok_iff (exact_decodeBlock 32)).mp hContent
      exact ⟨trivial, rfl⟩
    · obtain ⟨u, rfl, -, rfl⟩ := (map_eq_ok_iff URef.exact_decode).mp hContent
      exact ⟨trivial, rfl⟩
    · exact absurd hContent (by simp)
  · rintro ⟨-, rfl⟩
    cases k with
    | account h =>
      exact ⟨0, _, rfl, (map_eq_ok_iff (exact_decodeBlock 32)).mpr ⟨h, rfl, trivial, rfl⟩⟩
    | hash h =>
      exact ⟨1, _, rfl, (map_eq_ok_iff (exact_decodeBlock 32)).mpr ⟨h, rfl, trivial, rfl⟩⟩
    | uref u =>
      exact ⟨2, _, rfl, (map_eq_ok_iff URef.exact_decode).mpr ⟨u, rfl, trivial, rfl⟩⟩

theorem decode_of_mistagged {tag : UInt8} (hTag : tag ∉ [0, 1, 2]) (rest : Bytes) :
    decode (tag :: rest) = .error (.unknownKey tag) := by
  have hByte : decodeByte (tag :: rest) = .ok (tag, rest) := rfl
  rw [decode, bind_of_ok hByte]
  split
  · exact absurd hTag (by decide)
  · exact absurd hTag (by decide)
  · exact absurd hTag (by decide)
  · rfl

end Key

namespace PublicKey

theorem exact_decode : Exact (fun _ => True) encode decode := by
  intro bs k rest
  rw [decode, bind_eq_ok_iff]
  constructor
  · rintro ⟨tag, mid, hTag, hContent⟩
    obtain ⟨-, rfl⟩ := (exact_decodeByte _ _ _).mp hTag
    split at hContent
    · obtain ⟨b, rfl, -, rfl⟩ := (map_eq_ok_iff (exact_decodeBlock 32)).mp hContent
      exact ⟨trivial, rfl⟩
    · obtain ⟨b, rfl, -, rfl⟩ := (map_eq_ok_iff (exact_decodeBlock 33)).mp hContent
      exact ⟨trivial, rfl⟩
    · exact absurd hContent (by simp)
  · rintro ⟨-, rfl⟩
    cases k with
    | ed25519 b =>
      exact ⟨1, _, rfl, (map_eq_ok_iff (exact_decodeBlock 32)).mpr ⟨b, rfl, trivial, rfl⟩⟩
    | secp256k1 b =>
      exact ⟨2, _, rfl, (map_eq_ok_iff (exact_decodeBlock 33)).mpr ⟨b, rfl, trivial, rfl⟩⟩

theorem decode_of_mistagged {tag : UInt8} (hTag : tag ∉ [1, 2]) (rest : Bytes) :
    decode (tag :: rest) = .error (.unknownPublicKey tag) := by
  have hByte : decodeByte (tag :: rest) = .ok (tag, rest) := rfl
  rw [decode, bind_of_ok hByte]
  split
  · exact absurd hTag (by decide)
  · exact absurd hTag (by decide)
  · rfl

end PublicKey

namespace CLValue

/-- The bytes of the value fit behind a length. -/
def Fits (v : CLValue) : Prop := LengthFits v.bytes.length

theorem exact_decode : Exact Fits encode decode := by
  intro bs v rest
  simp only [decode, bind_eq_ok_iff, pure_eq_ok_iff]
  constructor
  · rintro ⟨bytes, mid, hBytes, clType, mid', hType, rfl, rfl⟩
    obtain ⟨hFits, rfl⟩ := (exact_decodeBlob _ _ _).mp hBytes
    obtain ⟨-, rfl⟩ := (CLType.exact_decode _ _ _).mp hType
    exact ⟨hFits, by simp [encode]⟩
  · rintro ⟨hFits, rfl⟩
    rw [encode, List.append_assoc]
    exact ⟨v.bytes, _, exact_decodeBlob.decode_append hFits _, v.clType, rest,
      CLType.decode_encode_append v.clType rest, rfl, rfl⟩

theorem decode_of_mistagged {bytes bs : Bytes} (hBytes : LengthFits bytes.length) {tag : UInt8}
    (h : CLType.Mistagged tag bs) :
    decode (encodeBlob bytes ++ bs) = .error (.unknownType tag) := by
  rw [decode, bind_of_ok (exact_decodeBlob.decode_append hBytes bs)]
  exact bind_of_error (CLType.decode_of_mistagged h)

/-- A value whose encoding has a length in four bytes fits. -/
theorem fits_of_encode {v : CLValue} (h : LengthFits v.encode.length) : v.Fits := by
  refine LengthFits.mono ?_ h
  simp only [encode, encodeBlob, List.length_append]
  omega

end CLValue

end Mintage
