import Mintage.CLValue.Shape
import Mintage.Proofs.Bounded
import Mintage.Proofs.CLValue

/-!
# Proofs: the binary form of shapes

The values of a shape are restored from their binary form, however deeply lists and options are
nested, by induction on the shape. Amounts are the one sort of value that is read from other bytes
too, so a shape without amounts has an exact decoder. A list whose items have no bytes of their own
is never read; a shape that has none of these is *readable*.
-/

namespace Mintage

open Wire

namespace Cep78.Mode

/-- The numbers of the variants are their places. -/
theorem number_of_place (m : Mode) (i : Nat) (hi : i < m.variants.length) :
    m.number m.variants[i].2 = UInt8.ofNat i := by
  cases m <;> revert i <;> decide

theorem ofNumber?_number (m : Mode) (v : m.Value) : m.ofNumber? (m.number v) = some v := by
  cases m <;> cases v <;> rfl

theorem ofNumber?_eq_some_iff {m : Mode} {n : UInt8} {v : m.Value} :
    m.ofNumber? n = some v ↔ n = m.number v := by
  constructor
  · intro h
    obtain ⟨entry, hEntry, rfl⟩ := Option.map_eq_some_iff.mp h
    obtain ⟨hPlace, rfl⟩ := List.getElem?_eq_some_iff.mp hEntry
    rw [number_of_place, UInt8.ofNat_toNat]
  · rintro rfl
    exact ofNumber?_number m v

theorem exact_decode (m : Mode) : Exact (fun _ => True) m.encode m.decode := by
  intro bs v rest
  rw [decode, bind_eq_ok_iff]
  constructor
  · rintro ⟨n, mid, hByte, hVariant⟩
    obtain ⟨-, rfl⟩ := (exact_decodeByte _ _ _).mp hByte
    cases hFound : m.ofNumber? n with
    | none => simp [hFound] at hVariant
    | some w =>
      rw [hFound] at hVariant
      obtain ⟨rfl, rfl⟩ := pure_eq_ok_iff.mp hVariant
      obtain rfl := ofNumber?_eq_some_iff.mp hFound
      exact ⟨trivial, rfl⟩
  · rintro ⟨-, rfl⟩
    refine ⟨m.number v, rest, rfl, ?_⟩
    rw [ofNumber?_number]
    exact pure_eq_ok_iff.mpr ⟨rfl, rfl⟩

end Cep78.Mode

namespace Shape

/-- No list in the shape has items without bytes. -/
def isReadable : Shape → Bool
  | list item => !item.isEmpty && item.isReadable
  | option inner => inner.isReadable
  | _ => true

/-- Somewhere in the shape are amounts. -/
def hasAmounts : Shape → Bool
  | u256 | u512 => true
  | list item => item.hasAmounts
  | option inner => inner.hasAmounts
  | _ => false

/-- The texts and lists in a value fit behind their lengths. -/
def Fits : (s : Shape) → s.Value → Prop
  | string, t => LengthFits (Utf8.encode t).length
  | list item, xs => LengthFits xs.length ∧ ∀ x ∈ xs, item.Fits x
  | option inner, x => ∀ y ∈ x, inner.Fits y
  | _, _ => True

theorem decode_list {item : Shape} (h : item.isEmpty = false) :
    (list item).decode = decodeList item.decode := by
  rw [decode, h]
  rfl

/-- Values are restored, however deeply they are nested. -/
theorem restores_decode {s : Shape} (h : s.isReadable) : Restores s.Fits s.encode s.decode := by
  induction s with
  | bool => exact exact_decodeBool.restores
  | u8 => exact exact_decodeByte.restores
  | u32 => exact exact_decodeU32.restores
  | u64 => exact exact_decodeU64.restores
  | u256 => exact Bounded.restores_decode (by decide) (by decide)
  | u512 => exact Bounded.restores_decode (by decide) (by decide)
  | string => exact exact_decodeString.restores
  | key => exact Key.exact_decode.restores
  | uref => exact URef.exact_decode.restores
  | publicKey => exact PublicKey.exact_decode.restores
  | bytes length => exact (exact_decodeBlock length).restores
  | mode m => exact m.exact_decode.restores
  | list item ih =>
    obtain ⟨hItem, hReadable⟩ := Bool.and_eq_true_iff.mp h
    rw [decode_list (by simpa using hItem)]
    exact restores_decodeList (ih hReadable)
  | option inner ih => exact restores_decodeOption (ih h)

/-- Without amounts nothing but the encoding of a value is read as that value. -/
theorem exact_decode {s : Shape} (h : s.isReadable) (hAmounts : s.hasAmounts = false) :
    Exact s.Fits s.encode s.decode := by
  induction s with
  | bool => exact exact_decodeBool
  | u8 => exact exact_decodeByte
  | u32 => exact exact_decodeU32
  | u64 => exact exact_decodeU64
  | u256 => cases hAmounts
  | u512 => cases hAmounts
  | string => exact exact_decodeString
  | key => exact Key.exact_decode
  | uref => exact URef.exact_decode
  | publicKey => exact PublicKey.exact_decode
  | bytes length => exact exact_decodeBlock length
  | mode m => exact m.exact_decode
  | list item ih =>
    obtain ⟨hItem, hReadable⟩ := Bool.and_eq_true_iff.mp h
    rw [decode_list (by simpa using hItem)]
    exact exact_decodeList (ih hReadable hAmounts)
  | option inner ih => exact exact_decodeOption (ih h hAmounts)

end Shape

end Mintage
