import Mintage.Proofs.DeployJson
import Mintage.Proofs.KeyText
import Mintage.Proofs.Shape

/-!
# Proofs: typed values

A value is read back from the typed value that was made of it, and the binary form and JSON lose
nothing of a typed value in between. Reading looks at the type first, so a value is not read as one
of another type, whatever its bytes are; behind the right type only bytes that are no form of a
value are complained of. An identity is read from its key.
-/

namespace Mintage

open Json Wire

theorem Key.encode_ne_nil (k : Key) : k.encode ≠ [] := by
  cases k with
  | account h => exact List.cons_ne_nil _ _
  | hash h => exact List.cons_ne_nil _ _
  | uref u => exact List.cons_ne_nil _ _

namespace CLValue

variable {s : Shape} {v : CLValue} {x : s.Value}

/-! ## Reading as a shape -/

/-- The type is looked at before the bytes. -/
theorem as_of_mismatch (h : v.clType ≠ s.clType) :
    v.as s = .error (.decodeMismatch s.clType v.clType) := if_pos h

theorem as_of_match (h : v.clType = s.clType) :
    v.as s = (s.decode.run v.bytes).mapError (.malformed s.clType) := by
  rw [as, if_neg (not_not_intro h)]
  split
  · rename_i y hRun
    rw [hRun]
    rfl
  · rename_i cause hRun
    rw [hRun]
    rfl

theorem as_eq_ok_iff : v.as s = .ok x ↔ v.clType = s.clType ∧ s.decode.run v.bytes = .ok x := by
  by_cases hType : v.clType = s.clType
  · rw [as_of_match hType, Outcome.mapError_eq_ok_iff]
    exact (and_iff_right hType).symm
  · rw [as_of_mismatch hType]
    simp [hType]

theorem as_of (hReadable : s.isReadable) (hFits : s.Fits x) : (of s x).as s = .ok x := by
  have hDecode := s.restores_decode hReadable x [] hFits
  rw [List.append_nil] at hDecode
  exact as_eq_ok_iff.mpr ⟨rfl, run_eq_ok_iff.mpr hDecode⟩

/-- Without amounts a value is read from nothing but the typed value that is made of it. -/
theorem as_eq_ok_iff_of_exact (hReadable : s.isReadable) (hAmounts : s.hasAmounts = false) :
    v.as s = .ok x ↔ s.Fits x ∧ v = of s x := by
  obtain ⟨clType, bytes⟩ := v
  rw [as_eq_ok_iff, (s.exact_decode hReadable hAmounts).run_eq_ok_iff, of, CLValue.mk.injEq]
  constructor
  · rintro ⟨hType, hFits, hBytes⟩
    exact ⟨hFits, hType, hBytes.symm⟩
  · rintro ⟨hFits, hType, hBytes⟩
    exact ⟨hType, hFits, hBytes.symm⟩

/-- A list whose items have bytes is read back as it is, if its length fits into four bytes, and
else as no list. -/
theorem as_list_of_eq_ok_iff (item : Shape) (xs ys : List item.Value)
    (h : Exact (fun _ => True) item.encode item.decode) (hEmpty : item.isEmpty = false)
    (hNonempty : ∀ x, item.encode x ≠ []) :
    (of (.list item) xs).as (.list item) = .ok ys ↔ LengthFits xs.length ∧ ys = xs := by
  rw [as_eq_ok_iff, Shape.decode_list hEmpty, (exact_decodeList h).run_eq_ok_iff]
  constructor
  · rintro ⟨-, ⟨hLength, -⟩, hBytes⟩
    obtain rfl := h.prefixFree.encodeList_injective hNonempty hBytes
    exact ⟨hLength, rfl⟩
  · rintro ⟨hLength, rfl⟩
    exact ⟨rfl, ⟨hLength, fun _ _ => trivial⟩, rfl⟩

/-- Behind the right type a value is read, or its bytes are complained of. -/
theorem as_ok_or_malformed (h : v.clType = s.clType) :
    (∃ x, v.as s = .ok x) ∨ ∃ cause, v.as s = .error (.malformed s.clType cause) := by
  rw [as_of_match h]
  cases s.decode.run v.bytes with
  | ok x => exact .inl ⟨x, rfl⟩
  | error cause => exact .inr ⟨cause, rfl⟩

/-! ## Reading as an identity -/

theorem as_key_eq_ok_iff {k : Key} : v.as .key = .ok k ↔ v = of .key k := by
  rw [as_eq_ok_iff_of_exact rfl rfl]
  exact and_iff_right trivial

theorem asIdentity_of (k : Key) :
    (of .key k).asIdentity = match k.identity? with
      | some i => .ok i
      | none => .error (.notAnIdentity k) := by
  rw [asIdentity, as_key_eq_ok_iff.mpr rfl]
  rfl

/-- What is no key is complained of as what it is. -/
theorem asIdentity_of_error {e : Error} (h : v.as .key = .error e) : v.asIdentity = .error e := by
  rw [asIdentity, h]
  rfl

theorem asIdentity_eq_ok_iff {i : Identity} : v.asIdentity = .ok i ↔ v = of .key i.toKey := by
  constructor
  · intro h
    cases hKey : v.as .key with
    | error e =>
      rw [asIdentity_of_error hKey] at h
      cases h
    | ok k =>
      obtain rfl := as_key_eq_ok_iff.mp hKey
      rw [asIdentity_of] at h
      split at h
      · rename_i hIdentity
        cases h
        rw [Key.identity?_eq_some_iff.mp hIdentity]
      · cases h
  · rintro rfl
    rw [asIdentity_of, Key.identity?_eq_some_iff.mpr rfl]

theorem as_ne_notAnIdentity (k : Key) : v.as s ≠ .error (.notAnIdentity k) := by
  by_cases hType : v.clType = s.clType
  · rcases as_ok_or_malformed hType with ⟨x, hRead⟩ | ⟨cause, hRead⟩
    · simp [hRead]
    · simp [hRead]
  · simp [as_of_mismatch hType]

/-- It is the keys of references that refer to no identity. -/
theorem asIdentity_eq_notAnIdentity_iff {k : Key} :
    v.asIdentity = .error (.notAnIdentity k) ↔ ∃ u, k = .uref u ∧ v = of .key (.uref u) := by
  constructor
  · intro h
    cases hKey : v.as .key with
    | error e =>
      rw [asIdentity_of_error hKey] at h
      cases h
      exact absurd hKey (as_ne_notAnIdentity k)
    | ok found =>
      obtain rfl := as_key_eq_ok_iff.mp hKey
      rw [asIdentity_of] at h
      split at h
      · cases h
      · rename_i hIdentity
        cases h
        obtain ⟨u, rfl⟩ := Key.identity?_eq_none_iff.mp hIdentity
        exact ⟨u, rfl, rfl⟩
  · rintro ⟨u, rfl, rfl⟩
    rw [asIdentity_of]
    rfl

/-! ## What becomes of a value -/

/-- A value is read back from the typed value that is made of it, also after its binary form or
JSON, with members in any order. Under another type it is not read at all, whatever its bytes are.
Under its own type it is read, or its bytes are complained of; and without amounts nothing is read
as a value but what is made of it. Identities are read from the keys of accounts and contracts
alone, and references are named as what they are. -/
theorem values_survive_under_their_type :
    (∀ (s : Shape) (x : s.Value), s.isReadable → s.Fits x →
      (of s x).as s = .ok x ∧
      (LengthFits (s.encode x).length → decode.run (of s x).encode = .ok (of s x)) ∧
      readJson (of s x).toJson.toDraft = .ok (of s x) ∧
      ∀ j, (of s x).toJson.Reordered j → readJson j.toDraft = .ok (of s x)) ∧
    (∀ (s : Shape) (v : CLValue), v.clType ≠ s.clType →
      v.as s = .error (.decodeMismatch s.clType v.clType)) ∧
    (∀ (s : Shape) (v : CLValue), v.clType = s.clType →
      (∃ x, v.as s = .ok x) ∨ ∃ cause, v.as s = .error (.malformed s.clType cause)) ∧
    (∀ (s : Shape) (v : CLValue) (x : s.Value), s.isReadable → s.hasAmounts = false →
      (v.as s = .ok x ↔ s.Fits x ∧ v = of s x)) ∧
    (∀ (v : CLValue) (i : Identity), v.asIdentity = .ok i ↔ v = of .key i.toKey) ∧
    (∀ (v : CLValue) (k : Key), v.asIdentity = .error (.notAnIdentity k) ↔
      ∃ u, k = .uref u ∧ v = of .key (.uref u)) := by
  refine ⟨?_, ?_, ?_, ?_, ?_, ?_⟩
  · intro s x hReadable hFits
    refine ⟨as_of hReadable hFits, ?_, (reads _).of_refl, reads _⟩
    intro hBytes
    exact exact_decode.run_eq_ok_iff.mpr ⟨hBytes, rfl⟩
  · intro s v hType
    exact as_of_mismatch hType
  · intro s v hType
    exact as_ok_or_malformed hType
  · intro s v x hReadable hAmounts
    exact as_eq_ok_iff_of_exact hReadable hAmounts
  · intro v i
    exact asIdentity_eq_ok_iff
  · intro v k
    exact asIdentity_eq_notAnIdentity_iff

theorem values_survive_under_their_type_of_numbers :
    let numbers : List (Option UInt64) := [some 258, none]
    (of (.list (.option .u64)) numbers).as (.list (.option .u64)) = .ok numbers ∧
      (of (.list (.option .u64)) numbers).as (.list (.option (.mode .burn))) =
        .error (.decodeMismatch (.list (.option .u8)) (.list (.option .u64))) ∧
      (of .uref ⟨default, 7⟩).asIdentity ≠ .ok ⟨.account, default⟩ := by
  intro numbers
  obtain ⟨hSurvives, hMismatch, -, -, hIdentity, -⟩ := values_survive_under_their_type
  refine ⟨?_, ?_, ?_⟩
  · exact (hSurvives (.list (.option .u64)) numbers rfl ⟨by decide, fun _ _ _ _ => trivial⟩).1
  · exact hMismatch (.list (.option (.mode .burn))) _ (by decide)
  · rw [ne_eq, hIdentity]
    decide

end CLValue

end Mintage
