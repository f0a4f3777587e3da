import Mintage.Account.PublicKey
import Mintage.Proofs.CLValue
import Mintage.Proofs.Hex

/-!
# Proofs: one meaning in every form

A key is a tag and as many bytes as the algorithm of the tag asks for, and a signature is a tag and
64 bytes. All readers agree on that: the one that is given a whole byte string, the one that takes a
key off the front and minds what is left over, and the one that reads digits of either case.
-/

namespace Mintage

open Wire

namespace Hex

theorem toList_toLower (s : String) : s.toLower.toList = s.toList.map Char.toLower :=
  String.toList_map

theorem toLower_encode (bs : Bytes) : (encode bs).toLower = encode bs := by
  have hDigits := decode_eq_ok_iff.mp (decode_encode bs)
  rw [← String.toList_inj, toList_toLower, hDigits, encode, String.toList_ofList]

/-- A text is read as a byte string exactly if it is, up to the case of letters, its text. -/
theorem decode_eq_ok_iff_toLower {text : String} {bs : Bytes} :
    decode text = .ok bs ↔ text.toLower = (encode bs).toLower := by
  rw [toLower_encode, ← String.toList_inj, toList_toLower, encode, String.toList_ofList,
    decode_eq_ok_iff]

end Hex

namespace PublicKey

/-- The bytes are a tag and the bytes of the key: 1 and 32 bytes for a key of Ed25519, 2 and 33
bytes for one of secp256k1. -/
inductive Tagged : Bytes → PublicKey → Prop
  | ed25519 (b : Block 32) : Tagged (1 :: b.bytes) (.ed25519 b)
  | secp256k1 (b : Block 33) : Tagged (2 :: b.bytes) (.secp256k1 b)

variable {bs : Bytes} {k : PublicKey}

theorem encode_eq_iff : k.encode = bs ↔ Tagged bs k := by
  constructor
  · rintro rfl
    cases k with
    | ed25519 b => exact .ed25519 b
    | secp256k1 b => exact .secp256k1 b
  · rintro (b | b)
    · rfl
    · rfl

theorem run_decode_eq_ok_iff : decode.run bs = .ok k ↔ Tagged bs k := by
  rw [exact_decode.run_eq_ok_iff, encode_eq_iff]
  exact and_iff_right trivial

/-- A whole byte string is read by its tag, and behind the tag its length has to be right. -/
theorem ofTagged_eq_ok_iff : ofTagged bs = .ok k ↔ Tagged bs k := by
  constructor
  · intro h
    unfold ofTagged at h
    split at h
    · cases h
    · split at h
      · rename_i b hBytes
        cases h
        rw [Block.ofBytes?_eq_some_iff.mp hBytes]
        exact .ed25519 b
      · cases h
    · split at h
      · rename_i b hBytes
        cases h
        rw [Block.ofBytes?_eq_some_iff.mp hBytes]
        exact .secp256k1 b
      · cases h
    · cases h
  · rintro (b | b)
    · simp only [ofTagged, Block.ofBytes?_bytes]
    · simp only [ofTagged, Block.ofBytes?_bytes]

theorem exists_tagged_iff :
    (∃ k, Tagged bs k) ↔ (bs.head? = some 1 ∧ bs.length = 33) ∨
      (bs.head? = some 2 ∧ bs.length = 34) := by
  constructor
  · rintro ⟨k, b | b⟩
    · exact .inl ⟨rfl, by rw [List.length_cons, b.length_bytes]⟩
    · exact .inr ⟨rfl, by rw [List.length_cons, b.length_bytes]⟩
  · cases bs with
    | nil => simp
    | cons tag rest =>
      simp only [List.head?_cons, Option.some.injEq, List.length_cons, Nat.reduceEqDiff]
      rintro (⟨rfl, h⟩ | ⟨rfl, h⟩)
      · exact ⟨_, .ed25519 ⟨rest, h⟩⟩
      · exact ⟨_, .secp256k1 ⟨rest, h⟩⟩

/-- A text is read as the key whose binary form its digits are. -/
theorem parse_eq_ok_iff {s : String} : parse s = .ok k ↔ Hex.decode s = .ok k.encode := by
  unfold parse
  cases Hex.decode s with
  | error fault => simp
  | ok bs => rw [ofTagged_eq_ok_iff, ← encode_eq_iff, Except.ok.injEq, eq_comm]

theorem parse_text (k : PublicKey) : parse k.text = .ok k :=
  parse_eq_ok_iff.mpr (Hex.decode_encode k.encode)

end PublicKey

theorem Algorithm.ofTag?_eq_some_iff {tag : UInt8} {a : Algorithm} :
    ofTag? tag = some a ↔ tag = a.tag := by
  constructor
  · intro h
    unfold ofTag? at h
    split at h
    · cases h
      rfl
    · cases h
      rfl
    · cases h
  · rintro rfl
    cases a with
    | ed25519 => rfl
    | secp256k1 => rfl

namespace Signature

/-- The bytes are a tag and the 64 bytes of the signature: 1 for Ed25519 and 2 for secp256k1. -/
inductive Tagged : Bytes → Signature → Prop
  | ed25519 (b : Block 64) : Tagged (1 :: b.bytes) ⟨.ed25519, b⟩
  | secp256k1 (b : Block 64) : Tagged (2 :: b.bytes) ⟨.secp256k1, b⟩

variable {bs : Bytes} {g : Signature}

theorem encode_eq_iff : g.encode = bs ↔ Tagged bs g := by
  constructor
  · rintro rfl
    obtain ⟨algorithm, b⟩ := g
    cases algorithm with
    | ed25519 => exact .ed25519 b
    | secp256k1 => exact .secp256k1 b
  · rintro (b | b)
    · rfl
    · rfl

theorem ofTagged_eq_ok_iff : ofTagged bs = .ok g ↔ Tagged bs g := by
  rw [← encode_eq_iff]
  constructor
  · intro h
    unfold ofTagged at h
    split at h
    · cases h
    · split at h
      · cases h
      · cases h
      · rename_i hBytes hTag
        cases h
        rw [encode, Algorithm.ofTag?_eq_some_iff.mp hTag, Block.ofBytes?_eq_some_iff.mp hBytes]
  · rintro rfl
    simp only [encode, ofTagged, Block.ofBytes?_bytes, Algorithm.ofTag?_eq_some_iff.mpr rfl]

theorem exists_tagged_iff :
    (∃ g, Tagged bs g) ↔ (bs.head? = some 1 ∨ bs.head? = some 2) ∧ bs.length = 65 := by
  constructor
  · rintro ⟨g, b | b⟩
    · exact ⟨.inl rfl, by rw [List.length_cons, b.length_bytes]⟩
    · exact ⟨.inr rfl, by rw [List.length_cons, b.length_bytes]⟩
  · cases bs with
    | nil => simp
    | cons tag rest =>
      simp only [List.head?_cons, Option.some.injEq, List.length_cons, Nat.reduceEqDiff]
      rintro ⟨rfl | rfl, h⟩
      · exact ⟨_, .ed25519 ⟨rest, h⟩⟩
      · exact ⟨_, .secp256k1 ⟨rest, h⟩⟩

theorem parse_eq_ok_iff {s : String} : parse s = .ok g ↔ Hex.decode s = .ok g.encode := by
  unfold parse
  cases Hex.decode s with
  | error fault => simp
  | ok bs => rw [ofTagged_eq_ok_iff, ← encode_eq_iff, Except.ok.injEq, eq_comm]

theorem parse_text (g : Signature) : parse g.text = .ok g :=
  parse_eq_ok_iff.mpr (Hex.decode_encode g.encode)

end Signature

/-- Keys and signatures have one meaning in every form.

- A byte string is a key for the reader of whole byte strings exactly if it is one for the reader of
  streams, and for both that is the key with this tag and these bytes, whose binary form they are.
- Such byte strings are those of 33 bytes with the tag 1 and those of 34 bytes with the tag 2; for
  signatures they have 65 bytes and one of the tags.
- A text is a key or a signature exactly if it is the text of it up to the case of letters; then its
  digits are the binary form. -/
theorem one_meaning_in_every_form :
    (∀ (bs : Bytes) (k : PublicKey),
      (PublicKey.ofTagged bs = .ok k ↔ PublicKey.decode.run bs = .ok k) ∧
      (PublicKey.ofTagged bs = .ok k ↔ PublicKey.Tagged bs k) ∧
      (PublicKey.Tagged bs k ↔ k.encode = bs)) ∧
    (∀ bs : Bytes, (∃ k, PublicKey.Tagged bs k) ↔
      (bs.head? = some 1 ∧ bs.length = 33) ∨ (bs.head? = some 2 ∧ bs.length = 34)) ∧
    (∀ (s : String) (k : PublicKey),
      (PublicKey.parse s = .ok k ↔ s.toLower = k.text.toLower) ∧
      (PublicKey.parse s = .ok k ↔ Hex.decode s = .ok k.encode)) ∧
    (∀ (bs : Bytes) (g : Signature), Signature.Tagged bs g ↔ g.encode = bs) ∧
    (∀ bs : Bytes, (∃ g, Signature.Tagged bs g) ↔
      (bs.head? = some 1 ∨ bs.head? = some 2) ∧ bs.length = 65) ∧
    ∀ (s : String) (g : Signature),
      (Signature.parse s = .ok g ↔ s.toLower = g.text.toLower) ∧
      (Signature.parse s = .ok g ↔ Hex.decode s = .ok g.encode) := by
  refine ⟨?_, fun _ => PublicKey.exists_tagged_iff, ?_, fun _ _ => Signature.encode_eq_iff.symm,
    fun _ => Signature.exists_tagged_iff, ?_⟩
  · intro bs k
    refine ⟨?_, PublicKey.ofTagged_eq_ok_iff, PublicKey.encode_eq_iff.symm⟩
    rw [PublicKey.ofTagged_eq_ok_iff, PublicKey.run_decode_eq_ok_iff]
  · intro s k
    refine ⟨?_, PublicKey.parse_eq_ok_iff⟩
    rw [PublicKey.parse_eq_ok_iff, Hex.decode_eq_ok_iff_toLower, PublicKey.text]
  · intro s g
    refine ⟨?_, Signature.parse_eq_ok_iff⟩
    rw [Signature.parse_eq_ok_iff, Hex.decode_eq_ok_iff_toLower, Signature.text]

end Mintage
