import Mintage.Account.PublicKey
import Mintage.Dictionary.Address
import Mintage.Proofs.Base64
import Mintage.Proofs.DeployHash
import Mintage.Proofs.Hex
import Mintage.Proofs.KeyText

/-!
# Proofs: where the data of an owner is kept

Data about an owner is found by texts and digests that are made of the owner. Digits and base 64
lose nothing of the bytes they are made of, so item keys differ where these bytes do. What is hashed
for an address or for an account stands one part behind the other with nothing between them: the
address of a seed has 32 bytes, and the names of the algorithms begin with different letters, so the
whole determines the parts. Two addresses or accounts are one only if that is one, or else two byte
strings are at hand that collide.
-/

namespace Mintage

theorem Blake2b.digest_eq_iff {a b : Bytes} : digest a = digest b ↔ a = b ∨ Collision a b := by
  constructor
  · exact eq_or_collision
  · rintro (rfl | hCollision)
    · rfl
    · exact hCollision.digest

/-! ## Item keys -/

namespace Identity

variable {i j : Identity}

/-- Item keys are made of the bytes of a hash, whatever the kind. -/
theorem itemKey_eq_iff : i.itemKey = j.itemKey ↔ i.hash = j.hash := by
  constructor
  · intro h
    exact Block.ext (Hex.encode_injective h)
  · intro h
    rw [itemKey, h, itemKey]

theorem toKey_injective (h : i.toKey = j.toKey) : i = j := by
  have hIdentity := Key.identity?_eq_some_iff.mpr h
  rw [Key.identity?_eq_some_iff.mpr rfl] at hIdentity
  exact Option.some.inj hIdentity

/-- The key of a balance is read as the tagged key of the owner. -/
theorem decode?_balanceKey (i : Identity) :
    Base64.decode? i.balanceKey.toList = some i.toKey.encode :=
  Base64.decode?_encode i.toKey.encode

theorem balanceKey_eq_iff : i.balanceKey = j.balanceKey ↔ i = j := by
  constructor
  · intro h
    have hBytes : i.toKey.encode = j.toKey.encode := Base64.encode_injective h
    exact toKey_injective (Key.exact_decode.prefixFree.injective trivial trivial hBytes)
  · rintro rfl
    rfl

end Identity

/-! ## Addresses of items -/

/-- A digest and a text behind it are determined by their bytes. -/
theorem Digest.append_utf8_injective {d e : Digest} {s t : String}
    (h : d.bytes ++ Utf8.encode s = e.bytes ++ Utf8.encode t) : d = e ∧ s = t := by
  have hLength : d.bytes.length = e.bytes.length := by rw [d.length_bytes, e.length_bytes]
  obtain ⟨hDigest, hText⟩ := List.append_inj h hLength
  exact ⟨Block.ext hDigest, Utf8.encode_injective hText⟩

namespace Dictionary

/-- What is hashed for the address of an item. -/
def itemBytes (seed : URef) (itemKey : String) : Bytes := seed.address.bytes ++ Utf8.encode itemKey

theorem address_eq_iff {s t : URef} {k l : String} : address s k = address t l ↔
    (s.address = t.address ∧ k = l) ∨ Blake2b.Collision (itemBytes s k) (itemBytes t l) := by
  have hBytes : itemBytes s k = itemBytes t l ↔ s.address = t.address ∧ k = l := by
    constructor
    · exact Digest.append_utf8_injective
    · rintro ⟨hSeed, rfl⟩
      rw [itemBytes, hSeed, itemBytes]
  rw [← hBytes]
  exact Blake2b.digest_eq_iff

end Dictionary

/-! ## Accounts -/

namespace PublicKey

/-- What is hashed for the account of a key. -/
def accountBytes (k : PublicKey) : Bytes := Utf8.encode k.algorithm.text ++ 0 :: k.keyBytes

/-- The first byte tells the algorithm. -/
theorem algorithm_eq_of_accountBytes {a b : PublicKey} (h : a.accountBytes = b.accountBytes) :
    a.algorithm = b.algorithm := by
  have letters : ∀ p q : Algorithm,
      (Utf8.encode p.text).head? = (Utf8.encode q.text).head? → p = q := by
    intro p q
    cases p with
    | ed25519 => cases q <;> decide
    | secp256k1 => cases q <;> decide
  have hFirst : ∀ k : PublicKey, k.accountBytes.head? = (Utf8.encode k.algorithm.text).head? := by
    intro k
    cases k with
    | ed25519 x => rfl
    | secp256k1 x => rfl
  apply letters
  rw [← hFirst, h, hFirst]

theorem accountBytes_injective {a b : PublicKey} (h : a.accountBytes = b.accountBytes) :
    a = b := by
  have hAlgorithm := algorithm_eq_of_accountBytes h
  rw [accountBytes, accountBytes, hAlgorithm] at h
  have hBytes : a.keyBytes = b.keyBytes := (List.cons.inj (List.append_cancel_left h)).2
  cases a with
  | ed25519 x =>
    cases b with
    | ed25519 y => rw [Block.ext hBytes]
    | secp256k1 y => cases hAlgorithm
  | secp256k1 x =>
    cases b with
    | ed25519 y => cases hAlgorithm
    | secp256k1 y => rw [Block.ext hBytes]

theorem identity_eq_iff {a b : PublicKey} : a.identity = b.identity ↔
    a = b ∨ Blake2b.Collision a.accountBytes b.accountBytes := by
  have hHash : a.identity = b.identity ↔
      Blake2b.digest a.accountBytes = Blake2b.digest b.accountBytes := by
    simp [identity, accountHash, accountBytes]
  have hBytes : a.accountBytes = b.accountBytes ↔ a = b := by
    constructor
    · exact accountBytes_injective
    · rintro rfl
      rfl
  rw [hHash, Blake2b.digest_eq_iff, hBytes]

end PublicKey

/-- Owners do not share the places of their data.

- Item keys of two identities are one exactly if the bytes of the hashes are, whatever the kinds.
- Item keys of balances are one exactly if the identities are, with their kinds; each is base 64 for
  the tagged key.
- Addresses of items are one exactly if the addresses of the seeds and the item keys are, whatever
  the rights of the seeds, or else what is hashed for them collides.
- Accounts of two public keys are one exactly if the keys are, or else what is hashed for them
  collides. -/
theorem owners_are_told_apart :
    (∀ i j : Identity, i.itemKey = j.itemKey ↔ i.hash.bytes = j.hash.bytes) ∧
    (∀ i j : Identity, i.balanceKey = j.balanceKey ↔ i = j) ∧
    (∀ i : Identity, Base64.decode? i.balanceKey.toList = some i.toKey.encode) ∧
    (∀ (s t : URef) (k l : String), Dictionary.address s k = Dictionary.address t l ↔
      (s.address = t.address ∧ k = l) ∨
        Blake2b.Collision (Dictionary.itemBytes s k) (Dictionary.itemBytes t l)) ∧
    ∀ a b : PublicKey, a.identity = b.identity ↔
      a = b ∨ Blake2b.Collision a.accountBytes b.accountBytes := by
  refine ⟨?_, fun _ _ => Identity.balanceKey_eq_iff, Identity.decode?_balanceKey,
    fun _ _ _ _ => Dictionary.address_eq_iff, fun _ _ => PublicKey.identity_eq_iff⟩
  intro i j
  rw [Identity.itemKey_eq_iff, Block.ext_iff]

end Mintage
