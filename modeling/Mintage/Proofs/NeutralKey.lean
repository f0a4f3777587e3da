import Mintage.Account.SecretKey

/-!
# Proofs: the key of the neutral point

Verification takes any point of the curve for a public key, the neutral point included. A multiple
of the neutral point is the neutral point, so the message drops out of what is verified, and there
is one signature that is valid for every message under that key. The multiples differ in their
coordinates, but only by a power of two, which the inverse takes out again.
-/

namespace Mintage

namespace Residue

theorem pow_eq (m b e : Nat) : pow m b e = b ^ e % m := by
  induction e using Nat.strongRecOn generalizing b with
  | ind e ih =>
    rw [pow]
    by_cases hZero : e = 0
    · rw [dif_pos hZero, hZero, Nat.pow_zero]
    · have hHalf : pow m (b * b % m) (e / 2) = b ^ (2 * (e / 2)) % m := by
        rw [ih _ (by omega), ← Nat.pow_mod, ← Nat.pow_two, ← Nat.pow_mul]
      rw [dif_neg hZero, hHalf]
      by_cases hEven : e % 2 = 0
      · have hWhole : 2 * (e / 2) = e := by omega
        rw [if_pos hEven, hWhole]
      · have hWhole : (2 * (e / 2)).succ = e := by omega
        rw [if_neg hEven, Nat.mul_mod_mod, ← Nat.pow_succ', hWhole]

/-- If Fermat's theorem holds of two, the inverse of a power of two is one. -/
theorem mul_inverse_two_pow {m : Nat} (hm : 2 ≤ m) (hFermat : pow m 2 (m - 1) = 1) (k : Nat) :
    2 ^ k % m * inverse m (2 ^ k % m) % m = 1 := by
  rw [pow_eq] at hFermat
  have hOne : (m - 2).succ = m - 1 := by omega
  rw [inverse, pow_eq, Nat.mul_mod_mod, ← Nat.pow_succ', hOne, ← Nat.pow_mod, ← Nat.pow_mul,
    Nat.mul_comm k, Nat.pow_mul, Nat.pow_mod, hFermat, Nat.one_pow, Nat.mod_eq_of_lt hm]

theorem mul_two_pow (m i j : Nat) : 2 ^ i % m * (2 ^ j % m) % m = 2 ^ (i + j) % m := by
  rw [← Nat.mul_mod, ← Nat.pow_add]

theorem sub_zero (m a : Nat) : sub m a 0 = a % m := by
  rw [sub, Nat.sub_zero, Nat.add_mod_right]

theorem sub_self {m a : Nat} (h : a < m) : sub m a a = 0 := by
  rw [sub, Nat.add_sub_cancel' (Nat.le_of_lt h), Nat.mod_self]

end Residue

namespace Ed25519

namespace Point

/-- The neutral point, with coordinates that share a power of two. -/
def neutral (k : Nat) : Point := ⟨0, 2 ^ k % p, 2 ^ k % p, 0⟩

theorem add_neutral (i j : Nat) : (neutral i).add (neutral j) = neutral (2 * (i + j + 1)) := by
  have hPositive : 0 < p := by decide
  have hProduct : 2 * (2 ^ i % p) * (2 ^ j % p) % p = 2 ^ (i + j + 1) % p := by
    rw [Nat.mul_assoc, ← Nat.mul_mod_mod, Residue.mul_two_pow, Nat.mul_mod_mod, ← Nat.pow_succ']
  have hSum : (2 ^ (i + j) % p + 2 ^ (i + j) % p) % p = 2 ^ (i + j + 1) % p := by
    rw [← Nat.two_mul, Nat.mul_mod_mod, ← Nat.pow_succ']
  have hSame : Residue.sub p (2 ^ (i + j) % p) (2 ^ (i + j) % p) = 0 :=
    Residue.sub_self (Nat.mod_lt _ hPositive)
  have hDouble : i + j + 1 + (i + j + 1) = 2 * (i + j + 1) := by omega
  simp only [add, neutral, Nat.add_zero, Residue.sub_zero, Nat.mod_mod, Residue.mul_two_pow,
    hProduct, hSum, hSame, hDouble, Nat.mul_zero, Nat.zero_mul, Nat.zero_mod]

theorem zero_eq : zero = neutral 0 := by
  have hOne : 2 ^ 0 % p = 1 := by decide
  rw [neutral, hOne]
  rfl

/-- Any multiple of the neutral point is the neutral point. -/
theorem smul_neutral (n k : Nat) : ∃ j, smul n (neutral k) = neutral j := by
  rw [smul, Residue.multiple]
  induction Residue.bits n with
  | nil => exact ⟨0, zero_eq⟩
  | cons bit bits ih =>
    obtain ⟨j, hj⟩ := ih
    rw [List.foldr_cons, hj, add_neutral]
    cases bit with
    | false => exact ⟨_, rfl⟩
    | true => exact ⟨_, by rw [if_pos rfl, add_neutral]⟩

/-- Whatever its coordinates share, the neutral point has one binary form. -/
theorem encode_neutral (k : Nat) : (neutral k).encode = littleEndian 32 1 := by
  have hFermat : Residue.pow p 2 (p - 1) = 1 := by decide +kernel
  have hInverse := Residue.mul_inverse_two_pow (by decide) hFermat k
  simp only [encode, neutral, hInverse, Nat.zero_mul, Nat.zero_mod, Nat.add_zero]

end Point

/-- The binary form of the neutral point. -/
def neutralKey : Block 32 := ⟨littleEndian 32 1, length_littleEndian 32 1⟩

/-- The signature whose commitment is the neutral point and whose scalar is zero. -/
def neutralSignature : Block 64 :=
  ⟨littleEndian 32 1 ++ littleEndian 32 0, by simp only [List.length_append, length_littleEndian]⟩

theorem decode?_neutralKey : Point.decode? neutralKey.bytes = some .zero := by
  have hCoordinates : (Point.decode? neutralKey.bytes).map (fun a => (a.x, a.y, a.z, a.t)) =
      some (0, 1, 1, 0) := by decide +kernel
  obtain ⟨a, hDecode, hPoint⟩ := Option.map_eq_some_iff.mp hCoordinates
  obtain ⟨x, y, z, t⟩ := a
  rw [hDecode, Option.some_inj]
  cases hPoint
  rfl

/-- One signature is valid for every message. -/
theorem verifies_neutral (message : Bytes) :
    verifies neutralKey .zero message neutralSignature = true := by
  have hCommitment : neutralSignature.bytes.take 32 = littleEndian 32 1 := rfl
  have hScalar : ofLittleEndian (neutralSignature.bytes.drop 32) = 0 := by decide
  have hOrder : (0 : Nat) < order := by decide
  have hNeg : Point.zero.neg = .neutral 0 := by
    rw [← Point.zero_eq]
    simp only [Point.neg, Point.zero, Residue.sub_zero, Nat.zero_mod]
  have hBase : Point.smul 0 .base = .neutral 0 := by
    rw [Point.smul, Residue.multiple, Residue.bits, dif_pos rfl]
    exact Point.zero_eq
  obtain ⟨j, hMultiple⟩ := Point.smul_neutral
    (challenge (littleEndian 32 1 ++ neutralKey.bytes ++ message)) 0
  simp only [verifies, hCommitment, hScalar, hOrder, hNeg, hBase, hMultiple, Point.add_neutral,
    Point.encode_neutral, decide_true, Bool.true_and, beq_self_eq_true]

end Ed25519

theorem PublicKey.verify_ed25519 {k : PublicKey} {s : Signature} {key : Block 32}
    {point : Ed25519.Point} {message : Bytes} (hk : k = .ed25519 key)
    (hAlgorithm : s.algorithm = .ed25519) (hKey : Ed25519.Point.decode? key.bytes = some point)
    (hSignature : Ed25519.verifies key point message s.bytes = true) :
    k.verify message s = .ok () := by
  unfold verify
  -- Any functions will do. The two are named anew, since evaluating them at an unknown key and an
  -- unknown message does not come to an end.
  obtain ⟨decode, hDecode⟩ : ∃ f, f = Ed25519.Point.decode? := ⟨_, rfl⟩
  obtain ⟨verifies, hVerifies⟩ : ∃ f, f = Ed25519.verifies := ⟨_, rfl⟩
  rw [← hDecode] at hKey ⊢
  rw [← hVerifies] at hSignature ⊢
  simp only [hk, hAlgorithm, hKey, hSignature, if_true]

/-- Who signs for the neutral point needs no secret. -/
def neutralSigner : Signer where
  publicKey := .ed25519 Ed25519.neutralKey
  sign := fun _ => ⟨.ed25519, Ed25519.neutralSignature⟩

theorem verify_neutralSigner (message : Bytes) :
    neutralSigner.publicKey.verify message (neutralSigner.sign message) = .ok () := by
  have hKey : neutralSigner.publicKey = .ed25519 Ed25519.neutralKey := rfl
  have hAlgorithm : (neutralSigner.sign message).algorithm = .ed25519 := rfl
  have hBytes : (neutralSigner.sign message).bytes = Ed25519.neutralSignature := rfl
  refine PublicKey.verify_ed25519 hKey hAlgorithm Ed25519.decode?_neutralKey ?_
  rw [hBytes]
  exact Ed25519.verifies_neutral message

end Mintage
