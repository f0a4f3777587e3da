import Mintage.Proofs.Consistency
import Mintage.Proofs.RuntimeArgs

/-!
# Proofs: the hash of a deploy

The hash of a deploy is the hash of its header, and the header holds the hash of the two items, laid
out one behind the other with nothing between them. Each layout is prefix-free, so the bytes that
are hashed determine the header and both items. Whoever has two deploys under one hash has two
headers, or two pairs of items, whose bytes collide.
-/

namespace Mintage

open Wire

namespace Blake2b

/-- Two byte strings that differ, under one digest. -/
structure Collision (a b : Bytes) : Prop where
  distinct : a ≠ b
  digest : digest a = digest b

/-- One digest, one byte string: or else here is a collision. -/
theorem eq_or_collision {a b : Bytes} (h : digest a = digest b) : a = b ∨ Collision a b := by
  by_cases hEq : a = b
  · exact .inl hEq
  · exact .inr ⟨hEq, h⟩

end Blake2b

namespace DeployItem

/-- What the item holds of variable length fits behind a length. -/
def Fits : DeployItem → Prop
  | moduleBytes wasm args => LengthFits wasm.length ∧ args.Fits
  | storedContract _ entryPoint args => LengthFits (Utf8.encode entryPoint).length ∧ args.Fits

theorem prefixFree_encode : PrefixFree Fits encode := by
  intro a b r s ha hb h
  cases a with
  | moduleBytes wasm args =>
    cases b with
    | moduleBytes wasm' args' =>
      simp only [encode, List.cons_append, List.append_assoc, List.cons.injEq, true_and] at h
      obtain ⟨rfl, hArgs⟩ := exact_decodeBlob.prefixFree _ _ _ _ ha.1 hb.1 h
      obtain ⟨rfl, hRest⟩ := RuntimeArgs.prefixFree_encode _ _ _ _ ha.2 hb.2 hArgs
      exact ⟨rfl, hRest⟩
    | storedContract hash' entryPoint' args' => exact absurd (List.cons.inj h).1 (by decide)
  | storedContract hash entryPoint args =>
    cases b with
    | moduleBytes wasm' args' => exact absurd (List.cons.inj h).1 (by decide)
    | storedContract hash' entryPoint' args' =>
      simp only [encode, List.cons_append, List.append_assoc, List.cons.injEq, true_and] at h
      obtain ⟨rfl, hCall⟩ := (exact_decodeBlock 32).prefixFree _ _ _ _ trivial trivial h
      obtain ⟨rfl, hArgs⟩ := exact_decodeString.prefixFree _ _ _ _ ha.1 hb.1 hCall
      obtain ⟨rfl, hRest⟩ := RuntimeArgs.prefixFree_encode _ _ _ _ ha.2 hb.2 hArgs
      exact ⟨rfl, hRest⟩

end DeployItem

namespace DeployHeader

/-- What the header holds of variable length fits behind a length. -/
structure Fits (h : DeployHeader) : Prop where
  dependencies : LengthFits h.dependencies.length
  chainName : LengthFits (Utf8.encode h.chainName).length

theorem prefixFree_encode : PrefixFree Fits encode := by
  rintro ⟨account, ⟨time⟩, ⟨ttl⟩, gasPrice, bodyHash, dependencies, chainName⟩
    ⟨account', ⟨time'⟩, ⟨ttl'⟩, gasPrice', bodyHash', dependencies', chainName'⟩ r s hg hh h
  simp only [encode, Timestamp.encode, Duration.encode, List.append_assoc] at h
  obtain ⟨rfl, hTime⟩ := PublicKey.exact_decode.prefixFree _ _ _ _ trivial trivial h
  obtain ⟨rfl, hTtl⟩ := exact_decodeU64.prefixFree _ _ _ _ trivial trivial hTime
  obtain ⟨rfl, hPrice⟩ := exact_decodeU64.prefixFree _ _ _ _ trivial trivial hTtl
  obtain ⟨rfl, hBody⟩ := exact_decodeU64.prefixFree _ _ _ _ trivial trivial hPrice
  obtain ⟨rfl, hList⟩ := (exact_decodeBlock 32).prefixFree _ _ _ _ trivial trivial hBody
  obtain ⟨rfl, hName⟩ := (exact_decodeList (exact_decodeBlock 32)).prefixFree _ _ _ _
    ⟨hg.dependencies, fun _ _ => trivial⟩ ⟨hh.dependencies, fun _ _ => trivial⟩ hList
  obtain ⟨rfl, hRest⟩ := exact_decodeString.prefixFree _ _ _ _ hg.chainName hh.chainName hName
  exact ⟨rfl, hRest⟩

end DeployHeader

/-! ## The two comparisons -/

namespace SignedDeploy

/-- The lengths within the deploy take four bytes each. -/
structure Fits (d : SignedDeploy) : Prop where
  header : d.header.Fits
  payment : d.payment.Fits
  session : d.session.Fits

/-- Neither of the two hashes is what `verify` complains of. -/
structure PassesHashes (d : SignedDeploy) : Prop where
  body : d.verify ≠ .error .bodyHashMismatch
  deploy : ∀ claimed actual, d.verify ≠ .error (.deployHashMismatch claimed actual)

/-- Once the hashes are right, only approvals are complained of. -/
theorem error_of_verify {d : SignedDeploy} {e : DeployError} (hHashes : d.toDeploy.RightHashes)
    (h : d.verify = .error e) :
    e = .noApprovals ∨ ∃ signer reason, e = .invalidApproval signer reason := by
  by_cases hUnapproved : d.approvals = []
  · rw [verify_of_checkHashes (checkHashes_of_approvals hHashes hUnapproved)] at h
    cases h
    exact .inl rfl
  · have hConsistent : d.Consistent := ⟨hHashes, hUnapproved⟩
    obtain ⟨-, a, -, reason, -, -, -, rfl⟩ := hConsistent.verify_eq_error_iff.mp h
    exact .inr ⟨a.signer, reason, rfl⟩

/-- The two comparisons pass exactly if the claimed hashes are the actual ones. -/
theorem passesHashes_iff {d : SignedDeploy} :
    d.PassesHashes ↔
      Deploy.hashOfBody d.payment d.session = d.header.bodyHash ∧ d.header.hash = d.hash := by
  constructor
  · rintro ⟨hBody, hDeploy⟩
    by_cases body : Deploy.hashOfBody d.payment d.session = d.header.bodyHash
    · by_cases deploy : d.header.hash = d.hash
      · exact ⟨body, deploy⟩
      · exact absurd (verify_of_checkHashes (checkHashes_of_deploy body deploy)) (hDeploy _ _)
    · exact absurd (verify_of_checkHashes (checkHashes_of_body body)) hBody
  · rintro ⟨body, deploy⟩
    constructor
    · intro h
      exact absurd (error_of_verify ⟨body, deploy⟩ h) (by simp)
    · intro claimed actual h
      exact absurd (error_of_verify ⟨body, deploy⟩ h) (by simp)

/-- Hashes that are computed are right, whoever approves of the deploy. -/
theorem passesHashes_new (sender : PublicKey) (chainName : String) (timestamp : Timestamp)
    (ttl : Duration) (gasPrice : UInt64) (payment session : DeployItem)
    (approvals : List Approval) :
    PassesHashes ⟨.new sender chainName timestamp ttl gasPrice payment session, approvals⟩ :=
  passesHashes_iff.mpr ⟨rfl, rfl⟩

/-- Under one hash there is one header, one payment and one session, or else the bytes of the
headers collide, or those of the items. -/
theorem content_eq_or_collision {d e : SignedDeploy} (hd : d.Fits) (he : e.Fits)
    (dHashes : d.PassesHashes) (eHashes : e.PassesHashes) (hHash : d.hash = e.hash) :
    (d.header = e.header ∧ d.payment = e.payment ∧ d.session = e.session) ∨
      Blake2b.Collision d.header.encode e.header.encode ∨
      Blake2b.Collision (d.payment.encode ++ d.session.encode)
        (e.payment.encode ++ e.session.encode) := by
  obtain ⟨dBody, dHash⟩ := passesHashes_iff.mp dHashes
  obtain ⟨eBody, eHash⟩ := passesHashes_iff.mp eHashes
  have headers : Blake2b.digest d.header.encode = Blake2b.digest e.header.encode := by
    change d.header.hash = e.header.hash
    rw [dHash, eHash, hHash]
  rcases Blake2b.eq_or_collision headers with hEncode | hCollision
  · have hHeader := DeployHeader.prefixFree_encode.injective hd.header he.header hEncode
    have bodies : Blake2b.digest (d.payment.encode ++ d.session.encode) =
        Blake2b.digest (e.payment.encode ++ e.session.encode) := by
      change Deploy.hashOfBody d.payment d.session = Deploy.hashOfBody e.payment e.session
      rw [dBody, eBody, hHeader]
    rcases Blake2b.eq_or_collision bodies with hItems | hCollision
    · obtain ⟨hPayment, hSession⟩ := DeployItem.prefixFree_encode.append_injective
        DeployItem.prefixFree_encode hd.payment he.payment hd.session he.session hItems
      exact .inl ⟨hHeader, hPayment, hSession⟩
    · exact .inr (.inr hCollision)
  · exact .inr (.inl hCollision)

/-- The hash of a deploy commits to everything but the approvals: whatever two deploys with right
hashes share a hash, they share header, payment and session, or the bytes that were hashed collide.
The bytes of a header determine the header, and the bytes of two items in a row both items. -/
theorem hash_commits_to_content :
    (∀ d e : SignedDeploy, d.Fits → e.Fits → d.PassesHashes → e.PassesHashes → d.hash = e.hash →
      (d.header = e.header ∧ d.payment = e.payment ∧ d.session = e.session) ∨
        Blake2b.Collision d.header.encode e.header.encode ∨
        Blake2b.Collision (d.payment.encode ++ d.session.encode)
          (e.payment.encode ++ e.session.encode)) ∧
    (∀ g h : DeployHeader, g.Fits → h.Fits → g.encode = h.encode → g = h) ∧
    (∀ p q s t : DeployItem, p.Fits → q.Fits → s.Fits → t.Fits →
      p.encode ++ s.encode = q.encode ++ t.encode → p = q ∧ s = t) := by
  refine ⟨?_, ?_, ?_⟩
  · intro d e hd he dHashes eHashes hHash
    exact content_eq_or_collision hd he dHashes eHashes hHash
  · intro g h hg hh hEq
    exact DeployHeader.prefixFree_encode.injective hg hh hEq
  · intro p q s t hp hq hs ht hEq
    exact DeployItem.prefixFree_encode.append_injective DeployItem.prefixFree_encode hp hq hs ht hEq

theorem hash_commits_to_content_of_approvals :
    ∃ d e : SignedDeploy, d.approvals ≠ e.approvals ∧ d.Fits ∧ e.Fits ∧ d.PassesHashes ∧
      e.PassesHashes ∧ d.hash = e.hash ∧
      ((d.header = e.header ∧ d.payment = e.payment ∧ d.session = e.session) ∨
        Blake2b.Collision d.header.encode e.header.encode ∨
        Blake2b.Collision (d.payment.encode ++ d.session.encode)
          (e.payment.encode ++ e.session.encode)) := by
  have hArgs : RuntimeArgs.Fits .empty := ⟨by decide, by simp [RuntimeArgs.empty]⟩
  have hPayment : DeployItem.Fits (.moduleBytes [] .empty) := ⟨by decide, hArgs⟩
  have hSession : DeployItem.Fits (.storedContract default "mint" .empty) := ⟨by decide, hArgs⟩
  have hName : LengthFits (Utf8.encode "casper").length := by decide
  have hHashes := passesHashes_new (.ed25519 default) "casper" ⟨0⟩ ⟨60000⟩ 1
    (.moduleBytes [] .empty) (.storedContract default "mint" .empty)
  have hFits : ∀ approvals, Fits ⟨.new (.ed25519 default) "casper" ⟨0⟩ ⟨60000⟩ 1
      (.moduleBytes [] .empty) (.storedContract default "mint" .empty), approvals⟩ := by
    intro approvals
    exact ⟨⟨Nat.two_pow_pos 32, hName⟩, hPayment, hSession⟩
  refine ⟨⟨_, []⟩, ⟨_, [⟨.ed25519 default, .ed25519, default⟩]⟩, by simp, hFits _, hFits _,
    hHashes _, hHashes _, rfl, ?_⟩
  exact hash_commits_to_content.1 _ _ (hFits _) (hFits _) (hHashes _) (hHashes _) rfl

end SignedDeploy

end Mintage
