import Mintage.Deploy.Assembler
import Mintage.Proofs.Outcome

/-!
# Proofs: deploys whose hashes are right

A deploy is consistent if the two hashes that it claims are those of its content and somebody has
approved of it. Consistency is what `SignedDeploy.checkHashes` checks: verification complains of an
inconsistent deploy before it looks at any signature, and of a consistent one only for the first
approval that is not valid.
-/

namespace Mintage

/-- The claimed hashes are the actual ones: the header names the digest of the bytes of the two
items, and the deploy that of the bytes of the header. -/
structure Deploy.RightHashes (d : Deploy) : Prop where
  body : Blake2b.digest (d.payment.encode ++ d.session.encode) = d.header.bodyHash
  deploy : Blake2b.digest d.header.encode = d.hash

theorem Deploy.rightHashes_new (sender : PublicKey) (chainName : String) (timestamp : Timestamp)
    (ttl : Duration) (gasPrice : UInt64) (payment session : DeployItem) :
    RightHashes (.new sender chainName timestamp ttl gasPrice payment session) :=
  ⟨rfl, rfl⟩

theorem Deploy.rightHashes_build (a : DeployAssembler) (now : Timestamp) (session : DeployItem)
    (payment : U512) (sender : PublicKey) : RightHashes (a.build now session payment sender) :=
  rightHashes_new ..

/-- Signing adds approvals to the deploy, one for each signer, and changes nothing else. -/
theorem Deploy.sign_eq_ok_iff {d : Deploy} {signers : List Signer} {signed : SignedDeploy} :
    d.sign signers = .ok signed ↔ signers ≠ [] ∧ signed = ⟨d, signers.map d.approval⟩ := by
  unfold sign
  split
  · rename_i hEmpty
    rw [List.isEmpty_iff] at hEmpty
    simp [hEmpty]
  · rename_i hSome
    rw [List.isEmpty_iff] at hSome
    rw [Except.ok.injEq, eq_comm]
    simp [hSome]

namespace SignedDeploy

/-- The claimed hashes are the actual ones, and there is an approval. -/
structure Consistent (d : SignedDeploy) : Prop where
  hashes : d.toDeploy.RightHashes
  approved : d.approvals ≠ []

/-- A signature of the hash of the deploy by the key that it names. -/
def ValidApproval (d : SignedDeploy) (a : Approval) : Prop :=
  a.signer.verify d.hash.bytes a.signature = .ok ()

/-! ## The checks -/

theorem checkHashes_of_body {d : SignedDeploy}
    (body : Blake2b.digest (d.payment.encode ++ d.session.encode) ≠ d.header.bodyHash) :
    d.checkHashes = .error .bodyHashMismatch := if_pos body

theorem checkHashes_of_deploy {d : SignedDeploy}
    (body : Blake2b.digest (d.payment.encode ++ d.session.encode) = d.header.bodyHash)
    (deploy : Blake2b.digest d.header.encode ≠ d.hash) :
    d.checkHashes = .error (.deployHashMismatch d.hash (Blake2b.digest d.header.encode)) := by
  rw [checkHashes, if_neg (· body), DeployHeader.hash, if_pos deploy]

theorem checkHashes_of_approvals {d : SignedDeploy} (hashes : d.toDeploy.RightHashes)
    (unapproved : d.approvals = []) : d.checkHashes = .error .noApprovals := by
  rw [checkHashes, if_neg (· hashes.body), if_neg (· hashes.deploy), unapproved]
  rfl

theorem Consistent.checkHashes {d : SignedDeploy} (h : d.Consistent) :
    d.checkHashes = .ok () := by
  have hApproved : ¬ d.approvals.isEmpty = true := by
    rw [List.isEmpty_iff]
    exact h.approved
  rw [SignedDeploy.checkHashes, if_neg (· h.hashes.body), if_neg (· h.hashes.deploy),
    if_neg hApproved]

/-- The checks find nothing exactly in a consistent deploy. -/
theorem checkHashes_eq_ok_iff {d : SignedDeploy} : d.checkHashes = .ok () ↔ d.Consistent := by
  refine ⟨?_, Consistent.checkHashes⟩
  intro h
  by_cases body : Blake2b.digest (d.payment.encode ++ d.session.encode) = d.header.bodyHash
  · by_cases deploy : Blake2b.digest d.header.encode = d.hash
    · refine ⟨⟨body, deploy⟩, ?_⟩
      intro unapproved
      rw [checkHashes_of_approvals ⟨body, deploy⟩ unapproved] at h
      cases h
    · rw [checkHashes_of_deploy body deploy] at h
      cases h
  · rw [checkHashes_of_body body] at h
    cases h

theorem verify_of_checkHashes {d : SignedDeploy} {e : DeployError}
    (h : d.checkHashes = .error e) : d.verify = .error e := by
  unfold verify
  rw [h]
  rfl

theorem checkApproval_eq_ok_iff {d : SignedDeploy} {a : Approval} :
    d.checkApproval a = .ok () ↔ d.ValidApproval a := by
  unfold checkApproval ValidApproval
  split
  · rename_i hValid
    exact iff_of_true rfl hValid
  · rename_i hInvalid
    exact iff_of_false (by simp) (by simp [hInvalid])

theorem checkApproval_eq_error_iff {d : SignedDeploy} {a : Approval} {e : DeployError} :
    d.checkApproval a = .error e ↔
      ∃ reason, a.signer.verify d.hash.bytes a.signature = .error reason ∧
        e = .invalidApproval a.signer reason := by
  unfold checkApproval
  split
  · rename_i hValid
    simp [hValid]
  · rename_i hInvalid
    simp [hInvalid, eq_comm]

/-- A consistent deploy is verified by its approvals alone. -/
theorem Consistent.verify_eq {d : SignedDeploy} (h : d.Consistent) :
    d.verify = d.approvals.forM d.checkApproval := by
  rw [verify, h.checkHashes]
  rfl

/-- A consistent deploy is verified if all of its approvals are valid. -/
theorem Consistent.verify_eq_ok_iff {d : SignedDeploy} (h : d.Consistent) :
    d.verify = .ok () ↔ ∀ a ∈ d.approvals, d.ValidApproval a := by
  rw [h.verify_eq, Outcome.forM_eq_ok_iff]
  simp only [checkApproval_eq_ok_iff]

/-- Otherwise the first approval that is not valid is complained of. -/
theorem Consistent.verify_eq_error_iff {d : SignedDeploy} (h : d.Consistent) {e : DeployError} :
    d.verify = .error e ↔ ∃ before a after reason, d.approvals = before ++ a :: after ∧
      (∀ b ∈ before, d.ValidApproval b) ∧
      a.signer.verify d.hash.bytes a.signature = .error reason ∧
      e = .invalidApproval a.signer reason := by
  rw [h.verify_eq, Outcome.forM_eq_error_iff]
  simp only [checkApproval_eq_ok_iff, checkApproval_eq_error_iff]
  constructor
  · rintro ⟨before, a, after, hSplit, hBefore, reason, hReason, he⟩
    exact ⟨before, a, after, reason, hSplit, hBefore, hReason, he⟩
  · rintro ⟨before, a, after, reason, hSplit, hBefore, hReason, he⟩
    exact ⟨before, a, after, hSplit, hBefore, reason, hReason, he⟩

/-! ## Reading -/

/-- Once the fields of a deploy are read, it is the checks that decide. -/
theorem readJson_of_read {draft : Json.Draft} {d : SignedDeploy}
    (h : record.read "struct DeployJson" draft = .ok d) :
    readJson draft = match d.checkHashes with
      | .ok () => .ok d
      | .error e => .error (.refused e.message) := by
  have hRead : readJson draft = (Except.ok d >>= fun signed => match signed.checkHashes with
      | .ok () => .ok signed
      | .error e => .error (.refused e.message)) := by
    rw [← h]
    rfl
  exact hRead

theorem read_of_readJson {draft : Json.Draft} {d : SignedDeploy} (h : readJson draft = .ok d) :
    record.read "struct DeployJson" draft = .ok d ∧ d.Consistent := by
  obtain ⟨signed, hRead, hMore⟩ := Outcome.bind_eq_ok_iff.mp h
  split at hMore
  · rename_i hCheck
    cases hMore
    exact ⟨hRead, checkHashes_eq_ok_iff.mp hCheck⟩
  · cases hMore

end SignedDeploy

end Mintage
