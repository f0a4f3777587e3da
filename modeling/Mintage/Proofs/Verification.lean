import Mintage.Proofs.DeployJson

/-!
# Proofs: every signed deploy is consistent

Signed deploys come about in two ways: a deploy is signed, or one is read from JSON. A deploy to be
signed is made under hashes that are computed, or it is what another signed deploy is about.
Consistency holds along all of these ways, so verification never complains of a hash. A draft that
has the form of a deploy, but not its hashes, is refused for what verification would complain of.
-/

namespace Mintage

mutual

/-- The deploys that there are to be signed. -/
inductive Deploy.Made : Deploy → Prop
  | new (sender : PublicKey) (chainName : String) (timestamp : Timestamp) (ttl : Duration)
      (gasPrice : UInt64) (payment session : DeployItem) :
      Deploy.Made (.new sender chainName timestamp ttl gasPrice payment session)
  | build (a : DeployAssembler) (now : Timestamp) (session : DeployItem) (payment : U512)
      (sender : PublicKey) : Deploy.Made (a.build now session payment sender)
  /-- What a signed deploy is about can be signed again. -/
  | unsigned {signed : SignedDeploy} : SignedDeploy.Obtained signed → Deploy.Made signed.toDeploy

/-- The signed deploys that there are. -/
inductive SignedDeploy.Obtained : SignedDeploy → Prop
  | sign {d : Deploy} {signers : List Signer} {signed : SignedDeploy} : Deploy.Made d →
      d.sign signers = .ok signed → SignedDeploy.Obtained signed
  | readJson {draft : Json.Draft} {signed : SignedDeploy} :
      SignedDeploy.readJson draft = .ok signed → SignedDeploy.Obtained signed

end

mutual

/-- The hashes of a deploy are right, whatever way it was made. -/
theorem Deploy.Made.rightHashes {d : Deploy} : d.Made → d.RightHashes
  | .new sender chainName timestamp ttl gasPrice payment session =>
    Deploy.rightHashes_new sender chainName timestamp ttl gasPrice payment session
  | .build a now session payment sender =>
    Deploy.rightHashes_build a now session payment sender
  | .unsigned hObtained => hObtained.consistent.hashes

/-- A signed deploy is consistent, whatever way it was obtained. -/
theorem SignedDeploy.Obtained.consistent {signed : SignedDeploy} :
    signed.Obtained → signed.Consistent
  | .sign hMade hSign => by
    obtain ⟨hSome, rfl⟩ := Deploy.sign_eq_ok_iff.mp hSign
    refine ⟨hMade.rightHashes, ?_⟩
    rwa [ne_eq, List.map_eq_nil_iff]
  | .readJson hRead => (SignedDeploy.read_of_readJson hRead).2

end

namespace SignedDeploy

/-- The draft of a deploy is refused for the error that verification ends with, in these words. -/
structure RefusedFor (draft : Json.Draft) (d : SignedDeploy) (e : DeployError) (wording : String) :
    Prop where
  verify : d.verify = .error e
  read : readJson draft = .error (.refused wording)
  message : e.message = wording

theorem refusedFor_of_checkHashes {draft : Json.Draft} {d : SignedDeploy} {e : DeployError}
    {wording : String} (hFields : record.read "struct DeployJson" draft = .ok d)
    (h : d.checkHashes = .error e) (hWording : e.message = wording) :
    RefusedFor draft d e wording where
  verify := verify_of_checkHashes h
  read := by rw [readJson_of_read hFields, h, ← hWording]
  message := hWording

/-- A call with an approval, which need not be valid. -/
def approvedCall : SignedDeploy where
  toDeploy := .new (.ed25519 default) "casper" ⟨0⟩ ⟨60000⟩ 1 (.moduleBytes [] .empty)
    (.storedContract default "mint" .empty)
  approvals := [⟨.ed25519 default, .ed25519, default⟩]

/-- Every signed deploy is consistent, and verification complains of nothing but the first approval
that is not valid. A draft with the fields of a deploy is read exactly if the deploy is consistent;
otherwise it is refused for the error of verification, that of the items before that of the header,
and that before the lack of approvals. -/
theorem consistent_however_obtained :
    (∀ signed : SignedDeploy, signed.Obtained →
      Blake2b.digest (signed.payment.encode ++ signed.session.encode) = signed.header.bodyHash ∧
      Blake2b.digest signed.header.encode = signed.hash ∧
      signed.approvals ≠ [] ∧
      (signed.verify = .ok () ↔ ∀ a ∈ signed.approvals, signed.ValidApproval a) ∧
      ∀ e, signed.verify = .error e ↔
        ∃ before a after reason, signed.approvals = before ++ a :: after ∧
          (∀ b ∈ before, signed.ValidApproval b) ∧
          a.signer.verify signed.hash.bytes a.signature = .error reason ∧
          e = .invalidApproval a.signer reason) ∧
    ∀ (draft : Json.Draft) (d : SignedDeploy), record.read "struct DeployJson" draft = .ok d →
      let bodyHash := Blake2b.digest (d.payment.encode ++ d.session.encode)
      let hash := Blake2b.digest d.header.encode
      (readJson draft = .ok d ↔
        bodyHash = d.header.bodyHash ∧ hash = d.hash ∧ d.approvals ≠ []) ∧
      (bodyHash ≠ d.header.bodyHash → RefusedFor draft d .bodyHashMismatch
        "The body hash does not match the payment and session.") ∧
      (bodyHash = d.header.bodyHash → hash ≠ d.hash →
        RefusedFor draft d (.deployHashMismatch d.hash hash)
          ("The deploy hash " ++ d.hash.text ++ " does not match the header, which hashes to " ++
            hash.text ++ ".")) ∧
      (bodyHash = d.header.bodyHash → hash = d.hash → d.approvals = [] →
        RefusedFor draft d .noApprovals "The deploy has no approvals.") := by
  refine ⟨?_, ?_⟩
  · intro signed hObtained
    have hConsistent := hObtained.consistent
    exact ⟨hConsistent.hashes.body, hConsistent.hashes.deploy, hConsistent.approved,
      hConsistent.verify_eq_ok_iff, fun e => hConsistent.verify_eq_error_iff⟩
  · intro draft d hFields bodyHash hash
    refine ⟨⟨?_, ?_⟩, ?_, ?_, ?_⟩
    · intro hRead
      have hConsistent := (read_of_readJson hRead).2
      exact ⟨hConsistent.hashes.body, hConsistent.hashes.deploy, hConsistent.approved⟩
    · rintro ⟨body, deploy, approved⟩
      have hConsistent : d.Consistent := ⟨⟨body, deploy⟩, approved⟩
      rw [readJson_of_read hFields, hConsistent.checkHashes]
    · intro body
      exact refusedFor_of_checkHashes hFields (checkHashes_of_body body) rfl
    · intro body deploy
      exact refusedFor_of_checkHashes hFields (checkHashes_of_deploy body deploy) rfl
    · intro body deploy unapproved
      exact refusedFor_of_checkHashes hFields
        (checkHashes_of_approvals ⟨body, deploy⟩ unapproved) rfl

/-- Another entry point is called behind the back of the signer, or the gas price is raised. -/
theorem consistent_however_obtained_tampered :
    ∃ (diverted dearer : SignedDeploy) (draft draft' : Json.Draft),
      approvedCall.Obtained ∧
      Blake2b.digest (approvedCall.payment.encode ++ approvedCall.session.encode) =
        approvedCall.header.bodyHash ∧
      diverted = { approvedCall with session := .storedContract default "burn" .empty } ∧
      record.read "struct DeployJson" draft = .ok diverted ∧
      Blake2b.digest (diverted.payment.encode ++ diverted.session.encode) ≠
        diverted.header.bodyHash ∧
      RefusedFor draft diverted .bodyHashMismatch
        "The body hash does not match the payment and session." ∧
      dearer = { approvedCall with header := { approvedCall.header with gasPrice := 2 } } ∧
      record.read "struct DeployJson" draft' = .ok dearer ∧
      Blake2b.digest dearer.header.encode ≠ dearer.hash ∧
      dearer.verify = .error (.deployHashMismatch dearer.hash
        (Blake2b.digest dearer.header.encode)) := by
  have hSign : approvedCall.toDeploy.sign [⟨.ed25519 default, fun _ => ⟨.ed25519, default⟩⟩] =
      .ok approvedCall := rfl
  have hObtained : approvedCall.Obtained := .sign (.new ..) hSign
  have hTime : approvedCall.header.timestamp.millis.toNat < Timestamp.fiveDigitYears := by decide
  let diverted : SignedDeploy :=
    { approvedCall with session := .storedContract default "burn" .empty }
  let dearer : SignedDeploy :=
    { approvedCall with header := { approvedCall.header with gasPrice := 2 } }
  obtain ⟨j, -, hReads⟩ := reads_record (d := diverted) hTime
  obtain ⟨j', -, hReads'⟩ := reads_record (d := dearer) hTime
  have hBody : Blake2b.digest (diverted.payment.encode ++ diverted.session.encode) ≠
      diverted.header.bodyHash := by decide +kernel
  have hDeploy : Blake2b.digest dearer.header.encode ≠ dearer.hash := by decide +kernel
  obtain ⟨-, hRefused, -, -⟩ := consistent_however_obtained.2 _ _ hReads.of_refl
  obtain ⟨-, -, hRefused', -⟩ := consistent_however_obtained.2 _ _ hReads'.of_refl
  exact ⟨diverted, dearer, j.toDraft, j'.toDraft, hObtained,
    (consistent_however_obtained.1 _ hObtained).1, rfl, hReads.of_refl, hBody, hRefused hBody, rfl,
    hReads'.of_refl, hDeploy, (hRefused' rfl hDeploy).verify⟩

end SignedDeploy

end Mintage
