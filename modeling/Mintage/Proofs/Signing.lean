import Mintage.Client
import Mintage.Proofs.Consistency
import Mintage.Proofs.NeutralKey

/-!
# Proofs: deploys that several accounts sign

A client sends a deploy for the first of its signers and has all of them sign it. Each signs the
hash, which is there before anybody signs, so the other signers do not enter into it: whoever they
are and in whatever order they come, they approve of the same deploy. If the signers are honest, the
deploy is verified.
-/

namespace Mintage

/-- Whatever is signed, the signature is valid. -/
def Signer.Honest (k : Signer) : Prop := ∀ m, k.publicKey.verify m (k.sign m) = .ok ()

/-- What a client builds deploys for: code to install, or a call of its contract. -/
inductive DeployRequest where
  | install (wasm : Bytes) (args : RuntimeArgs)
  | call (entryPoint : String) (args : RuntimeArgs)

namespace Deploy

/-- A deploy with the approvals of signers. -/
def signedBy (d : Deploy) (signers : List Signer) : SignedDeploy := ⟨d, signers.map d.approval⟩

theorem sign_cons (d : Deploy) (first : Signer) (others : List Signer) :
    d.sign (first :: others) = .ok (d.signedBy (first :: others)) := rfl

/-- A deploy under right hashes is verified if each signature of its hash is valid. -/
theorem RightHashes.verify_signedBy {d : Deploy} (h : d.RightHashes) {signers : List Signer}
    (hSome : signers ≠ []) :
    (d.signedBy signers).verify = .ok () ↔
      ∀ k ∈ signers, k.publicKey.verify d.hash.bytes (k.sign d.hash.bytes) = .ok () := by
  have hConsistent : (d.signedBy signers).Consistent := by
    refine ⟨h, ?_⟩
    rwa [signedBy, ne_eq, List.map_eq_nil_iff]
  rw [hConsistent.verify_eq_ok_iff, signedBy, List.forall_mem_map]
  rfl

end Deploy

namespace ContractClient

/-- The deploy for a request. -/
def build (c : ContractClient) (r : DeployRequest) (now : Timestamp) (payment : U512)
    (signers : List Signer) : Except ClientError SignedDeploy :=
  match r with
  | .install wasm args => c.install now wasm args payment signers
  | .call entryPoint args => c.callEntryPoint now entryPoint args payment signers

/-- The code of a request. A client calls no contract unless it is bound to one. -/
def item? (c : ContractClient) : DeployRequest → Option DeployItem
  | .install wasm args => some (.moduleBytes wasm args)
  | .call entryPoint args =>
    c.bound.map fun address => DeployAssembler.call address.contractHash entryPoint args

variable {c : ContractClient} {r : DeployRequest} {session : DeployItem}

theorem build_eq_signed (hItem : c.item? r = some session) (now : Timestamp) (payment : U512)
    (signers : List Signer) :
    c.build r now payment signers = c.signed now session payment signers := by
  cases r with
  | install wasm args =>
    cases hItem
    rfl
  | call entryPoint args =>
    obtain ⟨address, hBound, rfl⟩ := Option.map_eq_some_iff.mp hItem
    have hAddress : c.address = .ok address := by rw [ContractClient.address, hBound]
    rw [build, callEntryPoint, hAddress]
    rfl

/-- All signers sign what is built for the first one, at the time of the assembler. -/
theorem build_cons {time : Timestamp} (hItem : c.item? r = some session)
    (hTime : c.assembler.timestamp = some time) (now : Timestamp) (payment : U512) (first : Signer)
    (others : List Signer) : c.build r now payment (first :: others) =
      .ok ((c.assembler.build time session payment first.publicKey).signedBy
        (first :: others)) := by
  have hNow : c.assembler.build now session payment first.publicKey =
      c.assembler.build time session payment first.publicKey := by
    rw [DeployAssembler.build, DeployAssembler.build, hTime, Option.getD_some, Option.getD_some]
  rw [build_eq_signed hItem, signed, Deploy.sign_cons, hNow]

/-- Who signs a request for the first signer approves of one and the same deploy, which is verified
exactly if every signature of its hash is valid, so whenever the signers are honest. No signer but
the first one enters into the deploy, and no signer at all into one that is there to be signed.
Without signers nothing is signed. -/
theorem signers_approve_of_one_deploy (c : ContractClient) (r : DeployRequest)
    (session : DeployItem) (time : Timestamp) (hItem : c.item? r = some session)
    (hTime : c.assembler.timestamp = some time) (payment : U512) :
    (∀ now first others, ∃ d, c.build r now payment (first :: others) = .ok d ∧
      d.toDeploy = c.assembler.build time session payment first.publicKey ∧
      d.header.account = first.publicKey ∧
      d.approvals = (first :: others).map (fun k => ⟨k.publicKey, k.sign d.hash.bytes⟩) ∧
      (d.verify = .ok () ↔
        ∀ k ∈ first :: others, k.publicKey.verify d.hash.bytes (k.sign d.hash.bytes) = .ok ()) ∧
      ((∀ k ∈ first :: others, k.Honest) → d.verify = .ok ())) ∧
    (∀ now now' first first' others others' d d',
      c.build r now payment (first :: others) = .ok d →
      c.build r now' payment (first' :: others') = .ok d' → first.publicKey = first'.publicKey →
      d.hash = d'.hash ∧ d.header = d'.header ∧ d.payment = d'.payment ∧ d.session = d'.session) ∧
    (∀ now, c.build r now payment [] = .error (.sign .missingSignature)) ∧
    (∀ (d : Deploy) (first : Signer) (others : List Signer), ∃ signed,
      d.sign (first :: others) = .ok signed ∧ signed.toDeploy = d ∧
      signed.approvals = (first :: others).map d.approval) ∧
    ∀ d : Deploy, d.sign [] = .error .missingSignature := by
  refine ⟨?_, ?_, ?_, ?_, ?_⟩
  · intro now first others
    have hHashes := Deploy.rightHashes_build c.assembler time session payment first.publicKey
    have hVerify := hHashes.verify_signedBy (List.cons_ne_nil first others)
    refine ⟨_, build_cons hItem hTime now payment first others, rfl, rfl, rfl, hVerify, ?_⟩
    intro hHonest
    exact hVerify.mpr fun k hk => hHonest k hk _
  · intro now now' first first' others others' d d' hBuild hBuild' hFirst
    rw [build_cons hItem hTime] at hBuild hBuild'
    cases hBuild
    cases hBuild'
    simp only [Deploy.signedBy, hFirst, and_self]
  · intro now
    rw [build_eq_signed hItem]
    rfl
  · intro d first others
    exact ⟨_, d.sign_cons first others, rfl, rfl⟩
  · intro d
    rfl

/-- Two honest signers call a contract. -/
theorem signers_approve_of_one_call :
    ∃ (c : ContractClient) (session : DeployItem) (d : SignedDeploy) (k : Signer), k.Honest ∧
      c.assembler.timestamp = some ⟨0⟩ ∧ c.item? (.call "mint" .empty) = some session ∧
      c.build (.call "mint" .empty) ⟨1⟩ default [k, k] = .ok d ∧ d.approvals.length = 2 ∧
      d.verify = .ok () := by
  have hHonest : neutralSigner.Honest := verify_neutralSigner
  have hBoth : ∀ k ∈ [neutralSigner, neutralSigner], k.Honest := by
    intro k hk
    simp only [List.mem_cons, List.not_mem_nil, or_false, or_self] at hk
    rw [hk]
    exact hHonest
  obtain ⟨d, hBuild, -, -, hApprovals, -, hVerify⟩ := (signers_approve_of_one_deploy
    ⟨⟨"casper", ⟨60000⟩, 1, some ⟨0⟩⟩, some ⟨⟨.contract, default⟩, ⟨.contract, default⟩⟩⟩
    (.call "mint" .empty) _ ⟨0⟩ rfl rfl default).1 ⟨1⟩ neutralSigner [neutralSigner]
  refine ⟨_, _, d, neutralSigner, hHonest, rfl, rfl, hBuild, ?_, hVerify hBoth⟩
  rw [hApprovals]
  rfl

end ContractClient

end Mintage
