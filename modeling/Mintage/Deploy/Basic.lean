import Mintage.Account.SecretKey
import Mintage.Deploy.Item
import Mintage.Digest.Text
import Mintage.Time.Duration
import Mintage.Time.Timestamp

/-!
# Deploys

A deploy is what an account sends to the chain: a header, an item that pays and an item that does
the work. The header holds the hash of the two items, and the hash of the header identifies the
deploy. Approvals sign that hash, so that they are no part of it.

A `Deploy` and a `SignedDeploy` may claim any hashes. `SignedDeploy.verify` says whether the claims
are true and the approvals valid; `Deploy.new` makes a deploy whose claims are true, and
`SignedDeploy.readJson` takes no other.
-/

namespace Mintage

/-- The header of a deploy. -/
structure DeployHeader where
  /-- The account that sends the deploy and pays for it. -/
  account : PublicKey
  timestamp : Timestamp
  /-- For how long after its time the deploy may be included in a block. -/
  ttl : Duration
  gasPrice : UInt64
  /-- The hash of the two items. -/
  bodyHash : Digest
  /-- Deploys that have to be executed before. -/
  dependencies : List Digest
  chainName : String
deriving DecidableEq

namespace DeployHeader

/-- The binary form: the fields in order. -/
def encode (h : DeployHeader) : Bytes :=
  h.account.encode ++ (h.timestamp.encode ++ (h.ttl.encode ++ (Wire.encodeU64 h.gasPrice ++
    (h.bodyHash.bytes ++ (Wire.encodeList Block.bytes h.dependencies ++
      Wire.encodeString h.chainName)))))

/-- The hash of a header. -/
def hash (h : DeployHeader) : Digest := Blake2b.digest h.encode

/-- Written as an object of the fields, unless the time has no text. -/
def toJson? (h : DeployHeader) : Option Json := do
  return .obj [("account", h.account.toJson), ("timestamp", ← h.timestamp.toJson?),
    ("ttl", h.ttl.toJson), ("gas_price", .ofNat h.gasPrice.toNat), ("body_hash", h.bodyHash.toJson),
    ("dependencies", .arr (h.dependencies.map Digest.toJson)), ("chain_name", .str h.chainName)]

/-- How to read a header. -/
def record : Json.Record DeployHeader :=
  mk <$> .required "account" PublicKey.readJson
    <*> .required "timestamp" Timestamp.readJson
    <*> .required "ttl" Duration.readJson
    <*> .required "gas_price" Json.Draft.readU64
    <*> .required "body_hash" Digest.readJson
    <*> .required "dependencies" (Json.Draft.readList Digest.readJson)
    <*> .required "chain_name" Json.Draft.readString

/-- Reads a header. -/
def readJson : Json.Reader DeployHeader := record.read "struct DeployHeader"

instance : FromJson DeployHeader := ⟨readJson⟩

end DeployHeader

/-- A deploy without approvals. -/
structure Deploy where
  hash : Digest
  header : DeployHeader
  payment : DeployItem
  session : DeployItem
deriving DecidableEq

namespace Deploy

/-- The hash of the two items: of their binary forms, one behind the other. -/
def hashOfBody (payment session : DeployItem) : Digest :=
  Blake2b.digest (payment.encode ++ session.encode)

/-- The deploy of two items under hashes that are computed. -/
def new (sender : PublicKey) (chainName : String) (timestamp : Timestamp) (ttl : Duration)
    (gasPrice : UInt64) (payment session : DeployItem) : Deploy :=
  let header : DeployHeader :=
    { account := sender
      timestamp
      ttl
      gasPrice
      bodyHash := hashOfBody payment session
      dependencies := []
      chainName }
  { hash := header.hash, header, payment, session }

end Deploy

/-- A signature of the hash of a deploy, with the key that made it. -/
structure Approval where
  signer : PublicKey
  signature : Signature
deriving DecidableEq

namespace Approval

/-- Written as an object of the fields. -/
def toJson (a : Approval) : Json :=
  .obj [("signer", a.signer.toJson), ("signature", a.signature.toJson)]

/-- How to read an approval. -/
def record : Json.Record Approval :=
  mk <$> .required "signer" PublicKey.readJson <*> .required "signature" Signature.readJson

/-- Reads an approval. -/
def readJson : Json.Reader Approval := record.read "struct Approval"

instance : ToJson Approval := ⟨toJson⟩

instance : FromJson Approval := ⟨readJson⟩

end Approval

/-- A deploy with its approvals, in the order of the signers. -/
structure SignedDeploy extends Deploy where
  approvals : List Approval
deriving DecidableEq

/-- What can be wrong with a signed deploy. -/
inductive DeployError where
  | bodyHashMismatch
  | deployHashMismatch (claimed actual : Digest)
  | noApprovals
  | invalidApproval (signer : PublicKey) (reason : KeyError)
deriving DecidableEq

/-- The wording of an error. -/
def DeployError.message : DeployError → String
  | .bodyHashMismatch => "The body hash does not match the payment and session."
  | .deployHashMismatch claimed actual =>
    s!"The deploy hash {claimed.text} does not match the header, which hashes to {actual.text}."
  | .noApprovals => "The deploy has no approvals."
  | .invalidApproval signer reason =>
    s!"The approval of {signer} is not valid: " ++ reason.message

/-- Why a deploy cannot be signed. -/
inductive SignError where
  | missingSignature
deriving DecidableEq

/-- The wording of an error. -/
def SignError.message : SignError → String
  | .missingSignature => "At least one key is required to sign a deploy."

/-- The approval of a deploy by a signer. -/
def Deploy.approval (d : Deploy) (signer : Signer) : Approval :=
  ⟨signer.publicKey, signer.sign d.hash.bytes⟩

/-- Signs a deploy with each signer, in order. -/
def Deploy.sign (d : Deploy) (signers : List Signer) : Except SignError SignedDeploy :=
  if signers.isEmpty then .error .missingSignature
  else .ok { d with approvals := signers.map d.approval }

namespace SignedDeploy

/-- Checks the two hashes, and that there are approvals. -/
def checkHashes (d : SignedDeploy) : Except DeployError Unit :=
  if Deploy.hashOfBody d.payment d.session ≠ d.header.bodyHash then .error .bodyHashMismatch
  else if d.header.hash ≠ d.hash then .error (.deployHashMismatch d.hash d.header.hash)
  else if d.approvals.isEmpty then .error .noApprovals
  else .ok ()

/-- Checks an approval of the deploy. -/
def checkApproval (d : SignedDeploy) (a : Approval) : Except DeployError Unit :=
  match a.signer.verify d.hash.bytes a.signature with
  | .ok () => .ok ()
  | .error reason => .error (.invalidApproval a.signer reason)

/-- Checks the hashes, then each approval. -/
def verify (d : SignedDeploy) : Except DeployError Unit := do
  d.checkHashes
  d.approvals.forM d.checkApproval

/-- Written as an object of the fields, unless the time has no text. -/
def toJson? (d : SignedDeploy) : Option Json := do
  return .obj [("hash", d.hash.toJson), ("header", ← d.header.toJson?),
    ("payment", d.payment.toJson), ("session", d.session.toJson),
    ("approvals", .arr (d.approvals.map Approval.toJson))]

/-- How to read the fields of a signed deploy. -/
def record : Json.Record SignedDeploy :=
  (fun hash header payment session approvals => ⟨⟨hash, header, payment, session⟩, approvals⟩) <$>
    .required "hash" Digest.readJson
    <*> .required "header" DeployHeader.readJson
    <*> .required "payment" DeployItem.readJson
    <*> .required "session" DeployItem.readJson
    <*> .required "approvals" (Json.Draft.readList Approval.readJson)

/-- Reads a deploy with approvals whose hashes are right. The signatures are not looked at. -/
def readJson : Json.Reader SignedDeploy := fun d => do
  let signed ← record.read "struct DeployJson" d
  match signed.checkHashes with
  | .ok () => return signed
  | .error e => throw (.refused e.message)

instance : FromJson SignedDeploy := ⟨readJson⟩

end SignedDeploy

end Mintage
