import Mintage.Account.Der
import Mintage.Account.Pem
import Mintage.Account.PublicKey
import Mintage.Curve.Ed25519
import Mintage.Curve.Secp256k1

/-!
# Secret keys and signers

A `SecretKey` makes signatures that `PublicKey.verify` accepts. It is given as bytes, drawn at
random or read from a PEM text: PKCS#8 for both algorithms, SEC1 for secp256k1 as well. Who signs
deploys need not hold a secret key; a `Signer` is anything with a public key and a way to sign.
-/

namespace Mintage

/-- Checks that a signature of a message was made with the secret key that belongs to `k`. -/
def PublicKey.verify (k : PublicKey) (message : Bytes) (s : Signature) : Except KeyError Unit :=
  match k, s.algorithm with
  | ed25519 bytes, .ed25519 =>
    match Ed25519.Point.decode? bytes.bytes with
    | none => .error .notAPoint
    | some point =>
      if Ed25519.verifies bytes point message s.bytes then .ok () else .error .invalidSignature
  | secp256k1 bytes, .secp256k1 =>
    match Secp256k1.Point.decode? bytes.bytes with
    | none => .error .notAKey
    | some point =>
      if Secp256k1.verifies point message s.bytes then .ok () else .error .invalidSignature
  | _, _ => .error .algorithmMismatch

/-- Who signs deploys for an account. -/
structure Signer where
  publicKey : PublicKey
  /-- Signs a message; for a deploy that is its hash. -/
  sign : Bytes → Signature

/-- A key that signs. -/
inductive SecretKey where
  | ed25519 (seed : Block 32)
  | secp256k1 (scalar : Secp256k1.Scalar)

namespace SecretKey

/-- The public key. -/
def publicKey : SecretKey → PublicKey
  | ed25519 seed => .ed25519 (Ed25519.publicKey seed)
  | secp256k1 scalar => .secp256k1 (Secp256k1.publicKey scalar)

/-- Signs a message. -/
def sign (k : SecretKey) (message : Bytes) : Signature :=
  match k with
  | ed25519 seed => ⟨.ed25519, Ed25519.sign seed message⟩
  | secp256k1 scalar => ⟨.secp256k1, Secp256k1.sign scalar message⟩

/-- The key as a signer. -/
def signer (k : SecretKey) : Signer := ⟨k.publicKey, k.sign⟩

/-- How a key is shown: by its public key only. -/
def debugText (k : SecretKey) : String := "SecretKey(" ++ k.publicKey.text ++ ")"

/-- The key with given bytes. -/
def ofBytes (algorithm : Algorithm) (bs : Bytes) : Except KeyError SecretKey :=
  match algorithm with
  | .ed25519 =>
    match Block.ofBytes? 32 bs with
    | some seed => .ok (ed25519 seed)
    | none => .error (.wrongLength bs.length)
  | .secp256k1 =>
    match Secp256k1.Scalar.ofBytes? bs with
    | some scalar => .ok (secp256k1 scalar)
    | none => .error .notAKey

/-- The key of the first random draw that is one. -/
def ofDraws? (algorithm : Algorithm) (draws : List (Block 32)) : Option SecretKey :=
  draws.findSome? fun draw => (ofBytes algorithm draw.bytes).toOption

/-- The key that is made of random bytes, of which each draw takes 32. -/
def generate? (algorithm : Algorithm) (random : Bytes) : Option SecretKey :=
  ofDraws? algorithm ((List.range (random.length / 32)).map fun i =>
    .ofPadded 32 (random.drop (32 * i)))

/-! ## PEM -/

/-- Passes over the elements for the field 0 in front of the field 1. -/
def afterFieldZero (elements : List Der.Element) : List Der.Element :=
  elements.dropWhile (·.isField 0)

/-- The key in SEC1 form: the version 1, the secret scalar, the name of a curve, which is not looked
at, and the public key. The last two may be missing; a public key has to be the right one. -/
def ofSec1? (bs : Bytes) : Option SecretKey := do
  match ← Der.within? 0x30 bs with
  | ⟨0x02, [1]⟩ :: ⟨0x04, scalar⟩ :: fields =>
    let scalar ← Secp256k1.Scalar.ofBytes? scalar
    match fields with
    | ⟨0x80, _⟩ :: _ => none
    | ⟨0xa0, curve⟩ :: _ =>
      match ← Der.elements? curve with
      | [⟨0x06, identifier⟩] => guard (Der.isIdentifier identifier)
      | _ => none
    | _ => pure ()
    match afterFieldZero fields with
    | [] => return secp256k1 scalar
    | [⟨0xa1, key⟩] =>
      match ← Der.elements? key with
      | [⟨0x03, bits⟩] =>
        let key ← Der.bitString? bits
        guard (key = scalar.point.encode ∨ key = scalar.point.encodeUncompressed)
        return secp256k1 scalar
      | _ => none
    | _ => none
  | _ => none

/-- What PKCS#8 says of a key. -/
structure Pkcs8 where
  /-- The elements that name the algorithm and its parameters. -/
  algorithm : List Der.Element
  privateKey : Bytes
  publicKey : Option Bytes

/-- The PKCS#8 form: the version, the algorithm, the secret key, and, in the second version only,
the public key. Other fields are not looked at. -/
def Pkcs8.ofBytes? (bs : Bytes) : Option Pkcs8 := do
  match ← Der.within? 0x30 bs with
  | ⟨0x02, [version]⟩ :: ⟨0x30, algorithm⟩ :: ⟨0x04, privateKey⟩ :: fields =>
    let algorithm ← Der.elements? algorithm
    let fields := afterFieldZero fields
    let (publicKey, others) ←
      match fields with
      | ⟨0x81, bits⟩ :: others => do pure (some (← Der.bitString? bits), others)
      | ⟨0xa1, _⟩ :: _ => none
      | others => some (none, others)
    guard ((version = 0 ∧ publicKey.isNone) ∨ (version = 1 ∧ publicKey.isSome))
    guard (others.all fun e =>
      0xa0 ≤ e.tag && e.tag < 0xbf && ((Der.elements? e.content).map List.length) == some 1)
    return ⟨algorithm, privateKey, publicKey⟩
  | _ => none

/-- The identifier of Ed25519. -/
def ed25519Identifier : Bytes := [0x2b, 0x65, 0x70]

/-- The identifier of keys on elliptic curves. -/
def curveKeyIdentifier : Bytes := [0x2a, 0x86, 0x48, 0xce, 0x3d, 0x02, 0x01]

/-- The identifier of the curve secp256k1. -/
def secp256k1Identifier : Bytes := [0x2b, 0x81, 0x04, 0x00, 0x0a]

/-- The key in PKCS#8 form. -/
def ofPkcs8? (bs : Bytes) : Option SecretKey := do
  let form ← Pkcs8.ofBytes? bs
  match form.algorithm with
  | [⟨0x06, identifier⟩] =>
    guard (identifier = ed25519Identifier)
    match form.privateKey with
    | 0x04 :: 0x20 :: seed =>
      let seed ← Block.ofBytes? 32 seed
      guard (form.publicKey.all (· = (Ed25519.publicKey seed).bytes))
      return ed25519 seed
    | _ => none
  | [⟨0x06, identifier⟩, ⟨0x06, curve⟩] =>
    guard (identifier = curveKeyIdentifier ∧ curve = secp256k1Identifier)
    ofSec1? form.privateKey
  | _ => none

/-- The key in a PEM text. -/
def ofPem (text : String) : Except KeyError SecretKey :=
  match (Pem.decode? "PRIVATE KEY" text).bind ofPkcs8? with
  | some key => .ok key
  | none =>
    match (Pem.decode? "EC PRIVATE KEY" text).bind ofSec1? with
    | some key => .ok key
    | none => .error .unrecognizedPem

/-- The key in a PEM file. -/
def ofPemFile (file : File) : Except KeyError SecretKey :=
  match file.text with
  | .ok text => ofPem text
  | .error reason => .error (.unreadable reason)

end SecretKey

end Mintage
