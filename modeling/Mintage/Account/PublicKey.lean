import Mintage.File
import Mintage.Identity
import Mintage.Wire

/-!
# Public keys and signatures

Keys and signatures belong to one of two algorithms. Their binary form and their text begin with a
tag for it: 1 for Ed25519 and 2 for secp256k1. The binary form of a key is read in two ways, from a
whole byte string (`PublicKey.ofTagged`) and off the front of one (`PublicKey.decode`).
-/

namespace Mintage

/-- An algorithm that signs. -/
inductive Algorithm where
  | ed25519
  | secp256k1
deriving DecidableEq

namespace Algorithm

/-- The tag in front of keys and signatures. -/
def tag : Algorithm → UInt8
  | ed25519 => 1
  | secp256k1 => 2

/-- The name that enters the hash of an account. -/
def text : Algorithm → String
  | ed25519 => "ed25519"
  | secp256k1 => "secp256k1"

/-- The algorithm with a tag. -/
def ofTag? : UInt8 → Option Algorithm
  | 1 => some ed25519
  | 2 => some secp256k1
  | _ => none

end Algorithm

/-- What can be wrong with keys and signatures. -/
inductive KeyError where
  | unsupportedAlgorithm (tag : UInt8)
  | emptyKey
  | wrongLength (length : Nat)
  /-- The bytes are no key of the algorithm. -/
  | notAKey
  /-- The bytes are no point of the curve. -/
  | notAPoint
  | notHex (fault : Hex.Error)
  | unrecognizedPem
  /-- A key file could not be read. -/
  | unreadable (reason : File.Error)
  | algorithmMismatch
  | invalidSignature
deriving DecidableEq

/-- The wording of an error. -/
def KeyError.message : KeyError → String
  | .unsupportedAlgorithm tag => s!"Unsupported key algorithm tag {tag}."
  | .emptyKey => "Invalid key material: empty key"
  | .wrongLength length => s!"Invalid key material: unexpected length {length}"
  | .notAKey => "Invalid key material: signature error"
  | .notAPoint => "Invalid key material: signature error: Cannot decompress Edwards point"
  | .notHex fault => "Not a valid hex string: " ++ fault.message
  | .unrecognizedPem => "The PEM data is neither an Ed25519 nor a secp256k1 secret key."
  | .unreadable reason => "Could not read key file: " ++ reason.message
  | .algorithmMismatch => "Signature and public key use different algorithms."
  | .invalidSignature => "The signature is not valid."

/-- The public key of an account. -/
inductive PublicKey where
  | ed25519 (bytes : Block 32)
  /-- The compressed form of the point. -/
  | secp256k1 (bytes : Block 33)
deriving DecidableEq

namespace PublicKey

/-- The algorithm of the key. -/
def algorithm : PublicKey → Algorithm
  | ed25519 _ => .ed25519
  | secp256k1 _ => .secp256k1

/-- The bytes of the key without the tag. -/
def keyBytes : PublicKey → Bytes
  | ed25519 b => b.bytes
  | secp256k1 b => b.bytes

/-- The binary form: the tag, then the bytes. -/
def encode (k : PublicKey) : Bytes := k.algorithm.tag :: k.keyBytes

/-- Takes a key off the front. -/
def decode : Wire.Decoder PublicKey := do
  match ← Wire.decodeByte with
  | 1 => return ed25519 (← Wire.decodeBlock 32)
  | 2 => return secp256k1 (← Wire.decodeBlock 33)
  | tag => throw (.unknownPublicKey tag)

/-- The key whose tag and bytes are given, with nothing behind them. -/
def ofTagged : Bytes → Except KeyError PublicKey
  | [] => .error .emptyKey
  | 1 :: rest =>
    match Block.ofBytes? 32 rest with
    | some b => .ok (ed25519 b)
    | none => .error (.wrongLength rest.length)
  | 2 :: rest =>
    match Block.ofBytes? 33 rest with
    | some b => .ok (secp256k1 b)
    | none => .error (.wrongLength rest.length)
  | tag :: _ => .error (.unsupportedAlgorithm tag)

/-- The text: the binary form in hexadecimal. -/
def text (k : PublicKey) : String := Hex.encode k.encode

instance : ToString PublicKey := ⟨text⟩

/-- Reads the text of a key. -/
def parse (s : String) : Except KeyError PublicKey :=
  match Hex.decode s with
  | .ok bs => ofTagged bs
  | .error fault => .error (.notHex fault)

/-- The hash of the account with this main key: of the name of the algorithm, a zero byte and the
bytes of the key. -/
def accountHash (k : PublicKey) : Digest :=
  Blake2b.digest (Utf8.encode k.algorithm.text ++ 0 :: k.keyBytes)

/-- The account with this main key. -/
def identity (k : PublicKey) : Identity := ⟨.account, k.accountHash⟩

/-- Orders keys by algorithm, then by their bytes. -/
def order (a b : PublicKey) : Ordering := compareBytes a.encode b.encode

instance : Ord PublicKey := ⟨order⟩

/-- Written as text. -/
def toJson (k : PublicKey) : Json := .str k.text

/-- Reads the text of a key. -/
def readJson : Json.Reader PublicKey := Json.Draft.readParsed parse KeyError.message

instance : ToJson PublicKey := ⟨toJson⟩

instance : FromJson PublicKey := ⟨readJson⟩

end PublicKey

/-- A signature and the algorithm that made it. -/
structure Signature where
  algorithm : Algorithm
  bytes : Block 64
deriving DecidableEq

namespace Signature

/-- The binary form: the tag, then the bytes. -/
def encode (s : Signature) : Bytes := s.algorithm.tag :: s.bytes.bytes

/-- The text: the binary form in hexadecimal. -/
def text (s : Signature) : String := Hex.encode s.encode

/-- The signature whose tag and bytes are given. The length is looked at before the tag. -/
def ofTagged : Bytes → Except KeyError Signature
  | [] => .error .invalidSignature
  | tag :: rest =>
    match Block.ofBytes? 64 rest, Algorithm.ofTag? tag with
    | none, _ => .error .invalidSignature
    | some _, none => .error (.unsupportedAlgorithm tag)
    | some b, some algorithm => .ok ⟨algorithm, b⟩

/-- Reads the text of a signature. -/
def parse (s : String) : Except KeyError Signature :=
  match Hex.decode s with
  | .ok bs => ofTagged bs
  | .error fault => .error (.notHex fault)

/-- Written as text. -/
def toJson (s : Signature) : Json := .str s.text

/-- Reads the text of a signature. -/
def readJson : Json.Reader Signature := Json.Draft.readParsed parse KeyError.message

instance : ToJson Signature := ⟨toJson⟩

instance : FromJson Signature := ⟨readJson⟩

end Signature

end Mintage
