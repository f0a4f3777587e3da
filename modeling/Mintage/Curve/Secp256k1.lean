import Mintage.Curve.Residue
import Mintage.Digest.Sha2

/-!
# ECDSA over secp256k1

Signatures over the curve `y² = x³ + 7` modulo `2 ^ 256 - 2 ^ 32 - 977`. Points are kept as
`X : Y : Z` with `x = X / Z` and `y = Y / Z`, for which one formula adds any two points; `0 : 1 : 0`
is the point at infinity. Messages are hashed with SHA-256. A signature is made with the nonce of
RFC 6979 and has the lower of the two possible values of `s`; the higher one is not accepted.
-/

namespace Mintage.Secp256k1

/-- The prime of the field. -/
def p : Nat := 2 ^ 256 - 2 ^ 32 - 977

/-- The order of the base point. -/
def order : Nat := 0xfffffffffffffffffffffffffffffffebaaedce6af48a03bbfd25e8cd0364141

/-- A point of the curve. -/
structure Point where
  x : Nat
  y : Nat
  z : Nat

namespace Point

/-- The point at infinity. -/
def zero : Point := ⟨0, 1, 0⟩

/-- The base point. -/
def base : Point :=
  ⟨0x79be667ef9dcbbac55a06295ce870b07029bfcdb2dce28d959f2815b16f81798,
    0x483ada7726a3c4655da4fbfc0e1108a8fd17b448a68554199c47d08ffb10d4b8, 1⟩

/-- The sum of two points. -/
def add (a b : Point) : Point :=
  let xx := a.x * b.x % p
  let yy := a.y * b.y % p
  let zz := 21 * a.z * b.z % p
  let xy := Residue.sub p ((a.x + a.y) * (b.x + b.y) % p) ((xx + yy) % p)
  let yz := (a.y * b.z + b.y * a.z) % p
  let xz := (a.x * b.z + b.x * a.z) % p
  let low := Residue.sub p yy zz
  let high := (yy + zz) % p
  let cross := 21 * xz % p
  ⟨Residue.sub p (xy * low % p) (yz * cross % p), (high * low + 3 * xx * cross) % p,
    (yz * high + 3 * xx * xy) % p⟩

/-- `n` times a point. -/
def smul (n : Nat) (a : Point) : Point := Residue.multiple zero (fun q => add q q) add n a

/-- The coordinates; both are zero at infinity. -/
def affine (a : Point) : Nat × Nat :=
  let inverse := Residue.inverse p a.z
  (a.x * inverse % p, a.y * inverse % p)

/-- The compressed form: a byte for the parity of `y`, then `x`. -/
def encode (a : Point) : Bytes :=
  let (x, y) := a.affine
  UInt8.ofNat (2 + y % 2) :: bigEndian 32 x

/-- The form with both coordinates. -/
def encodeUncompressed (a : Point) : Bytes :=
  let (x, y) := a.affine
  4 :: (bigEndian 32 x ++ bigEndian 32 y)

/-- The point with the coordinate `x` and the given parity of `y`. -/
def lift? (x parity : Nat) : Option Point :=
  if p ≤ x then none
  else
    let square := (x * x % p * x + 7) % p
    let y := Residue.pow p square ((p + 1) / 4)
    if y * y % p = square then some ⟨x, if y % 2 = parity then y else Residue.sub p 0 y, 1⟩
    else none

/-- The point with a form of 33 bytes. The first byte gives the parity of `y`; 5 leaves it open,
which means an even one. -/
def decode? : Bytes → Option Point
  | 2 :: x => lift? (ofBigEndian x) 0
  | 3 :: x => lift? (ofBigEndian x) 1
  | 5 :: x => lift? (ofBigEndian x) 0
  | _ => none

end Point

/-- A secret key: a number below the order, and not zero. -/
structure Scalar where
  value : Nat
  value_pos : 0 < value := by omega
  value_lt : value < order := by omega

/-- The scalar with a value. -/
def Scalar.ofNat? (n : Nat) : Option Scalar :=
  if h : 0 < n ∧ n < order then some ⟨n, h.1, h.2⟩ else none

/-- The scalar with big-endian bytes. Up to eight leading zeros may be missing. -/
def Scalar.ofBytes? (bs : Bytes) : Option Scalar :=
  if 24 ≤ bs.length ∧ bs.length ≤ 32 then Scalar.ofNat? (ofBigEndian bs) else none

/-- The point of the public key. -/
def Scalar.point (secret : Scalar) : Point := .smul secret.value .base

/-- The compressed form of the public key. -/
def publicKey (secret : Scalar) : Block 33 := .ofPadded 33 secret.point.encode

/-- The number that is signed for a message. -/
def messageNumber (message : Bytes) : Nat := ofBigEndian (Sha2.sha256 message) % order

/-- The first number of the sequence with the state `k` and `v` that may be a nonce; `tries` is the
number of times to look. -/
def drawNonce (k v : Bytes) : (tries : Nat) → Nat
  | 0 => 1
  | tries + 1 =>
    let v := Sha2.hmac k v
    let n := ofBigEndian v
    if 0 < n ∧ n < order then n
    else
      let k := Sha2.hmac k (v ++ [0])
      drawNonce k (Sha2.hmac k v) tries

/-- The nonce for a message, derived from the secret key and the message alone. A single draw fails
with a probability of about `2 ^ -128`. -/
def nonce (secret : Scalar) (message : Nat) : Nat :=
  let seed := bigEndian 32 secret.value ++ bigEndian 32 message
  let v := List.replicate 32 (1 : UInt8)
  let k := Sha2.hmac (List.replicate 32 0) (v ++ 0 :: seed)
  let v := Sha2.hmac k v
  let k := Sha2.hmac k (v ++ 1 :: seed)
  drawNonce k (Sha2.hmac k v) 16

/-- The signature of a message. -/
def sign (secret : Scalar) (message : Bytes) : Block 64 :=
  let z := messageNumber message
  let k := nonce secret z
  let r := (Point.smul k .base).affine.1 % order
  let s := Residue.inverse order k * (z + r * secret.value) % order
  let s := if order / 2 < s then order - s else s
  .ofPadded 64 (bigEndian 32 r ++ bigEndian 32 s)

/-- Whether a signature of a message is valid for the public key `point`. -/
def verifies (point : Point) (message : Bytes) (signature : Block 64) : Bool :=
  let r := ofBigEndian (signature.bytes.take 32)
  let s := ofBigEndian (signature.bytes.drop 32)
  let inverse := Residue.inverse order s
  let sum := (Point.smul (messageNumber message * inverse % order) .base).add
    (point.smul (r * inverse % order))
  0 < r && r < order && 0 < s && s ≤ order / 2 && sum.affine.1 % order == r

end Mintage.Secp256k1
