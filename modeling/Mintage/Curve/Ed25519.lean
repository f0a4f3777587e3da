import Mintage.Curve.Residue
import Mintage.Digest.Sha2

/-!
# Ed25519

Signatures over the twisted Edwards curve `y² - x² = 1 + d x² y²` modulo `2 ^ 255 - 19`. Points are
kept as `X : Y : Z : T` with `x = X / Z`, `y = Y / Z` and `x y = T / Z`, for which one formula adds
any two points. The binary form of a point is `y` with the parity of `x` in the highest bit.
-/

namespace Mintage.Ed25519

/-- The prime of the field. -/
def p : Nat := 2 ^ 255 - 19

/-- The order of the base point. -/
def order : Nat := 2 ^ 252 + 27742317777372353535851937790883648493

/-- The constant of the curve. -/
def d : Nat := 37095705934669439343138083508754565189542113879843219016388785533085940283555

/-- A square root of `-1`. -/
def rootOfMinusOne : Nat :=
  19681161376707505956807079304988542015446066515923890162744021073123829784752

/-- A point of the curve. -/
structure Point where
  x : Nat
  y : Nat
  z : Nat
  t : Nat

namespace Point

/-- The neutral point. -/
def zero : Point := ⟨0, 1, 1, 0⟩

/-- The point with the coordinates `x` and `y`. -/
def ofAffine (x y : Nat) : Point := ⟨x, y, 1, x * y % p⟩

/-- The base point. -/
def base : Point :=
  ofAffine 15112221349535400772501151409588531511454012693041857206046113283949847762202
    46316835694926478169428394003475163141307993866256225615783033603165251855960

/-- The sum of two points. -/
def add (a b : Point) : Point :=
  let low := Residue.sub p a.y a.x * Residue.sub p b.y b.x % p
  let high := (a.y + a.x) * (b.y + b.x) % p
  let c := 2 * d * a.t % p * b.t % p
  let m := 2 * a.z * b.z % p
  let e := Residue.sub p high low
  let f := Residue.sub p m c
  let g := (m + c) % p
  let h := (high + low) % p
  ⟨e * f % p, g * h % p, f * g % p, e * h % p⟩

/-- The point on the other side of the `y` axis. -/
def neg (a : Point) : Point := ⟨Residue.sub p 0 a.x, a.y, a.z, Residue.sub p 0 a.t⟩

/-- `n` times a point. -/
def smul (n : Nat) (a : Point) : Point := Residue.multiple zero (fun q => add q q) add n a

/-- The binary form. -/
def encode (a : Point) : Bytes :=
  let inverse := Residue.inverse p a.z
  littleEndian 32 (a.y * inverse % p + a.x * inverse % p % 2 * 2 ^ 255)

/-- The point with a binary form. The `y` coordinate is taken modulo the prime, and the parity of a
zero `x` does not matter. -/
def decode? (bs : Bytes) : Option Point :=
  let n := ofLittleEndian bs
  let y := n % 2 ^ 255 % p
  let u := Residue.sub p (y * y % p) 1
  let v := (d * (y * y % p) + 1) % p
  let root := Residue.pow p (u * Residue.pow p v 7 % p) ((p - 5) / 8)
  let candidate := u * Residue.pow p v 3 % p * root % p
  let square := v * (candidate * candidate % p) % p
  let root :=
    if square = u then some candidate
    else if square = Residue.sub p 0 u then some (candidate * rootOfMinusOne % p)
    else none
  root.map fun x => ofAffine (if x % 2 = n / 2 ^ 255 % 2 then x else Residue.sub p 0 x) y

end Point

/-- What a secret key of 32 bytes is expanded to: the scalar and the beginning of what is hashed to
make the nonces. -/
def expand (secret : Block 32) : Nat × Bytes :=
  let digest := Sha2.sha512 secret.bytes
  let n := ofLittleEndian (digest.take 32)
  (n % 2 ^ 254 / 8 * 8 + 2 ^ 254, digest.drop 32)

/-- The number that a digest stands for, modulo the order. -/
def challenge (bs : Bytes) : Nat := ofLittleEndian (Sha2.sha512 bs) % order

/-- The binary form of the public key. -/
def publicKey (secret : Block 32) : Block 32 :=
  .ofPadded 32 (Point.smul (expand secret).1 .base).encode

/-- The signature of a message. -/
def sign (secret : Block 32) (message : Bytes) : Block 64 :=
  let (scalar, beginning) := expand secret
  let nonce := challenge (beginning ++ message)
  let commitment := (Point.smul nonce .base).encode
  let k := challenge (commitment ++ (publicKey secret).bytes ++ message)
  .ofPadded 64 (commitment ++ littleEndian 32 ((nonce + k * scalar) % order))

/-- Whether a signature of a message is valid for a public key that stands for `point`. -/
def verifies (key : Block 32) (point : Point) (message : Bytes) (signature : Block 64) : Bool :=
  let commitment := signature.bytes.take 32
  let s := ofLittleEndian (signature.bytes.drop 32)
  let k := challenge (commitment ++ key.bytes ++ message)
  s < order && ((Point.smul s .base).add (point.neg.smul k)).encode == commitment

end Mintage.Ed25519
