import Mintage.Wire
import Mintage.Json.Reader

/-!
# Natural numbers of bounded width

Amounts are natural numbers below `2 ^ 256` or `2 ^ 512`. Sums and products are exact, or `none`
where they do not fit.

The binary form is the number of significant bytes, in one byte, and these bytes, the lowest first.
Zero has none. The text is decimal. Reading also takes a leading `+`, leading zeros, and
underscores behind the first digit.
-/

namespace Mintage

/-- A natural number below `2 ^ bits`. -/
structure Bounded (bits : Nat) where
  val : Nat
  isLt : val < 2 ^ bits
deriving DecidableEq, Ord

/-- Token amounts and fees. -/
abbrev U256 := Bounded 256

/-- Amounts of motes. -/
abbrev U512 := Bounded 512

namespace Bounded

/-- Why a text or number is not a bounded number. -/
inductive Error where
  /-- The text has no digits. -/
  | empty
  /-- The text has a character that is no digit. -/
  | invalidDigit
  /-- The number does not fit. -/
  | overflow (bits : Nat)
deriving DecidableEq

/-- The wording of an error. -/
def Error.message : Error → String
  | .empty => "Not a decimal number: cannot parse integer from empty string"
  | .invalidDigit => "Not a decimal number: invalid digit found in string"
  | .overflow bits => s!"Value does not fit in {bits} bits."

variable {bits : Nat}

theorem val_inj {x y : Bounded bits} : x.val = y.val ↔ x = y := by
  constructor
  · intro h
    cases x
    cases y
    cases h
    rfl
  · rintro rfl
    rfl

instance : Inhabited (Bounded bits) := ⟨⟨0, Nat.two_pow_pos bits⟩⟩

/-- The number zero. -/
def zero : Bounded bits := ⟨0, Nat.two_pow_pos bits⟩

/-- Whether the number is zero. -/
def isZero (x : Bounded bits) : Bool := x.val = 0

/-- The bounded number of a natural number that fits. -/
def ofNat? (n : Nat) : Option (Bounded bits) :=
  if h : n < 2 ^ bits then some ⟨n, h⟩ else none

/-- The bounded number of a natural number, or the error that it does not fit. -/
def ofNat (n : Nat) : Except Error (Bounded bits) :=
  match ofNat? n with
  | some x => .ok x
  | none => .error (.overflow bits)

/-- A number of 64 bits fits into every wider type. -/
def ofUInt64 (n : UInt64) (wide : 64 ≤ bits := by decide) : Bounded bits :=
  ⟨n.toNat, Nat.lt_of_lt_of_le n.toNat_lt (Nat.pow_le_pow_right (by decide) wide)⟩

/-- The sum, if it fits. -/
def checkedAdd (x y : Bounded bits) : Option (Bounded bits) := ofNat? (x.val + y.val)

/-- The product, if it fits. -/
def checkedMul (x y : Bounded bits) : Option (Bounded bits) := ofNat? (x.val * y.val)

/-! ## Text -/

instance : ToString (Bounded bits) := ⟨fun x => toString x.val⟩

/-- The number behind `n`, whose digits follow; underscores are passed over. -/
def readDigits (n : Nat) : List Char → Except Error Nat
  | [] => .ok n
  | '_' :: cs => readDigits n cs
  | c :: cs =>
    if c.isDigit then readDigits (10 * n + (c.toNat - '0'.toNat)) cs else .error .invalidDigit

/-- The natural number that a text stands for. -/
def readNat (cs : List Char) : Except Error Nat :=
  let cs := match cs with
    | '+' :: '+' :: _ => cs
    | '+' :: rest => rest
    | _ => cs
  match cs with
  | [] => .error .empty
  | '_' :: _ => .error .invalidDigit
  | _ => readDigits 0 cs

/-- The number that a text stands for. -/
def parse (s : String) : Except Error (Bounded bits) := do ofNat (← readNat s.toList)

/-! ## JSON -/

/-- Written as a decimal string, which is exact. -/
def toJson (x : Bounded bits) : Json := .str (toString x)

/-- Reads a decimal string. -/
def readJson : Json.Reader (Bounded bits) := Json.Draft.readParsed parse Error.message

instance : ToJson (Bounded bits) := ⟨toJson⟩

instance : FromJson (Bounded bits) := ⟨readJson⟩

/-! ## Binary form -/

/-- How many bytes a number needs. -/
def byteLength (n : Nat) : Nat := if n = 0 then 0 else n.log2 / 8 + 1

/-- The binary form. -/
def encode (x : Bounded bits) : Bytes :=
  let length := byteLength x.val
  UInt8.ofNat length :: littleEndian length x.val

/-- Takes a number off the front: its length, which must not exceed the width, and that many bytes.
High bytes that are zero are accepted. -/
def decode : Wire.Decoder (Bounded bits) := do
  let length ← Wire.decodeByte
  if bits < 8 * length.toNat then throw (.tooWide length s!"U{bits}")
  match ofNat? (ofLittleEndian (← Wire.decodeBytesOr .unfilled length.toNat)) with
  | some x => return x
  | none => throw (.tooWide length s!"U{bits}")

end Bounded

end Mintage
