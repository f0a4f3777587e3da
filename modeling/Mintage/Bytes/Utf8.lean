import Mintage.Bytes

/-!
# UTF-8 text

`encode` lays a text out in bytes and `decode` reads it back. A byte string that is no text is
refused with the place of its first fault: either a sequence of one to three bytes that nothing can
complete, or a sequence that the end of the input cuts off.
-/

namespace Mintage.Utf8

/-- The first fault of a byte string that is not UTF-8. -/
inductive Error where
  /-- The `length` bytes at `index` begin no character. -/
  | invalid (length index : Nat)
  /-- The input ends within the character that begins at `index`. -/
  | incomplete (index : Nat)
deriving DecidableEq

/-- The wording of an error. -/
def Error.message : Error → String
  | .invalid length index => s!"invalid utf-8 sequence of {length} bytes from index {index}"
  | .incomplete index => s!"incomplete utf-8 byte sequence from index {index}"

/-- The bytes of a text. -/
def encode (text : String) : Bytes := text.toByteArray.data.toList

/-- Whether a byte continues a character. -/
def isContinuation (b : UInt8) : Bool := 0x80 ≤ b.toNat && b.toNat ≤ 0xbf

/-- How many continuation bytes follow a leading byte, and the range of the first of them. -/
def leading? (b : UInt8) : Option (Nat × Nat × Nat) :=
  let n := b.toNat
  if n < 0x80 then some (0, 0x80, 0xbf)
  else if n < 0xc2 then none
  else if n < 0xe0 then some (1, 0x80, 0xbf)
  else if n = 0xe0 then some (2, 0xa0, 0xbf)
  else if n = 0xed then some (2, 0x80, 0x9f)
  else if n < 0xf0 then some (2, 0x80, 0xbf)
  else if n = 0xf0 then some (3, 0x90, 0xbf)
  else if n < 0xf4 then some (3, 0x80, 0xbf)
  else if n = 0xf4 then some (3, 0x80, 0x8f)
  else none

/-- The fault among the continuation bytes of the character at `index`, of which `seen` bytes are
already read, or `none` if `missing` more of them follow. -/
def continuationFault? (index seen : Nat) : (missing : Nat) → Bytes → Option Error
  | 0, _ => none
  | _ + 1, [] => some (.incomplete index)
  | missing + 1, b :: rest =>
    if isContinuation b then continuationFault? index (seen + 1) missing rest
    else some (.invalid seen index)

/-- The fault of the character at `index`, whose leading byte is `b`. -/
def characterFault? (index : Nat) (b : UInt8) (rest : Bytes) : Option Error :=
  match leading? b, rest with
  | none, _ => some (.invalid 1 index)
  | some (0, _, _), _ => none
  | some (_ + 1, _, _), [] => some (.incomplete index)
  | some (missing + 1, low, high), c :: rest =>
    if low ≤ c.toNat ∧ c.toNat ≤ high then continuationFault? index 2 missing rest
    else some (.invalid 1 index)

/-- The first fault of the bytes that begin at `index`; the first `skip` of them belong to a
character already checked. -/
def fault? (index skip : Nat) : Bytes → Option Error
  | [] => none
  | b :: rest =>
    match skip with
    | skip + 1 => fault? (index + 1) skip rest
    | 0 =>
      match characterFault? index b rest with
      | some e => some e
      | none => fault? (index + 1) ((leading? b).elim 0 (·.1)) rest

/-- The text of a byte string, or its first fault. -/
def decode (bs : Bytes) : Except Error String :=
  match String.fromUTF8? ⟨bs.toArray⟩ with
  | some text => .ok text
  | none => .error ((fault? 0 0 bs).getD (.incomplete 0))

end Mintage.Utf8
