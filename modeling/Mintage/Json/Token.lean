import Mintage.Bytes.Utf8
import Mintage.Json.Basic
import Mintage.Json.Fault

/-!
# Numbers, strings and words in JSON text

The smallest pieces of a text are read from its bytes, since a text is only known to be UTF-8 where
somebody reads a string of it. Each piece can also be passed over: then a number may be out of
range and a string need not consist of characters, as long as both are spelled properly. A `Token`
says what each of the two meets.
-/

namespace Mintage.Json

/-- A number or a string at its place in a text. -/
structure Token (α : Type) where
  /-- What it stands for, or what is wrong with it for a reader. -/
  value : Except Fault α
  /-- What is wrong with it for one who passes over it. Behind such a fault nothing can be made
  out. -/
  passing : Option Fault

namespace Token

/-- The token of a value. -/
def of {α : Type} (a : α) : Token α := ⟨.ok a, none⟩

/-! ## Characters -/

/-- Whether a byte is a blank between tokens. -/
def isBlank (b : UInt8) : Bool := b = 0x20 || b = 0x0a || b = 0x09 || b = 0x0d

/-- The next byte that is no blank, as a character, and what follows it. -/
def next? : Bytes → Option (Char × Bytes)
  | [] => none
  | b :: rest => if isBlank b then next? rest else some (Char.ofUInt8 b, rest)

/-- Whether a byte is a decimal digit. -/
def isDigit (b : UInt8) : Bool := (Char.ofUInt8 b).isDigit

/-- The value of a decimal digit. -/
def digitValue (b : UInt8) : Nat := b.toNat - '0'.toNat

/-! ## Words -/

/-- What is wrong with the rest of a word such as `true`, or what follows the word. -/
def word : (expected : List Char) → Bytes → Except Fault Bytes
  | [], rest => .ok rest
  | _ :: _, [] => .error .endOfValue
  | c :: expected, b :: rest =>
    if Char.ofUInt8 b = c then word expected rest else .error .expectedIdentifier

/-! ## Numbers -/

/-- Appends digits to a number as long as it fits in 64 bits; also says how many digits do not. -/
def appendDigits (n : Nat) : Bytes → Nat × Nat
  | [] => (n, 0)
  | b :: bs =>
    let m := 10 * n + digitValue b
    if m < 2 ^ 64 then appendDigits m bs else (n, bs.length + 1)

/-- The number `n · 10 ^ e`, from the powers of ten that are themselves in range. Each round scales
a very small number up by `10 ^ 308`; after three rounds nothing is left of it. -/
def scale? (x : Binary64) : (rounds : Nat) → (e : Int) → Option Binary64
  | rounds, e =>
    if e.natAbs ≤ 308 then
      if 0 ≤ e then x.mul? (.tenTo e.toNat) else x.div? (.tenTo (-e).toNat)
    else if x.isZero then some x
    else if 0 ≤ e then none
    else match rounds with
      | 0 => some (.zero false)
      | rounds + 1 =>
        match x.div? (.tenTo 308) with
        | some y => scale? y rounds (e + 308)
        | none => none

/-- The floating-point number `± n · 10 ^ e`. -/
def float? (negative : Bool) (n : Nat) (e : Int) : Option Number := do
  let x ← scale? (← Binary64.ofNat? n) 4 e
  some (.float { x with negative })

/-- A number without fraction and exponent, whose digits are given. -/
def integer? (negative : Bool) (ds : Bytes) : Option Number :=
  let (n, dropped) := appendDigits 0 ds
  if dropped ≠ 0 then float? negative n dropped
  else if ¬ negative then some (.int n)
  else if 1 ≤ n ∧ n ≤ 2 ^ 63 then some (.int (-n))
  else float? true n 0

/-- The digits that have to stand here, and what follows them. -/
def needDigits (bs : Bytes) : Except Fault (Bytes × Bytes) :=
  match bs.takeWhile isDigit, bs with
  | [], [] => .error .endOfValue
  | [], _ :: _ => .error .invalidNumber
  | ds, _ => .ok (ds, bs.dropWhile isDigit)

/-- The exponent behind a number, if there is one, with its sign. -/
def exponentPart (bs : Bytes) : Except Fault (Option (Bool × Bytes) × Bytes) :=
  match bs with
  | b :: rest =>
    if Char.ofUInt8 b = 'e' ∨ Char.ofUInt8 b = 'E' then do
      let (negative, rest) := match rest with
        | s :: digits =>
          if Char.ofUInt8 s = '+' then (false, digits)
          else if Char.ofUInt8 s = '-' then (true, digits)
          else (false, rest)
        | [] => (false, rest)
      let (ds, rest) ← needDigits rest
      return (some (negative, ds), rest)
    else return (none, bs)
  | [] => return (none, bs)

/-- Applies an exponent. One beyond 31 bits is too large, unless it makes nothing of the number. -/
def withExponent (negative : Bool) (n : Nat) (e : Int) (exponentNegative : Bool)
    (ds : Bytes) : Option Number :=
  let k := ds.foldl (fun k b => 10 * k + digitValue b) 0
  if k < 2 ^ 31 then float? negative n (if exponentNegative then e - k else e + k)
  else if n ≠ 0 ∧ ¬ exponentNegative then none
  else some (.float (.zero negative))

/-- A number behind its sign, and what follows it. It is `none` if it is too large. -/
def magnitude (negative : Bool) (bs : Bytes) : Except Fault (Option Number × Bytes) := do
  let (ds, rest) ← needDigits bs
  if ds.length > 1 ∧ ds.head?.map digitValue = some 0 then throw .invalidNumber
  let (fraction, rest) ← match rest with
    | b :: digits =>
      if Char.ofUInt8 b = '.' then do
        let (fs, rest) ← needDigits digits
        pure (some fs, rest)
      else pure (none, rest)
    | [] => pure (none, rest)
  let (exponent, rest) ← exponentPart rest
  if fraction.isNone ∧ exponent.isNone then return (integer? negative ds, rest)
  let (n, dropped) := appendDigits 0 ds
  let fs := fraction.getD []
  let (n, unused) := appendDigits n fs
  let e : Int := (dropped : Int) - ((fs.length - unused : Nat) : Int)
  match exponent with
  | some (exponentNegative, es) => return (withExponent negative n e exponentNegative es, rest)
  | none => return (float? negative n e, rest)

/-- Reads a number behind its sign. To pass over it, the end of the text is as good a reason as
any other character that is no digit. -/
def number (negative : Bool) (bs : Bytes) : Token Number × Bytes :=
  match magnitude negative bs with
  | .ok (some n, rest) => (of n, rest)
  | .ok (none, rest) => (⟨.error .numberOutOfRange, none⟩, rest)
  | .error fault => (⟨.error fault, some .invalidNumber⟩, [])

/-! ## Strings -/

/-- The value of four hexadecimal digits, and what follows them. -/
def hex4 : Bytes → Except Fault (Nat × Bytes)
  | a :: b :: c :: d :: rest =>
    match [a, b, c, d].mapM Hex.digitValue? with
    | some ds => .ok (ds.foldl (fun n d => 16 * n + d) 0, rest)
    | none => .error .invalidEscape
  | _ => .error .endOfString

/-- The character of a surrogate pair. -/
def surrogatePair (high low : Nat) : Char :=
  Char.ofNat (0x10000 + (high - 0xd800) * 0x400 + (low - 0xdc00))

/-- What follows a character that has to stand between the halves of a surrogate pair. -/
def between (c : Char) : Bytes → Except Fault Bytes
  | [] => .error .endOfString
  | b :: rest => if Char.ofUInt8 b = c then .ok rest else .error .endOfHexEscape

/-- The character whose number stands in hexadecimal digits, and what follows it. One beyond 16
bits is written as a pair of surrogates. -/
def hexEscape (bs : Bytes) : Except Fault (Char × Bytes) := do
  let (high, rest) ← hex4 bs
  if high < 0xd800 ∨ 0xe000 ≤ high then return (Char.ofNat high, rest)
  if 0xdc00 ≤ high then throw .loneSurrogate
  let (low, rest) ← hex4 (← between 'u' (← between '\\' rest))
  if low < 0xdc00 ∨ 0xe000 ≤ low then throw .loneSurrogate
  return (surrogatePair high low, rest)

/-- The character that a single escape letter stands for. -/
def escaped? (c : Char) : Option Char :=
  match c with
  | '"' => some '"'
  | '\\' => some '\\'
  | '/' => some '/'
  | 'b' => some '\x08'
  | 'f' => some '\x0c'
  | 'n' => some '\n'
  | 'r' => some '\r'
  | 't' => some '\t'
  | _ => none

/-- The character behind a backslash, and what follows it. -/
def escape : Bytes → Except Fault (Char × Bytes)
  | [] => .error .endOfString
  | b :: rest =>
    if Char.ofUInt8 b = 'u' then hexEscape rest
    else match escaped? (Char.ofUInt8 b) with
      | some c => .ok (c, rest)
      | none => .error .invalidEscape

/-- What follows an escape that nobody reads: any four digits will do. -/
def passEscape : Bytes → Except Fault Bytes
  | [] => .error .endOfString
  | b :: rest =>
    if Char.ofUInt8 b = 'u' then (hex4 rest).map (·.2)
    else if (escaped? (Char.ofUInt8 b)).isSome then .ok rest
    else .error .invalidEscape

/-- Reads the rest of a string, of which the bytes `acc` have been read, the last one first. That
they are UTF-8 is checked at the closing quote. -/
def text : (fuel : Nat) → (acc : Bytes) → Bytes → Except Fault String
  | 0, _, _ | _ + 1, _, [] => .error .endOfString
  | fuel + 1, acc, b :: rest =>
    match Char.ofUInt8 b with
    | '"' => (Utf8.decode acc.reverse).mapError fun _ => .invalidCodePoint
    | '\\' =>
      match escape rest with
      | .ok (c, rest) => text fuel ((Utf8.encode c.toString).reverse ++ acc) rest
      | .error fault => .error fault
    | _ => if b < 0x20 then .error .controlCharacter else text fuel (b :: acc) rest

/-- What follows a string that nobody reads. -/
def passText : (fuel : Nat) → Bytes → Except Fault Bytes
  | 0, _ | _ + 1, [] => .error .endOfString
  | fuel + 1, b :: rest =>
    match Char.ofUInt8 b with
    | '"' => .ok rest
    | '\\' =>
      match passEscape rest with
      | .ok rest => passText fuel rest
      | .error fault => .error fault
    | _ => if b < 0x20 then .error .controlCharacter else passText fuel rest

/-- Reads a string behind its opening quote. -/
def string (bs : Bytes) : Token String × Bytes :=
  let value := text (bs.length + 1) [] bs
  match passText (bs.length + 1) bs with
  | .ok rest => (⟨value, none⟩, rest)
  | .error fault => (⟨value, some fault⟩, [])

end Token

end Mintage.Json
