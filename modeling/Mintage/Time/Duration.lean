import Mintage.Abort
import Mintage.Json.Reader
import Mintage.Number.Bounded
import Mintage.Wire

/-!
# Durations

A duration counts milliseconds. Its text is a sequence of parts, each a number and a unit, such as
`1h 30m`. The writer gives each unit once, from days to milliseconds. A reader takes parts in any
order, also repeated, and adds them up, and no number on the way may exceed 64 bits.
-/

namespace Mintage

/-- A duration in milliseconds. -/
structure Duration where
  millis : UInt64
deriving DecidableEq

namespace Duration

/-- Shorter durations come first. -/
instance : Ord Duration := ⟨fun a b => compare a.millis b.millis⟩

/-- The units with their sizes in milliseconds, the largest first. -/
def units : List (String × Nat) :=
  [("d", 86400000), ("h", 3600000), ("m", 60000), ("s", 1000), ("ms", 1)]

/-- The size of a unit. Days have two longer names. -/
def unitSize? (unit : String) : Option Nat :=
  if unit = "day" ∨ unit = "days" then some 86400000 else units.lookup unit

/-- A duration of so many minutes. -/
def ofMinutes (build : Build) (minutes : UInt64) : Except Abort Duration :=
  mk <$> build.mul minutes 60000

/-- The parts of a number of milliseconds in the given units, without those that would be zero. -/
def parts : List (String × Nat) → Nat → List String
  | [], _ => []
  | (unit, size) :: units, ms =>
    if size ≤ ms then (toString (ms / size) ++ unit) :: parts units (ms % size)
    else parts units ms

/-- The text of a duration. -/
def text (d : Duration) : String :=
  if d.millis = 0 then "0ms" else " ".intercalate (parts units d.millis.toNat)

instance : ToString Duration := ⟨text⟩

/-- Whether a character separates the parts: any blank of Unicode. -/
def isBlank (c : Char) : Bool :=
  let n := c.toNat
  (9 ≤ n && n ≤ 13) || n = 0x20 || n = 0x85 || n = 0xa0 || n = 0x1680 ||
    (0x2000 ≤ n && n ≤ 0x200a) || n = 0x2028 || n = 0x2029 || n = 0x202f || n = 0x205f ||
    n = 0x3000

/-- The words of a text. `word` holds the characters of the current one, the last one first. -/
def wordsFrom (word : List Char) : List Char → List (List Char)
  | [] => if word.isEmpty then [] else [word.reverse]
  | c :: cs =>
    if isBlank c then
      if word.isEmpty then wordsFrom [] cs else word.reverse :: wordsFrom [] cs
    else wordsFrom (c :: word) cs

/-- The number that digits stand for, if there are digits and the number fits in 64 bits. -/
def number? (digits : List Char) : Option (Bounded 64) :=
  if digits.isEmpty then none
  else Bounded.ofNat? (digits.foldl (fun n c => 10 * n + (c.toNat - '0'.toNat)) 0)

/-- The milliseconds of a part, if they fit: digits, then a unit. -/
def partMillis? (part : List Char) : Option (Bounded 64) := do
  let number ← number? (part.takeWhile Char.isDigit)
  let size ← unitSize? (String.ofList (part.dropWhile Char.isDigit))
  Bounded.ofNat? (number.val * size)

/-- Adds parts to a number of milliseconds, one after the other, as long as the sum fits. -/
def addParts? (millis : Bounded 64) : List (List Char) → Option (Bounded 64)
  | [] => some millis
  | part :: parts => do
    let more ← partMillis? part
    addParts? (← more.checkedAdd millis) parts

/-- Reads the text of a duration. -/
def parse? (s : String) : Option Duration := do
  let parts := wordsFrom [] s.toList
  let total ← addParts? .zero parts
  if parts.isEmpty then none else some ⟨UInt64.ofNat total.val⟩

/-- The wording for a text that is no duration. -/
def parseFailure (s : String) : String := "Invalid duration `" ++ s ++ "`."

/-- Reads the text of a duration, or says that it is none. -/
def parse (s : String) : Except String Duration :=
  match parse? s with
  | some d => .ok d
  | none => .error (parseFailure s)

/-- Written as text. -/
def toJson (d : Duration) : Json := .str d.text

/-- Reads the text of a duration. -/
def readJson : Json.Reader Duration := Json.Draft.readParsed parse id

instance : ToJson Duration := ⟨toJson⟩

instance : FromJson Duration := ⟨readJson⟩

/-- The binary form: eight bytes. -/
def encode (d : Duration) : Bytes := Wire.encodeU64 d.millis

end Duration

end Mintage
