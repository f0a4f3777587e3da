import Mintage.Json.Reader

/-!
# Decimal fractions

Amounts in the unit of the chain are decimal fractions `± mantissa / 10 ^ scale`, with a mantissa of
at most 96 bits and at most 28 decimal places. The number of places is part of the value: it is what
a text shows. Zero has no sign.

Places beyond what fits are rounded away when a text is read; integer digits that do not fit are an
error.
-/

namespace Mintage

/-- A decimal fraction. -/
structure Decimal where
  negative : Bool
  mantissa : Nat
  /-- The number of decimal places. -/
  scale : Nat
  mantissa_lt : mantissa < 2 ^ 96
  scale_le : scale ≤ 28
deriving DecidableEq

namespace Decimal

/-- The decimal with the given parts, if they fit. -/
def ofParts? (negative : Bool) (mantissa scale : Nat) : Option Decimal :=
  if h : mantissa < 2 ^ 96 ∧ scale ≤ 28 then
    some ⟨negative && mantissa != 0, mantissa, scale, h.1, h.2⟩
  else none

/-- A natural number of 64 bits. -/
def ofUInt64 (n : UInt64) : Decimal :=
  ⟨false, n.toNat, 0, Nat.lt_trans n.toNat_lt (by decide), by decide⟩

/-- Zero without decimal places. -/
def zero : Decimal := ⟨false, 0, 0, by decide, by decide⟩

/-- The text: all decimal places are shown. -/
def text (d : Decimal) : String :=
  let digits := (toString d.mantissa).toList.leftpad (d.scale + 1) '0'
  let whole := digits.length - d.scale
  (if d.negative then "-" else "") ++ String.ofList (digits.take whole) ++
    (if d.scale = 0 then "" else "." ++ String.ofList (digits.drop whole))

instance : ToString Decimal := ⟨text⟩

/-! ## Reading -/

/-- Rounds a mantissa by the digits behind it, of which the first one counts; a separator counts as
zero. If the mantissa grows too long, its last place is rounded away as well. -/
def roundBy (mantissa scale : Nat) (behind : List Char) : Option (Nat × Nat) :=
  if ¬ behind.all fun c => c.isDigit || c = '_' then none
  else if ¬ behind.head?.any fun c => c.isDigit && '5' ≤ c then some (mantissa, scale)
  else if mantissa + 1 < 2 ^ 96 then some (mantissa + 1, scale)
  else if scale = 0 then none
  else some ((mantissa + 5) / 10, scale - 1)

/-- A mantissa from here on is handled as a wide one. -/
def wideFrom : Nat := (2 ^ 64 - 1) / 10 - 255

/-- Reads digits behind a mantissa. `inFraction` says whether the point has been seen, and `seen`
whether a digit has. Digits that do not fit, or that follow the last possible place, are rounded
away; but a wide mantissa takes one more digit behind a separator, if that fits. -/
def readDigits (inFraction seen : Bool) (mantissa scale : Nat) : List Char → Option (Nat × Nat)
  | [] => if seen then some (mantissa, scale) else none
  | c :: cs =>
    if c.isDigit then
      let next := 10 * mantissa + (c.toNat - '0'.toNat)
      if next < 2 ^ 96 then
        let places := if inFraction then scale + 1 else scale
        if places < 28 then readDigits inFraction true next places cs
        else match cs with
          | [] => some (next, places)
          | '_' :: rest =>
            if wideFrom ≤ mantissa then readDigits inFraction true next places rest
            else roundBy next places cs
          | _ => roundBy next places cs
      else if inFraction then roundBy mantissa scale (c :: cs)
      else none
    else if c = '.' ∧ ¬ inFraction then readDigits true seen mantissa scale cs
    else if c = '_' ∧ seen then readDigits inFraction seen mantissa scale cs
    else none

/-- Reads positional notation: a sign, and digits with at most one point and with underscores
behind the first digit. The number of places is counted modulo 29. -/
def ofPositional? (cs : List Char) : Option Decimal := do
  let (negative, cs) :=
    match cs with
    | '-' :: rest => (true, rest)
    | '+' :: rest => (false, rest)
    | _ => (false, cs)
  let (mantissa, scale) ← readDigits false false 0 0 cs
  ofParts? negative mantissa (scale % 29)

/-- The decimal with the same digits and another number of places. -/
def withScale? (d : Decimal) (scale : Nat) : Option Decimal :=
  if h : scale ≤ 28 then some { d with scale, scale_le := h } else none

/-- Rounds away the last places of a decimal; a half goes up, and the sign stays. -/
def dropPlaces (d : Decimal) (places : Nat) : Decimal :=
  let rounded := (d.mantissa + 10 ^ places / 2) / 10 ^ places
  if h : rounded < 2 ^ 96 then
    ⟨d.negative, rounded, d.scale - places, h, Nat.le_trans (Nat.sub_le _ _) d.scale_le⟩
  else d

/-- Rounds a quotient to the nearest natural number; a half goes to the even neighbour. -/
def divideToEven (num den : Nat) : Nat :=
  let q := num / den
  let r := num % den
  if 2 * r > den ∨ (2 * r = den ∧ q % 2 = 1) then q + 1 else q

/-- Gives up the fewest places that let a mantissa fit. -/
def fit? (negative : Bool) (mantissa scale : Nat) : Option Decimal := do
  let excess ← (List.range (scale + 1)).find? fun k => mantissa / 10 ^ k < 2 ^ 96
  let rounded := divideToEven mantissa (10 ^ excess)
  if rounded < 2 ^ 96 then ofParts? negative rounded (scale - excess)
  else if excess < scale then ofParts? negative (divideToEven rounded 10) (scale - excess - 1)
  else none

/-- The product with a natural number. Places are given up if it would not fit otherwise. -/
def times? (d : Decimal) (n : Nat) : Option Decimal :=
  if d.mantissa * n = 0 then some zero else fit? d.negative (d.mantissa * n) d.scale

/-- Removes decimal places that are zero. -/
def normalize (d : Decimal) : Decimal :=
  let trailing := (List.range d.scale).takeWhile fun k => d.mantissa % 10 ^ (k + 1) = 0
  { d with
    mantissa := d.mantissa / 10 ^ trailing.length
    scale := d.scale - trailing.length
    mantissa_lt := Nat.lt_of_le_of_lt (Nat.div_le_self _ _) d.mantissa_lt
    scale_le := Nat.le_trans (Nat.sub_le _ _) d.scale_le }

/-- Reads a natural number of 32 bits, which may have a plus sign. -/
def exponent? (cs : List Char) : Option Nat := do
  let cs := match cs with
    | '+' :: rest => rest
    | _ => cs
  guard (cs ≠ [] ∧ cs.all Char.isDigit)
  let n := cs.foldl (fun n c => 10 * n + (c.toNat - '0'.toNat)) 0
  if n < 2 ^ 32 then some n else none

/-- Reads scientific notation: positional notation and an exponent of ten between -28 and 28. Places
that a negative exponent pushes beyond the last possible one are rounded away. -/
def ofScientific? (cs : List Char) : Option Decimal := do
  let isMark (c : Char) : Bool := c = 'e' ∨ c = 'E'
  let d ← ofPositional? (cs.takeWhile (!isMark ·))
  match cs.dropWhile (!isMark ·) with
  | [] => none
  | _ :: '-' :: exponent =>
    let e ← exponent? exponent
    guard (e ≤ 28)
    (d.dropPlaces (d.scale + e - 28)).withScale? (min (d.scale + e) 28)
  | _ :: exponent =>
    let e ← exponent? exponent
    if e ≤ d.scale then d.withScale? (d.scale - e)
    else
      guard (e ≤ 28)
      let d ← d.times? (10 ^ min e 19)
      normalize <$> if e ≤ 19 then some d else d.times? (10 ^ (e - 19))

/-- The decimal that a text stands for. -/
def parse? (s : String) : Option Decimal := (ofPositional? s.toList).or (ofScientific? s.toList)

/-! ## JSON -/

/-- The binary floating-point number that stands for a decimal: the nearest one to an integer, and
otherwise the sum of the whole part and the fraction, rounded to the decimal places. -/
def toBinary64? (d : Decimal) : Option Binary64 := do
  let unit := Binary64.tenTo d.scale
  let whole ← Binary64.ofNat? (d.mantissa / 10 ^ d.scale)
  let fraction ← Binary64.div? (← Binary64.ofNat? (d.mantissa % 10 ^ d.scale)) unit
  let magnitude ←
    if fraction.isZero then some whole
    else do
      let sum ← Binary64.addMagnitudes? whole fraction
      Binary64.div? (← Binary64.roundHalfUp? (← Binary64.mul? sum unit)) unit
  return { magnitude with negative := d.negative }

/-- Written as a number; no magnitude is out of its range. -/
def toJson (d : Decimal) : Json := .num (.float (d.toBinary64?.getD (.zero false)))

/-- Reads a number or a text. A number with a fraction stands for its shortest decimal. -/
def readJson : Json.Reader Decimal := fun d =>
  let expected := "a Decimal type representing a fixed-point number"
  let need (found : String) : Option Decimal → Except Json.ReadError Decimal
    | some d => .ok d
    | none => .error (.invalidValue found expected)
  match d with
  | .num ⟨.ok n, _⟩ =>
    need n.sort <| match n with
      | .int i => ofParts? (i < 0) i.natAbs 0
      | .float x => ofPositional? x.positional.toList
  | .str ⟨.ok s, _⟩ => need (Json.textSort s) (parse? s)
  | d => .error (d.mismatch expected)

instance : ToJson Decimal := ⟨toJson⟩

instance : FromJson Decimal := ⟨readJson⟩

end Decimal

end Mintage
