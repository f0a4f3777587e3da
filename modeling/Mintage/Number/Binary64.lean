import Mintage.Bytes

/-!
# Binary floating-point numbers

The finite numbers of the 64-bit binary format, as exact values `± mantissa · 2 ^ exponent`. Every
operation is the exact one followed by `round?`, which takes the nearest representable number and,
of two equally near, the one with the even mantissa.

`shortest` finds the decimal with the fewest digits that rounds to a given number, and of those the
nearest one. `positional` and `scientific` write it.
-/

namespace Mintage

/-- A finite floating-point number. Its mantissa has 53 bits, fewer only at the least exponent. -/
structure Binary64 where
  negative : Bool
  mantissa : Nat
  exponent : Int
deriving DecidableEq

namespace Binary64

/-- The exponent of the smallest numbers. -/
def leastExponent : Int := -1074

/-- The exponent of the largest numbers. -/
def greatestExponent : Int := 971

/-- Zero, with a sign. -/
def zero (negative : Bool) : Binary64 := ⟨negative, 0, leastExponent⟩

/-- Whether the number is zero. -/
def isZero (x : Binary64) : Bool := x.mantissa = 0

/-- `2 ^ e` as a fraction. -/
def powerOfTwo (e : Int) : Nat × Nat := (2 ^ e.toNat, 2 ^ (-e).toNat)

/-- `10 ^ e` as a fraction. -/
def powerOfTen (e : Int) : Nat × Nat := (10 ^ e.toNat, 10 ^ (-e).toNat)

/-- The exponent at which the positive fraction `num / den` has a mantissa of 53 bits, or the least
exponent if that is greater. -/
def exponentOf (num den : Nat) : Int :=
  let e : Int := (num.log2 : Int) - (den.log2 : Int) - 52
  let (up, down) := powerOfTwo e
  let e := if num * down < den * up * 2 ^ 52 then e - 1 else e
  max e leastExponent

/-- A quotient to the nearest natural number; a half goes to the even neighbour. -/
def divideToEven (num den : Nat) : Nat :=
  let q := num / den
  let r := num % den
  if 2 * r > den ∨ (2 * r = den ∧ q % 2 = 1) then q + 1 else q

/-- The number nearest to `± num / den`, unless it is too large. -/
def round? (negative : Bool) (num den : Nat) : Option Binary64 :=
  if num = 0 ∨ den = 0 then some (zero negative) else
  let e := exponentOf num den
  let (up, down) := powerOfTwo e
  let m := divideToEven (num * down) (den * up)
  let (m, e) := if m = 2 ^ 53 then (2 ^ 52, e + 1) else (m, e)
  if e > greatestExponent then none else some ⟨negative, m, e⟩

/-- The magnitude of a number as a fraction. -/
def ratio (x : Binary64) : Nat × Nat :=
  let (up, down) := powerOfTwo x.exponent
  (x.mantissa * up, down)

/-- The number nearest to a natural number. -/
def ofNat? (n : Nat) : Option Binary64 := round? false n 1

/-- The product, unless it is too large. -/
def mul? (x y : Binary64) : Option Binary64 :=
  round? (x.negative != y.negative) (x.ratio.1 * y.ratio.1) (x.ratio.2 * y.ratio.2)

/-- The quotient, unless it is too large or the divisor is zero. -/
def div? (x y : Binary64) : Option Binary64 :=
  if y.isZero then none
  else round? (x.negative != y.negative) (x.ratio.1 * y.ratio.2) (x.ratio.2 * y.ratio.1)

/-- The sum of two numbers that are not negative, unless it is too large. -/
def addMagnitudes? (x y : Binary64) : Option Binary64 :=
  let (a, b) := x.ratio
  let (c, d) := y.ratio
  round? false (a * d + c * b) (b * d)

/-- The number nearest to `10 ^ k`, for `k` up to 308. -/
def tenTo (k : Nat) : Binary64 := (round? false (10 ^ k) 1).getD (zero false)

/-- The nearest integer to a number that is not negative; a half goes up. -/
def roundHalfUp? (x : Binary64) : Option Binary64 :=
  let (num, den) := x.ratio
  round? false ((2 * num + den) / (2 * den)) 1

/-! ## The shortest decimal -/

/-- The greatest `k` with `10 ^ k ≤ num / den`, for a positive fraction. -/
def decimalExponent (num den : Nat) : Int :=
  if num ≥ den then ((Nat.toDigits 10 (num / den)).length : Int) - 1
  else -((Nat.toDigits 10 ((den - 1) / num)).length : Int)

/-- The candidates with `digits` digits for the positive value `num / den`, as a number and the
power of ten that it counts: the neighbours of the value on that grid, the nearer one first. -/
def candidates (num den : Nat) (top : Int) (digits : Nat) : List (Nat × Int) :=
  let t := top - digits + 1
  let (up, down) := powerOfTen t
  let q := num * down / (den * up)
  let r := num * down % (den * up)
  let below := (q, t)
  let above := (q + 1, t)
  if 2 * r < den * up ∨ (2 * r = den * up ∧ q % 2 = 0) then [below, above] else [above, below]

/-- Whether the decimal `n · 10 ^ t` rounds to `x`, whose mantissa is not zero: it lies between the
midpoints to the neighbours of `x`, and on one of them only if the mantissa is even. -/
def isReadAs (x : Binary64) (n : Nat) (t : Int) : Bool :=
  let (up, down) := powerOfTen t
  let (bup, bdown) := powerOfTwo (x.exponent - 2)
  let gapBelow := if x.mantissa = 2 ^ 52 ∧ x.exponent > leastExponent then 1 else 2
  let low := (4 * x.mantissa - gapBelow) * bup * down
  let high := (4 * x.mantissa + 2) * bup * down
  let value := n * up * bdown
  if x.mantissa % 2 = 0 then low ≤ value && value ≤ high else low < value && value < high

/-- Removes the trailing zeros of a positive number, counting them into the power of ten. -/
def stripZeros : (fuel : Nat) → Nat → Int → Nat × Int
  | 0, n, t => (n, t)
  | fuel + 1, n, t => if n % 10 = 0 then stripZeros fuel (n / 10) (t + 1) else (n, t)

/-- The decimal with the fewest digits that rounds to the number, as a natural number and the power
of ten that it counts. Seventeen digits always suffice. -/
def shortest (x : Binary64) : Nat × Int :=
  if x.mantissa = 0 then (0, 0) else
  let (num, den) := x.ratio
  let top := decimalExponent num den
  let tried := (List.range 17).flatMap fun d => candidates num den top (d + 1)
  let (n, t) := (tried.find? fun (n, t) => n ≠ 0 && isReadAs x n t).getD (0, 0)
  stripZeros 20 n t

/-! ## Text -/

/-- The sign of a number as text. -/
def sign (x : Binary64) : String := if x.negative then "-" else ""

/-- The number in positional notation: an integer has no point. -/
def positional (x : Binary64) : String :=
  let (n, t) := x.shortest
  if 0 ≤ t then x.sign ++ toString (n * 10 ^ t.toNat)
  else
    let places := (-t).toNat
    let ds := (toString n).toList.leftpad (places + 1) '0'
    x.sign ++ String.ofList (ds.take (ds.length - places)) ++ "." ++
      String.ofList (ds.drop (ds.length - places))

/-- The number with at least one decimal place. Outside the range from `10 ^ -5` to `10 ^ 16` it is
written with an exponent. -/
def scientific (x : Binary64) : String :=
  let (n, t) := x.shortest
  let ds := (toString n).toList
  let point : Int := ds.length + t
  if n = 0 then x.sign ++ "0.0"
  else if 0 ≤ t ∧ point ≤ 16 then x.positional ++ ".0"
  else if -5 < point ∧ point ≤ 16 then x.positional
  else
    let fraction := if ds.length = 1 then "" else "." ++ String.ofList (ds.drop 1)
    let plus := if 0 < point then "+" else ""
    x.sign ++ String.ofList (ds.take 1) ++ fraction ++ "e" ++ plus ++ toString (point - 1)

end Binary64

end Mintage
