import Mathlib.Algebra.Order.Field.Rat
import Mathlib.Tactic.Linarith
import Mathlib.Tactic.NormNum
import Mathlib.Tactic.Positivity
import Mathlib.Tactic.Ring
import Mintage.Network.Config

/-!
# Proofs: amounts in motes

An amount of the chain's unit is a fraction, and a mote is the `10 ^ 9`-th part of the unit. The
product of a fraction with `10 ^ 9` may be too long, and then decimal places are rounded away; but
as many as nine of them are the zeros of the factor, and more than nine are never needed. So the
product is the exact one if there is any, and what is paid is the amount itself.
-/

namespace Mintage.Decimal

/-- The number that a decimal stands for. -/
def value (d : Decimal) : ℚ := (if d.negative then -1 else 1) * (d.mantissa / 10 ^ d.scale)

/-! ## Rounding -/

/-- A quotient without remainder is not rounded. -/
theorem divideToEven_of_dvd {num den : Nat} (hDen : 0 < den) (h : den ∣ num) :
    divideToEven num den = num / den := by
  have hRest : num % den = 0 := Nat.mod_eq_zero_of_dvd h
  unfold divideToEven
  simp only [hRest]
  exact if_neg (by omega)

theorem ofParts?_eq_some {negative : Bool} {mantissa scale : Nat} (hMantissa : mantissa < 2 ^ 96)
    (hScale : scale ≤ 28) : ofParts? negative mantissa scale =
      some ⟨negative && mantissa != 0, mantissa, scale, hMantissa, hScale⟩ :=
  dif_pos ⟨hMantissa, hScale⟩

/-- A product that would fit without its last nine digits, which are zeros, is shortened by some of
these. If it does not fit, it has an integer part that does not. -/
theorem fit?_spec (negative : Bool) {mantissa scale : Nat} (hZeros : 10 ^ 9 ∣ mantissa)
    (hMantissa : mantissa / 10 ^ 9 < 2 ^ 96) (hScale : scale ≤ 28) :
    (fit? negative mantissa scale = none ∧ 2 ^ 96 ≤ mantissa / 10 ^ scale) ∨
    ∃ p places, fit? negative mantissa scale = some p ∧ 10 ^ places ∣ mantissa ∧ places ≤ scale ∧
      p.negative = (negative && p.mantissa != 0) ∧ p.mantissa = mantissa / 10 ^ places ∧
      p.scale = scale - places := by
  cases hFound : (List.range (scale + 1)).find? fun k => mantissa / 10 ^ k < 2 ^ 96 with
  | none =>
    left
    have hAll := List.find?_eq_none.mp hFound scale (List.mem_range.mpr (Nat.lt_succ_self scale))
    refine ⟨?_, ?_⟩
    · rw [fit?, hFound]
      rfl
    · simpa using hAll
  | some places =>
    right
    obtain ⟨hFits, hRange, hFirst⟩ := List.find?_range_eq_some.mp hFound
    have hFits : mantissa / 10 ^ places < 2 ^ 96 := of_decide_eq_true hFits
    have hRange : places < scale + 1 := List.mem_range.mp hRange
    -- Nine places are enough, and it is the fewest that are given up.
    have hNine : places ≤ 9 := by
      by_contra hMore
      have hTooMany := hFirst 9 (by omega)
      simp [hMantissa] at hTooMany
    have hDvd : 10 ^ places ∣ mantissa := (Nat.pow_dvd_pow 10 hNine).trans hZeros
    have hRounded := divideToEven_of_dvd (Nat.pow_pos (by decide)) hDvd
    refine ⟨⟨negative && mantissa / 10 ^ places != 0, mantissa / 10 ^ places, scale - places, hFits,
      by omega⟩, places, ?_, hDvd, by omega, rfl, rfl, rfl⟩
    rw [fit?, hFound]
    simp only [Option.bind_eq_bind, Option.bind_some, hRounded, if_pos hFits]
    exact ofParts?_eq_some hFits (by omega)

/-! ## The product -/

theorem value_of_mantissa_eq_zero {d : Decimal} (h : d.mantissa = 0) : d.value = 0 := by
  rw [value, h]
  simp

theorem abs_value (d : Decimal) : |d.value| = d.mantissa / 10 ^ d.scale := by
  have hPos : (0 : ℚ) ≤ d.mantissa / 10 ^ d.scale := by positivity
  rw [value, abs_mul, abs_of_nonneg hPos]
  split
  · simp
  · simp

/-- Zeros at the end of the mantissa are decimal places that the value does without. -/
theorem value_of_dvd {d p : Decimal} {factor places : Nat}
    (hDvd : 10 ^ places ∣ d.mantissa * factor) (hPlaces : places ≤ d.scale)
    (hNegative : p.negative = (d.negative && p.mantissa != 0))
    (hMantissa : p.mantissa = d.mantissa * factor / 10 ^ places)
    (hScale : p.scale = d.scale - places) : p.value = d.value * factor := by
  have hScaled : p.mantissa * 10 ^ d.scale = d.mantissa * factor * 10 ^ p.scale := by
    have hPow : 10 ^ d.scale = 10 ^ places * 10 ^ p.scale := by
      rw [← Nat.pow_add, hScale, Nat.add_sub_cancel' hPlaces]
    rw [hPow, ← Nat.mul_assoc, hMantissa, Nat.div_mul_cancel hDvd]
  have hQuotient : (p.mantissa : ℚ) / 10 ^ p.scale = d.mantissa * factor / 10 ^ d.scale := by
    rw [div_eq_div_iff (by positivity) (by positivity)]
    exact_mod_cast hScaled
  have hValue : d.value * factor =
      (if d.negative then -1 else 1) * ((p.mantissa : ℚ) / 10 ^ p.scale) := by
    rw [hQuotient, value]
    ring
  by_cases hZero : p.mantissa = 0
  · rw [hValue, hZero, value_of_mantissa_eq_zero hZero]
    simp
  · have hSign : p.negative = d.negative := by simp [hNegative, hZero]
    rw [hValue, value, hSign]

/-- The product with `10 ^ 9` is exact unless it is too large for a decimal of any scale. -/
theorem times?_spec (d : Decimal) :
    (d.times? 1000000000 = none ∧ 2 ^ 96 ≤ |d.value * 10 ^ 9|) ∨
    ∃ p, d.times? 1000000000 = some p ∧ p.value = d.value * 10 ^ 9 ∧
      (p.negative → p.mantissa ≠ 0) := by
  by_cases hZero : d.mantissa * 1000000000 = 0
  · right
    have hMantissa : d.mantissa = 0 := by omega
    refine ⟨zero, if_pos hZero, ?_, nofun⟩
    rw [value_of_mantissa_eq_zero hMantissa, value_of_mantissa_eq_zero rfl, zero_mul]
  · have hTimes : d.times? 1000000000 = fit? d.negative (d.mantissa * 1000000000) d.scale :=
      if_neg hZero
    have hZeros : 10 ^ 9 ∣ d.mantissa * 1000000000 := Nat.dvd_mul_left _ _
    have hWithout : d.mantissa * 1000000000 / 10 ^ 9 < 2 ^ 96 := by
      rw [Nat.mul_div_cancel _ (by decide)]
      exact d.mantissa_lt
    rcases fit?_spec d.negative hZeros hWithout d.scale_le with
      ⟨hNone, hLarge⟩ | ⟨p, places, hSome, hDvd, hPlaces, hNegative, hMantissa, hScale⟩
    · left
      refine ⟨hTimes.trans hNone, ?_⟩
      have hProduct : 2 ^ 96 * 10 ^ d.scale ≤ d.mantissa * 1000000000 :=
        (Nat.le_div_iff_mul_le (Nat.pow_pos (by decide))).mp hLarge
      rw [abs_mul, abs_value, div_mul_eq_mul_div, le_div_iff₀ (by positivity)]
      norm_num
      exact_mod_cast hProduct
    · right
      refine ⟨p, hTimes.trans hSome, ?_, ?_⟩
      · rw [value_of_dvd hDvd hPlaces hNegative hMantissa hScale]
        norm_num
      · intro hMinus
        have hBoth : d.negative = true ∧ p.mantissa ≠ 0 := by simpa [hMinus] using hNegative.symm
        exact hBoth.2

/-! ## The amount that is paid -/

theorem value_eq_natCast_iff {p : Decimal} (hSign : p.negative → p.mantissa ≠ 0) {n : Nat} :
    p.value = n ↔ p.mantissa % 10 ^ p.scale = 0 ∧ ¬ p.negative ∧ p.mantissa / 10 ^ p.scale = n := by
  have hUnit : 0 < 10 ^ p.scale := Nat.pow_pos (by decide)
  by_cases hNegative : p.negative = true
  · -- The value is below zero.
    have hPos : (0 : ℚ) < p.mantissa / 10 ^ p.scale := by
      have hMantissa : 0 < p.mantissa := Nat.pos_of_ne_zero (hSign hNegative)
      positivity
    have hNatural : (0 : ℚ) ≤ n := Nat.cast_nonneg n
    have hNe : p.value ≠ n := by
      rw [value, if_pos hNegative]
      linarith
    simp [hNegative, hNe]
  · have hWhole : p.value = n ↔ p.mantissa = n * 10 ^ p.scale := by
      rw [value, if_neg hNegative, one_mul, div_eq_iff (by positivity)]
      exact_mod_cast Iff.rfl
    rw [hWhole]
    constructor
    · intro hMantissa
      refine ⟨?_, hNegative, ?_⟩
      · rw [hMantissa, Nat.mul_mod_left]
      · rw [hMantissa, Nat.mul_div_cancel _ hUnit]
    · rintro ⟨hRest, -, rfl⟩
      exact (Nat.div_mul_cancel (Nat.dvd_of_mod_eq_zero hRest)).symm

theorem toMotes?_eq_some_iff {d : Decimal} {n : U512} :
    d.toMotes? = some n ↔ d.value * 10 ^ 9 = n.val ∧ n.val < 2 ^ 64 := by
  rcases times?_spec d with ⟨hNone, hLarge⟩ | ⟨p, hSome, hValue, hSign⟩
  · constructor
    · intro h
      rw [toMotes?, hNone] at h
      cases h
    · rintro ⟨hProduct, hFits⟩
      rw [hProduct, Nat.abs_cast] at hLarge
      have hTooLarge : 2 ^ 96 ≤ n.val := by exact_mod_cast hLarge
      omega
  · rw [toMotes?, hSome, ← hValue, value_eq_natCast_iff hSign]
    simp only [Option.bind_eq_bind, Option.bind_some]
    constructor
    · intro h
      split at h
      · rename_i hPaid
        obtain ⟨hRest, hPositive, hFits⟩ := hPaid
        cases h
        have hVal : (Bounded.ofUInt64 (UInt64.ofNat (p.mantissa / 10 ^ p.scale)) : U512).val =
            p.mantissa / 10 ^ p.scale := UInt64.toNat_ofNat_of_lt' hFits
        rw [hVal]
        exact ⟨⟨hRest, hPositive, rfl⟩, hFits⟩
      · cases h
    · rintro ⟨⟨hRest, hPositive, hWhole⟩, hFits⟩
      rw [if_pos ⟨hRest, hPositive, hWhole ▸ hFits⟩, hWhole]
      refine congrArg some (Bounded.val_inj.mp ?_)
      exact UInt64.toNat_ofNat_of_lt' hFits

/-- The two sides are compared as functions: of an amount, the kernel would compute the product by
counting up to `10 ^ 9`. -/
theorem toMotes_def : toMotes = fun d =>
    match d.toMotes? with
    | some motes => .ok motes
    | none => .error (.invalidPayment d) := rfl

theorem toMotes_eq (d : Decimal) : d.toMotes =
    match d.toMotes? with
    | some motes => .ok motes
    | none => .error (.invalidPayment d) := congrFun toMotes_def d

theorem toMotes_eq_ok_iff {d : Decimal} {n : U512} : d.toMotes = .ok n ↔ d.toMotes? = some n := by
  rw [toMotes_eq]
  cases d.toMotes? with
  | none => simp
  | some motes => simp

theorem toMotes_eq_error_iff {d : Decimal} {e : ConfigError} :
    d.toMotes = .error e ↔ d.toMotes? = none ∧ e = .invalidPayment d := by
  rw [toMotes_eq]
  cases d.toMotes? with
  | none => simp [eq_comm]
  | some motes => simp

/-- An amount is paid in motes without rounding. What is paid is the exact number of motes, if it is
a natural number of 64 bits; any other amount is refused and named in the error, be it negative,
finer than a mote by however little, or too large. The multiplication rounds nothing away and fails
only for amounts that are too large by far. So amounts that are equal are paid alike, whatever their
scales are. -/
theorem motes_are_exact :
    (∀ (d : Decimal) (n : U512),
      d.toMotes = .ok n ↔ d.value * 10 ^ 9 = n.val ∧ n.val ≤ 2 ^ 64 - 1) ∧
    (∀ (d : Decimal) (e : ConfigError), d.toMotes = .error e ↔
      (¬ ∃ n : Nat, d.value * 10 ^ 9 = n ∧ n ≤ 2 ^ 64 - 1) ∧ e = .invalidPayment d) ∧
    (∀ d p : Decimal, d.times? 1000000000 = some p → p.value = d.value * 10 ^ 9) ∧
    (∀ d : Decimal, d.times? 1000000000 = none → 2 ^ 96 ≤ |d.value * 10 ^ 9|) ∧
    ∀ (d d' : Decimal) (n : U512), d.value = d'.value →
      (d.toMotes = .ok n ↔ d'.toMotes = .ok n) := by
  have hPaid : ∀ (d : Decimal) (n : U512),
      d.toMotes = .ok n ↔ d.value * 10 ^ 9 = n.val ∧ n.val ≤ 2 ^ 64 - 1 := by
    intro d n
    rw [toMotes_eq_ok_iff, toMotes?_eq_some_iff, Nat.lt_iff_le_pred (by decide)]
  refine ⟨hPaid, ?_, ?_, ?_, ?_⟩
  · intro d e
    rw [toMotes_eq_error_iff]
    refine and_congr_left fun _ => ?_
    constructor
    · rintro hNone ⟨n, hProduct, hFits⟩
      let motes : U512 := ⟨n, by omega⟩
      have hSome : d.toMotes? = some motes :=
        toMotes?_eq_some_iff.mpr ⟨hProduct, Nat.lt_of_le_pred (by decide) hFits⟩
      rw [hNone] at hSome
      cases hSome
    · intro hNo
      refine Option.eq_none_iff_forall_ne_some.mpr fun motes hSome => ?_
      obtain ⟨hProduct, hFits⟩ := toMotes?_eq_some_iff.mp hSome
      exact hNo ⟨motes.val, hProduct, by omega⟩
  · intro d p hSome
    rcases times?_spec d with ⟨hNone, -⟩ | ⟨p', hSome', hValue, -⟩
    · rw [hNone] at hSome
      cases hSome
    · rw [hSome'] at hSome
      cases hSome
      exact hValue
  · intro d hNone
    rcases times?_spec d with ⟨-, hLarge⟩ | ⟨p, hSome, -⟩
    · exact hLarge
    · rw [hNone] at hSome
      cases hSome
  · intro d d' n hEqual
    rw [hPaid, hPaid, hEqual]

/-- A product with more digits than fit is exact, one with too many before the point is none, and an
amount is paid alike with one decimal place and with 27. -/
theorem motes_are_exact_of_long_mantissas :
    let longest : Decimal := ⟨false, 2 ^ 96 - 1, 28, by decide, by decide⟩
    let largest : Decimal := ⟨false, 2 ^ 96 - 1, 0, by decide, by decide⟩
    let short : Decimal := ⟨false, 79, 1, by decide, by decide⟩
    let long : Decimal := ⟨false, 79 * 10 ^ 26, 27, by decide, by decide⟩
    (∃ p, longest.times? 1000000000 = some p ∧ p.value = longest.value * 10 ^ 9) ∧
      longest.toMotes = .error (.invalidPayment longest) ∧
      largest.times? 1000000000 = none ∧ 2 ^ 96 ≤ |largest.value * 10 ^ 9| ∧
      short.value = long.value ∧ short.toMotes = .ok (.ofUInt64 7900000000) ∧
      long.toMotes = .ok (.ofUInt64 7900000000) := by
  intro longest largest short long
  obtain ⟨hPaid, hRefused, hExact, hLarge, hEqual⟩ := motes_are_exact
  have hSome : longest.times? 1000000000 =
      some ⟨false, 2 ^ 96 - 1, 19, by decide, by decide⟩ := by decide
  have hNone : largest.times? 1000000000 = none := by decide
  have hSame : short.value = long.value := by norm_num [value, short, long]
  have hShort : short.toMotes = .ok (.ofUInt64 7900000000) := by
    refine (hPaid short _).mpr ⟨?_, by decide⟩
    have hVal : (Bounded.ofUInt64 7900000000 : U512).val = 7900000000 := rfl
    norm_num [value, short, hVal]
  refine ⟨⟨_, hSome, hExact longest _ hSome⟩, ?_, hNone, hLarge largest hNone, hSame, hShort,
    (hEqual short long _ hSame).mp hShort⟩
  refine (hRefused longest _).mpr ⟨?_, rfl⟩
  -- Part of a mote is left beyond the last whole one.
  rintro ⟨n, hProduct, -⟩
  have hScaled : (79228162514264337593543950335 : ℚ) = n * 10 ^ 19 := by
    rw [← hProduct]
    norm_num [value, longest]
  have hWhole : 79228162514264337593543950335 = n * 10 ^ 19 := by exact_mod_cast hScaled
  omega

end Mintage.Decimal
