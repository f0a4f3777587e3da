import Mintage.Bytes

/-!
# Arithmetic of residues

The fields of the curves are the numbers below a prime. Powers are taken by squaring; the inverse is
the power that Fermat's theorem gives.
-/

namespace Mintage.Residue

/-- The residue of `b ^ e` modulo `m`. -/
def pow (m b e : Nat) : Nat :=
  if h : e = 0 then 1 % m
  else
    let half := pow m (b * b % m) (e / 2)
    if e % 2 = 0 then half else b * half % m
termination_by e
decreasing_by omega

/-- The inverse of `a` modulo a prime `p`, or zero if there is none. -/
def inverse (p a : Nat) : Nat := pow p a (p - 2)

/-- The residue of `a - b` modulo `m`, for residues `a` and `b`. -/
def sub (m a b : Nat) : Nat := (a + (m - b)) % m

/-- The binary digits of a number, the lowest first. -/
def bits (n : Nat) : List Bool :=
  if h : n = 0 then [] else (n % 2 == 1) :: bits (n / 2)
termination_by n
decreasing_by omega

/-- The sum of `n` times `x` under a doubling and an addition with a neutral element. -/
def multiple {P : Type} (zero : P) (double : P → P) (add : P → P → P) (n : Nat) (x : P) : P :=
  (bits n).foldr (fun bit sum => if bit then add (double sum) x else double sum) zero

end Mintage.Residue
