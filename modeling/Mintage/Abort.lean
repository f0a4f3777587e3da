import Mintage.Bytes

/-!
# Stopping on the spot

A fault that no caller is told of stops the program, wherever it is. A product that does not fit its
word is such a fault in a build that checks arithmetic; a build that does not goes on with what is
left of the product.
-/

namespace Mintage

/-- Why a program stops on the spot. -/
inductive Abort where
  /-- A result does not fit its word. -/
  | overflow
  /-- A value that has to be sent has no JSON form. -/
  | unwritable (reason : String)
deriving DecidableEq

/-- The wording of a fault. -/
def Abort.message : Abort → String
  | .overflow => "attempt to multiply with overflow"
  | .unwritable reason => reason

/-- How a program is built. -/
inductive Build where
  /-- With checks of arithmetic. -/
  | checked
  /-- Without them. -/
  | unchecked
deriving DecidableEq

/-- The product of two words. -/
def Build.mul : Build → UInt64 → UInt64 → Except Abort UInt64
  | checked, a, b => if a.toNat * b.toNat < 2 ^ 64 then .ok (a * b) else .error .overflow
  | unchecked, a, b => .ok (a * b)

end Mintage
