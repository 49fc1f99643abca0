/-
# Theory.Numeral -- numbers in decimal digits

`numeral` reads a run of ASCII digits by Horner's rule, going on from a number; what it
has read may be wrapped on the way (`numeral_mod`).
-/
import Mathlib.Tactic.Common

namespace LearningKernel.Theory

set_option autoImplicit false

/-- The number that digits go on with. -/
def numeral (acc : Nat) (s : List UInt8) : Nat :=
  s.foldl (fun acc c => acc * 10 + (c.toNat - 48)) acc

@[simp] theorem numeral_nil (acc : Nat) : numeral acc [] = acc := rfl

@[simp] theorem numeral_cons (acc : Nat) (c : UInt8) (cs : List UInt8) :
    numeral acc (c :: cs) = numeral (acc * 10 + (c.toNat - 48)) cs := List.foldl_cons ..

/-- A wrapped number goes on like the whole one. -/
theorem numeral_mod (m acc : Nat) (s : List UInt8) :
    numeral (acc % m) s % m = numeral acc s % m := by
  induction s generalizing acc with
  | nil => exact Nat.mod_mod acc m
  | cons c cs ih =>
      have next : (acc % m * 10 + (c.toNat - 48)) % m = (acc * 10 + (c.toNat - 48)) % m := by
        rw [Nat.add_mod, Nat.mul_mod, Nat.mod_mod, ← Nat.mul_mod, ← Nat.add_mod]
      rw [numeral_cons, numeral_cons, ← ih, next, ih]

end LearningKernel.Theory
