/-
# Theory.CInt -- C's fixed-width integer conversions

A C value is modelled by the integer it denotes.  Converting to an unsigned
`w`-bit type takes the residue modulo `2 ^ w`; converting to a signed one takes
the balanced residue (two's complement).  Arithmetic that wraps is the exact
integer result followed by the conversion to its type.

`signed_emod`, `signed_lt` and `le_signed` determine `signed w x`: with `w` a
literal they give `omega` all it needs.
-/
import Mathlib.Data.Int.Order.Basic
import Mathlib.Tactic.Common
import Mathlib.Tactic.Ring
import Mathlib.Tactic.Positivity

namespace LearningKernel.Theory.CInt

set_option autoImplicit false

/-- Conversion to a `w`-bit unsigned type. -/
def unsigned (w : Nat) (x : Int) : Int := x % 2 ^ w

/-- Conversion to a `w`-bit signed type. -/
def signed (w : Nat) (x : Int) : Int := (BitVec.ofInt w x).toInt

variable {w : Nat} {x : Int}

theorem signed_eq_bmod : signed w x = x.bmod (2 ^ w) :=
  BitVec.toInt_ofInt x

theorem unsigned_nonneg : 0 ≤ unsigned w x :=
  Int.emod_nonneg _ (by positivity)

theorem unsigned_eq_self (lo : 0 ≤ x) (hi : x < 2 ^ w) : unsigned w x = x :=
  Int.emod_eq_of_lt lo hi

theorem signed_emod : signed w x % 2 ^ w = x % 2 ^ w := by
  have agree := Int.bmod_emod (x := x) (m := 2 ^ w)
  simpa [signed_eq_bmod] using agree

/-- Converting to the unsigned type first makes no difference. -/
theorem signed_unsigned : signed w (unsigned w x) = signed w x := by
  have residue := Int.emod_bmod x (2 ^ w)
  push_cast at residue
  rw [signed_eq_bmod, signed_eq_bmod, unsigned, residue]

/-- Numbers of the same residue are converted to the same number. -/
theorem signed_congr {y : Int} (same : x % 2 ^ w = y % 2 ^ w) : signed w x = signed w y := by
  rw [← signed_unsigned, unsigned, same]
  exact signed_unsigned

theorem le_signed : -(2 ^ w) ≤ 2 * signed w x := by
  have bound := Int.le_bmod (x := x) (m := 2 ^ w) (by positivity)
  push_cast at bound
  rw [signed_eq_bmod]
  omega

theorem signed_lt (wide : 0 < w) : 2 * signed w x < 2 ^ w := by
  obtain ⟨v, rfl⟩ : ∃ v, w = v + 1 := ⟨w - 1, by omega⟩
  have bound := Int.bmod_lt (x := x) (m := 2 ^ (v + 1)) (by positivity)
  push_cast [Int.pow_succ] at bound
  simp only [signed_eq_bmod, Int.pow_succ]
  omega

theorem signed_eq_self (lo : -(2 ^ w) ≤ 2 * x) (hi : 2 * x < 2 ^ w) : signed w x = x := by
  rw [signed_eq_bmod]
  exact Int.bmod_eq_of_le_mul_two (by push_cast; omega) (by push_cast; omega)

end LearningKernel.Theory.CInt
