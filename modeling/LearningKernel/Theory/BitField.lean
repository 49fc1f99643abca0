/-
# Theory.BitField -- read-modify-write on the bits of a word

`update clear set` is what driver code does to a register it shares: it clears
the bits of one mask and then sets those of another.  Bits outside both masks
stay; `field n k` reads the `k`-th group of `n` bits, and `update` works group by
group (`field_update`), so a group that the masks leave alone stays as it was and
a group that they cover holds what was set.
-/
import Mathlib.Data.BitVec

namespace LearningKernel.Theory.BitField

set_option autoImplicit false

variable {w : Nat}

/-- Clear the bits of `clear`, then set the bits of `set`. -/
def update (clear set value : BitVec w) : BitVec w := (value &&& ~~~clear) ||| set

/-- The `k`-th group of `n` bits. -/
def field (n k : Nat) (value : BitVec w) : BitVec n := value.extractLsb' (n * k) n

variable {clear set value : BitVec w}

theorem getLsbD_update (clear set value : BitVec w) (i : Nat) :
    (update clear set value).getLsbD i =
      (value.getLsbD i && !clear.getLsbD i || set.getLsbD i) := by
  by_cases inside : i < w
  · simp [update, inside]
  · simp [BitVec.getLsbD_of_ge _ _ (Nat.le_of_not_lt inside)]

theorem getLsbD_update_outside {i : Nat} (kept : clear.getLsbD i = false)
    (unset : set.getLsbD i = false) :
    (update clear set value).getLsbD i = value.getLsbD i := by
  rw [getLsbD_update, kept, unset]
  simp

@[simp] theorem update_none (value : BitVec w) : update 0 0 value = value := by
  simp [update]

@[simp] theorem update_all (set value : BitVec w) : update (BitVec.allOnes w) set value = set := by
  simp [update]

/-- An update works on each group of bits by itself. -/
theorem field_update (n k : Nat) (clear set value : BitVec w) :
    field n k (update clear set value) =
      update (field n k clear) (field n k set) (field n k value) := by
  apply BitVec.eq_of_getLsbD_eq
  intro i inside
  simp only [field, getLsbD_update, BitVec.getLsbD_extractLsb', inside, decide_true,
    Bool.true_and]

theorem field_update_outside {n k : Nat} (kept : field n k clear = 0) (unset : field n k set = 0) :
    field n k (update clear set value) = field n k value := by
  rw [field_update, kept, unset, update_none]

theorem field_update_inside {n k : Nat} (cleared : field n k clear = BitVec.allOnes n) :
    field n k (update clear set value) = field n k set := by
  rw [field_update, cleared, update_all]

/-- A value of `n` bits has no bit set from bit `n` on. -/
theorem getLsbD_eq_false {n i : Nat} (small : value.toNat < 2 ^ n) (above : n ≤ i) :
    value.getLsbD i = false :=
  Nat.testBit_lt_two_pow (small.trans_le (Nat.pow_le_pow_right (by decide) above))

/-- Nor anything in the groups of `n` bits above the first. -/
theorem field_eq_zero {n k : Nat} (small : value.toNat < 2 ^ n) (above : k ≠ 0) :
    field n k value = 0 := by
  apply BitVec.eq_of_getLsbD_eq
  intro i inside
  have bound : n ≤ n * k + i :=
    (Nat.le_mul_of_pos_right n (Nat.pos_of_ne_zero above)).trans (Nat.le_add_right _ _)
  rw [field, BitVec.getLsbD_extractLsb', getLsbD_eq_false small bound]
  simp

end LearningKernel.Theory.BitField
