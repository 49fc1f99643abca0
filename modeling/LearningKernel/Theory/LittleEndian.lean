/-
# Theory.LittleEndian -- naturals as bytes, least significant first

`toLE n x` are the `n` low bytes of `x`, `ofLE` the number of a byte string; they
are inverse on strings (`toLE_ofLE`) and up to `256 ^ n` on numbers (`ofLE_toLE`).
`shiftLeft_or` is how C code joins two parts of a number, `signed_ofLE_toLE` that a
signed number comes back from its bytes.
-/
import LearningKernel.Theory.CInt
import Mathlib.Tactic.Common
import Mathlib.Tactic.Ring

namespace LearningKernel.Theory

set_option autoImplicit false

/-- A number below a shifted one is added to it. -/
theorem shiftLeft_or {i low : Nat} (below : low < 2 ^ i) (high : Nat) :
    high <<< i ||| low = high * 2 ^ i + low := by
  rw [← Nat.shiftLeft_add_eq_or_of_lt below, Nat.shiftLeft_eq]

def ofLE : List UInt8 → Nat
  | [] => 0
  | b :: bs => b.toNat + 256 * ofLE bs

def toLE : Nat → Nat → List UInt8
  | 0, _ => []
  | n + 1, x => UInt8.ofNat x :: toLE n (x / 256)

@[simp] theorem length_toLE (n x : Nat) : (toLE n x).length = n := by
  induction n generalizing x with
  | zero => rfl
  | succ n ih => rw [toLE, List.length_cons, ih]

theorem ofLE_lt (bs : List UInt8) : ofLE bs < 256 ^ bs.length := by
  induction bs with
  | nil => simp [ofLE]
  | cons b bs ih =>
      have byte := b.toNat_lt
      simp only [ofLE, List.length_cons, Nat.pow_succ]
      omega

theorem toLE_ofLE (bs : List UInt8) : toLE bs.length (ofLE bs) = bs := by
  induction bs with
  | nil => rfl
  | cons b bs ih =>
      have byte := b.toNat_lt
      have low : UInt8.ofNat (b.toNat + 256 * ofLE bs) = b := by
        apply UInt8.toNat_inj.1
        rw [UInt8.toNat_ofNat']
        omega
      have high : (b.toNat + 256 * ofLE bs) / 256 = ofLE bs := by omega
      simp only [ofLE, List.length_cons, toLE, low, high, ih]

theorem ofLE_toLE (n x : Nat) : ofLE (toLE n x) = x % 256 ^ n := by
  induction n generalizing x with
  | zero => simp [toLE, ofLE, Nat.mod_one]
  | succ n ih =>
      have low : (UInt8.ofNat x).toNat = x % 256 := UInt8.toNat_ofNat'
      simp only [toLE, ofLE, ih, low, Nat.pow_succ, Nat.mul_comm _ 256]
      exact (Nat.mod_mul).symm

open CInt in
/-- A signed number of `n` bytes through memory. -/
theorem signed_ofLE_toLE {n : Nat} {v : Int} (lo : -(2 ^ (8 * n)) ≤ 2 * v)
    (hi : 2 * v < 2 ^ (8 * n)) :
    signed (8 * n) (ofLE (toLE n (unsigned (8 * n) v).toNat)) = v := by
  have residue : ((unsigned (8 * n) v).toNat : Int) = unsigned (8 * n) v :=
    Int.toNat_of_nonneg unsigned_nonneg
  have radix : (256 : Int) ^ n = 2 ^ (8 * n) := by
    rw [pow_mul]
    norm_num
  have whole : unsigned (8 * n) v % 2 ^ (8 * n) = unsigned (8 * n) v := Int.emod_emod v _
  rw [ofLE_toLE, Int.natCast_mod, residue, Nat.cast_pow, Nat.cast_ofNat, radix, whole,
    signed_unsigned, signed_eq_self lo hi]

end LearningKernel.Theory
