/-
# Kernel.Compare -- names compared

`strncmp` and `strcmp` stop at the first bytes that differ, and behind a terminator.  Names are
without one inside, so that the first is equality of what both have in front, and the second
equality.
-/
import Mathlib.Tactic.Common

namespace LearningKernel.Kernel

set_option autoImplicit false

/-- A C string, without its terminator. -/
structure CName where
  bytes : List UInt8
  noNul : 0 ∉ bytes
  deriving DecidableEq

/-- `strncmp`; a string reads as 0 at its end. -/
def strncmp : Nat → List UInt8 → List UInt8 → Int
  | 0, _, _ => 0
  | count + 1, cs, ct =>
      let c1 := cs.headD 0
      let c2 := ct.headD 0
      if c1 ≠ c2 then if c1 < c2 then -1 else 1
      else if c1 = 0 then 0
      else strncmp count cs.tail ct.tail

/-- `strcmp`, which gets no further than the end of the first. -/
def strcmp (cs ct : List UInt8) : Int := strncmp (cs.length + 1) cs ct

theorem strncmp_eq_zero_iff (count : Nat) {cs ct : List UInt8} (noNul : 0 ∉ cs)
    (noNul' : 0 ∉ ct) : strncmp count cs ct = 0 ↔ cs.take count = ct.take count := by
  induction count generalizing cs ct with
  | zero => simp [strncmp]
  | succ count ih =>
      cases cs with
      | nil =>
          cases ct with
          | nil => simp [strncmp]
          | cons c2 ct =>
              have nonzero : ¬ 0 = c2 := fun same => noNul' (same ▸ List.mem_cons_self)
              have answer : (if (0 : UInt8) < c2 then (-1 : Int) else 1) ≠ 0 := by
                split <;> decide
              simp [strncmp, nonzero, answer]
      | cons c1 cs =>
          have nonzero : ¬ c1 = 0 := fun same => noNul (same ▸ List.mem_cons_self)
          have answer : ∀ c2 : UInt8, (if c1 < c2 then (-1 : Int) else 1) ≠ 0 := by
            intro c2
            split <;> decide
          cases ct with
          | nil => simp [strncmp, nonzero]
          | cons c2 ct =>
              have rest := ih (fun among => noNul (List.mem_cons_of_mem _ among))
                (fun among => noNul' (List.mem_cons_of_mem _ among))
              by_cases same : c1 = c2
              · subst same
                simp [strncmp, nonzero, rest]
              · simp [strncmp, same, answer c2]

/-- Compared over its own length, a name is found in front of those that begin with it. -/
theorem strncmp_length_iff {cs ct : List UInt8} (noNul : 0 ∉ cs) (noNul' : 0 ∉ ct) :
    strncmp ct.length cs ct = 0 ↔ ct <+: cs := by
  rw [strncmp_eq_zero_iff _ noNul noNul', List.take_length, List.prefix_iff_eq_take, eq_comm]

theorem strcmp_iff {cs ct : List UInt8} (noNul : 0 ∉ cs) (noNul' : 0 ∉ ct) :
    strcmp cs ct = 0 ↔ cs = ct := by
  rw [strcmp, strncmp_eq_zero_iff _ noNul noNul', List.take_of_length_le (Nat.le_succ _)]
  constructor
  · intro front
    have length := congrArg List.length front
    rw [List.length_take] at length
    have all : ct.length ≤ cs.length + 1 := by omega
    rw [front, List.take_of_length_le all]
  · rintro rfl
    rw [List.take_of_length_le (Nat.le_succ _)]

end LearningKernel.Kernel
