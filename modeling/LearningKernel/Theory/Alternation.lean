/-
# Theory.Alternation -- lists whose members take turns

`Alternates x y` holds of the lists `x, y, x, y, …` of any length.  One more member keeps
it if it is the one whose turn it is (`alternates_concat`), and the count of the two tells
whose turn is next (`Alternates.count`).
-/
import Mathlib.Data.List.Basic
import Mathlib.Tactic.Common

namespace LearningKernel.Theory

set_option autoImplicit false

universe u

variable {α : Type u}

/-- The list is `x, y, x, y, …`. -/
def Alternates (x y : α) : List α → Prop
  | [] => True
  | z :: zs => z = x ∧ Alternates y x zs

/-- Whose turn it is after `n` members. -/
def turn (x y : α) (n : Nat) : α := if n % 2 = 0 then x else y

theorem turn_succ (x y : α) (n : Nat) : turn y x n = turn x y (n + 1) := by
  unfold turn
  by_cases even : n % 2 = 0
  · rw [if_pos even, if_neg (by omega)]
  · rw [if_neg even, if_pos (by omega)]

theorem alternates_concat {x y z : α} {zs : List α} :
    Alternates x y (zs ++ [z]) ↔ Alternates x y zs ∧ z = turn x y zs.length := by
  induction zs generalizing x y with
  | nil => simp [Alternates, turn]
  | cons w ws ih =>
      rw [List.cons_append, Alternates, Alternates, ih, turn_succ, List.length_cons, and_assoc]

/-- The first is ahead by one, or they are even. -/
theorem Alternates.count [DecidableEq α] {x y : α} (distinct : x ≠ y) {zs : List α}
    (alternates : Alternates x y zs) : zs.count x = zs.count y + zs.length % 2 := by
  induction zs generalizing x y with
  | nil => rfl
  | cons z zs ih =>
      obtain ⟨rfl, later⟩ := alternates
      have rest := ih distinct.symm later
      rw [List.count_cons_self, List.count_cons_of_ne distinct, List.length_cons]
      omega

end LearningKernel.Theory
