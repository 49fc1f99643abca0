/-
# Theory.Scan -- a scan that has to find its end in the buffer

A terminated text in an array has no length: a scan takes items until it meets
one that is no token.  `scan` is such a scan over all there is: it yields what it
gathered from the items before the terminator, or nothing if it ran off the end.

* `scan_eq_none_iff`: it runs off exactly if there is no terminator;
* `scan_append`: what stands behind a terminator does not count.
-/
import Mathlib.Data.List.Basic
import Mathlib.Tactic.Common

namespace LearningKernel.Theory

set_option autoImplicit false

universe u v w

variable {α : Type u} {δ : Type v} {β : Type w}

/-- Gather tokens up to the first item that is none. -/
def scan (token : α → Option δ) (gather : β → δ → β) : β → List α → Option β
  | _, [] => none
  | acc, c :: cs =>
      match token c with
      | some d => scan token gather (gather acc d) cs
      | none => some acc

/-- Some item is no token. -/
def Stops (token : α → Option δ) (s : List α) : Prop := ∃ c ∈ s, token c = none

instance (token : α → Option δ) (s : List α) : Decidable (Stops token s) :=
  decidable_of_iff (∃ c ∈ s, (token c).isNone = true) (by simp [Stops])

variable {token : α → Option δ} {gather : β → δ → β} {acc : β} {s rest : List α}

theorem stops_cons {c : α} : Stops token (c :: s) ↔ token c = none ∨ Stops token s := by
  simp [Stops]

theorem stops_append : Stops token (s ++ rest) ↔ Stops token s ∨ Stops token rest := by
  simp [Stops, or_and_right, exists_or]

theorem scan_eq_none_iff : scan token gather acc s = none ↔ ¬ Stops token s := by
  induction s generalizing acc with
  | nil => simp [scan, Stops]
  | cons c cs ih =>
      rw [stops_cons]
      unfold scan
      cases here : token c with
      | none => simp
      | some d =>
          simp only [reduceCtorEq, false_or]
          exact ih

/-- What stands behind a terminator does not count. -/
theorem scan_append (stops : Stops token s) :
    scan token gather acc (s ++ rest) = scan token gather acc s := by
  induction s generalizing acc with
  | nil => simp [Stops] at stops
  | cons c cs ih =>
      simp only [List.cons_append, scan]
      cases here : token c with
      | none => rfl
      | some d => exact ih ((stops_cons.1 stops).resolve_left (by simp [here]))

end LearningKernel.Theory
