/-
# Theory.Latest -- what a history says most recently

`latest f xs` is the last value that `f` reads off the history `xs`, which is in
chronological order; `latest_concat` is its step, `latest_eq_none_iff` says when
there is none.  `pasts xs` pairs each member with what came before it, so that a law
about the past of each member can be decided.
-/
import Mathlib.Data.List.Induction
import Mathlib.Tactic.Common

namespace LearningKernel.Theory

set_option autoImplicit false

universe u v

variable {α : Type u} {β : Type v}

/-- The value that `f` reads most recently. -/
def latest (f : α → Option β) (xs : List α) : Option β :=
  xs.foldl (fun last x => (f x).or last) none

variable {f : α → Option β}

@[simp] theorem latest_concat (xs : List α) (x : α) :
    latest f (xs ++ [x]) = (f x).or (latest f xs) := by
  simp [latest]

theorem latest_eq_none_iff {xs : List α} : latest f xs = none ↔ ∀ x ∈ xs, f x = none := by
  induction xs using List.reverseRecOn with
  | nil => simp [latest]
  | append_singleton xs x ih =>
      rw [latest_concat, Option.or_eq_none_iff, ih]
      constructor
      · rintro ⟨here, before⟩ y member
        rcases List.mem_append.1 member with earlier | last
        · exact before y earlier
        · rw [List.mem_singleton.1 last]
          exact here
      · intro silent
        exact ⟨silent x (by simp), fun y member => silent y (by simp [member])⟩

/-- The members of the history, each with its past, which `before` begins. -/
def pasts (before : List α) : List α → List (List α × α)
  | [] => []
  | x :: xs => (before, x) :: pasts (before ++ [x]) xs

theorem mem_pasts {before past after xs : List α} {x : α} (cut : xs = past ++ x :: after) :
    (before ++ past, x) ∈ pasts before xs := by
  induction past generalizing before xs with
  | nil =>
      rw [cut, List.append_nil]
      exact List.mem_cons_self
  | cons y past ih =>
      have later : (before ++ [y] ++ past, x) ∈ pasts (before ++ [y]) (past ++ x :: after) := ih rfl
      rw [List.append_assoc, List.singleton_append] at later
      rw [cut, List.cons_append, pasts]
      exact List.mem_cons_of_mem _ later

/-- A law about every member and its past. -/
theorem forall_of_pasts {D : List α → α → Prop} {xs : List α}
    (law : ∀ p ∈ pasts [] xs, D p.1 p.2) :
    ∀ past x after, xs = past ++ x :: after → D past x :=
  fun _ _ _ cut => law _ (mem_pasts cut)

/-- A law about every member with its past and its future, one member further. -/
theorem forall_cuts_concat {D : List α → α → List α → Prop} {xs : List α} {x : α} :
    (∀ past y future, xs ++ [x] = past ++ y :: future → D past y future) ↔
      (∀ past y future, xs = past ++ y :: future → D past y (future ++ [x])) ∧ D xs x [] := by
  constructor
  · intro law
    refine ⟨fun past y future cut => law past y (future ++ [x]) ?_, law xs x [] rfl⟩
    rw [cut, List.append_assoc, List.cons_append]
  · rintro ⟨earlier, last⟩ past y future cut
    rcases List.eq_nil_or_concat future with rfl | ⟨future, z, rfl⟩
    · obtain ⟨rfl, rfl⟩ := List.append_singleton_inj.1 cut
      exact last
    · rw [List.concat_eq_append, ← List.cons_append, ← List.append_assoc] at cut
      obtain ⟨rfl, rfl⟩ := List.append_singleton_inj.1 cut
      rw [List.concat_eq_append]
      exact earlier past y future rfl

/-! ## Since -/

/-- Some member meets `p`, and none after it meets `q`. -/
def Since (p q : α → Prop) (xs : List α) : Prop :=
  ∃ past y future, xs = past ++ y :: future ∧ p y ∧ ∀ z ∈ future, ¬ q z

variable {p q : α → Prop}

theorem since_nil : ¬ Since p q [] := by
  rintro ⟨past, y, future, cut, -⟩
  exact absurd cut (by simp)

theorem since_concat {xs : List α} {x : α} :
    Since p q (xs ++ [x]) ↔ p x ∨ (¬ q x ∧ Since p q xs) := by
  constructor
  · rintro ⟨past, y, future, cut, here, kept⟩
    rcases List.eq_nil_or_concat future with rfl | ⟨future, z, rfl⟩
    · obtain ⟨-, rfl⟩ := List.append_singleton_inj.1 cut
      exact Or.inl here
    · rw [List.concat_eq_append] at cut kept
      rw [← List.cons_append, ← List.append_assoc] at cut
      obtain ⟨rfl, rfl⟩ := List.append_singleton_inj.1 cut
      exact Or.inr ⟨kept x (List.mem_append_right _ (List.mem_singleton.2 rfl)), past, y, future,
        rfl, here, fun z member => kept z (List.mem_append_left _ member)⟩
  · rintro (here | ⟨other, past, y, future, rfl, here, kept⟩)
    · exact ⟨xs, x, [], rfl, here, fun _ member => absurd member List.not_mem_nil⟩
    · refine ⟨past, y, future ++ [x], by rw [List.append_assoc, List.cons_append], here, ?_⟩
      intro z member
      rcases List.mem_append.1 member with earlier | last
      · exact kept z earlier
      · rw [List.mem_singleton.1 last]
        exact other

end LearningKernel.Theory
