/-
# Theory.Ledger -- what a list of calls acquires, uses and releases

`held` are the resources held after a list of calls, the last acquired first.  A
list is `Grounded` if each of its calls that uses or releases a resource finds it
held: as a release takes one acquisition out of the list, no acquisition is
released twice.  It is `LastFirst` if each release is of what was acquired last.
-/
import Mathlib.Tactic.Common

namespace LearningKernel.Theory

set_option autoImplicit false

universe u v

/-- What a call does with resources. -/
inductive Effect (ρ : Type v) where
  | acquire (r : ρ)
  | use (r : ρ)
  | release (r : ρ)
  | neither
  deriving DecidableEq

namespace Effect

variable {κ : Type u} {ρ : Type v} [DecidableEq ρ]

def apply : Effect ρ → List ρ → List ρ
  | acquire r, rs => r :: rs
  | release r, rs => rs.erase r
  | use _, rs | neither, rs => rs

/-- What has to be held. -/
def needs : Effect ρ → Option ρ
  | use r | release r => some r
  | acquire _ | neither => none

/-- What is released. -/
def releases : Effect ρ → Option ρ
  | release r => some r
  | acquire _ | use _ | neither => none

variable (effect : κ → Effect ρ)

def held (rs : List ρ) (ks : List κ) : List ρ := ks.foldl (fun rs k => (effect k).apply rs) rs

def Grounded (rs : List ρ) : List κ → Prop
  | [] => True
  | k :: ks => (∀ r ∈ (effect k).needs, r ∈ rs) ∧ Grounded ((effect k).apply rs) ks

def LastFirst (rs : List ρ) : List κ → Prop
  | [] => True
  | k :: ks => (∀ r ∈ (effect k).releases, rs.head? = some r) ∧ LastFirst ((effect k).apply rs) ks

instance decidableGrounded (rs : List ρ) : (ks : List κ) → Decidable (Grounded effect rs ks)
  | [] => inferInstanceAs (Decidable True)
  | k :: ks =>
      have := decidableGrounded ((effect k).apply rs) ks
      inferInstanceAs (Decidable (_ ∧ _))

instance decidableLastFirst (rs : List ρ) : (ks : List κ) → Decidable (LastFirst effect rs ks)
  | [] => inferInstanceAs (Decidable True)
  | k :: ks =>
      have := decidableLastFirst ((effect k).apply rs) ks
      inferInstanceAs (Decidable (_ ∧ _))

variable {effect}

theorem held_append (rs : List ρ) (ks ls : List κ) :
    held effect rs (ks ++ ls) = held effect (held effect rs ks) ls := by
  simp only [held, List.foldl_append]

theorem grounded_append {rs : List ρ} {ks ls : List κ} :
    Grounded effect rs (ks ++ ls) ↔
      Grounded effect rs ks ∧ Grounded effect (held effect rs ks) ls := by
  induction ks generalizing rs with
  | nil =>
      show Grounded effect rs ls ↔ True ∧ Grounded effect rs ls
      rw [true_and]
  | cons k ks ih =>
      show (_ ∧ Grounded effect _ (ks ++ ls)) ↔ (_ ∧ Grounded effect _ ks) ∧ _
      rw [ih, and_assoc]
      rfl

theorem lastFirst_append {rs : List ρ} {ks ls : List κ} :
    LastFirst effect rs (ks ++ ls) ↔
      LastFirst effect rs ks ∧ LastFirst effect (held effect rs ks) ls := by
  induction ks generalizing rs with
  | nil =>
      show LastFirst effect rs ls ↔ True ∧ LastFirst effect rs ls
      rw [true_and]
  | cons k ks ih =>
      show (_ ∧ LastFirst effect _ (ks ++ ls)) ↔ (_ ∧ LastFirst effect _ ks) ∧ _
      rw [ih, and_assoc]
      rfl

/-- No more is held than was acquired. -/
theorem length_held_le {acquires : κ → Bool} {ks : List κ}
    (only : ∀ k ∈ ks, ∀ r, effect k = .acquire r → acquires k = true) (rs : List ρ) :
    (held effect rs ks).length ≤ rs.length + ks.countP acquires := by
  induction ks generalizing rs with
  | nil => exact Nat.le_refl _
  | cons k ks ih =>
      have later := ih (fun k' member => only k' (List.mem_cons_of_mem k member))
        ((effect k).apply rs)
      have here : ((effect k).apply rs).length ≤ rs.length + if acquires k then 1 else 0 := by
        cases does : effect k with
        | acquire r =>
            rw [only k List.mem_cons_self r does]
            exact Nat.le_refl _
        | release r => exact Nat.le_trans List.length_erase_le (Nat.le_add_right _ _)
        | use r | neither => exact Nat.le_add_right _ _
      rw [List.countP_cons]
      show (held effect ((effect k).apply rs) ks).length ≤ _
      omega

/-- What is held released, in any order. -/
theorem released {rs released : List ρ} {ks : List κ}
    (releases : ks.map effect = released.map Effect.release) (all : released.Perm rs) :
    Grounded effect rs ks ∧ held effect rs ks = [] := by
  induction ks generalizing rs released with
  | nil =>
      have none : released = [] := List.map_eq_nil_iff.1 releases.symm
      rw [none] at all
      exact ⟨trivial, all.symm.eq_nil⟩
  | cons k ks ih =>
      cases released with
      | nil => cases releases
      | cons r released =>
          obtain ⟨here, later⟩ := List.cons_eq_cons.1 releases
          obtain ⟨member, rest⟩ := List.cons_perm_iff_perm_erase.1 all
          obtain ⟨grounded, holds⟩ := ih later rest
          have left : (effect k).apply rs = rs.erase r := by
            rw [here]
            rfl
          refine ⟨⟨?_, ?_⟩, ?_⟩
          · rw [here]
            rintro _ ⟨⟩
            exact member
          · rw [left]
            exact grounded
          · show held effect ((effect k).apply rs) ks = []
            rw [left, holds]

end Effect

end LearningKernel.Theory
