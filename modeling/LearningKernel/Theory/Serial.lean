/-
# Theory.Serial -- numbers that count around

A counter hands out numbers modulo `2 * half`.  Of two of them the earlier is told by the upper
half of their difference (`before_iff`), which is right as long as they were handed out less
than `half` apart.

`oldest` looks through a list for the holder of the number handed out first; `oldest_spec`
says that it is found as long as no number in the list is more than `half` old.
-/
import Mathlib.Tactic.Common

namespace LearningKernel.Theory.Serial

set_option autoImplicit false

variable {ι : Type} {half : Int}

/-- `a` was handed out before `b`. -/
def Before (half a b : Int) : Prop := half ≤ (a - b) % (2 * half)

instance (half a b : Int) : Decidable (Before half a b) :=
  inferInstanceAs (Decidable (_ ≤ _))

/-- Only the residues count. -/
theorem before_congr {a b a' b' : Int} (first : a % (2 * half) = a' % (2 * half))
    (second : b % (2 * half) = b' % (2 * half)) : Before half a b ↔ Before half a' b' := by
  unfold Before
  rw [Int.sub_emod, first, second, ← Int.sub_emod]

/-- Of numbers less than half a round apart. -/
theorem before_iff {a b : Int} (low : b ≤ a + half) (high : a < b + half) :
    Before half a b ↔ a < b := by
  unfold Before
  by_cases earlier : a < b
  · have around : (a - b) % (2 * half) = a - b + 2 * half := by
      rw [← Int.add_emod_right]
      exact Int.emod_eq_of_lt (by omega) (by omega)
    rw [around]
    constructor <;> omega
  · have straight : (a - b) % (2 * half) = a - b := Int.emod_eq_of_lt (by omega) (by omega)
    rw [straight]
    constructor <;> omega

/-- One holder of the list: a negative number stands for none. -/
def older (half : Int) (number : ι → Int) (best : Option ι × Int) (i : ι) : Option ι × Int :=
  if number i < 0 then best
  else if Before half (number i) best.2 then (some i, number i)
  else best

def oldest (half : Int) (number : ι → Int) (next : Int) (holders : List ι) : Option ι :=
  (holders.foldl (older half number) (none, next)).1

/-- Who holds which number: `next` is the one to be handed out next, and none in use is more
than `half` older. -/
structure Counted (half : Int) (number : ι → Int) (count : ι → Option Nat) (next : Nat) :
    Prop where
  positive : 0 < half
  idle : ∀ i, count i = none → number i < 0
  held : ∀ i n, count i = some n → number i = n % (2 * half)
  given : ∀ i n, count i = some n → n < next
  recent : ∀ i n, count i = some n → (next : Int) ≤ n + half

/-- A look through the holders, from a best that has the count `c`. -/
theorem foldl_older {number : ι → Int} {count : ι → Option Nat} {next : Nat}
    (counted : Counted half number count next) (holders : List ι) (best : Option ι × Int) (c : Nat)
    (same : best.2 % (2 * half) = c % (2 * half)) (atMost : c ≤ next)
    (recent : (next : Int) ≤ c + half) :
    ∃ c' : Nat, c' ≤ c ∧
      ((holders.foldl (older half number) best).1 = best.1 ∧ c' = c ∨
        ∃ i, (holders.foldl (older half number) best).1 = some i ∧ count i = some c') ∧
      ∀ i ∈ holders, ∀ n, count i = some n → c' ≤ n := by
  induction holders generalizing best c with
  | nil => exact ⟨c, Nat.le_refl c, .inl ⟨rfl, rfl⟩, by simp⟩
  | cons i holders ih =>
      rw [List.foldl_cons]
      cases held : count i with
      | none =>
          have skipped : older half number best i = best := if_pos (counted.idle i held)
          rw [skipped]
          obtain ⟨c', le, found, least⟩ := ih best c same atMost recent
          refine ⟨c', le, found, ?_⟩
          rintro j listed n count
          rcases List.mem_cons.1 listed with rfl | later
          · rw [held] at count
            cases count
          · exact least j later n count
      | some n =>
          have number_ := counted.held i n held
          have positive := counted.positive
          have in_use : ¬ number i < 0 := by
            rw [number_]
            exact Int.not_lt.2 (Int.emod_nonneg _ (by omega))
          have residue : number i % (2 * half) = n % (2 * half) := by
            rw [number_, Int.emod_emod]
          have given := counted.given i n held
          have recent_n := counted.recent i n held
          have decides : Before half (number i) best.2 ↔ (n : Int) < c :=
            (before_congr residue same).trans (before_iff (by omega) (by omega))
          by_cases earlier : (n : Int) < c
          · have taken : older half number best i = (some i, number i) := by
              rw [older, if_neg in_use, if_pos (decides.2 earlier)]
            rw [taken]
            obtain ⟨c', le, found, least⟩ := ih (some i, number i) n residue (by omega) recent_n
            refine ⟨c', by omega, .inr ?_, ?_⟩
            · rcases found with ⟨first, rfl⟩ | other
              · exact ⟨i, first, held⟩
              · exact other
            · rintro j listed m count
              rcases List.mem_cons.1 listed with rfl | later
              · rw [held] at count
                cases count
                exact le
              · exact least j later m count
          · have kept : older half number best i = best := by
              rw [older, if_neg in_use, if_neg (mt decides.1 earlier)]
            rw [kept]
            obtain ⟨c', le, found, least⟩ := ih best c same atMost recent
            refine ⟨c', le, found, ?_⟩
            rintro j listed m count
            rcases List.mem_cons.1 listed with rfl | later
            · rw [held] at count
              cases count
              omega
            · exact least j later m count

/-- The oldest of the list is found, or there is none. -/
theorem oldest_spec {number : ι → Int} {count : ι → Option Nat} {next : Nat}
    (counted : Counted half number count next) (holders : List ι) :
    match oldest half number next holders with
    | none => ∀ i ∈ holders, count i = none
    | some i => ∃ n, count i = some n ∧ ∀ j ∈ holders, ∀ m, count j = some m → n ≤ m := by
  have positive := counted.positive
  obtain ⟨c, -, found, least⟩ := foldl_older counted holders (none, (next : Int)) next rfl
    (Nat.le_refl _) (by omega)
  have same : oldest half number next holders =
      (holders.foldl (older half number) (none, (next : Int))).1 := rfl
  rcases found with ⟨none_, rfl⟩ | ⟨i, some_, held⟩
  · rw [same, none_]
    intro i listed
    cases held : count i with
    | none => rfl
    | some n => exact absurd (counted.given i n held) (Nat.not_lt.2 (least i listed n held))
  · rw [same, some_]
    exact ⟨c, held, least⟩

end LearningKernel.Theory.Serial
