/-
# GlobalMem.Faults -- globalmem at every position, with copies that fault

For any `*ppos` and size the handlers hand no byte outside `mem` to a user copy, and no
run of open files leaves the device (`globalmem_in_bounds`).

`globalmem_write` lets the copy go straight into `mem`, so a write that answers
`-EFAULT` has overwritten its range (`failed_write_changes_nothing_iff`).
-/
import LearningKernel.GlobalMem.File

namespace LearningKernel.GlobalMem

open LearningKernel.Theory LearningKernel.Theory.CInt LearningKernel.Kernel LearningKernel.Kernel.Vfs

set_option autoImplicit false

/-! ## No access outside the memory -/

/-- `globalmem_fops` where the last `uncopied` bytes of a user copy cannot be copied. -/
def globalmemFops (uncopied : Nat) : FileOperations (Memory globalmemSize) where
  read mem ppos size := globalmemRead mem ppos size uncopied
  write mem ppos buf := globalmemWrite mem ppos buf uncopied
  llseek := globalmemLlseek

/-- A position of an open file is the place it says. -/
theorem place_of_valid {ppos : Int} (valid : ValidPos globalmemSize ppos) :
    (place ppos : Int) = ppos := by
  obtain ⟨lo, hi⟩ := valid
  have small : (globalmemSize : Int) = 4096 := rfl
  rw [natCast_place]
  exact unsigned_eq_self lo (by omega)

/-- Moving over the span of a call stays in the device. -/
theorem validPos_advance {ppos : Int} (valid : ValidPos globalmemSize ppos) (size : Nat) :
    ValidPos globalmemSize (signed 64 (ppos + span ppos size)) := by
  have here := place_of_valid valid
  have fits := span_le ppos size
  obtain ⟨lo, hi⟩ := valid
  have small : globalmemSize = 4096 := rfl
  rw [signed_eq_self (by omega) (by omega)]
  exact ⟨by omega, by omega⟩

theorem globalmemFops_keepsPos (uncopied : Nat) :
    KeepsPos globalmemSize (globalmemFops uncopied) where
  read := by
    intro mem ppos size r valid result success
    rcases Nat.lt_or_ge (place ppos) globalmemSize with inside | past
    · simp only [globalmemFops, globalmemRead_inside mem uncopied inside, Option.some.injEq] at result
      subst result
      split
      · exact valid
      · exact validPos_advance valid size
    · simp only [globalmemFops, globalmemRead_past mem uncopied past, Option.some.injEq] at result
      subst result
      exact valid
  write := by
    intro mem ppos buf r valid result success
    rcases Nat.lt_or_ge (place ppos) globalmemSize with inside | past
    · simp only [globalmemFops, globalmemWrite_inside mem uncopied inside, Option.some.injEq] at result
      subst result
      split
      · exact valid
      · exact validPos_advance valid buf.length
    · simp only [globalmemFops, globalmemWrite_past mem uncopied past, Option.some.injEq] at result
      subst result
      exact valid
  llseek _ offset orig valid := globalmemLlseek_range offset orig valid

/-- **Every access of globalmem is in bounds**: whatever the position, the size and the
fault, the user copies get no byte outside `mem`; and the positions of open files stay
in `0..4096` over every run of reads, writes and seeks with any arguments. -/
theorem globalmem_in_bounds :
    (∀ mem ppos size uncopied, globalmemRead mem ppos size uncopied ≠ none) ∧
      (∀ mem ppos buf uncopied, globalmemWrite mem ppos buf uncopied ≠ none) ∧
        ∀ (File : Type) [DecidableEq File] mem es u,
          (faulting globalmemFops).Path (Files.opened File mem) es u →
            ∀ f, 0 ≤ u.pos f ∧ u.pos f ≤ globalmemSize := by
  refine ⟨?_, ?_, ?_⟩
  · intro mem ppos size uncopied
    rcases Nat.lt_or_ge (place ppos) globalmemSize with inside | past
    · rw [globalmemRead_inside mem uncopied inside]
      exact Option.some_ne_none _
    · rw [globalmemRead_past mem uncopied past]
      exact Option.some_ne_none _
  · intro mem ppos buf uncopied
    rcases Nat.lt_or_ge (place ppos) globalmemSize with inside | past
    · rw [globalmemWrite_inside mem uncopied inside]
      exact Option.some_ne_none _
    · rw [globalmemWrite_past mem uncopied past]
      exact Option.some_ne_none _
  · intro File _ mem es u path
    exact positions_valid globalmemFops_keepsPos path

/-- Seeks that wrap or are cut, and a read and a write that fault. -/
def seeksAndFaults : List (Nat × Call Bool) :=
  [(0, .llseek true (2 ^ 32 + 4094) 0), (1, .write true [1, 2, 3]), (0, .write true [1]),
    (0, .llseek true (2 ^ 63 - 1) 1), (0, .llseek false (-1) 0), (2, .read false 8)]

theorem globalmem_in_bounds_seeksAndFaults :
    let u := (faulting globalmemFops).final (Files.opened Bool (Memory.zero globalmemSize))
      seeksAndFaults
    globalmemRead (Memory.zero globalmemSize) (-1) (2 ^ 64 - 1) 0 ≠ none ∧
      u.pos true = 4095 ∧ 0 ≤ u.pos true ∧ u.pos true ≤ globalmemSize :=
  ⟨globalmem_in_bounds.1 _ _ _ _, rfl,
    globalmem_in_bounds.2.2 Bool _ _ _ (Machine.path_trace _ _ seeksAndFaults) true⟩

/-! ## Writes that fail -/

/-- A write that answers an error leaves the memory and the position. -/
def FailureHarmless (mem : Memory globalmemSize) (ppos : Int) (buf : List UInt8) (uncopied : Nat) :
    Prop :=
  ∀ r, globalmemWrite mem ppos buf uncopied = some r → r.ret < 0 → r.dev = mem ∧ r.ppos = ppos

/-- **When a failed write changes nothing**: past the end, if its copy does not fault, or
if what the faulting copy leaves, a first part of the buffer and zeros, was there before. -/
theorem failed_write_changes_nothing_iff (mem : Memory globalmemSize) (ppos : Int)
    (buf : List UInt8) (uncopied : Nat) :
    FailureHarmless mem ppos buf uncopied ↔
      globalmemSize ≤ place ppos ∨ uncopied = 0 ∨
        mem.load (place ppos) (span ppos buf.length) =
          copyFromUser (buf.take (span ppos buf.length)) uncopied := by
  unfold FailureHarmless
  rcases Nat.lt_or_ge (place ppos) globalmemSize with inside | past
  · have fits := span_le ppos buf.length
    have length : (copyFromUser (buf.take (span ppos buf.length)) uncopied).length =
        span ppos buf.length := by
      have short := span_le_size ppos buf.length
      rw [length_copyFromUser, List.length_take]
      omega
    simp only [globalmemWrite_inside mem uncopied inside, Option.some.injEq, forall_eq']
    by_cases faults : uncopied ≠ 0 ∧ span ppos buf.length ≠ 0
    · simp only [if_pos faults]
      have kept := Memory.store_eq_self_iff mem (place ppos)
        (copyFromUser (buf.take (span ppos buf.length)) uncopied) (by omega)
      rw [length] at kept
      have fails : -efault < 0 := by decide
      simp only [fails, true_imp_iff, and_true, kept]
      simp [faults.1, Nat.not_le.2 inside]
    · simp only [if_neg faults]
      refine iff_of_true (fun failed => by omega) ?_
      by_cases copies : uncopied = 0
      · exact Or.inr (Or.inl copies)
      · have nothing : span ppos buf.length = 0 := by omega
        right
        right
        rw [nothing]
        simp [Memory.load, copyFromUser]
  · simp [globalmemWrite_past mem uncopied past, past]

/-- The second byte of a write of two faults: it answers `-EFAULT`, and has stored the
first and cleared the second. -/
theorem failed_write_stores :
    let mem := (Memory.zero globalmemSize).store 0 [7, 7]
    (∃ r, globalmemWrite mem 0 [1, 2] 1 = some r ∧ r.ret = -efault ∧ r.dev.get 0 = 1 ∧
      r.dev.get 1 = 0) ∧ ¬ FailureHarmless mem 0 [1, 2] 1 := by
  refine ⟨⟨_, rfl, rfl, rfl, rfl⟩, ?_⟩
  intro harmless
  have kept := (harmless _ rfl (by decide)).1
  have first := congrArg (fun m => m.get 0) kept
  revert first
  decide

end LearningKernel.GlobalMem
