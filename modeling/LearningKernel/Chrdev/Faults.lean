/-
# Chrdev.Faults -- what device_write changes when its copy faults

`device_write` counts what `copy_from_user` has not copied and reports the rest.  But
the copy goes straight into `device_buf`, and a faulting one zero-fills its destination:
behind the reported bytes the buffer is cleared, up to the end of the clamped length.
`write_changes_reported_iff` says when that changes nothing.
-/
import LearningKernel.Chrdev.Device

namespace LearningKernel.Chrdev

open LearningKernel.Theory LearningKernel.Kernel LearningKernel.Kernel.Vfs

set_option autoImplicit false

/-- A write that answers `n` leaves the first `n` bytes of the user at `p`, every other
byte as it was, and the position `n` further. -/
def ChangesReported (deviceBuf : Memory maxLength) (p : Nat) (buf : List UInt8) (uncopied : Nat) :
    Prop :=
  ∀ r, deviceWrite deviceBuf p buf uncopied = some r → ∀ n : Nat, r.ret = n →
    r.dev.load p n = buf.take n ∧
      (∀ i, i < maxLength → i < p ∨ p + n ≤ i → r.dev.get i = deviceBuf.get i) ∧ r.ppos = p + n

/-- **When `device_write` changes exactly what it reports**: if what it clears behind the
bytes it copied, up to the end of the clamped length, was zero before. -/
theorem write_changes_reported_iff (deviceBuf : Memory maxLength) {p : Nat}
    (inside : p < maxLength) {buf : List UInt8} (some_ : 0 < buf.length) (uncopied : Nat) :
    ChangesReported deviceBuf p buf uncopied ↔
      let count := min buf.length (maxLength - p)
      ∀ i, p + (count - uncopied) ≤ i → i < p + count → deviceBuf.get i = 0 := by
  have nonempty : min buf.length (maxLength - p) ≠ 0 := by omega
  have shorter : min buf.length (maxLength - p) ≤ buf.length := Nat.min_le_left _ _
  have room : min buf.length (maxLength - p) ≤ maxLength - p := Nat.min_le_right _ _
  unfold ChangesReported
  simp only [deviceWrite_of_le deviceBuf (Nat.le_of_lt inside), if_neg nonempty,
    Option.some.injEq, forall_eq']
  generalize min buf.length (maxLength - p) = count at shorter room ⊢
  -- the destination of the copy: the bytes copied, then zeros
  have copied : copyFromUser (buf.take count) uncopied =
      buf.take (count - uncopied) ++ List.replicate (min uncopied count) 0 := by
    rw [copyFromUser, List.length_take, Nat.min_eq_left shorter, List.take_take,
      Nat.min_eq_left (Nat.sub_le _ _)]
  have length : (buf.take (count - uncopied)).length = count - uncopied := by
    rw [List.length_take]
    omega
  have fits : p + (buf.take (count - uncopied)).length + min uncopied count ≤ maxLength := by
    rw [length]
    omega
  have stored := Memory.load_store_padded deviceBuf p (buf.take (count - uncopied))
    (min uncopied count) fits
  have others := Memory.get_store_padded_iff deviceBuf p (buf.take (count - uncopied))
    (min uncopied count) fits
  have span : p + (count - uncopied) + min uncopied count = p + count := by omega
  rw [length] at stored others
  rw [span] at others
  rw [copied]
  constructor
  · intro reported
    exact others.1 (reported (count - uncopied) rfl).2.1
  · intro zeros n same
    obtain rfl : count - uncopied = n := Int.ofNat_inj.1 same
    exact ⟨stored, others.2 zeros, by omega⟩

theorem write_changes_reported_empty :
    ChangesReported (Memory.zero maxLength) 58 [1, 2, 3] 1 :=
  (write_changes_reported_iff (Memory.zero maxLength) (by decide) (by decide) 1).2 (by simp)

/-- A write of two bytes of which the second faults reports one and clears the other. -/
theorem write_clears_unreported :
    let deviceBuf := (Memory.zero maxLength).store 0 [7, 7]
    (∃ r, deviceWrite deviceBuf (0 : Nat) [1, 2] 1 = some r ∧ r.ret = 1 ∧ r.dev.get 0 = 1 ∧
      r.dev.get 1 = 0) ∧ ¬ ChangesReported deviceBuf 0 [1, 2] 1 := by
  refine ⟨⟨_, rfl, rfl, rfl, rfl⟩, ?_⟩
  intro reported
  have second := (reported _ rfl 1 rfl).2.1 1 (by decide) (Or.inr (by decide))
  revert second
  decide

end LearningKernel.Chrdev
