/-
# Chrdev.File -- mychrdev as a file, over runs of any number of open files

Writes and seeks of the driver do what a 60-byte file does: `deviceOps_storesAtPos`
puts it under the log of `Kernel.Vfs`, so after any run `device_buf` is what the
writes left.  Reads do not: they deliver the bytes at the front of the buffer.
`reads_back_iff` says exactly when a run cannot tell the difference.
-/
import LearningKernel.Chrdev.Device

namespace LearningKernel.Chrdev

open LearningKernel.Theory LearningKernel.Kernel LearningKernel.Kernel.Vfs

set_option autoImplicit false

/-- `fops` of `chardev.c`, every user copy succeeding. -/
def deviceOps : FileOperations (Memory maxLength) where
  read deviceBuf ppos lbuf := deviceRead deviceBuf ppos lbuf 0
  write deviceBuf ppos buf := deviceWrite deviceBuf ppos buf 0
  llseek := deviceLseek

theorem deviceOps_storesAtPos : StoresAtPos deviceOps fun _ => True where
  read := by
    rintro m pos lbuf r ⟨lo, hi⟩ - result success
    obtain ⟨p, rfl⟩ := Int.eq_ofNat_of_zero_le lo
    simp only [deviceOps, deviceRead_of_le m (Int.ofNat_le.1 hi)] at result
    split at result
    · cases result
      simp [enospc] at success
    · cases result
      exact validPos_natCast (by omega)
  write := by
    rintro m pos buf r ⟨lo, hi⟩ - result
    obtain ⟨p, rfl⟩ := Int.eq_ofNat_of_zero_le lo
    simp only [deviceOps, deviceWrite_of_le m (Int.ofNat_le.1 hi)] at result
    split at result
    · cases result
      simp [enospc]
    · rename_i nonempty
      cases result
      refine ⟨fun _ => ?_, fun none => ?_, fun _ => ?_⟩
      · simp only [Nat.sub_zero, copyFromUser_zero, Int.toNat_natCast]
      · simp only [Nat.sub_zero] at none
        omega
      · exact validPos_natCast (by omega)
  llseek := fun pos offset whence _ => deviceLseek_range pos offset whence

section Runs

variable {File : Type} [DecidableEq File]

/-- Open files of mychrdev. -/
abbrev DeviceEvent (File : Type) := Event (Files (Memory maxLength) File) (Call File) Reply

/-- The number of bytes a read of `lbuf` bytes is entitled to at `p`. -/
def readable (p lbuf : Nat) : Nat := min lbuf (maxLength - p)

/-- A read inside the device returns the bytes most recently written at the
caller's position and advances it over them. -/
def ReadsBack (before : List (DeviceEvent File)) (e : DeviceEvent File) : Prop :=
  ∀ file lbuf, e.act = .read file lbuf → 0 < lbuf → e.source.pos file < maxLength →
    let p := (e.source.pos file).toNat
    let n := readable p lbuf
    e.out = .read n ((List.range n).map fun k => lastWritten (writes before) (p + k)) ∧
      e.target.pos file = p + n

/-- At a read inside the device, the buffer's first bytes are the bytes at the
caller's position. -/
def FrontAgrees (e : DeviceEvent File) : Prop :=
  ∀ file lbuf, e.act = .read file lbuf → 0 < lbuf → e.source.pos file < maxLength →
    let p := (e.source.pos file).toNat
    let n := readable p lbuf
    e.source.dev.load 0 n = e.source.dev.load p n

/-- What a read inside the device does: the count and the position are those of a
file, the bytes are those at the front. -/
theorem read_event {e : DeviceEvent File} (taken : (machine deviceOps).Takes e) {file : File}
    {lbuf : Nat} (act : e.act = .read file lbuf) (lo : 0 ≤ e.source.pos file) (some_ : 0 < lbuf)
    (inside : e.source.pos file < maxLength) :
    let p := (e.source.pos file).toNat
    let n := readable p lbuf
    e.out = .read n (e.source.dev.load 0 n) ∧ e.target.pos file = p + n := by
  obtain ⟨source, act', out, target⟩ := e
  dsimp only at act lo inside ⊢
  subst act
  rw [takes_iff] at taken
  obtain ⟨p, position⟩ := Int.eq_ofNat_of_zero_le lo
  have within : p < maxLength := by
    rw [position] at inside
    exact Int.ofNat_lt.1 inside
  have nonempty : min lbuf (maxLength - p) ≠ 0 := by omega
  simp only [call, deviceOps, position, deviceRead_of_le source.dev (Nat.le_of_lt within),
    if_neg nonempty, copyToUser_zero, Nat.sub_zero, Prod.mk.injEq] at taken
  obtain ⟨rfl, rfl⟩ := taken
  rw [position, Int.toNat_natCast]
  refine ⟨rfl, ?_⟩
  simp [keptPos, readable]

/-- One read is the file's read exactly when the front of the buffer agrees. -/
theorem readsBack_iff {before : List (DeviceEvent File)} {e : DeviceEvent File}
    (taken : (machine deviceOps).Takes e) (valid : ∀ f, ValidPos maxLength (e.source.pos f))
    (holds : Holds e.source.dev (writes before)) : ReadsBack before e ↔ FrontAgrees e := by
  unfold ReadsBack FrontAgrees
  refine forall_congr' fun file => forall_congr' fun lbuf => ?_
  refine forall_congr' fun act => forall_congr' fun some_ => forall_congr' fun inside => ?_
  obtain ⟨out, moved⟩ := read_event taken act (valid file).1 some_ inside
  have fits : (e.source.pos file).toNat + readable (e.source.pos file).toNat lbuf ≤ maxLength := by
    unfold readable
    have := (valid file).1
    omega
  dsimp only at out moved ⊢
  rw [out, moved, ← holds.load fits]
  simp

/-- **mychrdev as a 60-byte file.**  In any run of writes, seeks and reads, by any
number of files, from the zeroed buffer: all reads inside the device behave as a
file's reads exactly when each of them finds the front of the buffer equal to the
bytes at its position. -/
theorem reads_back_iff {es : List (DeviceEvent File)} {u : Files (Memory maxLength) File}
    (path : (machine deviceOps).Path (Files.opened File (Memory.zero maxLength)) es u) :
    (∀ before e after, es = before ++ e :: after → ReadsBack before e) ↔
      ∀ e ∈ es, FrontAgrees e := by
  have agree : ∀ before e after, es = before ++ e :: after →
      (ReadsBack before e ↔ FrontAgrees e) := by
    rintro before e after rfl
    obtain ⟨front, taken, -⟩ := path.split
    obtain ⟨valid, holds⟩ := deviceOps_storesAtPos.holds front (fun _ _ => trivial)
    exact readsBack_iff taken valid holds
  constructor
  · intro back e member
    obtain ⟨before, after, here⟩ := List.append_of_mem member
    exact (agree before e after here).1 (back before e after here)
  · intro front before e after here
    exact (agree before e after here).2 (front e (by simp [here]))

end Runs

/-- Two bytes written at 0, then the second read back through `lseek`. -/
def writeSeekRead : List (Call Unit) :=
  [.write () [1, 2], .llseek () 1 seekSet, .read () 1]

theorem reads_back_iff_writeSeekRead :
    (∀ before e after,
        (machine deviceOps).trace (Files.opened Unit (Memory.zero maxLength)) writeSeekRead =
          before ++ e :: after → ReadsBack before e) ↔
      ∀ e ∈ (machine deviceOps).trace (Files.opened Unit (Memory.zero maxLength)) writeSeekRead,
        FrontAgrees e :=
  reads_back_iff (Machine.path_trace _ _ _)

/-- `device_read` ignores the position: at 1 it delivers the byte written at 0. -/
theorem read_delivers_front :
    ∃ (es before after : List (DeviceEvent Unit)) (e : DeviceEvent Unit)
      (u : Files (Memory maxLength) Unit),
      (machine deviceOps).Path (Files.opened Unit (Memory.zero maxLength)) es u ∧
        es = before ++ e :: after ∧ e.out = .read 1 [1] ∧ ¬ ReadsBack before e := by
  let es := (machine deviceOps).trace (Files.opened Unit (Memory.zero maxLength)) writeSeekRead
  refine ⟨es, es.take 2, [], es[2], _, Machine.path_trace _ _ writeSeekRead, rfl, rfl, ?_⟩
  intro back
  have delivered := (back () 1 rfl (by decide) (by decide)).1
  revert delivered
  decide

end LearningKernel.Chrdev
