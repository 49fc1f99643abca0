/-
# GlobalMem.File -- globalmem refines a fixed array, over runs of open files

The array of the specification is the log of the run: a read returns the bytes
last written, a write puts its own bytes in place and touches no other, both move
only the caller's position, and the end of the array is a position where nothing
moves.  `globalmem_refines_array` proves it at every call of every run.
-/
import LearningKernel.GlobalMem.Device

namespace LearningKernel.GlobalMem

open LearningKernel.Theory LearningKernel.Kernel LearningKernel.Kernel.Vfs

set_option autoImplicit false

/-- `globalmem_fops`, every user copy succeeding. -/
def globalmemOps : FileOperations (Memory globalmemSize) where
  read mem ppos size := globalmemRead mem ppos size 0
  write mem ppos buf := globalmemWrite mem ppos buf 0
  llseek := globalmemLlseek

/-- A valid position is inside the memory or at its end. -/
theorem validPos_cases {pos : Int} (valid : ValidPos globalmemSize pos) :
    (∃ p : Nat, pos = p ∧ p < globalmemSize) ∨ pos = globalmemSize := by
  obtain ⟨lo, hi⟩ := valid
  obtain ⟨p, rfl⟩ := Int.eq_ofNat_of_zero_le lo
  rcases Nat.lt_or_ge p globalmemSize with inside | atEnd
  · exact Or.inl ⟨p, rfl, inside⟩
  · exact Or.inr (by omega)

theorem globalmemOps_storesAtPos : StoresAtPos globalmemOps (· ≤ maxRwCount) where
  read := by
    rintro m pos size r valid vfs result success
    rcases validPos_cases valid with ⟨p, rfl, inside⟩ | rfl
    · simp only [globalmemOps, globalmemRead_of_lt m inside vfs, Option.some.injEq] at result
      subst result
      exact validPos_natCast (by omega)
    · simp only [globalmemOps, globalmemRead_at_end m vfs, Option.some.injEq] at result
      subst result
      exact valid
  write := by
    rintro m pos buf r valid vfs result
    rcases validPos_cases valid with ⟨p, rfl, inside⟩ | rfl
    · simp only [globalmemOps, globalmemWrite_of_lt m inside vfs, Option.some.injEq] at result
      subst result
      refine ⟨fun _ => ?_, fun none => ?_, fun _ => validPos_natCast (by omega)⟩
      · simp only [Int.toNat_natCast]
      · have empty : min buf.length (globalmemSize - p) = 0 := by
          dsimp only at none
          omega
        simp only [empty, List.take_zero, Memory.store_nil]
    · simp only [globalmemOps, globalmemWrite_at_end m vfs, Option.some.injEq] at result
      subst result
      refine ⟨fun stored => ?_, fun _ => rfl, fun _ => valid⟩
      dsimp only at stored
      split at stored <;> simp [enxio] at stored
  llseek := fun _ offset whence valid => globalmemLlseek_range offset whence valid

section Runs

variable {File : Type} [DecidableEq File]

/-- Open files of globalmem. -/
abbrev MemEvent (File : Type) := Event (Files (Memory globalmemSize) File) (Call File) Reply

/-- The number of bytes a call of `size` bytes moves at `p`. -/
def movable (p size : Nat) : Nat := min size (globalmemSize - p)

/-- Only the caller's position moves, by `n`. -/
def Advances (e : MemEvent File) (file : File) (n : Nat) : Prop :=
  e.target.pos = Function.update e.source.pos file (e.source.pos file + n)

/-- At the end of the array nothing moves. -/
def endReply (size : Nat) : Int := if size = 0 then 0 else -enxio

/-- What a fixed array of `globalmemSize` bytes does at one call, given the events
before it. -/
def ArrayStep (before : List (MemEvent File)) (e : MemEvent File) : Prop :=
  match e.act with
  | .read file size =>
      let p := (e.source.pos file).toNat
      let n := movable p size
      (e.source.pos file < globalmemSize →
        e.out = .read n ((List.range n).map fun k => lastWritten (writes before) (p + k)) ∧
          e.target.dev = e.source.dev ∧ Advances e file n) ∧
      (e.source.pos file = globalmemSize →
        e.out = .read (endReply size) [] ∧ e.target = e.source)
  | .write file data =>
      let p := (e.source.pos file).toNat
      let n := movable p data.length
      (e.source.pos file < globalmemSize →
        e.out = .write n ∧ Advances e file n ∧
          e.target.dev.load p n = data.take n ∧
          ∀ i, i < p ∨ p + n ≤ i → e.target.dev.get i = e.source.dev.get i) ∧
      (e.source.pos file = globalmemSize →
        e.out = .write (endReply data.length) ∧ e.target = e.source)
  | .llseek file _ _ =>
      e.target.dev = e.source.dev ∧
        ∀ other, other ≠ file → e.target.pos other = e.source.pos other

theorem keptPos_of_nonneg (pos : File → Int) (file : File) {ret ppos : Int} (success : 0 ≤ ret) :
    keptPos pos file ret ppos = Function.update pos file ppos := if_pos success

/-- At the end the VFS keeps a position that did not move. -/
theorem keptPos_self (pos : File → Int) (file : File) (ret : Int) :
    keptPos pos file ret (pos file) = pos := by
  unfold keptPos
  split
  · exact Function.update_eq_self file pos
  · rfl

theorem read_step {before : List (MemEvent File)} {s t : Files (Memory globalmemSize) File}
    {file : File} {size : Nat} {out : Reply}
    (taken : call globalmemOps s (.read file size) = (out, t)) (vfs : size ≤ maxRwCount)
    (valid : ValidPos globalmemSize (s.pos file)) (holds : Holds s.dev (writes before)) :
    ArrayStep before ⟨s, .read file size, out, t⟩ := by
  rcases validPos_cases valid with ⟨p, here, inside⟩ | atEnd
  · simp only [call, globalmemOps, here, globalmemRead_of_lt s.dev inside vfs, Prod.mk.injEq] at taken
    obtain ⟨rfl, rfl⟩ := taken
    have fits : p + movable p size ≤ globalmemSize := by
      unfold movable
      omega
    simp only [ArrayStep, Advances, here, Int.toNat_natCast]
    refine ⟨fun _ => ⟨?_, by trivial, ?_⟩, fun atEnd => by omega⟩
    · rw [← holds.load fits]
      rfl
    · rw [keptPos_of_nonneg _ _ (by omega)]
      simp [movable]
  · simp only [call, globalmemOps, atEnd, globalmemRead_at_end s.dev vfs, Prod.mk.injEq] at taken
    obtain ⟨rfl, rfl⟩ := taken
    simp only [ArrayStep, atEnd]
    refine ⟨fun inside => absurd inside (by omega), fun _ => ⟨rfl, ?_⟩⟩
    rw [← atEnd, keptPos_self]

theorem write_step {before : List (MemEvent File)} {s t : Files (Memory globalmemSize) File}
    {file : File} {data : List UInt8} {out : Reply}
    (taken : call globalmemOps s (.write file data) = (out, t)) (vfs : data.length ≤ maxRwCount)
    (valid : ValidPos globalmemSize (s.pos file)) :
    ArrayStep before ⟨s, .write file data, out, t⟩ := by
  rcases validPos_cases valid with ⟨p, here, inside⟩ | atEnd
  · simp only [call, globalmemOps, here, globalmemWrite_of_lt s.dev inside vfs,
      Prod.mk.injEq] at taken
    obtain ⟨rfl, rfl⟩ := taken
    have length : (data.take (movable p data.length)).length = movable p data.length := by
      simp [movable]
    have fits : p + (data.take (movable p data.length)).length ≤ globalmemSize := by
      rw [length]
      unfold movable
      omega
    simp only [ArrayStep, Advances, here, Int.toNat_natCast]
    refine ⟨fun _ => ⟨rfl, ?_, ?_, ?_⟩, fun atEnd => by omega⟩
    · rw [keptPos_of_nonneg _ _ (by omega)]
      simp [movable]
    · have back := Memory.load_store s.dev p (data.take (movable p data.length)) fits
      rw [length] at back
      exact back
    · intro i outside
      apply Memory.get_store_outside
      rw [← movable, length]
      exact outside
  · simp only [call, globalmemOps, atEnd, globalmemWrite_at_end s.dev vfs, Prod.mk.injEq] at taken
    obtain ⟨rfl, rfl⟩ := taken
    simp only [ArrayStep, atEnd]
    refine ⟨fun inside => absurd inside (by omega), fun _ => ⟨rfl, ?_⟩⟩
    rw [← atEnd, keptPos_self]

theorem llseek_step {before : List (MemEvent File)} {s t : Files (Memory globalmemSize) File}
    {file : File} {offset whence : Int} {out : Reply}
    (taken : call globalmemOps s (.llseek file offset whence) = (out, t)) :
    ArrayStep before ⟨s, .llseek file offset whence, out, t⟩ := by
  simp only [call, Prod.mk.injEq] at taken
  obtain ⟨rfl, rfl⟩ := taken
  exact ⟨rfl, fun other ne => Function.update_of_ne ne _ _⟩

/-- **globalmem refines a 4096-byte array.**  In every run of seeks, reads and
writes by any number of open files, from the zeroed memory and with sizes the VFS
admits, the memory is what the log of the run wrote, every position is one of the
array, and every call does what the array does. -/
theorem globalmem_refines_array {es : List (MemEvent File)}
    {u : Files (Memory globalmemSize) File}
    (path : (machine globalmemOps).Path (Files.opened File (Memory.zero globalmemSize)) es u)
    (vfs : ∀ e ∈ es, e.act.size ≤ maxRwCount) :
    ∀ before e after, es = before ++ e :: after →
      (∀ f, ValidPos globalmemSize (e.source.pos f)) ∧ Holds e.source.dev (writes before) ∧
        ArrayStep before e := by
  rintro before e after rfl
  obtain ⟨front, taken, -⟩ := path.split
  obtain ⟨valid, holds⟩ := globalmemOps_storesAtPos.holds front
    (fun d member => vfs d (by simp [member]))
  refine ⟨valid, holds, ?_⟩
  have small : e.act.size ≤ maxRwCount := vfs e (by simp)
  rw [takes_iff] at taken
  obtain ⟨s, act, out, t⟩ := e
  cases act with
  | read file size => exact read_step taken small (valid file) holds
  | write file data => exact write_step taken small (valid file)
  | llseek file offset whence => exact llseek_step taken

end Runs

/-- Two files: one writes at 4094 across the end, the other reads it back. -/
def writeAcrossEnd : List (Call Bool) :=
  [.llseek true 4094 0, .write true [1, 2, 3], .llseek false 4095 0, .read false 8]

theorem globalmem_refines_array_across_end :
    ∃ (before : List (MemEvent Bool)) (e : MemEvent Bool),
      (machine globalmemOps).trace (Files.opened Bool (Memory.zero globalmemSize))
          writeAcrossEnd = before ++ [e] ∧
        e.out = .read 1 [2] ∧ Holds e.source.dev (writes before) ∧ ArrayStep before e := by
  let es := (machine globalmemOps).trace (Files.opened Bool (Memory.zero globalmemSize))
    writeAcrossEnd
  have whole : es = es.take 3 ++ [es[3]] := rfl
  have refines := globalmem_refines_array (Machine.path_trace _ _ writeAcrossEnd) (by decide)
    (es.take 3) es[3] [] whole
  exact ⟨es.take 3, es[3], whole, rfl, refines.2⟩

end LearningKernel.GlobalMem
