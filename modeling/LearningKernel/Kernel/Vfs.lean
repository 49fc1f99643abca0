/-
# Kernel.Vfs -- open files on one character device

A driver is a table of file operations over the device's own state.  The VFS
keeps one `f_pos` for each open file, hands it to `read` and `write`, and stores
the position they leave when they succeed; `llseek` sets `f_pos` itself.  Every
user copy succeeds in `machine`; in `faulting` each may stop anywhere.

A `none` from a handler is an access outside the device's memory: the machine
answers `.fault` and leaves the state as it was.

`writes` reads the log of a run off its events: what each successful `write`
was given, at the position its file had.  `StoresAtPos` is what a driver over a
fixed array must do for that log to describe the array; `StoresAtPos.holds` is
the induction over runs that every such driver shares.
-/
import LearningKernel.Theory.Machine
import LearningKernel.Theory.Memory
import Mathlib.Logic.Function.Basic

namespace LearningKernel.Kernel.Vfs

open LearningKernel.Theory

set_option autoImplicit false

/-- What a read handler returns, copies out, and leaves in `*ppos`. -/
structure ReadResult where
  ret : Int
  data : List UInt8
  ppos : Int
  deriving DecidableEq

/-- What a write handler returns and leaves in the device and in `*ppos`. -/
structure WriteResult (D : Type) where
  ret : Int
  dev : D
  ppos : Int

/-- What `llseek` returns and leaves in `f_pos`. -/
structure SeekResult where
  ret : Int
  fpos : Int
  deriving DecidableEq

/-- `struct file_operations`, over device state `D`. -/
structure FileOperations (D : Type) where
  read : D → Int → Nat → Option ReadResult
  write : D → Int → List UInt8 → Option (WriteResult D)
  llseek : Int → Int → Int → SeekResult

/-- The device and the position of each open file. -/
structure Files (D File : Type) where
  dev : D
  pos : File → Int

/-- Every file freshly opened. -/
def Files.opened {D : Type} (File : Type) (dev : D) : Files D File := ⟨dev, fun _ => 0⟩

inductive Call (File : Type) where
  | read (file : File) (size : Nat)
  | write (file : File) (data : List UInt8)
  | llseek (file : File) (offset whence : Int)

/-- The length argument of a call. -/
def Call.size {File : Type} : Call File → Nat
  | .read _ size => size
  | .write _ data => data.length
  | .llseek _ _ _ => 0

inductive Reply where
  | read (ret : Int) (data : List UInt8)
  | write (ret : Int)
  | llseek (ret : Int)
  | fault
  deriving DecidableEq

section Run

variable {D File : Type} [DecidableEq File] (fops : FileOperations D)

/-- `f_pos` after a handler that left `ppos`: the VFS keeps it only on success. -/
def keptPos (pos : File → Int) (file : File) (ret ppos : Int) : File → Int :=
  if 0 ≤ ret then Function.update pos file ppos else pos

def call (s : Files D File) : Call File → Reply × Files D File
  | .read file size =>
      match fops.read s.dev (s.pos file) size with
      | none => (.fault, s)
      | some r => (.read r.ret r.data, { s with pos := keptPos s.pos file r.ret r.ppos })
  | .write file data =>
      match fops.write s.dev (s.pos file) data with
      | none => (.fault, s)
      | some r => (.write r.ret, { dev := r.dev, pos := keptPos s.pos file r.ret r.ppos })
  | .llseek file offset whence =>
      let r := fops.llseek (s.pos file) offset whence
      (.llseek r.ret, { s with pos := Function.update s.pos file r.fpos })

/-- Calls of any number of open files, in any order. -/
def machine : Machine (Files D File) (Call File) Reply := ⟨fun s c => some (call fops s c)⟩

theorem takes_iff {e : Event (Files D File) (Call File) Reply} :
    (machine fops).Takes e ↔ call fops e.source e.act = (e.out, e.target) := by
  simp [Machine.Takes, machine]

/-- The same where user copies may fault: each call comes with how many bytes its copy
leaves. -/
def faulting (fops : Nat → FileOperations D) :
    Machine (Files D File) (Nat × Call File) Reply :=
  ⟨fun s c => some (call (fops c.1) s c.2)⟩

end Run

/-! ## The log of a run over a fixed array -/

section Log

variable {cap : Nat} {File : Type}

/-- What one event wrote, and where. -/
def wrote (e : Event (Files (Memory cap) File) (Call File) Reply) : List Write :=
  match e.act, e.out with
  | .write file data, .write ret =>
      if 0 < ret then [⟨(e.source.pos file).toNat, data.take ret.toNat⟩] else []
  | _, _ => []

def writes (es : List (Event (Files (Memory cap) File) (Call File) Reply)) : List Write :=
  es.flatMap wrote

theorem writes_concat (es : List (Event (Files (Memory cap) File) (Call File) Reply))
    (e : Event (Files (Memory cap) File) (Call File) Reply) :
    writes (es ++ [e]) = writes es ++ wrote e := by
  simp [writes]

/-- A position of a file of `cap` bytes, its end included. -/
def ValidPos (cap : Nat) (pos : Int) : Prop := 0 ≤ pos ∧ pos ≤ cap

theorem validPos_natCast {p : Nat} (inside : p ≤ cap) : ValidPos cap p :=
  ⟨by omega, by omega⟩

/-- A successful write stores, at the caller's position, the first `ret` bytes it
was given and advances by `ret`; any other leaves the array alone.  Positions
stay in the file.  Only calls of a size the VFS `Admits` matter. -/
structure StoresAtPos (fops : FileOperations (Memory cap)) (Admits : Nat → Prop) : Prop where
  read : ∀ m pos size r, ValidPos cap pos → Admits size →
    fops.read m pos size = some r → 0 ≤ r.ret → ValidPos cap r.ppos
  write : ∀ m pos data r, ValidPos cap pos → Admits data.length →
    fops.write m pos data = some r →
      (0 < r.ret → r.dev = m.store pos.toNat (data.take r.ret.toNat)) ∧
      (r.ret ≤ 0 → r.dev = m) ∧ (0 ≤ r.ret → ValidPos cap r.ppos)
  llseek : ∀ pos offset whence, ValidPos cap pos →
    ValidPos cap (fops.llseek pos offset whence).fpos

variable [DecidableEq File] {fops : FileOperations (Memory cap)} {Admits : Nat → Prop}

theorem keptPos_valid {pos : File → Int} {file : File} {ret ppos : Int}
    (valid : ∀ f, ValidPos cap (pos f)) (kept : 0 ≤ ret → ValidPos cap ppos) (f : File) :
    ValidPos cap (keptPos pos file ret ppos f) := by
  show ValidPos cap ((if 0 ≤ ret then Function.update pos file ppos else pos) f)
  split
  · rename_i success
    rcases eq_or_ne f file with rfl | other
    · rw [Function.update_self]
      exact kept success
    · rw [Function.update_of_ne other]
      exact valid f
  · exact valid f

/-- The operations keep the positions of open files in the file. -/
structure KeepsPos {D : Type} (cap : Nat) (fops : FileOperations D) : Prop where
  read : ∀ d pos size r, ValidPos cap pos → fops.read d pos size = some r → 0 ≤ r.ret →
    ValidPos cap r.ppos
  write : ∀ d pos data r, ValidPos cap pos → fops.write d pos data = some r → 0 ≤ r.ret →
    ValidPos cap r.ppos
  llseek : ∀ pos offset whence, ValidPos cap pos →
    ValidPos cap (fops.llseek pos offset whence).fpos

theorem KeepsPos.call {D : Type} {fops : FileOperations D} (keeps : KeepsPos cap fops)
    {s : Files D File} (valid : ∀ f, ValidPos cap (s.pos f)) (c : Call File) (f : File) :
    ValidPos cap ((Vfs.call fops s c).2.pos f) := by
  cases c with
  | read file size =>
      simp only [Vfs.call]
      split
      · exact valid f
      · rename_i r result
        exact keptPos_valid valid (keeps.read _ _ _ r (valid file) result) f
  | write file data =>
      simp only [Vfs.call]
      split
      · exact valid f
      · rename_i r result
        exact keptPos_valid valid (keeps.write _ _ _ r (valid file) result) f
  | llseek file offset whence =>
      rcases eq_or_ne f file with rfl | other
      · simpa [Vfs.call] using keeps.llseek _ offset whence (valid f)
      · simpa [Vfs.call, Function.update_of_ne other] using valid f

/-- **The positions stay in the file** along every run, with copies that fault. -/
theorem positions_valid {D : Type} {fops : Nat → FileOperations D}
    (keeps : ∀ uncopied, KeepsPos cap (fops uncopied)) {dev : D}
    {es : List (Event (Files D File) (Nat × Call File) Reply)} {u : Files D File}
    (path : (faulting fops).Path (Files.opened File dev) es u) :
    ∀ f, ValidPos cap (u.pos f) := by
  refine (path.invariant (I := fun s => ∀ f, ValidPos cap (s.pos f)) ?_ ?_).1
  · intro e taken valid f
    have same : e.target = (Vfs.call (fops e.act.1) e.source e.act.2).2 :=
      (congrArg Prod.snd (Option.some.inj taken)).symm
    rw [same]
    exact (keeps e.act.1).call valid e.act.2 f
  · exact fun _ => validPos_natCast (Nat.zero_le cap)

/-- One call keeps positions in the file and the log true of the array. -/
theorem StoresAtPos.step (contract : StoresAtPos fops Admits) {log : List Write}
    {e : Event (Files (Memory cap) File) (Call File) Reply} (taken : (machine fops).Takes e)
    (admits : Admits e.act.size) (valid : ∀ f, ValidPos cap (e.source.pos f))
    (holds : Holds e.source.dev log) :
    (∀ f, ValidPos cap (e.target.pos f)) ∧ Holds e.target.dev (log ++ wrote e) := by
  rw [takes_iff] at taken
  obtain ⟨source, act, out, target⟩ := e
  cases act with
  | read file size =>
      simp only [call] at taken
      split at taken
      · obtain ⟨rfl, rfl⟩ := Prod.mk.inj taken
        exact ⟨valid, by simpa [wrote] using holds⟩
      · rename_i r result
        obtain ⟨rfl, rfl⟩ := Prod.mk.inj taken
        have kept := contract.read _ _ _ r (valid file) admits result
        exact ⟨keptPos_valid valid kept, by simpa [wrote] using holds⟩
  | write file data =>
      simp only [call] at taken
      split at taken
      · obtain ⟨rfl, rfl⟩ := Prod.mk.inj taken
        exact ⟨valid, by simpa [wrote] using holds⟩
      · rename_i r result
        obtain ⟨rfl, rfl⟩ := Prod.mk.inj taken
        obtain ⟨stored, untouched, kept⟩ := contract.write _ _ _ r (valid file) admits result
        refine ⟨keptPos_valid valid kept, ?_⟩
        by_cases success : 0 < r.ret
        · simp only [wrote, if_pos success, stored success]
          exact holds.store _ _
        · simp only [wrote, if_neg success, List.append_nil, untouched (by omega)]
          exact holds
  | llseek file offset whence =>
      dsimp only [call] at taken valid holds ⊢
      obtain ⟨rfl, rfl⟩ := Prod.mk.inj taken
      refine ⟨fun f => ?_, by simpa [wrote] using holds⟩
      rcases eq_or_ne f file with rfl | other
      · simpa using contract.llseek _ offset whence (valid f)
      · simpa [Function.update_of_ne other] using valid f

/-- **Along every run from the zeroed array, the log says what the array holds**,
and every position is one of the file. -/
theorem StoresAtPos.holds (contract : StoresAtPos fops Admits)
    {es : List (Event (Files (Memory cap) File) (Call File) Reply)} {u : Files (Memory cap) File}
    (path : (machine fops).Path (Files.opened File (Memory.zero cap)) es u)
    (admitted : ∀ e ∈ es, Admits e.act.size) :
    (∀ f, ValidPos cap (u.pos f)) ∧ Holds u.dev (writes es) := by
  refine path.history (C := fun e => Admits e.act.size)
    (J := fun es s => (∀ f, ValidPos cap (s.pos f)) ∧ Holds s.dev (writes es)) ?_ ?_ admitted
  · exact ⟨fun _ => ⟨Int.le_refl 0, by simp [Files.opened]⟩, holds_zero cap⟩
  · rintro es e - taken admits ⟨valid, holds⟩
    rw [writes_concat]
    exact contract.step taken admits valid holds

end Log

end LearningKernel.Kernel.Vfs
