/-
# MyClass.Effects -- what an open and a write do to the registers

`led_chrdev_open` programs the five registers of its device, and
`led_chrdev_write` one bit of its data register, through the pointers that
`ioremap` gave.

* `programs_iff`: an open programs its own registers, and accesses nothing else,
  exactly if the physical address of the pad register is also an address where that
  register is mapped; the open takes the one for the other, and in an address space
  with the mappings in its upper part it never is;
* `write_drives_iff`: a write does what its text says exactly if
  `kstrtoul_from_user` accepts the text, since its error is not looked at.
-/
import LearningKernel.MyClass.Data
import LearningKernel.MyClass.Mappings
import LearningKernel.Theory.CInt

namespace LearningKernel.MyClass

open LearningKernel.Theory LearningKernel.Theory.CInt LearningKernel.Theory.BitField
open LearningKernel.Kernel

set_option autoImplicit false

@[simp] theorem Dev.pa_eq_iff {d : Dev} {r r' : Reg} : d.pa r = d.pa r' ↔ r = r' :=
  ⟨Dev.pa_inj, congrArg d.pa⟩

/-! ## Opening -/

/-- An open programs the registers of its device, each through a mapping made for the
device, and leaves every other bit and register alone. -/
structure Programs (d : Dev) (io io' : Mmio Dev) : Prop where
  clock : ∀ i, (io'.word (d.pa .ccmCcgrx)).getLsbD i =
    (decide (i = d.clockOffset ∨ i = d.clockOffset + 1) || (io.word (d.pa .ccmCcgrx)).getLsbD i)
  mux : io'.word (d.pa .iomuxcMux) = 5
  pad : io'.word (d.pa .iomuxPad) = 0x1F838
  gdir : ∀ i, (io'.word (d.pa .gdir)).getLsbD i =
    (decide (d.ledPin = i) || (io.word (d.pa .gdir)).getLsbD i)
  dr : ∀ i, (io'.word (d.pa .dr)).getLsbD i =
    (decide (d.ledPin = i) || (io.word (d.pa .dr)).getLsbD i)
  others : ∀ a, (∀ r, d.pa r ≠ a) → io'.word a = io.word a
  written : ∀ r, ⟨.write, some ⟨d, d.pa r⟩⟩ ∈ io'.log
  own : ∀ t ∈ io'.log, ∃ r, t.found = some ⟨d, d.pa r⟩

/-- The accesses of an open, with what they find. -/
theorem openAccesses_log (d : Dev) (va : Reg → Nat) (io : Mmio Dev) :
    (openAccesses d va io).log = io.log ++
      [⟨.read, io.live (va .ccmCcgrx)⟩, ⟨.write, io.live (va .ccmCcgrx)⟩,
        ⟨.write, io.live (va .iomuxcMux)⟩, ⟨.write, io.live (d.pa .iomuxPad)⟩,
        ⟨.read, io.live (va .gdir)⟩, ⟨.write, io.live (va .gdir)⟩,
        ⟨.read, io.live (va .dr)⟩, ⟨.write, io.live (va .dr)⟩] := by
  simp [openAccesses, Mmio.ioread32, Mmio.iowrite32]

/-- The registers after an open whose five addresses are mapped. -/
def programmed (d : Dev) (word : Nat → BitVec 32) : Nat → BitVec 32 :=
  let gates := 3#32 <<< d.clockOffset
  Function.update (Function.update (Function.update (Function.update (Function.update word
    (d.pa .ccmCcgrx) (update gates gates (word (d.pa .ccmCcgrx))))
    (d.pa .iomuxcMux) 5)
    (d.pa .iomuxPad) 0x1F838)
    (d.pa .gdir) (update d.bit d.bit (word (d.pa .gdir))))
    (d.pa .dr) (word (d.pa .dr) ||| d.bit)

theorem openAccesses_word {d : Dev} {va : Reg → Nat} {io : Mmio Dev}
    (mapped : ∀ r, io.live (va r) = some ⟨d, d.pa r⟩)
    (pad : io.live (d.pa .iomuxPad) = some ⟨d, d.pa .iomuxPad⟩) :
    (openAccesses d va io).word = programmed d io.word := by
  simp [openAccesses, programmed, Mmio.ioread32, Mmio.iowrite32, mapped, pad,
    Function.update_apply]

theorem getLsbD_gates (d : Dev) (i : Nat) :
    (3#32 <<< d.clockOffset).getLsbD i = decide (i = d.clockOffset ∨ i = d.clockOffset + 1) := by
  have three : ∀ k, (3#32).getLsbD k = decide (k < 2)
    | 0 => rfl
    | 1 => rfl
    | k + 2 => by
        rw [getLsbD_eq_false (n := 2) (by decide) (Nat.le_add_left 2 k)]
        simp
  have inside : d.clockOffset + 1 < 32 := by
    cases d <;> decide
  rw [BitVec.getLsbD_shiftLeft, three, Bool.eq_iff_iff]
  simp only [Bool.and_eq_true, decide_eq_true_eq, Bool.not_eq_true', decide_eq_false_iff_not]
  omega

theorem getLsbD_update_self {w : Nat} (mask value : BitVec w) (i : Nat) :
    (update mask mask value).getLsbD i = (mask.getLsbD i || value.getLsbD i) := by
  rw [getLsbD_update]
  cases mask.getLsbD i <;> simp

/-- The registers so programmed are as they should be. -/
theorem programmed_spec (d : Dev) {io io' : Mmio Dev} (word : io'.word = programmed d io.word)
    (written : ∀ r, ⟨.write, some ⟨d, d.pa r⟩⟩ ∈ io'.log)
    (own : ∀ t ∈ io'.log, ∃ r, t.found = some ⟨d, d.pa r⟩) : Programs d io io' where
  clock i := by
    have gates : io'.word (d.pa .ccmCcgrx) =
        update (3#32 <<< d.clockOffset) (3#32 <<< d.clockOffset) (io.word (d.pa .ccmCcgrx)) := by
      simp [word, programmed]
    rw [gates, getLsbD_update_self, getLsbD_gates]
  mux := by simp [word, programmed]
  pad := by simp [word, programmed]
  gdir i := by simp [word, programmed, getLsbD_update_self, d.getLsbD_bit]
  dr i := by
    rw [Bool.or_comm]
    simp [word, programmed, d.getLsbD_bit]
  others a other := by simp [word, programmed, fun r => (other r).symm]
  written := written
  own := own

/-- **Its own registers.**  An open whose mappings succeed does what it should exactly
if the physical address of the pad register is where that register is mapped, by this
open or an earlier one. -/
theorem programs_iff {d : Dev} {pick : Reg → Nat} {io io' : Mmio Dev}
    (mapped : ∀ r, pick r ≠ 0) (made : ledChrdevOpen d pick { io with log := [] } = some io') :
    Programs d io io' ↔
      pick .iomuxPad = d.pa .iomuxPad ∨
        io.live (d.pa .iomuxPad) = some ⟨d, d.pa .iomuxPad⟩ := by
  obtain ⟨io₁, remapped, rfl⟩ := Option.map_eq_some_iff.1 made
  obtain ⟨fresh, others⟩ := mapped_at remapped mapped
  obtain ⟨word, log⟩ := Mmio.ioremapAll_frame remapped
  dsimp only at fresh others word log
  have live : ∀ r, io₁.live (pick r) = some ⟨d, d.pa r⟩ := fun r => (fresh r).2
  -- where the pad register is written
  have there : io₁.live (d.pa .iomuxPad) = some ⟨d, d.pa .iomuxPad⟩ ↔
      pick .iomuxPad = d.pa .iomuxPad ∨
        io.live (d.pa .iomuxPad) = some ⟨d, d.pa .iomuxPad⟩ := by
    by_cases picked : ∃ r, pick r = d.pa .iomuxPad
    · obtain ⟨r, here⟩ := picked
      have free := (fresh r).1
      have now := live r
      rw [here] at free now
      simp only [now, free, reduceCtorEq, or_false, Option.some.injEq, Mapping.mk.injEq,
        true_and, Dev.pa_eq_iff]
      constructor
      · rintro rfl
        exact here
      · intro pad
        have also := live .iomuxPad
        rw [pad, now] at also
        simpa using also
    · have avoided : ∀ r, pick r ≠ d.pa .iomuxPad := fun r here => picked ⟨r, here⟩
      rw [others _ avoided, or_iff_right (avoided .iomuxPad)]
  rw [← there]
  constructor
  · intro programs
    have written := programs.written .iomuxPad
    simpa [openAccesses_log, log, live, eq_comm] using written
  · intro pad
    apply programmed_spec d
    · rw [openAccesses_word live pad, word]
    · intro r
      cases r <;> simp [openAccesses_log, live, pad]
    · simp [openAccesses_log, log, live, pad]

/-- No registers mapped, all of them 0. -/
def zeroed : Mmio Dev := { live := fun _ => none, word := fun _ => 0, log := [] }

/-- Pointers of which the one to the pad register is its physical address. -/
def padAtPa : Reg → Nat
  | .iomuxPad => 0x20E02F8
  | r => picks 0xF0000000 r

theorem programs_padAtPa :
    ∃ io, ledChrdevOpen .led0 padAtPa zeroed = some io ∧ Programs .led0 zeroed io := by
  obtain ⟨io, made⟩ := Option.isSome_iff_exists.1
    (show (ledChrdevOpen .led0 padAtPa zeroed).isSome = true by decide)
  exact ⟨io, made, (programs_iff (show ∀ r, padAtPa r ≠ 0 by decide) made).2 (Or.inl rfl)⟩

/-- With all pointers in the kernel's part of the address space, the pad register stays
as it was. -/
theorem open_misses_pad :
    ∃ io, ledChrdevOpen .led0 (picks 0xF0000000) zeroed = some io ∧ io.word 0x20E02F8 = 0 ∧
      ⟨.write, none⟩ ∈ io.log ∧ ¬ Programs .led0 zeroed io := by
  have opens : (ledChrdevOpen .led0 (picks 0xF0000000) zeroed).map
      (fun io => (io.word 0x20E02F8, decide (⟨.write, none⟩ ∈ io.log))) = some (0, true) := by
    decide
  obtain ⟨io, made, found⟩ := Option.map_eq_some_iff.1 opens
  obtain ⟨missed, wild⟩ := Prod.mk.inj found
  refine ⟨io, made, missed, of_decide_eq_true wild, ?_⟩
  intro programs
  have pad : io.word 0x20E02F8 = 0x1F838 := programs.pad
  rw [missed] at pad
  exact absurd pad (by decide)

/-! ## Writing -/

/-- What a write returns, the `*ppos` it leaves, and the registers. -/
structure Written where
  ret : Int
  ppos : Int
  io : Mmio Dev

/-- `led_chrdev_write`, with its counts: `tmp` is an `int`. -/
def ledChrdevWriteAt (d : Dev) (buf : UserText) (ppos : Int) (va : Reg → Nat) (io : Mmio Dev) :
    Written :=
  let tmp := signed 32 buf.count
  { ret := tmp, ppos := ppos + tmp, io := ledChrdevWrite d buf va io }

/-- A write does what its text says: an error and nothing else for a text that is
refused, and the level of the pin for a number. -/
structure DrivesPin (d : Dev) (buf : UserText) (ppos : Int) (io : Mmio Dev) (w : Written) :
    Prop where
  rejected : ∀ e, kstrtoulFromUser 32 .decimal buf = .error e →
    w.ret < 0 ∧ w.io.word = io.word ∧ w.ppos = ppos
  accepted : ∀ n, kstrtoulFromUser 32 .decimal buf = .ok n →
    w.ret = buf.count ∧ (∀ a, a ≠ d.pa .dr → w.io.word a = io.word a) ∧
      (w.io.word (d.pa .dr)).getLsbD d.ledPin = decide (n ≠ 0) ∧
      ∀ i, d.ledPin ≠ i → (w.io.word (d.pa .dr)).getLsbD i = (io.word (d.pa .dr)).getLsbD i

theorem ledChrdevWrite_word {d : Dev} {va : Reg → Nat} {io : Mmio Dev}
    (mapped : io.live (va .dr) = some ⟨d, d.pa .dr⟩) (buf : UserText) :
    (ledChrdevWrite d buf va io).word =
      Function.update io.word (d.pa .dr)
        (driven d (writtenNumber buf) (io.word (d.pa .dr))) := by
  simp [ledChrdevWrite, Mmio.ioread32, Mmio.iowrite32, mapped]

/-- A count that the VFS passes is an `int`. -/
theorem signed_count {count : Nat} (fits : count ≤ maxRwCount) : signed 32 count = count := by
  unfold maxRwCount at fits
  exact signed_eq_self (by omega) (by omega)

/-- **What a text does.**  A write through a live pointer does what its text says
exactly if the text is accepted. -/
theorem write_drives_iff {d : Dev} {buf : UserText} (fits : buf.count ≤ maxRwCount) (ppos : Int)
    {va : Reg → Nat} {io : Mmio Dev} (mapped : io.live (va .dr) = some ⟨d, d.pa .dr⟩) :
    DrivesPin d buf ppos io (ledChrdevWriteAt d buf ppos va io) ↔
      ∃ n, kstrtoulFromUser 32 .decimal buf = .ok n := by
  have ret : (ledChrdevWriteAt d buf ppos va io).ret = buf.count := signed_count fits
  have word : (ledChrdevWriteAt d buf ppos va io).io.word = _ := ledChrdevWrite_word mapped buf
  constructor
  · intro drives
    cases parsed : kstrtoulFromUser 32 .decimal buf with
    | ok n => exact ⟨n, rfl⟩
    | error e =>
        have negative := (drives.rejected e parsed).1
        omega
  · rintro ⟨n, parsed⟩
    have number : writtenNumber buf = n := by
      rw [writtenNumber, parsed]
    rw [number] at word
    refine ⟨?_, ?_⟩
    · intro e refused
      rw [parsed] at refused
      cases refused
    · intro n' accepted
      obtain rfl : n = n' := Except.ok.inj (parsed.symm.trans accepted)
      refine ⟨ret, ?_, ?_, ?_⟩
      · intro a other
        rw [word, Function.update_of_ne other]
      · rw [word, Function.update_self, getLsbD_driven_pin]
      · intro i other
        rw [word, Function.update_self, getLsbD_driven_other d n _ other]

/-- The data register of LED 0 mapped at address 1, all pins at 1. -/
def lit : Mmio Dev :=
  { live := fun a => if a = 1 then some ⟨.led0, Dev.led0.pa .dr⟩ else none
    word := fun _ => 0xFFFFFFFF
    log := [] }

theorem write_drives_one : DrivesPin .led0 textOne 0 lit
    (ledChrdevWriteAt .led0 textOne 0 (fun _ => 1) lit) :=
  (write_drives_iff (by decide) 0 rfl).2 ⟨1, by decide⟩

/-- `on` is no number: it clears the pin, and both bytes count as written. -/
theorem invalid_text_drives :
    let buf : UserText := { readable := [111, 110], count := 2 }
    let w := ledChrdevWriteAt .led0 buf 0 (fun _ => 1) lit
    kstrtoulFromUser 32 .decimal buf = .error (-einval) ∧ w.ret = 2 ∧ w.ppos = 2 ∧
      (w.io.word 0x0209C000).getLsbD 4 = false ∧ ¬ DrivesPin .led0 buf 0 lit w := by
  refine ⟨by decide, by decide, by decide, by decide, ?_⟩
  intro drives
  have negative := (drives.rejected (-einval) (by decide)).1
  revert negative
  decide

end LearningKernel.MyClass
