/-
# Ap3216c.Ioctl -- light and proximity readings for the user

`ap3216c_ioctl` copies its local `data` to the user at the end of every path, also
of those that never set it.  `ioctl_reveals_iff` says what the user gets: what
the sensor said, exactly if there is a reading and the copy is complete, or if
the bytes copied were in the user's memory already; and two calls that differ in
what the stack held before differ exactly if there is no reading and the stack
bytes copied differ.
-/
import LearningKernel.Theory.LittleEndian
import LearningKernel.Theory.Memory

namespace LearningKernel.Ap3216c

open LearningKernel.Theory

set_option autoImplicit false

/-! ## The sensor -/

def irDataLow : UInt8 := 0x0A
def irDataHigh : UInt8 := 0x0B
def alsDataLow : UInt8 := 0x0C
def alsDataHigh : UInt8 := 0x0D
def psDataLow : UInt8 := 0x0E
def psDataHigh : UInt8 := 0x0F

/-- The byte that `ap3216c_read_reg` gets from a register, `none` if the transfer
fails. -/
abbrev Bus := UInt8 → Option UInt8

/-- Two registers, the second only after the first. -/
def readPair (bus : Bus) (low high : UInt8) : Option (UInt8 × UInt8) :=
  (bus low).bind fun lowData => (bus high).map fun highData => (lowData, highData)

def decodeIr (low high : UInt8) : UInt16 :=
  ((high.toUInt32 <<< 2) ||| (low.toUInt32 &&& 0x03)).toUInt16

def decodeAls (low high : UInt8) : UInt16 := ((high.toUInt32 <<< 8) ||| low.toUInt32).toUInt16

def decodePs (low high : UInt8) : UInt16 :=
  (((high.toUInt32 &&& 0x3F) <<< 4) ||| (low.toUInt32 &&& 0x0F)).toUInt16

/-- The sensor marks the proximity reading as invalid. -/
def psInvalid (low : UInt8) : Bool := low.toUInt32 &&& 0x40 ≠ 0

/-! ## The driver: each read answers, and leaves `data` as it was if it fails -/

def ap3216cReadIrData (bus : Bus) (data : UInt16) : Int × UInt16 :=
  match readPair bus irDataLow irDataHigh with
  | none => (-1, data)
  | some (low, high) => (0, decodeIr low high)

def ap3216cReadAlsData (bus : Bus) (data : UInt16) : Int × UInt16 :=
  match readPair bus alsDataLow alsDataHigh with
  | none => (-1, data)
  | some (low, high) => (0, decodeAls low high)

def ap3216cReadPsData (bus : Bus) (data : UInt16) : Int × UInt16 :=
  match readPair bus psDataLow psDataHigh with
  | none => (-1, data)
  | some (low, high) => if psInvalid low then (-1, data) else (0, decodePs low high)

/-- `_IOR('D', nr, unsigned short)`. -/
def ior (nr : UInt32) : UInt32 := 0x80024400 ||| nr

def getIr : UInt32 := ior 0
def getAls : UInt32 := ior 1
def getPs : UInt32 := ior 2

/-- The switch of `ap3216c_ioctl`. -/
def ioctlSwitch (bus : Bus) (cmd : UInt32) (data : UInt16) : Int × UInt16 :=
  if cmd = getIr then ap3216cReadIrData bus data
  else if cmd = getAls then ap3216cReadAlsData bus data
  else if cmd = getPs then ap3216cReadPsData bus data
  else (-1, data)

/-- The bytes of a `u16`. -/
def bytes (data : UInt16) : List UInt8 := toLE 2 data.toNat

/-- `ap3216c_ioctl`, where `stack` is what `data` holds before it is set and the
last `uncopied` bytes cannot be written to the user. -/
def ap3216cIoctl (bus : Bus) (uncopied : Nat) (stack : UInt16) (cmd : UInt32) (arg : Nat)
    (mem : Nat → UInt8) : Int × (Nat → UInt8) :=
  let (ret, data) := ioctlSwitch bus cmd stack
  let mem := storeUser mem arg (copyToUser (bytes data) uncopied)
  if uncopied ≠ 0 then (-1, mem) else (ret, mem)

/-! ## What the sensor said -/

/-- The reading that a command asks for, if there is one. -/
def reading (bus : Bus) (cmd : UInt32) : Option UInt16 :=
  if cmd = getIr then (readPair bus irDataLow irDataHigh).map fun p => decodeIr p.1 p.2
  else if cmd = getAls then (readPair bus alsDataLow alsDataHigh).map fun p => decodeAls p.1 p.2
  else if cmd = getPs then
    ((readPair bus psDataLow psDataHigh).filter fun p => !psInvalid p.1).map fun p =>
      decodePs p.1 p.2
  else none

/-- The switch sets `data` exactly if there is a reading, and answers 0 then. -/
theorem ioctlSwitch_eq (bus : Bus) (cmd : UInt32) (stack : UInt16) :
    ioctlSwitch bus cmd stack =
      ((reading bus cmd).elim (-1) fun _ => 0, (reading bus cmd).getD stack) := by
  unfold ioctlSwitch reading
  split
  · unfold ap3216cReadIrData
    cases readPair bus irDataLow irDataHigh <;> rfl
  · split
    · unfold ap3216cReadAlsData
      cases readPair bus alsDataLow alsDataHigh <;> rfl
    · split
      · unfold ap3216cReadPsData
        cases readPair bus psDataLow psDataHigh with
        | none => rfl
        | some p =>
            cases invalid : psInvalid p.1 <;> simp [Option.filter, invalid]
      · rfl

theorem length_copied (data : UInt16) (uncopied : Nat) :
    (copyToUser (bytes data) uncopied).length = 2 - uncopied := by
  simp [copyToUser, bytes, toLE]

/-- The user's memory after a call. -/
theorem ioctl_mem (bus : Bus) (uncopied : Nat) (stack : UInt16) (cmd : UInt32) (arg : Nat)
    (mem : Nat → UInt8) :
    (ap3216cIoctl bus uncopied stack cmd arg mem).2 =
      storeUser mem arg (copyToUser (bytes ((reading bus cmd).getD stack)) uncopied) := by
  unfold ap3216cIoctl
  rw [ioctlSwitch_eq]
  dsimp only
  split <;> rfl

/-- And its answer: 0 for a complete reading. -/
theorem ioctl_ret (bus : Bus) (uncopied : Nat) (stack : UInt16) (cmd : UInt32) (arg : Nat)
    (mem : Nat → UInt8) :
    (ap3216cIoctl bus uncopied stack cmd arg mem).1 =
      if reading bus cmd ≠ none ∧ uncopied = 0 then 0 else -1 := by
  unfold ap3216cIoctl
  rw [ioctlSwitch_eq]
  by_cases complete : uncopied = 0
  · cases reading bus cmd <;> simp [complete]
  · simp [complete]

/-- A call that fails leaves the user's memory alone; one that answers 0 stores the
reading. -/
structure OnlySensor (bus : Bus) (cmd : UInt32) (arg : Nat) (mem : Nat → UInt8)
    (result : Int × (Nat → UInt8)) : Prop where
  failed : result.1 ≠ 0 → result.2 = mem
  stored : result.1 = 0 →
    ∃ value, reading bus cmd = some value ∧ result.2 = storeUser mem arg (bytes value)

theorem onlySensor_iff (bus : Bus) (uncopied : Nat) (stack : UInt16) (cmd : UInt32) (arg : Nat)
    (mem : Nat → UInt8) :
    OnlySensor bus cmd arg mem (ap3216cIoctl bus uncopied stack cmd arg mem) ↔
      (reading bus cmd ≠ none ∧ uncopied = 0) ∨
        loadUser mem arg (2 - uncopied) =
          copyToUser (bytes ((reading bus cmd).getD stack)) uncopied := by
  have answer := ioctl_ret bus uncopied stack cmd arg mem
  have after := ioctl_mem bus uncopied stack cmd arg mem
  by_cases complete : reading bus cmd ≠ none ∧ uncopied = 0
  · obtain ⟨read, rfl⟩ := complete
    obtain ⟨value, here⟩ := Option.ne_none_iff_exists'.1 read
    rw [if_pos ⟨read, rfl⟩] at answer
    rw [here, copyToUser_zero] at after
    constructor
    · intro _
      exact Or.inl ⟨read, rfl⟩
    · intro _
      exact ⟨fun fails => absurd answer fails, fun _ => ⟨value, here, after⟩⟩
  · rw [if_neg complete] at answer
    have same : (ap3216cIoctl bus uncopied stack cmd arg mem).2 = mem ↔
        loadUser mem arg (2 - uncopied) =
          copyToUser (bytes ((reading bus cmd).getD stack)) uncopied := by
      rw [after, storeUser_eq_self_iff, length_copied]
    rw [or_iff_right complete, ← same]
    constructor
    · intro only
      apply only.failed
      rw [answer]
      decide
    · intro unchanged
      refine ⟨fun _ => unchanged, ?_⟩
      intro success
      rw [answer] at success
      exact absurd success (by decide)

/-- **What an ioctl reveals.**  Only what the sensor said, exactly if there is a
reading and the copy is complete, or if what is copied was there already.  The
answer does not depend on the stack; what is stored does, exactly if there is no
reading and the bytes copied differ. -/
theorem ioctl_reveals_iff (bus : Bus) (uncopied : Nat) (stack stack' : UInt16) (cmd : UInt32)
    (arg : Nat) (mem : Nat → UInt8) :
    (OnlySensor bus cmd arg mem (ap3216cIoctl bus uncopied stack cmd arg mem) ↔
      (reading bus cmd ≠ none ∧ uncopied = 0) ∨
        loadUser mem arg (2 - uncopied) =
          copyToUser (bytes ((reading bus cmd).getD stack)) uncopied) ∧
    (ap3216cIoctl bus uncopied stack cmd arg mem).1 =
      (ap3216cIoctl bus uncopied stack' cmd arg mem).1 ∧
    ((ap3216cIoctl bus uncopied stack cmd arg mem).2 =
        (ap3216cIoctl bus uncopied stack' cmd arg mem).2 ↔
      reading bus cmd ≠ none ∨
        copyToUser (bytes stack) uncopied = copyToUser (bytes stack') uncopied) := by
  refine ⟨onlySensor_iff bus uncopied stack cmd arg mem, ?_, ?_⟩
  · rw [ioctl_ret, ioctl_ret]
  · rw [ioctl_mem, ioctl_mem, storeUser_inj (by rw [length_copied, length_copied])]
    cases reading bus cmd <;> simp

/-- An unknown command answers -1 and stores two bytes of the stack. -/
theorem ioctl_reveals_stack :
    let call := fun stack => ap3216cIoctl (fun _ => none) 0 stack 0 0 fun _ => 0
    (call 0xBEEF).1 = -1 ∧ loadUser (call 0xBEEF).2 0 2 = [0xEF, 0xBE] ∧
      loadUser (call 0).2 0 2 = [0, 0] := by
  decide

end LearningKernel.Ap3216c
