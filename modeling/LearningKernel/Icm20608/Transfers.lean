/-
# Icm20608.Transfers -- registers written and read as SPI frames

The first byte of a frame is a command: bit 7 asks for a read, the other bits are the
register it starts at.  `icm20608_write_regs` puts the bytes to write behind the command
in a frame that it allocates, `icm20608_read_regs` sends a command alone and clocks the
answer in.  Here the sensor is its register file, and each frame is served as a whole.

* `readRegsOn_eq`: in the file, a read is the `icm20608_read_regs` of `Icm20608.Samples`
  and writes nothing;
* `write_reads_back`: what is written is read back, and is all that is written.
-/
import LearningKernel.Icm20608.Samples

namespace LearningKernel.Icm20608

open LearningKernel.Theory LearningKernel.Kernel

set_option autoImplicit false

/-! ## The sensor -/

/-- How many registers there are. -/
def regCount : Nat := 128

/-- The register that a command starts at. -/
def startOf (command : UInt8) : Nat := (command &&& 0x7F).toNat

/-- The sensor takes a frame and gives the `rx` bytes clocked after it: bit 7 of the
command selects a read, and the address advances with each byte. -/
def serveFrame (file : Memory regCount) (tx : List UInt8) (rx : Nat) :
    List UInt8 × Memory regCount :=
  match tx with
  | [] => ([], file)
  | command :: data =>
      if command &&& 0x80 = 0 then ([], file.store (startOf command) data)
      else (file.load (startOf command) rx, file)

/-- How a transfer ends: 0, or an error, before which `through` bytes of the frame came
through. -/
structure Wire where
  ret : Int
  through : Nat

/-- The transfer succeeds. -/
def Wire.sound : Wire := { ret := 0, through := 0 }

/-! ## The driver -/

/-- `spi_write`. -/
def spiWrite (file : Memory regCount) (wire : Wire) (tx : List UInt8) : Int × Memory regCount :=
  if wire.ret = 0 then (0, (serveFrame file tx 0).2)
  else (wire.ret, (serveFrame file (tx.take wire.through) 0).2)

/-- `icm20608_write_regs`, where `len` is a `u8`; `allocated` is that `kzalloc` gives the
frame. -/
def icm20608WriteRegs (file : Memory regCount) (allocated : Bool) (wire : Wire) (reg : UInt8)
    (buf : List UInt8) (len : UInt8) : Int × Memory regCount :=
  if allocated then spiWrite file wire ((reg &&& ~~~0x80) :: buf.take len.toNat) else (-1, file)

/-- `icm20608_read_regs` of the register file. -/
def icm20608ReadRegsOn {n : Nat} (file : Memory regCount) (wire : Wire) (reg : UInt8)
    (buf : Memory n) : Int × Memory n × Memory regCount :=
  let tx := [reg ||| 0x80]
  if wire.ret = 0 then
    let (rx, file) := serveFrame file tx n
    (0, buf.store 0 rx, file)
  else (wire.ret, buf, (serveFrame file (tx.take wire.through) 0).2)

/-! ## Commands -/

theorem readCommand_flag (reg : UInt8) : (reg ||| 0x80) &&& 0x80 ≠ 0 := by
  intro cleared
  have bit : ((reg.toNat ||| 128) &&& 128).testBit 7 = true := by
    rw [Nat.testBit_and, Nat.testBit_or, show (128 : Nat).testBit 7 = true from rfl,
      Bool.or_true, Bool.and_true]
  have number : (reg.toNat ||| 128) &&& 128 = 0 := congrArg UInt8.toNat cleared
  rw [number, Nat.zero_testBit] at bit
  cases bit

theorem writeCommand_flag (reg : UInt8) : (reg &&& ~~~0x80) &&& 0x80 = 0 := by
  rw [UInt8.and_assoc]
  exact UInt8.and_zero

theorem startOf_eq (reg : UInt8) : startOf reg = reg.toNat % 128 := by
  rw [startOf, UInt8.toNat_and]
  exact Nat.and_two_pow_sub_one_eq_mod reg.toNat 7

theorem startOf_readCommand (reg : UInt8) : startOf (reg ||| 0x80) = reg.toNat % 128 := by
  rw [← startOf_eq, startOf, startOf, UInt8.toNat_and, UInt8.toNat_and, UInt8.toNat_or,
    Nat.and_or_distrib_right]
  exact Nat.or_zero _

theorem startOf_writeCommand (reg : UInt8) : startOf (reg &&& ~~~0x80) = reg.toNat % 128 := by
  rw [← startOf_eq, startOf, UInt8.and_assoc]
  rfl

/-! ## Reads and writes -/

/-- The file behind the bus of `Icm20608.Samples`. -/
def spiOf (file : Memory regCount) (wire : Wire) : Spi :=
  { regs := fun a => file.get a.toNat, ret := wire.ret }

/-- What a read that succeeds gives of the file. -/
theorem readRegsOn_success {n : Nat} (file : Memory regCount) {wire : Wire}
    (success : wire.ret = 0) (reg : UInt8) (buf : Memory n) :
    icm20608ReadRegsOn file wire reg buf =
      (0, buf.store 0 (file.load (reg.toNat % 128) n), file) := by
  simp only [icm20608ReadRegsOn, if_pos success, serveFrame, if_neg (readCommand_flag reg),
    startOf_readCommand]

/-- A read that fails stores nothing, and no read writes to the sensor. -/
theorem readRegsOn_failure {n : Nat} (file : Memory regCount) {wire : Wire}
    (failure : wire.ret ≠ 0) (reg : UInt8) (buf : Memory n) :
    icm20608ReadRegsOn file wire reg buf = (wire.ret, buf, file) := by
  simp only [icm20608ReadRegsOn, if_neg failure]
  cases wire.through with
  | zero => rfl
  | succ k => simp only [List.take_succ_cons, serveFrame, if_neg (readCommand_flag reg)]

/-- Within the file, a read is the one on the bus that has the file's registers. -/
theorem readRegsOn_eq {n : Nat} (file : Memory regCount) (wire : Wire) (reg : UInt8)
    (buf : Memory n) (fits : reg.toNat % 128 + n ≤ regCount) :
    icm20608ReadRegsOn file wire reg buf =
      ((icm20608ReadRegs (spiOf file wire) reg buf).1,
        (icm20608ReadRegs (spiOf file wire) reg buf).2, file) := by
  unfold regCount at fits
  by_cases success : wire.ret = 0
  · have command : ((reg ||| 0x80) &&& 0x7F).toNat = reg.toNat % 128 := startOf_readCommand reg
    rw [readRegsOn_success file success, icm20608ReadRegs, spiWriteThenRead,
      if_pos (show (spiOf file wire).ret = 0 from success)]
    refine congrArg (fun got => (0, got, file)) (Memory.ext_get ?_)
    intro i inside
    have address : ((reg ||| 0x80) &&& 0x7F) + UInt8.ofNat i =
        UInt8.ofNat (reg.toNat % 128 + i) := by
      apply UInt8.toNat_inj.1
      rw [UInt8.toNat_add, command, UInt8.toNat_ofNat', UInt8.toNat_ofNat']
      omega
    have small : (UInt8.ofNat (reg.toNat % 128 + i)).toNat = reg.toNat % 128 + i := by
      rw [UInt8.toNat_ofNat']
      omega
    have held : (file.load (reg.toNat % 128) n)[i]? = some (file.get (reg.toNat % 128 + i)) := by
      simp only [Memory.load, List.getElem?_map, List.getElem?_range inside, Option.map_some]
    rw [Memory.get_store _ _ _ inside, if_pos (Nat.zero_le i), Nat.sub_zero, held]
    refine Eq.trans ?_ (dif_pos inside).symm
    simp only [spiOf, address, small, Option.getD_some]
  · rw [readRegsOn_failure file success, icm20608ReadRegs, spiWriteThenRead,
      if_neg (show (spiOf file wire).ret ≠ 0 from success)]
    rfl

/-- What a write that succeeds leaves. -/
theorem writeRegs_success (file : Memory regCount) {wire : Wire} (success : wire.ret = 0)
    (reg : UInt8) {buf : List UInt8} (counted : buf.length < 256) :
    icm20608WriteRegs file true wire reg buf (UInt8.ofNat buf.length) =
      (0, file.store (reg.toNat % 128) buf) := by
  have whole : (UInt8.ofNat buf.length).toNat = buf.length := by
    rw [UInt8.toNat_ofNat', Nat.mod_eq_of_lt counted]
  simp only [icm20608WriteRegs, if_pos, spiWrite, if_pos success, serveFrame,
    if_pos (writeCommand_flag reg), startOf_writeCommand, whole, List.take_length]

/-- **What is written is read back.**  A write that succeeds stores its bytes from the
register on and nothing else, and a read that follows it and succeeds gives them and
changes nothing; without a frame, nothing is written and an error returned. -/
theorem write_reads_back (file : Memory regCount) (reg : UInt8) (buf : List UInt8)
    (fits : reg.toNat % 128 + buf.length ≤ regCount) {wire wire' : Wire}
    (success : wire.ret = 0) (success' : wire'.ret = 0) :
    (∃ written,
        icm20608WriteRegs file true wire reg buf (UInt8.ofNat buf.length) = (0, written) ∧
        written.load (reg.toNat % 128) buf.length = buf ∧
        (∀ i, i < reg.toNat % 128 ∨ reg.toNat % 128 + buf.length ≤ i →
          written.get i = file.get i) ∧
        ∀ stack : Memory buf.length, ∃ got,
          icm20608ReadRegsOn written wire' reg stack = (0, got, written) ∧
            got.load 0 buf.length = buf) ∧
      ∀ wire, (icm20608WriteRegs file false wire reg buf (UInt8.ofNat buf.length)).1 < 0 ∧
        (icm20608WriteRegs file false wire reg buf (UInt8.ofNat buf.length)).2 = file := by
  have counted : buf.length < 256 := by
    unfold regCount at fits
    omega
  have refused : (-1 : Int) < 0 := by decide
  refine ⟨⟨file.store (reg.toNat % 128) buf, writeRegs_success file success reg counted, ?_, ?_,
    ?_⟩, fun wire => ⟨refused, rfl⟩⟩
  · exact Memory.load_store file _ buf fits
  · intro i outside
    exact Memory.get_store_outside file _ buf outside
  · intro stack
    refine ⟨stack.store 0 buf, ?_, Memory.load_store stack 0 buf (by omega)⟩
    rw [readRegsOn_success _ success', Memory.load_store file _ buf fits]

/-- Two bytes at the end of the file, by an address with bit 7 set. -/
theorem write_reads_back_end :
    let file := Memory.zero regCount
    (∃ written, icm20608WriteRegs file true .sound 0xFE [1, 2] 2 = (0, written) ∧
        written.load 126 2 = [1, 2] ∧
        (∀ i, i < 126 ∨ 126 + 2 ≤ i → written.get i = file.get i) ∧
        ∀ stack : Memory 2, ∃ got,
          icm20608ReadRegsOn written .sound 0xFE stack = (0, got, written) ∧
            got.load 0 2 = [1, 2]) ∧
      ∀ wire, (icm20608WriteRegs file false wire 0xFE [1, 2] 2).1 < 0 ∧
        (icm20608WriteRegs file false wire 0xFE [1, 2] 2).2 = file :=
  write_reads_back (Memory.zero regCount) 0xFE [1, 2] (by decide) rfl rfl

end LearningKernel.Icm20608
