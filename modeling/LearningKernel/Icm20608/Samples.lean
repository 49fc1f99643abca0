/-
# Icm20608.Samples -- what the motion sensor's readers are given

`icm20608_readdata` fetches the 14 data registers in one SPI transfer into a buffer on
its stack and decodes that buffer, without looking at the answer of the transfer;
`icm20608_read` copies the result out and returns 0.  The attribute `temp` fetches two
of the registers by itself, and decodes them in its own way.

* `read_reports_iff`: a read reports what went wrong exactly if nothing does, and
  depends on the stack exactly if the transfer fails and something is copied;
* `temp_agrees_iff`: the two temperatures are the same exactly if the sensor's is not
  negative.
-/
import LearningKernel.Kernel.Text
import LearningKernel.Theory.LittleEndian
import LearningKernel.Theory.Memory

namespace LearningKernel.Icm20608

open LearningKernel.Theory LearningKernel.Theory.CInt LearningKernel.Kernel

set_option autoImplicit false

/-! ## The driver -/

/-- `ICM20_ACCEL_XOUT_H`. -/
def accelXoutH : UInt8 := 0x3B

/-- `ICM20_TEMP_OUT_H`. -/
def tempOutH : UInt8 := 0x41

/-- The registers of the sensor, and what its transfers answer: 0, or an error. -/
structure Spi where
  regs : UInt8 → UInt8
  ret : Int

/-- `spi_write_then_read` of a command: bit 7 makes it a read of registers from the given
one on.  A transfer that fails stores nothing. -/
def spiWriteThenRead {n : Nat} (spi : Spi) (command : UInt8) (buf : Memory n) : Int × Memory n :=
  if spi.ret = 0 then (0, ⟨fun i => spi.regs ((command &&& 0x7F) + UInt8.ofNat i)⟩)
  else (spi.ret, buf)

def icm20608ReadRegs {n : Nat} (spi : Spi) (reg : UInt8) (buf : Memory n) : Int × Memory n :=
  spiWriteThenRead spi (reg ||| 0x80) buf

/-- `(signed short)((high << 8) | low)`. -/
def short (high low : UInt8) : Int := signed 16 (high.toNat <<< 8 ||| low.toNat : Nat)

/-- The `int`s made of the 14 bytes: gyroscope, accelerometer, temperature. -/
def decode (data : Memory 14) : List Int :=
  [short (data.get 8) (data.get 9), short (data.get 10) (data.get 11),
    short (data.get 12) (data.get 13), short (data.get 0) (data.get 1),
    short (data.get 2) (data.get 3), short (data.get 4) (data.get 5),
    short (data.get 6) (data.get 7)]

/-- `icm20608_readdata`, where `stack` is what `data` holds before. -/
def icm20608Readdata (spi : Spi) (stack : Memory 14) : List Int :=
  decode (icm20608ReadRegs spi accelXoutH stack).2

/-- The bytes of an `int`. -/
def bytes (v : Int) : List UInt8 := toLE sizeofInt (unsigned 32 v).toNat

/-- `icm20608_read`: the last `uncopied` bytes cannot be written to the user. -/
def icm20608Read (spi : Spi) (stack : Memory 14) (uncopied buf : Nat) (mem : Nat → UInt8) :
    Int × (Nat → UInt8) :=
  let data := icm20608Readdata spi stack
  (0, storeUser mem buf (copyToUser (data.flatMap bytes) uncopied))

/-- `icm20608_read_temp_data`: `tmp` and `*data` are `u16`. -/
def icm20608ReadTempData (spi : Spi) (stack : Memory 2) : Int × Int :=
  let (ret, tmp) := icm20608ReadRegs spi tempOutH stack
  let tmp := ofLE (tmp.load 0 2)
  (ret, unsigned 16 (signed 16 (tmp <<< 8 ||| tmp >>> 8 : Nat)))

/-- `show_temp`. -/
def showTemp (spi : Spi) (stack : Memory 2) : List UInt8 :=
  let (ret, data) := icm20608ReadTempData spi stack
  if ret ≠ 0 then formatInt (-1) ++ [10] else formatInt data ++ [10]

/-! ## Reads -/

theorem length_sample (spi : Spi) (stack : Memory 14) :
    ((icm20608Readdata spi stack).flatMap bytes).length = 28 := rfl

/-- A transfer that succeeds leaves nothing of the stack. -/
theorem readdata_of_success {spi : Spi} (success : spi.ret = 0) (stack stack' : Memory 14) :
    icm20608Readdata spi stack = icm20608Readdata spi stack' := by
  simp only [icm20608Readdata, icm20608ReadRegs, spiWriteThenRead, if_pos success]

/-- One that fails leaves all of it. -/
theorem readdata_of_failure {spi : Spi} (failure : spi.ret ≠ 0) (stack : Memory 14) :
    icm20608Readdata spi stack = decode stack := by
  rw [icm20608Readdata, icm20608ReadRegs, spiWriteThenRead, if_neg failure]

/-- Two reads that differ in the stack only agree, if a transfer fails, where nothing is
copied. -/
theorem read_determined_iff (spi : Spi) (uncopied buf : Nat) (mem : Nat → UInt8) :
    (∀ stack stack', icm20608Read spi stack uncopied buf mem =
        icm20608Read spi stack' uncopied buf mem) ↔ spi.ret = 0 ∨ 28 ≤ uncopied := by
  constructor
  · intro same
    by_contra broken
    obtain ⟨failure, copies⟩ := not_or.1 broken
    -- the first byte copied is the low byte of the first `int`, which is `data[9]`
    let one : Memory 14 := ⟨fun i => if i.val = 9 then 1 else 0⟩
    have stored := congrArg Prod.snd (same (Memory.zero 14) one)
    simp only [icm20608Read, readdata_of_failure failure] at stored
    rw [storeUser_inj (by simp [copyToUser]; rfl)] at stored
    have first := congrArg List.head? stored
    have some_copied : 28 - uncopied ≠ 0 := by omega
    have length (data : Memory 14) : ((decode data).flatMap bytes).length = 28 := rfl
    simp only [copyToUser, length, List.head?_take, if_neg some_copied] at first
    revert first
    decide
  · intro determined stack stack'
    rcases determined with success | nothing
    · simp only [icm20608Read, readdata_of_success success stack stack']
    · have none_copied : 28 - uncopied = 0 := by omega
      simp only [icm20608Read, copyToUser, length_sample, none_copied, List.take_zero]

/-- A read reports that a transfer or the copy failed, and gives the user nothing that
was on the stack. -/
structure Reports (spi : Spi) (uncopied buf : Nat) (mem : Nat → UInt8) : Prop where
  negative : spi.ret ≠ 0 ∨ uncopied ≠ 0 →
    ∀ stack, (icm20608Read spi stack uncopied buf mem).1 < 0
  determined : ∀ stack stack', icm20608Read spi stack uncopied buf mem =
    icm20608Read spi stack' uncopied buf mem

/-- **What a read reports.**  A read reports as it should exactly if nothing fails; and
it reveals the stack exactly if the transfer fails and something is copied. -/
theorem read_reports_iff (spi : Spi) (uncopied buf : Nat) (mem : Nat → UInt8) :
    (Reports spi uncopied buf mem ↔ spi.ret = 0 ∧ uncopied = 0) ∧
      ((∀ stack stack', icm20608Read spi stack uncopied buf mem =
          icm20608Read spi stack' uncopied buf mem) ↔ spi.ret = 0 ∨ 28 ≤ uncopied) := by
  refine ⟨?_, read_determined_iff spi uncopied buf mem⟩
  constructor
  · intro reports
    by_contra fails
    have negative := reports.negative (by omega) (Memory.zero 14)
    exact absurd negative (by simp [icm20608Read])
  · rintro ⟨success, complete⟩
    refine ⟨?_, (read_determined_iff spi uncopied buf mem).2 (Or.inl success)⟩
    rintro (failure | incomplete)
    · exact absurd success failure
    · exact absurd complete incomplete

/-- The transfer fails, and the user gets what the stack held as a sample. -/
theorem failed_transfer_reveals :
    let spi : Spi := { regs := fun _ => 0, ret := -eio }
    let call := fun stack => icm20608Read spi stack 0 0 fun _ => 0
    (call ⟨fun _ => 0xAB⟩).1 = 0 ∧
      loadUser (call ⟨fun _ => 0xAB⟩).2 0 4 = [0xAB, 0xAB, 0xFF, 0xFF] ∧
      loadUser (call (Memory.zero 14)).2 0 4 = [0, 0, 0, 0] ∧
      ¬ Reports spi 0 0 fun _ => 0 := by
  refine ⟨rfl, by decide, by decide, ?_⟩
  intro reports
  have negative := reports.negative (Or.inl (by decide)) (Memory.zero 14)
  exact absurd negative (by decide)

/-! ## The temperature -/

/-- The sensor's reading as a number. -/
theorem short_eq (high low : UInt8) :
    short high low =
      if high.toNat < 128 then (high.toNat * 256 + low.toNat : Int)
      else high.toNat * 256 + low.toNat - 65536 := by
  have byte := high.toNat_lt
  have byte' := low.toNat_lt
  rw [short, shiftLeft_or byte']
  have residue := signed_emod (w := 16) (x := (high.toNat * 256 + low.toNat : Nat))
  have lower := le_signed (w := 16) (x := (high.toNat * 256 + low.toNat : Nat))
  have upper := signed_lt (w := 16) (x := (high.toNat * 256 + low.toNat : Nat)) (by decide)
  push_cast at residue lower upper ⊢
  split <;> omega

/-- The swapped bytes, as the `u16` that is printed. -/
theorem swapped_eq (high low : UInt8) :
    unsigned 16 (signed 16
        (ofLE [high, low] <<< 8 ||| ofLE [high, low] >>> 8 : Nat)) =
      (high.toNat * 256 + low.toNat : Int) := by
  have byte := high.toNat_lt
  have byte' := low.toNat_lt
  have number : ofLE [high, low] = high.toNat + 256 * low.toNat := rfl
  have down : ofLE [high, low] >>> 8 = low.toNat := by
    rw [number, Nat.shiftRight_eq_div_pow]
    omega
  rw [down, shiftLeft_or byte', number, unsigned, signed_emod]
  push_cast
  omega

theorem readdata_temp (regs : UInt8 → UInt8) (stack : Memory 14) :
    (icm20608Readdata ⟨regs, 0⟩ stack)[6]? = some (short (regs 0x41) (regs 0x42)) := rfl

theorem showTemp_eq (regs : UInt8 → UInt8) (stack : Memory 2) :
    showTemp ⟨regs, 0⟩ stack =
      formatInt ((regs 0x41).toNat * 256 + (regs 0x42).toNat) ++ [10] := by
  have bytes : (icm20608ReadRegs ⟨regs, 0⟩ tempOutH stack).2.load 0 2 = [regs 0x41, regs 0x42] :=
    rfl
  have ret : (icm20608ReadRegs ⟨regs, 0⟩ tempOutH stack).1 = 0 := rfl
  rw [showTemp, icm20608ReadTempData]
  simp only [bytes, ret, swapped_eq, ne_eq, not_true_eq_false, if_false]

/-- **Two temperatures.**  The attribute prints the temperature of a read exactly if the
high byte has its upper bit clear: it prints the 16 bits without their sign. -/
theorem temp_agrees_iff (regs : UInt8 → UInt8) (stack : Memory 14) (stack' : Memory 2) :
    (∃ temp, (icm20608Readdata ⟨regs, 0⟩ stack)[6]? = some temp ∧
        showTemp ⟨regs, 0⟩ stack' = formatInt temp ++ [10]) ↔ (regs tempOutH).toNat < 128 := by
  have byte' := (regs 0x42).toNat_lt
  rw [readdata_temp, showTemp_eq]
  simp only [Option.some.injEq, exists_eq_left', tempOutH]
  constructor
  · intro same
    by_contra negative
    rw [short_eq, if_neg negative] at same
    have byte := (regs 0x41).toNat_lt
    exact formatInt_ne (by omega) (by omega) [10] same.symm
  · intro nonneg
    rw [short_eq, if_pos nonneg]

/-- At 0x8000 the one says -32768 and the other 32768. -/
theorem temp_differs :
    let regs : UInt8 → UInt8 := fun a => if a = tempOutH then 0x80 else 0
    (icm20608Readdata ⟨regs, 0⟩ (Memory.zero 14))[6]? = some (-32768) ∧
      showTemp ⟨regs, 0⟩ (Memory.zero 2) = formatInt 32768 ++ [10] ∧
      formatInt 32768 ++ [10] ≠ formatInt (-32768) ++ [10] := by
  decide

end LearningKernel.Icm20608
