/-
# Icm20608.Channels -- the seven channels of a sample, from the sensor to the application

The sensor holds a sample in 14 registers, each channel as a signed 16-bit number with
the high byte first: accelerometer, temperature, gyroscope.  `icm20608_readdata` makes
seven `int`s of them with the gyroscope first and the temperature last, `icm20608_read`
gives these to the user as bytes, and `icm20608App` takes them apart by position.

`channels_agree`: what the application names is what the sensor holds, on every
channel, and a sample is determined by what is read of it.
-/
import LearningKernel.Icm20608.Samples

namespace LearningKernel.Icm20608

open LearningKernel.Theory LearningKernel.Theory.CInt LearningKernel.Kernel

set_option autoImplicit false

/-! ## The sensor's encoding -/

/-- Seven signed numbers, in the order of the registers. -/
structure Sample where
  accelX : BitVec 16
  accelY : BitVec 16
  accelZ : BitVec 16
  temp : BitVec 16
  gyroX : BitVec 16
  gyroY : BitVec 16
  gyroZ : BitVec 16
  deriving DecidableEq

/-- The registers of a number: `_H`, then `_L`. -/
def highByte (v : BitVec 16) : UInt8 := ⟨v.extractLsb' 8 8⟩
def lowByte (v : BitVec 16) : UInt8 := ⟨v.extractLsb' 0 8⟩

/-- The number in two registers. -/
def word (high low : UInt8) : BitVec 16 := high.toBitVec ++ low.toBitVec

/-- What the sensor holds, from `ICM20_ACCEL_XOUT_H` to `ICM20_GYRO_ZOUT_L`. -/
def Sample.registers (s : Sample) : List UInt8 :=
  [s.accelX, s.accelY, s.accelZ, s.temp, s.gyroX, s.gyroY, s.gyroZ].flatMap
    fun v => [highByte v, lowByte v]

/-- The sensor with a sample in its data registers. -/
def Sample.measured (s : Sample) (regs : UInt8 → UInt8) : UInt8 → UInt8 := fun a =>
  if accelXoutH ≤ a then s.registers[(a - accelXoutH).toNat]?.getD (regs a) else regs a

/-- The sample that the data registers hold. -/
def sampleOf (regs : UInt8 → UInt8) : Sample where
  accelX := word (regs 0x3B) (regs 0x3C)
  accelY := word (regs 0x3D) (regs 0x3E)
  accelZ := word (regs 0x3F) (regs 0x40)
  temp := word (regs 0x41) (regs 0x42)
  gyroX := word (regs 0x43) (regs 0x44)
  gyroY := word (regs 0x45) (regs 0x46)
  gyroZ := word (regs 0x47) (regs 0x48)

/-! ## The application -/

/-- `gyro_x_adc` and the other variables of `main`. -/
structure Adc where
  gyroX : Int
  gyroY : Int
  gyroZ : Int
  accelX : Int
  accelY : Int
  accelZ : Int
  temp : Int
  deriving DecidableEq

/-- `databuf[i]`, an `int`. -/
def databufAt (mem : Nat → UInt8) (databuf i : Nat) : Int :=
  signed 32 (ofLE (loadUser mem (databuf + sizeofInt * i) sizeofInt))

/-- What `main` takes from `databuf` after a read that returned 0. -/
def icm20608App (mem : Nat → UInt8) (databuf : Nat) : Adc where
  gyroX := databufAt mem databuf 0
  gyroY := databufAt mem databuf 1
  gyroZ := databufAt mem databuf 2
  accelX := databufAt mem databuf 3
  accelY := databufAt mem databuf 4
  accelZ := databufAt mem databuf 5
  temp := databufAt mem databuf 6

/-- A sample as the application has it. -/
def Sample.adc (s : Sample) : Adc where
  gyroX := s.gyroX.toInt
  gyroY := s.gyroY.toInt
  gyroZ := s.gyroZ.toInt
  accelX := s.accelX.toInt
  accelY := s.accelY.toInt
  accelZ := s.accelZ.toInt
  temp := s.temp.toInt

/-- The seven `int`s of a read, in their order. -/
def Adc.ints (a : Adc) : List Int :=
  [a.gyroX, a.gyroY, a.gyroZ, a.accelX, a.accelY, a.accelZ, a.temp]

/-! ## One number -/

@[simp] theorem word_bytes (v : BitVec 16) : word (highByte v) (lowByte v) = v := by
  apply BitVec.eq_of_toNat_eq
  have fits := v.isLt
  simp only [word, highByte, lowByte, BitVec.toNat_append, BitVec.extractLsb'_toNat,
    Nat.shiftRight_eq_div_pow]
  rw [shiftLeft_or (by omega)]
  omega

@[simp] theorem highByte_word (high low : UInt8) : highByte (word high low) = high := by
  apply UInt8.toNat_inj.1
  have byte := high.toNat_lt
  have byte' := low.toNat_lt
  show ((high.toBitVec ++ low.toBitVec).extractLsb' 8 8).toNat = high.toNat
  simp only [BitVec.extractLsb'_toNat, BitVec.toNat_append, UInt8.toNat_toBitVec,
    Nat.shiftRight_eq_div_pow]
  rw [shiftLeft_or byte']
  omega

@[simp] theorem lowByte_word (high low : UInt8) : lowByte (word high low) = low := by
  apply UInt8.toNat_inj.1
  have byte' := low.toNat_lt
  show ((high.toBitVec ++ low.toBitVec).extractLsb' 0 8).toNat = low.toNat
  simp only [BitVec.extractLsb'_toNat, BitVec.toNat_append, UInt8.toNat_toBitVec,
    Nat.shiftRight_zero]
  rw [shiftLeft_or byte']
  omega

/-- The C expression is the signed number of the two registers. -/
theorem short_eq_toInt (high low : UInt8) : short high low = (word high low).toInt := by
  have number : (word high low).toNat = high.toNat <<< 8 ||| low.toNat := BitVec.toNat_append ..
  rw [short, signed, ← number, BitVec.ofInt_natCast, BitVec.ofNat_toNat, BitVec.setWidth_eq]

/-! ## A sample -/

theorem sampleOf_measured (s : Sample) (regs : UInt8 → UInt8) :
    sampleOf (s.measured regs) = s := by
  show Sample.mk (word (highByte _) (lowByte _)) (word (highByte _) (lowByte _))
    (word (highByte _) (lowByte _)) (word (highByte _) (lowByte _))
    (word (highByte _) (lowByte _)) (word (highByte _) (lowByte _))
    (word (highByte _) (lowByte _)) = s
  simp only [word_bytes]

/-- What is read is the sample that the registers hold. -/
theorem readdata_eq (regs : UInt8 → UInt8) (stack : Memory 14) :
    icm20608Readdata ⟨regs, 0⟩ stack = (sampleOf regs).adc.ints := by
  show [short (regs 0x43) (regs 0x44), short (regs 0x45) (regs 0x46),
    short (regs 0x47) (regs 0x48), short (regs 0x3B) (regs 0x3C), short (regs 0x3D) (regs 0x3E),
    short (regs 0x3F) (regs 0x40), short (regs 0x41) (regs 0x42)] = _
  simp only [short_eq_toInt]
  rfl

theorem ints_inj {a b : Adc} (same : a.ints = b.ints) : a = b := by
  obtain ⟨⟩ := a
  simp only [Adc.ints, List.cons.injEq] at same
  obtain ⟨rfl, rfl, rfl, rfl, rfl, rfl, rfl, -⟩ := same
  rfl

theorem adc_inj {s t : Sample} (same : s.adc = t.adc) : s = t := by
  obtain ⟨⟩ := s
  simp only [Sample.adc, Adc.mk.injEq, BitVec.toInt_inj] at same
  obtain ⟨rfl, rfl, rfl, rfl, rfl, rfl, rfl⟩ := same
  rfl

/-- The registers hold the encoding of what they hold. -/
theorem measured_sampleOf (regs : UInt8 → UInt8) : (sampleOf regs).measured regs = regs := by
  have held : (sampleOf regs).registers =
      (List.range 14).map fun i => regs (accelXoutH + UInt8.ofNat i) := by
    simp only [Sample.registers, sampleOf, List.flatMap_cons, List.flatMap_nil, highByte_word,
      lowByte_word]
    rfl
  funext a
  unfold Sample.measured
  split
  · rw [held, List.getElem?_map]
    by_cases inside : (a - accelXoutH).toNat < 14
    · rw [List.getElem?_range inside, Option.map_some, Option.getD_some, UInt8.ofNat_toNat,
        UInt8.add_comm, UInt8.sub_add_cancel]
    · rw [List.getElem?_eq_none (by simpa using inside)]
      rfl
  · rfl

/-- What is read is a sample exactly if the registers hold its encoding. -/
theorem readdata_eq_iff (s : Sample) (regs : UInt8 → UInt8) (stack : Memory 14) :
    icm20608Readdata ⟨regs, 0⟩ stack = s.adc.ints ↔ s.measured regs = regs := by
  rw [readdata_eq]
  constructor
  · intro same
    rw [← adc_inj (ints_inj same), measured_sampleOf]
  · intro holds
    rw [← holds, sampleOf_measured]

/-! ## The way to the application -/

theorem signed_bytes (v : BitVec 16) : signed 32 (ofLE (bytes v.toInt)) = v.toInt := by
  have lower := BitVec.le_toInt v
  have upper := BitVec.toInt_lt (x := v)
  exact signed_ofLE_toLE (n := sizeofInt) (by simp only [sizeofInt]; omega)
    (by simp only [sizeofInt]; omega)

/-- The `i`-th of a run of `int`s. -/
theorem part_ints {ints : List Int} {i : Nat} {v : Int} (here : ints[i]? = some v) :
    ((ints.flatMap bytes).drop (sizeofInt * i)).take sizeofInt = bytes v := by
  have full (w : Int) : (bytes w).length = sizeofInt := rfl
  induction ints generalizing i with
  | nil => cases here
  | cons w ints ih =>
      cases i with
      | zero =>
          cases here
          rw [List.flatMap_cons, Nat.mul_zero, List.drop_zero, List.take_left' (full v)]
      | succ i =>
          have rest := ih (i := i) here
          rw [List.flatMap_cons, Nat.mul_succ, Nat.add_comm, ← List.drop_drop,
            List.drop_left' (full w), rest]

/-- `databuf[i]` after a complete copy. -/
theorem databufAt_storeUser (mem : Nat → UInt8) (databuf : Nat) {ints : List Int} {i : Nat}
    {v : Int} (here : ints[i]? = some v) :
    databufAt (storeUser mem databuf (ints.flatMap bytes)) databuf i =
      signed 32 (ofLE (bytes v)) := by
  obtain ⟨inside, -⟩ := List.getElem?_eq_some_iff.1 here
  have length : (ints.flatMap bytes).length = sizeofInt * ints.length := by
    simp [List.length_flatMap, bytes, toLE, sizeofInt, Nat.mul_comm]
  have within : sizeofInt * i + sizeofInt ≤ (ints.flatMap bytes).length := by
    rw [length, ← Nat.mul_succ]
    exact Nat.mul_le_mul_left _ inside
  rw [databufAt, loadUser_storeUser_part mem databuf _ within, part_ints here]

/-- **The channels of a sample.**  With a sample in the sensor's registers, what is read
is gyroscope, accelerometer and temperature, and the application has each under its name;
and only a sensor with that sample gives it. -/
theorem channels_agree (s : Sample) (regs : UInt8 → UInt8) (stack : Memory 14) (buf : Nat)
    (mem : Nat → UInt8) :
    icm20608Readdata ⟨s.measured regs, 0⟩ stack =
        [s.gyroX.toInt, s.gyroY.toInt, s.gyroZ.toInt, s.accelX.toInt, s.accelY.toInt,
          s.accelZ.toInt, s.temp.toInt] ∧
      icm20608App (icm20608Read ⟨s.measured regs, 0⟩ stack 0 buf mem).2 buf = s.adc ∧
      (icm20608Readdata ⟨regs, 0⟩ stack = s.adc.ints ↔ s.measured regs = regs) := by
  have read : icm20608Readdata ⟨s.measured regs, 0⟩ stack = s.adc.ints := by
    rw [readdata_eq, sampleOf_measured]
  refine ⟨read, ?_, readdata_eq_iff s regs stack⟩
  have given (i : Nat) (v : BitVec 16) (here : s.adc.ints[i]? = some v.toInt) :
      databufAt (icm20608Read ⟨s.measured regs, 0⟩ stack 0 buf mem).2 buf i = v.toInt := by
    rw [icm20608Read, read, copyToUser_zero, databufAt_storeUser mem buf here, signed_bytes]
  simp only [icm20608App, given 0 s.gyroX rfl, given 1 s.gyroY rfl, given 2 s.gyroZ rfl,
    given 3 s.accelX rfl, given 4 s.accelY rfl, given 5 s.accelZ rfl, given 6 s.temp rfl]
  rfl

end LearningKernel.Icm20608
