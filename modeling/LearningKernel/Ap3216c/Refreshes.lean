/-
# Ap3216c.Refreshes -- readings of a sensor that goes on measuring

A reading is made of two registers, which the sensor refreshes together while the
driver fetches them by two transfers.  A `Course` places the refreshes around the
transfers of one call.  `sensed_iff`: the value stored is that of a pair which the
sensor held during the call exactly if some such pair joins the bits taken from the low
byte by the first transfer to those taken from the high byte by the second, as one does
unless both parts change between the transfers.
-/
import LearningKernel.Ap3216c.Ioctl

namespace LearningKernel.Ap3216c

open LearningKernel.Theory

set_option autoImplicit false

/-! ## The three readings -/

inductive Quantity where
  | ir
  | als
  | ps
  deriving DecidableEq

namespace Quantity

/-- The registers of the pair. -/
def lowReg : Quantity → UInt8
  | ir => irDataLow
  | als => alsDataLow
  | ps => psDataLow

def highReg : Quantity → UInt8
  | ir => irDataHigh
  | als => alsDataHigh
  | ps => psDataHigh

/-- The read function. -/
def read : Quantity → Bus → UInt16 → Int × UInt16
  | ir => ap3216cReadIrData
  | als => ap3216cReadAlsData
  | ps => ap3216cReadPsData

/-- How it decodes a pair. -/
def decode : Quantity → UInt8 → UInt8 → UInt16
  | ir => decodeIr
  | als => decodeAls
  | ps => decodePs

/-- Whether it takes the low byte for a reading. -/
def valid : Quantity → UInt8 → Bool
  | ir | als => fun _ => true
  | ps => fun low => !psInvalid low

/-- The bits that it takes from the low byte. -/
def lowBits : Quantity → UInt8 → Nat
  | ir => fun low => low.toNat % 4
  | als => fun low => low.toNat
  | ps => fun low => low.toNat % 16

/-- And from the high byte. -/
def highBits : Quantity → UInt8 → Nat
  | ir | als => fun high => high.toNat
  | ps => fun high => high.toNat % 64

end Quantity

/-- The two parts of a `u16`. -/
theorem joined_eq {i high low : Nat} (below : low < 2 ^ i) (fits : high * 2 ^ i < 65536) :
    high <<< i % 65536 ||| low = high * 2 ^ i + low := by
  rw [Nat.mod_eq_of_lt (by rwa [Nat.shiftLeft_eq]), shiftLeft_or below]

theorem toNat_decodeIr (low high : UInt8) :
    (decodeIr low high).toNat = high.toNat * 4 + low.toNat % 4 := by
  have byte := high.toNat_lt
  have joined : (decodeIr low high).toNat = high.toNat <<< 2 % 65536 ||| low.toNat &&& 3 := by
    simp [decodeIr]
  rw [joined, Nat.and_two_pow_sub_one_eq_mod low.toNat 2, joined_eq (by omega) (by omega)]
  rfl

theorem toNat_decodeAls (low high : UInt8) :
    (decodeAls low high).toNat = high.toNat * 256 + low.toNat := by
  have byte := high.toNat_lt
  have joined : (decodeAls low high).toNat = high.toNat <<< 8 % 65536 ||| low.toNat := by
    simp [decodeAls]
  rw [joined, joined_eq low.toNat_lt (by omega)]
  rfl

theorem toNat_decodePs (low high : UInt8) :
    (decodePs low high).toNat = high.toNat % 64 * 16 + low.toNat % 16 := by
  have joined : (decodePs low high).toNat =
      (high.toNat &&& 63) <<< 4 % 65536 ||| low.toNat &&& 15 := by
    simp [decodePs]
  rw [joined, Nat.and_two_pow_sub_one_eq_mod high.toNat 6,
    Nat.and_two_pow_sub_one_eq_mod low.toNat 4, joined_eq (by omega) (by omega)]
  rfl

theorem Quantity.decode_eq_iff (q : Quantity) {low high low' high' : UInt8} :
    q.decode low high = q.decode low' high' ↔
      q.lowBits low = q.lowBits low' ∧ q.highBits high = q.highBits high' := by
  rw [← UInt16.toNat_inj]
  have byte := low.toNat_lt
  have byte' := low'.toNat_lt
  cases q with
  | ir =>
      simp only [decode, lowBits, highBits, toNat_decodeIr]
      omega
  | als =>
      simp only [decode, lowBits, highBits, toNat_decodeAls]
      omega
  | ps =>
      simp only [decode, lowBits, highBits, toNat_decodePs]
      omega

/-- Each read function, with the bytes that the transfers give it. -/
theorem Quantity.read_eq (q : Quantity) (bus : Bus) (data : UInt16) :
    q.read bus data =
      match readPair bus q.lowReg q.highReg with
      | none => (-1, data)
      | some (low, high) => if q.valid low then (0, q.decode low high) else (-1, data) := by
  cases q with
  | ir => rfl
  | als => rfl
  | ps =>
      simp only [read, ap3216cReadPsData, lowReg, highReg, valid, decode]
      cases readPair bus psDataLow psDataHigh with
      | none => rfl
      | some p => cases invalid : psInvalid p.1 <;> simp [invalid]

/-! ## One call -/

/-- What the sensor holds in a pair of registers. -/
structure Pair where
  low : UInt8
  high : UInt8
  deriving DecidableEq

/-- The course of a call: the pair held when it starts, the refreshes before its first
transfer, between the two, and after the second, and which transfers succeed. -/
structure Course where
  start : Pair
  before : List Pair
  between : List Pair
  after : List Pair
  first : Bool
  second : Bool

namespace Course

variable (c : Course)

/-- The pair at the first transfer, and at the second. -/
def atFirst : Pair := c.before.getLastD c.start
def atSecond : Pair := c.between.getLastD c.atFirst

/-- All that the sensor held during the call. -/
def held : List Pair := c.start :: (c.before ++ c.between ++ c.after)

/-- What the transfers of a read function get. -/
def bus (q : Quantity) : Bus := fun reg =>
  if reg = q.lowReg then if c.first then some c.atFirst.low else none
  else if reg = q.highReg then if c.second then some c.atSecond.high else none
  else none

/-- If the call returns 0, it stores the reading of a pair that the sensor held. -/
def Sensed (q : Quantity) (data : UInt16) : Prop :=
  (q.read (c.bus q) data).1 = 0 →
    ∃ p ∈ c.held, q.valid p.low = true ∧ (q.read (c.bus q) data).2 = q.decode p.low p.high

/-- Some pair that the sensor held joins what the two transfers got. -/
def Joins (q : Quantity) : Prop :=
  ∃ p ∈ c.held, q.valid p.low = true ∧ q.lowBits p.low = q.lowBits c.atFirst.low ∧
    q.highBits p.high = q.highBits c.atSecond.high

instance (q : Quantity) : Decidable (c.Joins q) :=
  inferInstanceAs (Decidable (∃ p ∈ c.held, _))

theorem read_bus (q : Quantity) (data : UInt16) :
    q.read (c.bus q) data =
      if c.first = true ∧ c.second = true ∧ q.valid c.atFirst.low = true then
        (0, q.decode c.atFirst.low c.atSecond.high)
      else (-1, data) := by
  have other : q.highReg ≠ q.lowReg := by
    cases q <;> decide
  rw [q.read_eq]
  cases first : c.first with
  | false => simp [readPair, bus, first]
  | true =>
      cases second : c.second with
      | false => simp [readPair, bus, first, second, other]
      | true => simp [readPair, bus, first, second, other]

theorem atFirst_mem_held : c.atFirst ∈ c.held := by
  have last : c.atFirst ∈ c.start :: c.before := List.getLastD_mem_cons
  rcases List.mem_cons.1 last with start | among
  · rw [start]
    exact List.mem_cons_self
  · simp [held, among]

theorem atSecond_mem_held : c.atSecond ∈ c.held := by
  have last : c.atSecond ∈ c.atFirst :: c.between := List.getLastD_mem_cons
  rcases List.mem_cons.1 last with first | among
  · rw [first]
    exact c.atFirst_mem_held
  · simp [held, among]

/-- No refresh between the transfers changes the part that is still to come, or none
the part that has been taken. -/
def Kept (q : Quantity) : Prop :=
  q.highBits c.atSecond.high = q.highBits c.atFirst.high ∨
    q.valid c.atSecond.low = true ∧ q.lowBits c.atSecond.low = q.lowBits c.atFirst.low

theorem joins_of_kept {q : Quantity} (valid : q.valid c.atFirst.low = true) (kept : c.Kept q) :
    c.Joins q := by
  rcases kept with high | ⟨still, low⟩
  · exact ⟨c.atFirst, c.atFirst_mem_held, valid, rfl, high.symm⟩
  · exact ⟨c.atSecond, c.atSecond_mem_held, still, low, rfl⟩

theorem sensed_iff_joins (q : Quantity) (data : UInt16) :
    c.Sensed q data ↔
      (c.first = true → c.second = true → q.valid c.atFirst.low = true → c.Joins q) := by
  rw [Sensed, read_bus]
  by_cases gets : c.first = true ∧ c.second = true ∧ q.valid c.atFirst.low = true
  · obtain ⟨first, second, valid⟩ := gets
    simp only [first, second, valid, and_self, if_true, forall_const, q.decode_eq_iff, Joins,
      eq_comm]
  · rw [if_neg gets]
    constructor
    · intro _ first second valid
      exact absurd ⟨first, second, valid⟩ gets
    · intro _ success
      cases success

/-- **A reading that the sensor had.**  What a successful call stores is the reading of
a pair held during the call exactly if such a pair joins what the transfers took; one
does where a part is kept between the transfers. -/
theorem sensed_iff (q : Quantity) (data : UInt16) :
    (c.Sensed q data ↔
      (c.first = true → c.second = true → q.valid c.atFirst.low = true → c.Joins q)) ∧
      (c.Kept q → c.Sensed q data) := by
  refine ⟨c.sensed_iff_joins q data, ?_⟩
  intro kept
  exact (c.sensed_iff_joins q data).2 fun _ _ valid => c.joins_of_kept valid kept

end Course

/-- From 0x00FF to 0x0100 between the transfers: the reading is 0x01FF. -/
theorem torn_reading :
    let c : Course :=
      { start := ⟨0xFF, 0x00⟩, before := [], between := [⟨0x00, 0x01⟩], after := []
        first := true, second := true }
    Quantity.als.read (c.bus .als) 0 = (0, 0x01FF) ∧ ¬ c.Sensed .als 0 := by
  refine ⟨by decide, ?_⟩
  intro sensed
  obtain ⟨p, held, -, stored⟩ := sensed (by decide)
  simp only [Course.held, List.nil_append, List.append_nil, List.mem_cons, List.not_mem_nil,
    or_false] at held
  rcases held with rfl | rfl
  · exact absurd stored (by decide)
  · exact absurd stored (by decide)

end LearningKernel.Ap3216c
