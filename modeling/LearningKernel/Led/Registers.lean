/-
# Led.Registers -- the register-level LED drivers

The drivers `02_led`, `03_newchrled`, `04_dtsled` and `17_platform` program pin
PI0 through six registers and switch it by texts.  `Board` is what the six
registers hold; BSRR reads as 0, a written bit `j` sets latch `j`, bit `j + 16`
resets it, and setting wins.

`ledInit_execute`: `02_led` and `17_platform` leave every other pin, and every
other clock bit, alone, configure PI0, and hold its latch at what the last
decisive text asked for.
-/
import LearningKernel.Kernel.Text
import LearningKernel.Theory.BitField
import LearningKernel.Theory.Latest

namespace LearningKernel.Led

open LearningKernel.Theory LearningKernel.Theory.BitField LearningKernel.Kernel

set_option autoImplicit false

/-! ## The registers -/

/-- The mapped registers. -/
inductive Reg where
  | mpuAhb4PeriphRccPi
  | gpioiModerPi
  | gpioiOtyperPi
  | gpioiOspeedrPi
  | gpioiPupdrPi
  | gpioiBsrrPi
  deriving DecidableEq

/-- The contents behind them: BSRR stands for the output latches of port I. -/
@[ext] structure Board where
  rcc : BitVec 32
  moder : BitVec 32
  otyper : BitVec 32
  ospeedr : BitVec 32
  pupdr : BitVec 32
  latches : BitVec 16
  deriving DecidableEq

def readl (r : Reg) (b : Board) : BitVec 32 :=
  match r with
  | .mpuAhb4PeriphRccPi => b.rcc
  | .gpioiModerPi => b.moder
  | .gpioiOtyperPi => b.otyper
  | .gpioiOspeedrPi => b.ospeedr
  | .gpioiPupdrPi => b.pupdr
  | .gpioiBsrrPi => 0

def writel (val : BitVec 32) (r : Reg) (b : Board) : Board :=
  match r with
  | .mpuAhb4PeriphRccPi => { b with rcc := val }
  | .gpioiModerPi => { b with moder := val }
  | .gpioiOtyperPi => { b with otyper := val }
  | .gpioiOspeedrPi => { b with ospeedr := val }
  | .gpioiPupdrPi => { b with pupdr := val }
  | .gpioiBsrrPi => { b with latches := update (field 16 1 val) (field 16 0 val) b.latches }

/-- `val = readl(r); val &= ~clear; val |= set; writel(val, r)`. -/
def modify (r : Reg) (clear set : BitVec 32) (b : Board) : Board :=
  writel (update clear set (readl r b)) r b

/-! ## The drivers -/

/-- The register accesses of the four initialisations; they differ in what they
write to BSRR. -/
def configure (bsrr : BitVec 32) (b : Board) : Board :=
  modify .gpioiBsrrPi 0 bsrr <|
  modify .gpioiPupdrPi (0x3#32 <<< 0) (0x1#32 <<< 0) <|
  modify .gpioiOspeedrPi (0x3#32 <<< 0) (0x2#32 <<< 0) <|
  modify .gpioiOtyperPi (0x1#32 <<< 0) 0 <|
  modify .gpioiModerPi (0x3#32 <<< 0) (0x1#32 <<< 0) <|
  modify .mpuAhb4PeriphRccPi (0x1#32 <<< 8) (0x1#32 <<< 8) b

/-- `led_init` of `02_led`, its mappings made. -/
def ledInit : Board → Board := configure (0x1#32 <<< 0)

/-- `led_probe` of `17_platform`, its mappings made. -/
def ledProbe : Board → Board := configure (0x1#32 <<< 0)

/-- `led_init` of `03_newchrled`, its mappings made. -/
def newchrledInit : Board → Board := configure (~~~(0x1#32 <<< 0))

/-- `led_init` of `04_dtsled`, its mappings made. -/
def dtsledInit : Board → Board := configure (~~~(0x1#32 <<< 0))

/-- `unsigned long` of the board has 32 bits. -/
def strtoul (sta : List UInt8) : Nat := simpleStrtoul sta % 2 ^ 32

def ledOff : Nat := 0
def ledOn : Nat := 1

/-- `led_switch`, the same in all four. -/
def ledSwitch (sta : List UInt8) (b : Board) : Board :=
  if strtoul sta = ledOn then modify .gpioiBsrrPi 0 (1#32 <<< 16) b
  else if strtoul sta = ledOff then modify .gpioiBsrrPi 0 (1#32 <<< 0) b
  else b

/-- An initialisation, and then the texts in turn. -/
def execute (init : Board → Board) (texts : List (List UInt8)) (b : Board) : Board :=
  texts.foldl (fun b sta => ledSwitch sta b) (init b)

@[simp] theorem execute_concat (init : Board → Board) (texts : List (List UInt8))
    (sta : List UInt8) (b : Board) :
    execute init (texts ++ [sta]) b = ledSwitch sta (execute init texts b) := by
  simp [execute]

/-! ## What a text asks for -/

/-- The level that a text puts on the pin, if it is decisive: on is 0. -/
def asked (sta : List UInt8) : Option Bool :=
  if strtoul sta = ledOn then some false
  else if strtoul sta = ledOff then some true
  else none

/-- The latches with the one of PI0 at `level`. -/
def setPi0 (level : Bool) (latches : BitVec 16) : BitVec 16 :=
  update (if level then 0 else 1) (if level then 1 else 0) latches

@[simp] theorem getLsbD_setPi0_zero (level : Bool) (latches : BitVec 16) :
    (setPi0 level latches).getLsbD 0 = level := by
  rw [setPi0, getLsbD_update]
  cases level <;> simp

@[simp] theorem getLsbD_setPi0_other {pin : Nat} (other : pin ≠ 0) (level : Bool)
    (latches : BitVec 16) : (setPi0 level latches).getLsbD pin = latches.getLsbD pin := by
  have above : 1 ≤ pin := Nat.one_le_iff_ne_zero.2 other
  apply getLsbD_update_outside
  · cases level <;> exact getLsbD_eq_false (n := 1) (by decide) above
  · cases level <;> exact getLsbD_eq_false (n := 1) (by decide) above

theorem setPi0_setPi0 (level before : Bool) (latches : BitVec 16) :
    setPi0 level (setPi0 before latches) = setPi0 level latches := by
  apply BitVec.eq_of_getLsbD_eq
  intro pin _
  by_cases zero : pin = 0
  · rw [zero, getLsbD_setPi0_zero, getLsbD_setPi0_zero]
  · simp [zero]

/-- BSRR reads as 0, so what is set is what is written. -/
theorem modify_bsrr (set : BitVec 32) (b : Board) :
    modify .gpioiBsrrPi 0 set b =
      { b with latches := update (field 16 1 set) (field 16 0 set) b.latches } := by
  simp [modify, readl, writel, update]

theorem ledSwitch_eq (sta : List UInt8) (b : Board) :
    ledSwitch sta b =
      { b with latches := (asked sta).elim b.latches fun level => setPi0 level b.latches } := by
  unfold ledSwitch asked
  split
  · rw [modify_bsrr]
    rfl
  · split
    · rw [modify_bsrr]
      rfl
    · rfl

/-- Every text keeps what the initialisation did, and the latch of PI0 is where
the last decisive text put it. -/
theorem execute_eq (init : Board → Board) (texts : List (List UInt8)) (b : Board) :
    execute init texts b =
      { init b with
        latches := (latest asked texts).elim (init b).latches
          fun level => setPi0 level (init b).latches } := by
  induction texts using List.reverseRecOn with
  | nil => rfl
  | append_singleton texts sta ih =>
      rw [execute_concat, ih, ledSwitch_eq, latest_concat]
      cases asked sta with
      | none => rfl
      | some level =>
          cases latest asked texts with
          | none => rfl
          | some before => simp [setPi0_setPi0]

/-! ## Pin PI0 only -/

/-- What an initialisation and the texts after it may do: `before` and `after`
differ in what belongs to PI0, which is an output with its latch at `level`. -/
structure Pi0Only (before after : Board) (level : Bool) : Prop where
  clocks : ∀ i, i ≠ 8 → after.rcc.getLsbD i = before.rcc.getLsbD i
  moder : ∀ pin, pin ≠ 0 → field 2 pin after.moder = field 2 pin before.moder
  otyper : ∀ pin, pin ≠ 0 → field 1 pin after.otyper = field 1 pin before.otyper
  ospeedr : ∀ pin, pin ≠ 0 → field 2 pin after.ospeedr = field 2 pin before.ospeedr
  pupdr : ∀ pin, pin ≠ 0 → field 2 pin after.pupdr = field 2 pin before.pupdr
  latches : ∀ pin, pin ≠ 0 → after.latches.getLsbD pin = before.latches.getLsbD pin
  clock : after.rcc.getLsbD 8 = true
  output : field 2 0 after.moder = 0b01
  pushPull : field 1 0 after.otyper = 0b0
  speed : field 2 0 after.ospeedr = 0b10
  pull : field 2 0 after.pupdr = 0b01
  latch : after.latches.getLsbD 0 = level

/-- What the initialisations do to the registers other than BSRR. -/
def configured (latches : BitVec 16) (b : Board) : Board :=
  { rcc := update (0x1#32 <<< 8) (0x1#32 <<< 8) b.rcc
    moder := update 0x3#32 0x1#32 b.moder
    otyper := update 0x1#32 0 b.otyper
    ospeedr := update 0x3#32 0x2#32 b.ospeedr
    pupdr := update 0x3#32 0x1#32 b.pupdr
    latches := latches }

theorem configure_eq (bsrr : BitVec 32) (b : Board) :
    configure bsrr b = configured (update (field 16 1 bsrr) (field 16 0 bsrr) b.latches) b := by
  rw [configure, modify_bsrr]
  rfl

theorem ledInit_eq (b : Board) : ledInit b = configured (setPi0 true b.latches) b := by
  rw [ledInit, configure_eq]
  rfl

/-- A pin's field is left alone by masks that fit PI0's. -/
theorem field_kept {n pin : Nat} {clear set : BitVec 32} (clears : clear.toNat < 2 ^ n)
    (sets : set.toNat < 2 ^ n) (other : pin ≠ 0) (value : BitVec 32) :
    field n pin (update clear set value) = field n pin value :=
  field_update_outside (field_eq_zero clears other) (field_eq_zero sets other)

theorem configured_pi0Only (level : Bool) (b : Board) :
    Pi0Only b (configured (setPi0 level b.latches) b) level where
  clocks i other := by
    have outside : (0x1#32 <<< 8).getLsbD i = false := by
      rw [BitVec.getLsbD_shiftLeft]
      by_cases low : i < 8
      · simp [low]
      · rw [getLsbD_eq_false (n := 1) (by decide) (by omega)]
        simp
    exact getLsbD_update_outside outside outside
  moder pin other := field_kept (by decide) (by decide) other b.moder
  otyper pin other := field_kept (by decide) (by decide) other b.otyper
  ospeedr pin other := field_kept (by decide) (by decide) other b.ospeedr
  pupdr pin other := field_kept (by decide) (by decide) other b.pupdr
  latches pin other := getLsbD_setPi0_other other level b.latches
  clock := by
    rw [configured, getLsbD_update]
    simp
  output := field_update_inside (by decide)
  pushPull := field_update_inside (by decide)
  speed := field_update_inside (by decide)
  pull := field_update_inside (by decide)
  latch := getLsbD_setPi0_zero level b.latches

theorem execute_ledInit (texts : List (List UInt8)) (b : Board) :
    execute ledInit texts b = configured (setPi0 ((latest asked texts).getD true) b.latches) b := by
  rw [execute_eq, ledInit_eq]
  cases latest asked texts with
  | none => rfl
  | some level => simp [configured, setPi0_setPi0]

/-- **Only PI0.**  After `led_init` of `02_led`, or `led_probe` of `17_platform`,
and any texts, nothing but PI0 has changed; its latch is 1 at first, and then
where the last decisive text put it. -/
theorem ledInit_execute (texts : List (List UInt8)) (b : Board) :
    Pi0Only b (execute ledInit texts b) ((latest asked texts).getD true) ∧
      Pi0Only b (execute ledProbe texts b) ((latest asked texts).getD true) := by
  have only : Pi0Only b (execute ledInit texts b) ((latest asked texts).getD true) := by
    rw [execute_ledInit]
    exact configured_pi0Only _ b
  exact ⟨only, only⟩

end LearningKernel.Led
