/-
# MyClass.Device -- the i.MX LED devices of `myclass`

The table `led_cdev`: three devices, each with the physical addresses of its five
registers and its pin in the data register.  Devices 1 and 2 have one data
register.
-/
import LearningKernel.Kernel.Text
import LearningKernel.Theory.BitField
import Mathlib.Data.Fintype.Basic

namespace LearningKernel.MyClass

open LearningKernel.Theory LearningKernel.Kernel

set_option autoImplicit false

/-- The entries of `led_cdev`. -/
inductive Dev where
  | led0
  | led1
  | led2
  deriving DecidableEq

/-- The registers that a device maps. -/
inductive Reg where
  | dr
  | gdir
  | iomuxcMux
  | ccmCcgrx
  | iomuxPad
  deriving DecidableEq

instance : Fintype Reg :=
  ⟨{.dr, .gdir, .iomuxcMux, .ccmCcgrx, .iomuxPad}, by intro r; cases r <;> simp⟩

def Dev.pa : Dev → Reg → Nat
  | .led0, .dr => 0x0209C000
  | .led0, .gdir => 0x0209C004
  | .led0, .iomuxcMux => 0x20E006C
  | .led0, .ccmCcgrx => 0x20C406C
  | .led0, .iomuxPad => 0x20E02F8
  | .led1, .dr => 0x20A8000
  | .led1, .gdir => 0x20A8004
  | .led1, .iomuxcMux => 0x20E01E0
  | .led1, .ccmCcgrx => 0x20C4074
  | .led1, .iomuxPad => 0x20E046C
  | .led2, .dr => 0x20A8000
  | .led2, .gdir => 0x20A8004
  | .led2, .iomuxcMux => 0x20E01DC
  | .led2, .ccmCcgrx => 0x20C4074
  | .led2, .iomuxPad => 0x20E0468

theorem Dev.pa_inj {d : Dev} {r r' : Reg} (same : d.pa r = d.pa r') : r = r' := by
  cases d <;> cases r <;> cases r' <;> first | rfl | exact absurd same (by decide)

def Dev.ledPin : Dev → Nat
  | .led0 => 4
  | .led1 => 20
  | .led2 => 19

def Dev.clockOffset : Dev → Nat
  | .led0 => 26
  | .led1 | .led2 => 12

/-- The bit of the pin in the data register. -/
def Dev.bit (d : Dev) : BitVec 32 := 0x01#32 <<< d.ledPin

theorem Dev.ledPin_lt (d : Dev) : d.ledPin < 32 := by
  cases d <;> decide

theorem Dev.getLsbD_bit (d : Dev) (i : Nat) : d.bit.getLsbD i = decide (d.ledPin = i) := by
  rw [Dev.bit, ← BitVec.twoPow_eq, BitVec.getLsbD_twoPow]
  simp [d.ledPin_lt]

/-- The number that `led_chrdev_write` takes from the user's text: 0 if
`kstrtoul_from_user` refuses it. -/
def writtenNumber (buf : UserText) : Nat :=
  match kstrtoulFromUser 32 .decimal buf with
  | .ok ret => ret
  | .error _ => 0

/-- What `led_chrdev_write` makes of the data register it has read. -/
def driven (d : Dev) (ret : Nat) (val : BitVec 32) : BitVec 32 :=
  if ret = 0 then val &&& ~~~d.bit else val ||| d.bit

theorem getLsbD_driven_pin (d : Dev) (ret : Nat) (val : BitVec 32) :
    (driven d ret val).getLsbD d.ledPin = decide (ret ≠ 0) := by
  unfold driven
  split
  · rename_i zero
    rw [BitVec.getLsbD_and, BitVec.getLsbD_not, d.getLsbD_bit]
    simp [zero]
  · rename_i nonzero
    rw [BitVec.getLsbD_or, d.getLsbD_bit]
    simp [nonzero]

theorem getLsbD_driven_other (d : Dev) (ret : Nat) (val : BitVec 32) {i : Nat}
    (other : d.ledPin ≠ i) : (driven d ret val).getLsbD i = val.getLsbD i := by
  by_cases inside : i < 32
  · unfold driven
    split
    · rw [BitVec.getLsbD_and, BitVec.getLsbD_not, d.getLsbD_bit]
      simp [inside, other]
    · rw [BitVec.getLsbD_or, d.getLsbD_bit]
      simp [other]
  · rw [BitVec.getLsbD_of_ge _ _ (Nat.le_of_not_lt inside),
      BitVec.getLsbD_of_ge _ _ (Nat.le_of_not_lt inside)]

end LearningKernel.MyClass
