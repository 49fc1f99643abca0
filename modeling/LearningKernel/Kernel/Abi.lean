/-
# Kernel.Abi -- the constants the drivers share with the kernel

Error numbers are positive here, as in the kernel headers; a handler returns
their negation.
-/
import Mathlib.Tactic.Common

namespace LearningKernel.Kernel

set_option autoImplicit false

def eio : Int := 5
def enxio : Int := 6
def eagain : Int := 11
def enomem : Int := 12
def efault : Int := 14
def ebusy : Int := 16
def einval : Int := 22
def enospc : Int := 28
def erange : Int := 34
def erestartsys : Int := 512

/-- `MAX_RW_COUNT`: the VFS cuts every read and write to `INT_MAX & PAGE_MASK`. -/
def maxRwCount : Nat := 0x7ffff000

/-- `PAGE_SIZE`. -/
def pageSize : Nat := 4096

/-- `sizeof(int)`. -/
def sizeofInt : Nat := 4

def seekSet : Int := 0
def seekCur : Int := 1
def seekEnd : Int := 2

/-- `POLLIN`. -/
def pollin : Nat := 0x1

/-- `POLLRDNORM`. -/
def pollrdnorm : Nat := 0x40

end LearningKernel.Kernel
