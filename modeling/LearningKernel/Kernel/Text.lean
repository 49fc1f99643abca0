/-
# Kernel.Text -- decimal text as the kernel prints and parses it

Texts are byte strings, and end at a NUL (`cString`).  `simpleStrtol` is the
kernel's parser for base 10 on a 64-bit machine: an optional minus sign, then
digits up to the first byte that is none, with the accumulator wrapping at 64 bits
and no error for an empty or overlong number.  `formatInt` is the conversion `%d`.

`kstrtoul` is the strict parser, in base 10 or in the base that the text itself
announces: the whole text is a number, perhaps with a plus sign before it and a
newline after it, and it fits in an `unsigned long`.

`SysfsText` is what sysfs hands to an attribute's `store`: between one byte and
a page less one.
-/
import LearningKernel.Kernel.Abi
import LearningKernel.Theory.CInt
import Mathlib.Data.List.TakeWhile

namespace LearningKernel.Kernel

open LearningKernel.Theory.CInt

set_option autoImplicit false

/-- The value of a decimal digit. -/
def digitValue (c : UInt8) : Option Nat :=
  if 48 ≤ c ∧ c ≤ 57 then some (c.toNat - 48) else none

/-- The accumulator of `_parse_integer`, an `unsigned long long`. -/
def parseDigits : Nat → List UInt8 → Nat
  | acc, [] => acc
  | acc, c :: cs =>
      match digitValue c with
      | some d => parseDigits ((acc * 10 + d) % 2 ^ 64) cs
      | none => acc

/-- `simple_strtoul(s, NULL, 10)`. -/
def simpleStrtoul (s : List UInt8) : Nat := parseDigits 0 s

/-- `simple_strtol(s, NULL, 10)`: byte 45 is the minus sign. -/
def simpleStrtol : List UInt8 → Int
  | [] => 0
  | c :: cs =>
      if c = 45 then signed 64 (-(simpleStrtoul cs : Int))
      else signed 64 (simpleStrtoul (c :: cs))

/-- The digits of a natural number. -/
def formatNat (n : Nat) : List UInt8 := (Nat.toDigits 10 n).map fun c => UInt8.ofNat c.toNat

/-- `%d`. -/
def formatInt (v : Int) : List UInt8 :=
  if v < 0 then 45 :: formatNat v.natAbs else formatNat v.natAbs

/-- Byte 45 is no digit. -/
theorem minus_notMem_formatNat (n : Nat) : 45 ∉ formatNat n := by
  intro among
  obtain ⟨c, member, same⟩ := List.mem_map.1 among
  have digit : c.isDigit := Nat.isDigit_of_mem_toDigits (by decide) (by decide) member
  have bounds : 48 ≤ c.toNat ∧ c.toNat ≤ 57 := Char.isDigit_iff_toNat.1 digit
  have code := congrArg UInt8.toNat same
  rw [UInt8.toNat_ofNat'] at code
  change _ = 45 at code
  omega

/-- The sign is printed. -/
theorem formatInt_ne {v v' : Int} (negative : v < 0) (nonneg : 0 ≤ v') (rest : List UInt8) :
    formatInt v ++ rest ≠ formatInt v' ++ rest := by
  intro same
  rw [List.append_cancel_right_eq, formatInt, if_pos negative, formatInt,
    if_neg (Int.not_lt.2 nonneg)] at same
  exact minus_notMem_formatNat v'.natAbs (same ▸ List.mem_cons_self)

/-- The bytes before the first NUL. -/
def cString (s : List UInt8) : List UInt8 := s.takeWhile (· ≠ 0)

theorem cString_eq_self {s : List UInt8} (noNul : 0 ∉ s) : cString s = s := by
  rw [cString, List.takeWhile_eq_self_iff]
  intro c among
  apply decide_eq_true
  rintro rfl
  exact noNul among

theorem noNul_cString (s : List UInt8) : 0 ∉ cString s := by
  intro among
  have nonzero := List.mem_takeWhile_imp (p := fun c : UInt8 => c ≠ 0) among
  cases nonzero

theorem length_cString_le (s : List UInt8) : (cString s).length ≤ s.length :=
  (List.takeWhile_prefix _).length_le

/-- A terminator ends the string. -/
theorem cString_terminated (s rest : List UInt8) : cString (s ++ 0 :: rest) = cString s := by
  unfold cString
  induction s with
  | nil => rfl
  | cons c cs ih =>
      rw [List.cons_append, List.takeWhile_cons, List.takeWhile_cons, ih]

/-! ## The strict parser -/

/-- A digit of some base up to 16, in either case. -/
def digitIn (base : Nat) (c : UInt8) : Option Nat :=
  let lower := c ||| 0x20
  let digit :=
    if 48 ≤ c ∧ c ≤ 57 then some (c.toNat - 48)
    else if 97 ≤ lower ∧ lower ≤ 102 then some (lower.toNat - 87)
    else none
  digit.filter (· < base)

/-- The base of a number. -/
inductive Radix where
  | decimal
  /-- base 0: `0x` announces 16, another leading `0` announces 8 -/
  | announced
  deriving DecidableEq

/-- `_parse_integer_fixup_radix`: the base, and the text behind its announcement. -/
def fixupRadix : Radix → List UInt8 → Nat × List UInt8
  | .decimal, s => (10, s)
  | .announced, 48 :: x :: c :: cs =>
      if x ||| 0x20 = 120 ∧ (digitIn 16 c).isSome then (16, c :: cs) else (8, 48 :: x :: c :: cs)
  | .announced, 48 :: cs => (8, 48 :: cs)
  | .announced, s => (10, s)

/-- `kstrtoul` where `unsigned long` has `bits` bits. -/
def kstrtoul (bits : Nat) (radix : Radix) (s : List UInt8) : Except Int Nat :=
  let s := if s.head? = some 43 then s.tail else s
  let (base, s) := fixupRadix radix s
  let digits := s.takeWhile fun c => (digitIn base c).isSome
  let value := (digits.filterMap (digitIn base)).foldl (fun acc d => acc * base + d) 0
  let rest := s.drop digits.length
  if 2 ^ 64 ≤ value then .error (-erange)
  else if digits = [] then .error (-einval)
  else if rest ≠ [] ∧ rest ≠ [10] then .error (-einval)
  else if 2 ^ bits ≤ value then .error (-erange)
  else .ok value

/-- A user buffer whose first `readable` bytes can be read, and the length the
caller gave. -/
structure UserText where
  readable : List UInt8
  count : Nat

/-- `kstrtoul_from_user`: its own buffer holds a sign, the number in base 2, a
newline and the terminator. -/
def kstrtoulFromUser (bits : Nat) (radix : Radix) (buf : UserText) : Except Int Nat :=
  let count := min buf.count (bits + 2)
  if buf.readable.length < count then .error (-efault)
  else kstrtoul bits radix ((buf.readable.take count).takeWhile (· ≠ 0))

/-! ## Sysfs -/

/-- A text written to a sysfs attribute. -/
structure SysfsText where
  bytes : List UInt8
  nonempty : bytes ≠ []
  fits : bytes.length < pageSize

theorem SysfsText.length_pos (text : SysfsText) : 0 < text.bytes.length :=
  List.length_pos_iff.2 text.nonempty

end LearningKernel.Kernel
