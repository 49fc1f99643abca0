/-
# Xdev.Id -- the attribute `xdev_id`

`xdev_id_store` hands the variable `id` to `kstrtoul` and returns the count, whatever
`kstrtoul` says; `xdev_id_show` prints `id`, an `unsigned long`, with `%ld`.

`id_texts_iff`: a number stored as text is shown again exactly if it is not negative as a
`long`, and a text that `kstrtoul` rejects is never reported.
-/
import LearningKernel.Kernel.Decimal

namespace LearningKernel.Xdev

open LearningKernel.Theory.CInt LearningKernel.Kernel

set_option autoImplicit false

/-- The bits of a `long`. -/
inductive LongBits where
  | ilp32
  | lp64
  deriving DecidableEq

def LongBits.bits : LongBits → Nat
  | ilp32 => 32
  | lp64 => 64

/-- `xdev_id_show`: what it returns and prints. -/
def xdevIdShow (long : LongBits) (id : Nat) : Int × List UInt8 :=
  let text := formatInt (signed long.bits id) ++ [10]
  (text.length, text)

/-- `xdev_id_store`: what it returns, and `id`, which `kstrtoul` leaves alone if it
rejects the text. -/
def xdevIdStore (long : LongBits) (id : Nat) (text : SysfsText) : Int × Nat :=
  match kstrtoul long.bits .decimal (cString text.bytes) with
  | .ok n => (text.bytes.length, n)
  | .error _ => (text.bytes.length, id)

/-! ## Numbers -/

theorem bits_le (long : LongBits) : long.bits ≤ 64 := by
  cases long <;> decide

/-- The digits of an `unsigned long`, and perhaps a newline. -/
def numberBytes {long : LongBits} (v : BitVec long.bits) (newline : Bool) : List UInt8 :=
  formatNat v.toNat ++ if newline then [10] else []

theorem numberBytes_ne_nil {long : LongBits} (v : BitVec long.bits) (newline : Bool) :
    numberBytes v newline ≠ [] := fun empty =>
  formatNat_ne_nil v.toNat (List.append_eq_nil_iff.1 empty).1

theorem length_numberBytes_lt {long : LongBits} (v : BitVec long.bits) (newline : Bool) :
    (numberBytes v newline).length < pageSize := by
  have wide : 2 ^ long.bits ≤ 2 ^ 64 := Nat.pow_le_pow_right (by decide) (bits_le long)
  have small : v.toNat < 10 ^ 20 := Nat.lt_of_lt_of_le v.isLt (wide.trans (by decide))
  have digits := length_formatNat_le small (by decide)
  rw [numberBytes, List.length_append, pageSize]
  cases newline <;> simp <;> omega

/-- The decimal text of an `unsigned long`, with a newline or without. -/
def numberText {long : LongBits} (v : BitVec long.bits) (newline : Bool) : SysfsText where
  bytes := numberBytes v newline
  nonempty := numberBytes_ne_nil v newline
  fits := length_numberBytes_lt v newline

theorem cString_numberText {long : LongBits} (v : BitVec long.bits) (newline : Bool) :
    cString (numberText v newline).bytes = (numberText v newline).bytes := by
  refine cString_eq_self ?_
  intro among
  rcases List.mem_append.1 among with digit | ending
  · cases digits_formatNat v.toNat 0 digit
  · cases newline with
    | true => cases List.mem_singleton.1 ending
    | false => cases ending

/-- A number is accepted, and stored. -/
theorem xdevIdStore_number {long : LongBits} (id : Nat) (v : BitVec long.bits) (newline : Bool) :
    xdevIdStore long id (numberText v newline) =
      (((numberText v newline).bytes.length : Int), v.toNat) := by
  have accepted : kstrtoul long.bits .decimal (numberText v newline).bytes = .ok v.toNat := by
    rw [kstrtoul_eq_ok_iff (bits_le long)]
    obtain ⟨c, cs, same, digit⟩ := formatNat_head v.toNat (if newline then [10] else [])
    have plain : ¬ (numberText v newline).bytes.head? = some 43 := by
      intro plus
      rw [show (numberText v newline).bytes = c :: cs from same] at plus
      exact plus_ne digit (Option.some.inj plus)
    rw [if_neg plain]
    exact ⟨number?_formatNat v.toNat (by cases newline <;> simp), v.isLt⟩
  rw [xdevIdStore, cString_numberText, accepted]

/-- A number stored is shown as it was. -/
def ShownAgain (long : LongBits) (id : Nat) (v : BitVec long.bits) (newline : Bool) : Prop :=
  let stored := xdevIdStore long id (numberText v newline)
  stored.1 = (numberText v newline).bytes.length ∧
    (xdevIdShow long stored.2).2 = formatNat v.toNat ++ [10]

/-- It is unless it is negative as a `long`. -/
theorem shownAgain_iff (long : LongBits) (id : Nat) (v : BitVec long.bits) (newline : Bool) :
    ShownAgain long id v newline ↔ v.toNat < 2 ^ (long.bits - 1) := by
  have wide : (2 : Int) ^ long.bits = 2 * 2 ^ (long.bits - 1) := by
    cases long <;> rfl
  have below : (v.toNat : Int) < 2 ^ long.bits := by
    exact_mod_cast v.isLt
  have half : (v.toNat : Int) < 2 ^ (long.bits - 1) ↔ v.toNat < 2 ^ (long.bits - 1) := by
    norm_cast
  rw [ShownAgain, xdevIdStore_number, ← half]
  simp only [xdevIdShow, true_and]
  constructor
  · intro same
    by_contra large
    have residue := signed_emod (w := long.bits) (x := v.toNat)
    rw [Int.emod_eq_of_lt (Int.natCast_nonneg _) below] at residue
    have upper := signed_lt (w := long.bits) (x := v.toNat) (by cases long <;> decide)
    have negative : signed long.bits v.toNat < 0 := by
      by_contra nonneg
      rw [Int.emod_eq_of_lt (by omega) (by omega)] at residue
      omega
    refine formatInt_ne negative (Int.natCast_nonneg v.toNat) [10] ?_
    rw [same, formatInt_natCast]
  · intro small
    rw [signed_eq_self (by omega) (by omega), formatInt_natCast]

/-! ## Texts that are no numbers -/

/-- A text is refused with an error, and `id` left alone. -/
def Refused (id : Nat) (stored : Int × Nat) : Prop := stored.1 < 0 ∧ stored.2 = id

theorem not_refused (long : LongBits) (id : Nat) (text : SysfsText) :
    ¬ Refused id (xdevIdStore long id text) := by
  have counted : (xdevIdStore long id text).1 = text.bytes.length := by
    unfold xdevIdStore
    split <;> rfl
  rintro ⟨negative, -⟩
  omega

/-- **The texts of `id`.**  A number is shown again as it was stored exactly if it is not
negative as a `long`; and no text that `kstrtoul` rejects is refused. -/
theorem id_texts_iff (long : LongBits) (id : Nat) :
    (∀ (v : BitVec long.bits) (newline : Bool),
        ShownAgain long id v newline ↔ v.toNat < 2 ^ (long.bits - 1)) ∧
      ∀ (text : SysfsText) (e : Int),
        kstrtoul long.bits .decimal (cString text.bytes) = .error e →
          ¬ Refused id (xdevIdStore long id text) :=
  ⟨shownAgain_iff long id, fun text _ _ => not_refused long id text⟩

/-- 2^63 is shown with a minus sign, and `x` counts as stored. -/
theorem id_differs :
    let large : BitVec LongBits.lp64.bits := BitVec.ofNat _ (2 ^ 63)
    let x : SysfsText := ⟨[120], by decide, by decide⟩
    (xdevIdShow .lp64 (xdevIdStore .lp64 0 (numberText large true)).2).2 =
        formatInt (-(2 ^ 63)) ++ [10] ∧
      ¬ ShownAgain .lp64 0 large true ∧
      kstrtoul 64 .decimal (cString x.bytes) = .error (-einval) ∧
      xdevIdStore .lp64 5 x = (1, 5) ∧ ¬ Refused 5 (xdevIdStore .lp64 5 x) := by
  refine ⟨?_, ?_, by decide, by decide, not_refused .lp64 5 _⟩
  · rw [xdevIdStore_number]
    decide
  · rw [shownAgain_iff]
    decide

end LearningKernel.Xdev
