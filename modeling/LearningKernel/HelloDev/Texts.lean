/-
# HelloDev.Texts -- the text view of the register

The attribute `val` prints the register with `%d` and a newline, and stores what
`simple_strtol` makes of a text, which stops at the first byte that is no digit, wraps at
64 bits and reports nothing.

* `views_agree`: what is written as four bytes, shown and stored as a text again is read
  back as the same four bytes, for every `int`;
* `store_exact_iff`: a store is exact, or refused with the register left alone, exactly
  if it is interrupted or the text is that of an `int` and has no plus sign to ignore.
-/
import LearningKernel.HelloDev.Register
import LearningKernel.Kernel.Decimal

namespace LearningKernel.HelloDev

open LearningKernel.Theory LearningKernel.Theory.CInt LearningKernel.Kernel

set_option autoImplicit false
set_option linter.dupNamespace false

/-- The values of an `int`. -/
def IsInt (v : Int) : Prop := -(2 ^ 31) ≤ v ∧ v < 2 ^ 31

instance (v : Int) : Decidable (IsInt v) := inferInstanceAs (Decidable (_ ∧ _))

/-! ## What a text is stored as -/

theorem parsed_int {v : Int} (fits : IsInt v) : signed 32 (signed 64 v) = v := by
  unfold IsInt at fits
  rw [signed_eq_self (w := 64) (by omega) (by omega), signed_eq_self (by omega) (by omega)]

/-- The text of an `int` is stored as that `int`, if no plus sign stands before it. -/
theorem parsedInt_of_decimal {s : List UInt8} {v : Int} (denotes : decimal? s = some v)
    (fits : IsInt v) (plain : s.head? ≠ some 43) : parsedInt s = v := by
  rw [parsedInt, simpleStrtol_of_decimal denotes plain]
  exact parsed_int fits

/-- `simple_strtol` stops at a plus sign. -/
theorem parsedInt_plus (cs : List UInt8) : parsedInt (43 :: cs) = 0 := rfl

/-! ## Both views -/

/-- A printed number has no plus sign. -/
theorem formatInt_head (v : Int) (rest : List UInt8) : (formatInt v ++ rest).head? ≠ some 43 := by
  unfold formatInt
  split
  · rw [List.cons_append, List.head?_cons]
    decide
  · obtain ⟨c, cs, same, digit⟩ := formatNat_head v.natAbs rest
    rw [same, List.head?_cons]
    exact fun plus => plus_ne digit (Option.some.inj plus)

theorem length_formatInt {v : Int} (fits : IsInt v) : (formatInt v).length ≤ 11 := by
  unfold IsInt at fits
  have digits : (formatNat v.natAbs).length ≤ 10 := length_formatNat_le (by omega) (by decide)
  unfold formatInt
  split
  · rw [List.length_cons]
    omega
  · omega

theorem isInt_toInt (v : BitVec 32) : IsInt v.toInt :=
  ⟨BitVec.le_toInt v, BitVec.toInt_lt⟩

/-- What `hello_val_show` prints, as a text that can be stored. -/
def shown (v : BitVec 32) : SysfsText where
  bytes := formatInt v.toInt ++ [10]
  nonempty := by simp
  fits := by
    have short := length_formatInt (isInt_toInt v)
    rw [List.length_append, pageSize, List.length_singleton]
    omega

/-- An `int` through its four bytes. -/
theorem intOfBytes_bytesOfInt {v : Int} (fits : IsInt v) : intOfBytes (bytesOfInt v) = v := by
  unfold IsInt at fits
  exact signed_ofLE_toLE (n := sizeofInt) (by simp only [sizeofInt]; omega)
    (by simp only [sizeofInt]; omega)

/-- **The two views agree.**  The four bytes of an `int` are shown as a text that, stored
in any state of the device, gives them back. -/
theorem views_agree (v : BitVec 32) (val val' : Int) (room : Nat) :
    (helloWrite val (bytesOfInt v.toInt) false 0).1 = sizeofInt ∧
      helloValShow (helloWrite val (bytesOfInt v.toInt) false 0).2 false =
        (((shown v).bytes.length : Int), (shown v).bytes) ∧
      (helloValStore val' (shown v) false).1 = (shown v).bytes.length ∧
      helloRead (helloValStore val' (shown v) false).2 (sizeofInt + room) false 0 =
        ((sizeofInt : Int), bytesOfInt v.toInt) := by
  have written : helloWrite val (bytesOfInt v.toInt) false 0 = ((sizeofInt : Int), v.toInt) :=
    congrArg (Prod.mk (sizeofInt : Int)) (intOfBytes_bytesOfInt (isInt_toInt v))
  have parsed : parsedInt (shown v).bytes = v.toInt :=
    parsedInt_of_decimal (decimal?_formatInt v.toInt (Or.inr rfl)) (isInt_toInt v)
      (formatInt_head v.toInt [10])
  have stored : helloValStore val' (shown v) false = (((shown v).bytes.length : Int), v.toInt) :=
    congrArg (Prod.mk ((shown v).bytes.length : Int)) parsed
  have room_enough : ¬ sizeofInt + room < sizeofInt := by omega
  rw [written, stored]
  refine ⟨rfl, rfl, rfl, ?_⟩
  simp only [helloRead, Bool.false_eq_true, if_false, if_neg room_enough, Nat.zero_min, ne_eq,
    not_true_eq_false]

/-! ## Stores -/

/-- A store that returns the count has stored the number that the text is; any other
returns an error and leaves the register. -/
def ExactOrRefused (val : Int) (text : SysfsText) (call : Int × Int) : Prop :=
  if call.1 = text.bytes.length then
    ∃ v, decimal? text.bytes = some v ∧ IsInt v ∧ call.2 = v
  else call.1 < 0 ∧ call.2 = val

/-- **Which stores are exact.** -/
theorem store_exact_iff (val : Int) (text : SysfsText) (interrupted : Bool) :
    ExactOrRefused val text (helloValStore val text interrupted) ↔
      interrupted = true ∨
        ∃ v, decimal? text.bytes = some v ∧ IsInt v ∧ (text.bytes.head? = some 43 → v = 0) := by
  cases interrupted with
  | true =>
      have failed : -erestartsys ≠ (text.bytes.length : Int) := by
        unfold erestartsys
        omega
      refine iff_of_true ?_ (Or.inl rfl)
      show if -erestartsys = (text.bytes.length : Int) then _ else _
      rw [if_neg failed]
      have negative : -erestartsys < 0 := by decide
      exact ⟨negative, rfl⟩
  | false =>
      have call : ExactOrRefused val text (helloValStore val text false) ↔
          ∃ v, decimal? text.bytes = some v ∧ IsInt v ∧ parsedInt text.bytes = v := by
        show (if (text.bytes.length : Int) = text.bytes.length then _ else _) ↔ _
        rw [if_pos rfl]
        rfl
      simp only [call, Bool.false_eq_true, false_or]
      constructor
      · rintro ⟨v, denotes, fits, rfl⟩
        refine ⟨_, denotes, fits, ?_⟩
        intro plus
        obtain ⟨cs, same⟩ := List.head?_eq_some_iff.1 plus
        rw [same, parsedInt_plus]
      · rintro ⟨v, denotes, fits, plus⟩
        refine ⟨v, denotes, fits, ?_⟩
        by_cases plain : text.bytes.head? = some 43
        · obtain ⟨cs, same⟩ := List.head?_eq_some_iff.1 plain
          rw [plus plain, same, parsedInt_plus]
        · exact parsedInt_of_decimal denotes fits plain

/-- `abc` is stored as 0, `12x` as 12 and 2^32 + 1 as 1, and each store reports success. -/
theorem garbage_stored :
    let texts : List (SysfsText × Int) :=
      [(⟨[97, 98, 99], by decide, by decide⟩, 0), (⟨[49, 50, 120], by decide, by decide⟩, 12),
        (⟨[52, 50, 57, 52, 57, 54, 55, 50, 57, 55], by decide, by decide⟩, 1)]
    ∀ t ∈ texts, helloValStore 7 t.1 false = ((t.1.bytes.length : Int), t.2) ∧
      ¬ ExactOrRefused 7 t.1 (helloValStore 7 t.1 false) := by
  have inexact (text : SysfsText)
      (wrong : ∀ v ∈ decimal? text.bytes, ¬ IsInt v ∨ parsedInt text.bytes ≠ v) :
      ¬ ExactOrRefused 7 text (helloValStore 7 text false) := by
    show ¬ if (text.bytes.length : Int) = text.bytes.length then _ else _
    rw [if_pos rfl]
    rintro ⟨v, denotes, fits, same⟩
    rcases wrong v denotes with large | differs
    · exact large fits
    · exact differs same
  intro texts t member
  refine ⟨?_, inexact t.1 ?_⟩
  · revert t
    decide
  · revert t
    decide

end LearningKernel.HelloDev
