/-
# Kernel.Decimal -- decimal texts, printed and parsed

`decimal?` says which texts are decimal integers: a sign, digits and a newline, of which
only the digits have to be there.  The printers of `Kernel.Text` print such texts
(`decimal?_formatInt`), and on such texts its parsers compute their number:
`simple_strtoul` and `simple_strtol` wrapped at 64 bits (`simpleStrtol_of_decimal`), and
`kstrtoul` if it fits, where it accepts no others (`kstrtoul_eq_ok_iff`).
-/
import LearningKernel.Kernel.Text
import LearningKernel.Theory.Numeral

namespace LearningKernel.Kernel

open LearningKernel.Theory LearningKernel.Theory.CInt

set_option autoImplicit false

/-! ## Digits -/

def isDigit (c : UInt8) : Bool := (digitValue c).isSome

theorem digitValue_eq {c : UInt8} (digit : isDigit c = true) :
    digitValue c = some (c.toNat - 48) := by
  unfold isDigit digitValue at *
  split
  · rfl
  · rename_i other
    simp [other] at digit

theorem digitValue_eq_none {c : UInt8} (other : isDigit c = false) : digitValue c = none :=
  Option.isNone_iff_eq_none.1 (by simpa [isDigit] using other)

/-- What stands behind digits does not begin with one. -/
def Ends (rest : List UInt8) : Prop := ∀ c ∈ rest.head?, isDigit c = false

theorem ends_of_newline {rest : List UInt8} (here : rest = [] ∨ rest = [10]) : Ends rest := by
  intro c first
  rcases here with rfl | rfl
  · cases first
  · cases first
    rfl

/-- The kernel's accumulator, at digits and what stands behind them. -/
theorem parseDigits_append {acc : Nat} (small : acc < 2 ^ 64) {s rest : List UInt8}
    (digits : ∀ c ∈ s, isDigit c = true) (ends : Ends rest) :
    parseDigits acc (s ++ rest) = numeral acc s % 2 ^ 64 := by
  induction s generalizing acc with
  | nil =>
      rw [List.nil_append, numeral_nil, Nat.mod_eq_of_lt small]
      cases rest with
      | nil => rfl
      | cons c cs => rw [parseDigits, digitValue_eq_none (ends c rfl)]
  | cons c cs ih =>
      have wrapped : (acc * 10 + (c.toNat - 48)) % 2 ^ 64 < 2 ^ 64 := Nat.mod_lt _ (by decide)
      have next := ih wrapped fun d member => digits d (List.mem_cons_of_mem c member)
      rw [List.cons_append, parseDigits, digitValue_eq (digits c List.mem_cons_self), numeral_cons]
      exact next.trans (numeral_mod _ _ _)

/-! ## Printed numbers -/

theorem code_of_mem {n : Nat} {d : Char} (member : d ∈ Nat.toDigits 10 n) :
    48 ≤ d.toNat ∧ d.toNat ≤ 57 :=
  Char.isDigit_iff_toNat.1 (Nat.isDigit_of_mem_toDigits (by decide) (by decide) member)

theorem digits_formatNat (n : Nat) : ∀ c ∈ formatNat n, isDigit c = true := by
  intro c among
  obtain ⟨d, member, rfl⟩ := List.mem_map.1 among
  obtain ⟨low, high⟩ := code_of_mem member
  have code : (UInt8.ofNat d.toNat).toNat = d.toNat := by
    rw [UInt8.toNat_ofNat']
    omega
  have between : 48 ≤ UInt8.ofNat d.toNat ∧ UInt8.ofNat d.toNat ≤ 57 := by
    rw [UInt8.le_iff_toNat_le, UInt8.le_iff_toNat_le, code]
    exact ⟨low, high⟩
  rw [isDigit, digitValue, if_pos between]
  rfl

theorem numeral_formatNat (n : Nat) : numeral 0 (formatNat n) = n := by
  have same (acc : Nat) (cs : List Char) (digits : ∀ c ∈ cs, c.toNat < 256) :
      numeral acc (cs.map fun c => UInt8.ofNat c.toNat) = Nat.ofDigitChars 10 cs acc := by
    induction cs generalizing acc with
    | nil => rw [List.map_nil, numeral_nil, Nat.ofDigitChars_nil]
    | cons c cs ih =>
        have code : (UInt8.ofNat c.toNat).toNat = c.toNat := by
          rw [UInt8.toNat_ofNat', Nat.mod_eq_of_lt (digits c List.mem_cons_self)]
        rw [List.map_cons, numeral_cons, Nat.ofDigitChars_cons, code, Nat.mul_comm 10 acc]
        exact ih _ fun d member => digits d (List.mem_cons_of_mem c member)
  rw [formatNat, same 0 _ ?_, Nat.ofDigitChars_ten_toDigits]
  intro c member
  have bounds := code_of_mem member
  omega

theorem formatNat_ne_nil (n : Nat) : formatNat n ≠ [] := by
  simp [formatNat, Nat.toDigits_ne_nil]

/-- A printed number begins with a digit. -/
theorem formatNat_head (n : Nat) (rest : List UInt8) :
    ∃ c cs, formatNat n ++ rest = c :: cs ∧ isDigit c = true := by
  obtain ⟨c, cs, same⟩ := List.exists_cons_of_ne_nil (formatNat_ne_nil n)
  exact ⟨c, cs ++ rest, by rw [same, List.cons_append],
    digits_formatNat n c (same ▸ List.mem_cons_self)⟩

theorem plus_ne {c : UInt8} (digit : isDigit c = true) : c ≠ 43 := by
  rintro rfl
  cases digit

theorem minus_ne {c : UInt8} (digit : isDigit c = true) : c ≠ 45 := by
  rintro rfl
  cases digit

theorem formatInt_natCast (n : Nat) : formatInt n = formatNat n := by
  rw [formatInt, if_neg (by omega), Int.natAbs_natCast]

theorem length_formatNat_le {n k : Nat} (small : n < 10 ^ k) (some_digit : 0 < k) :
    (formatNat n).length ≤ k := by
  rw [formatNat, List.length_map, Nat.length_toDigits_le_iff (by decide) some_digit]
  exact small

/-! ## Decimal integers -/

/-- The number of a text of digits and perhaps a newline. -/
def number? (s : List UInt8) : Option Nat :=
  let digits := s.takeWhile isDigit
  let rest := s.drop digits.length
  if digits ≠ [] ∧ (rest = [] ∨ rest = [10]) then some (numeral 0 digits) else none

/-- The integer that a text denotes, if it is the text of one. -/
def decimal? : List UInt8 → Option Int
  | [] => none
  | c :: cs =>
      if c = 45 then (number? cs).map fun n : Nat => -(n : Int)
      else if c = 43 then (number? cs).map fun n : Nat => (n : Int)
      else (number? (c :: cs)).map fun n : Nat => (n : Int)

theorem takeWhile_digits {digits rest : List UInt8} (all : ∀ c ∈ digits, isDigit c = true)
    (ends : Ends rest) : (digits ++ rest).takeWhile isDigit = digits := by
  rw [List.takeWhile_append_of_pos all]
  cases rest with
  | nil => exact List.append_nil digits
  | cons c cs =>
      rw [List.takeWhile_cons_of_neg (by simp [ends c rfl])]
      exact List.append_nil digits

/-- What a text of a number is made of. -/
theorem number?_eq_some_iff {s : List UInt8} {n : Nat} :
    number? s = some n ↔ ∃ digits rest, s = digits ++ rest ∧ digits ≠ [] ∧
      (∀ c ∈ digits, isDigit c = true) ∧ (rest = [] ∨ rest = [10]) ∧ numeral 0 digits = n := by
  constructor
  · intro denotes
    simp only [number?] at denotes
    split at denotes
    · rename_i parts
      refine ⟨_, _, (List.prefix_iff_eq_append.1 (List.takeWhile_prefix isDigit)).symm, parts.1,
        ?_, parts.2, Option.some.inj denotes⟩
      intro c member
      exact List.all_eq_true.1 List.all_takeWhile c member
    · cases denotes
  · rintro ⟨digits, rest, rfl, some_digit, all, newline, rfl⟩
    have taken := takeWhile_digits all (ends_of_newline newline)
    simp only [number?, taken, List.drop_left]
    rw [if_pos ⟨some_digit, newline⟩]

/-- On a number, `simple_strtoul` computes it, wrapped. -/
theorem simpleStrtoul_of_number {s : List UInt8} {n : Nat} (denotes : number? s = some n) :
    simpleStrtoul s = n % 2 ^ 64 := by
  obtain ⟨digits, rest, rfl, -, all, newline, rfl⟩ := number?_eq_some_iff.1 denotes
  exact parseDigits_append (by decide) all (ends_of_newline newline)

/-- `simple_strtol` computes a decimal integer, wrapped, if no plus sign stands before it. -/
theorem simpleStrtol_of_decimal {s : List UInt8} {v : Int} (denotes : decimal? s = some v)
    (plain : s.head? ≠ some 43) : simpleStrtol s = signed 64 v := by
  cases s with
  | nil => cases denotes
  | cons c cs =>
      have other : c ≠ 43 := fun plus => plain (congrArg some plus)
      by_cases minus : c = 45
      · rw [decimal?, if_pos minus] at denotes
        obtain ⟨n, number, rfl⟩ := Option.map_eq_some_iff.1 denotes
        rw [simpleStrtol, if_pos minus, simpleStrtoul_of_number number]
        exact signed_congr (by omega)
      · rw [decimal?, if_neg minus, if_neg other] at denotes
        obtain ⟨n, number, rfl⟩ := Option.map_eq_some_iff.1 denotes
        rw [simpleStrtol, if_neg minus, simpleStrtoul_of_number number]
        exact signed_congr (by omega)

theorem number?_formatNat (n : Nat) {rest : List UInt8} (newline : rest = [] ∨ rest = [10]) :
    number? (formatNat n ++ rest) = some n :=
  number?_eq_some_iff.2 ⟨_, rest, rfl, formatNat_ne_nil n, digits_formatNat n, newline,
    numeral_formatNat n⟩

/-- What `%d` prints is the text of the integer. -/
theorem decimal?_formatInt (v : Int) {rest : List UInt8} (newline : rest = [] ∨ rest = [10]) :
    decimal? (formatInt v ++ rest) = some v := by
  have number := number?_formatNat v.natAbs newline
  unfold formatInt
  split
  · rename_i negative
    rw [List.cons_append, decimal?, if_pos rfl, number]
    refine congrArg some ?_
    show -(v.natAbs : Int) = v
    omega
  · rename_i nonneg
    obtain ⟨c, cs, same, digit⟩ := formatNat_head v.natAbs rest
    rw [same] at number ⊢
    rw [decimal?, if_neg (minus_ne digit), if_neg (plus_ne digit), number]
    refine congrArg some ?_
    show (v.natAbs : Int) = v
    omega

/-! ## The strict parser -/

theorem digitIn_ten (c : UInt8) : digitIn 10 c = digitValue c := by
  unfold digitIn digitValue
  by_cases digit : 48 ≤ c ∧ c ≤ 57
  · have small : c.toNat ≤ 57 := UInt8.le_iff_toNat_le.1 digit.2
    simp only [if_pos digit]
    exact Option.filter_some_pos (by simpa using (by omega : c.toNat - 48 < 10))
  · simp only [if_neg digit]
    split
    · rename_i letter
      have large : 97 ≤ (c ||| 0x20).toNat := UInt8.le_iff_toNat_le.1 letter.1
      exact Option.filter_some_neg (by simpa using (by omega : 10 ≤ (c ||| 0x20).toNat - 87))
    · rfl

theorem foldl_digits (acc : Nat) {s : List UInt8} (digits : ∀ c ∈ s, isDigit c = true) :
    (s.filterMap digitValue).foldl (fun acc d => acc * 10 + d) acc = numeral acc s := by
  induction s generalizing acc with
  | nil => rfl
  | cons c cs ih =>
      rw [List.filterMap_cons, digitValue_eq (digits c List.mem_cons_self), numeral_cons]
      exact ih _ fun d member => digits d (List.mem_cons_of_mem c member)

/-- `kstrtoul` in base 10 accepts the numbers that fit, after a plus sign or none. -/
theorem kstrtoul_eq_ok_iff {bits : Nat} (word : bits ≤ 64) {s : List UInt8} {n : Nat} :
    kstrtoul bits .decimal s = .ok n ↔
      number? (if s.head? = some 43 then s.tail else s) = some n ∧ n < 2 ^ bits := by
  have wide : 2 ^ bits ≤ 2 ^ 64 := Nat.pow_le_pow_right (by decide) word
  have digit : (digitIn 10) = digitValue := funext digitIn_ten
  generalize stripped : (if s.head? = some 43 then s.tail else s) = t
  have all : ∀ c ∈ t.takeWhile isDigit, isDigit c = true :=
    List.all_eq_true.1 List.all_takeWhile
  have spelled : kstrtoul bits .decimal s =
      let digits := t.takeWhile isDigit
      let value := numeral 0 digits
      let rest := t.drop digits.length
      if 2 ^ 64 ≤ value then .error (-erange)
      else if digits = [] then .error (-einval)
      else if rest ≠ [] ∧ rest ≠ [10] then .error (-einval)
      else if 2 ^ bits ≤ value then .error (-erange)
      else .ok value := by
    simp only [kstrtoul, stripped, fixupRadix, digit]
    rw [show (fun c => (digitValue c).isSome) = isDigit from rfl, foldl_digits 0 all]
  rw [spelled, number?]
  dsimp only
  generalize t.takeWhile isDigit = digits
  generalize t.drop digits.length = rest
  by_cases parts : digits ≠ [] ∧ (rest = [] ∨ rest = [10])
  · have newline : ¬ (rest ≠ [] ∧ rest ≠ [10]) := by
      rw [← not_or, not_not]
      exact parts.2
    rw [if_neg parts.1, if_neg newline, if_pos parts, Option.some.injEq]
    split
    · rename_i large
      refine iff_of_false nofun ?_
      rintro ⟨rfl, fits⟩
      omega
    · split
      · rename_i large
        refine iff_of_false nofun ?_
        rintro ⟨rfl, fits⟩
        omega
      · rename_i fits
        rw [Except.ok.injEq]
        constructor
        · rintro rfl
          exact ⟨rfl, Nat.not_le.1 fits⟩
        · exact And.left
  · rw [if_neg parts]
    refine iff_of_false ?_ nofun
    intro accepted
    split at accepted
    · cases accepted
    · split at accepted
      · cases accepted
      · rename_i some_digit
        split at accepted
        · cases accepted
        · rename_i newline
          rw [← not_or, not_not] at newline
          exact parts ⟨some_digit, newline⟩

end LearningKernel.Kernel
