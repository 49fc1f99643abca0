/-
# Kernel.Stdio -- what the applications read from their terminal

`scanInt` is `scanf("%d")` on the text that is still to come: spaces and ends of line, a sign,
digits.  Where there is no number it has consumed the spaces and the sign.  `fgets` reads to the
end of a line, or as much as fits.

* `scanInt_formatInt`: a number that is printed is read back, whatever stands behind it;
* `scanInt_append`, `exists_cut`: where a text begins with no number, neither does a longer one,
  nor one that is cut behind its spaces and sign;
* `fgets_line`, `fgets_cut`: a line that fits is read with its end, and one that does not is cut.
-/
import LearningKernel.Kernel.Decimal

namespace LearningKernel.Kernel

open LearningKernel.Theory

set_option autoImplicit false

/-- `isspace`. -/
def isSpace (c : UInt8) : Bool := c = 32 ∨ 9 ≤ c ∧ c ≤ 13

/-- An `int` of 32 bits from the number that `strtol` makes of the digits, a `long` of as many. -/
def clampInt (n : Int) : BitVec 32 :=
  if n < -(2 ^ 31) then BitVec.ofInt 32 (-(2 ^ 31))
  else if 2 ^ 31 ≤ n then BitVec.ofInt 32 (2 ^ 31 - 1)
  else BitVec.ofInt 32 n

/-- A sign, and the text behind it. -/
def scanSign : List UInt8 → Bool × List UInt8
  | [] => (false, [])
  | c :: cs => if c = 45 then (true, cs) else if c = 43 then (false, cs) else (false, c :: cs)

/-- `scanf("%d")`: the number, if there is one, and the text left. -/
def scanInt (s : List UInt8) : Option (BitVec 32) × List UInt8 :=
  let (negative, s) := scanSign (s.dropWhile isSpace)
  let digits := s.takeWhile isDigit
  if digits = [] then (none, s)
  else
    let n : Int := numeral 0 digits
    (some (clampInt (if negative then -n else n)), s.drop digits.length)

/-- `fgets(str, size)`: the text left. -/
def fgets (size : Nat) (s : List UInt8) : List UInt8 :=
  s.drop (min ((s.takeWhile (· ≠ 10)).length + 1) (size - 1))

/-! ## Numbers -/

theorem isSpace_eq_false {c : UInt8} (digit : isDigit c = true) : isSpace c = false := by
  have bounds : 48 ≤ c ∧ c ≤ 57 := by
    by_contra other
    rw [isDigit, digitValue, if_neg other] at digit
    cases digit
  rw [UInt8.le_iff_toNat_le, UInt8.le_iff_toNat_le] at bounds
  have low : (48 : UInt8).toNat = 48 := rfl
  apply decide_eq_false
  rw [UInt8.le_iff_toNat_le, UInt8.le_iff_toNat_le]
  rintro (rfl | ⟨-, high⟩)
  · exact absurd bounds.1 (by decide)
  · have top : (13 : UInt8).toNat = 13 := rfl
    omega

theorem clampInt_toInt (v : BitVec 32) : clampInt v.toInt = v := by
  have low := BitVec.le_toInt v
  have high := BitVec.toInt_lt (x := v)
  unfold clampInt
  rw [if_neg (by omega), if_neg (by omega), BitVec.ofInt_toInt]

/-- Only what is behind the spaces counts. -/
theorem scanInt_congr {s t : List UInt8} (same : s.dropWhile isSpace = t.dropWhile isSpace) :
    scanInt s = scanInt t := by
  unfold scanInt
  rw [same]

theorem scanSign_digit {c : UInt8} {cs : List UInt8} (digit : isDigit c = true) :
    scanSign (c :: cs) = (false, c :: cs) := by
  rw [scanSign, if_neg (minus_ne digit), if_neg (plus_ne digit)]

theorem scanInt_formatInt (v : BitVec 32) {rest : List UInt8} (ends : Ends rest) :
    scanInt (formatInt v.toInt ++ rest) = (some v, rest) := by
  have digits := digits_formatNat v.toInt.natAbs
  obtain ⟨c, cs, front, digit⟩ := formatNat_head v.toInt.natAbs rest
  have number : (formatNat v.toInt.natAbs ++ rest).takeWhile isDigit =
      formatNat v.toInt.natAbs := takeWhile_digits digits ends
  have left : (formatNat v.toInt.natAbs ++ rest).drop (formatNat v.toInt.natAbs).length = rest :=
    List.drop_left
  by_cases negative : v.toInt < 0
  · have text : formatInt v.toInt ++ rest = 45 :: (formatNat v.toInt.natAbs ++ rest) := by
      rw [formatInt, if_pos negative, List.cons_append]
    have sign : scanSign ((45 :: (formatNat v.toInt.natAbs ++ rest)).dropWhile isSpace) =
        (true, formatNat v.toInt.natAbs ++ rest) := rfl
    unfold scanInt
    rw [text, sign]
    dsimp only
    rw [number, if_neg (formatNat_ne_nil _), left, numeral_formatNat]
    have value : -(v.toInt.natAbs : Int) = v.toInt := by omega
    rw [if_pos rfl, value, clampInt_toInt]
  · have text : formatInt v.toInt ++ rest = formatNat v.toInt.natAbs ++ rest := by
      rw [formatInt, if_neg negative]
    have sign : scanSign ((formatNat v.toInt.natAbs ++ rest).dropWhile isSpace) =
        (false, formatNat v.toInt.natAbs ++ rest) := by
      rw [front, List.dropWhile_cons_of_neg (by simp [isSpace_eq_false digit]),
        scanSign_digit digit]
    unfold scanInt
    rw [text, sign]
    dsimp only
    rw [number, if_neg (formatNat_ne_nil _), left, numeral_formatNat]
    have value : (v.toInt.natAbs : Int) = v.toInt := by omega
    rw [if_neg Bool.false_ne_true, value, clampInt_toInt]

/-! ## No number -/

/-- The text behind the spaces and the sign. -/
def afterSign (s : List UInt8) : List UInt8 := (scanSign (s.dropWhile isSpace)).2

theorem scanInt_eq_none_iff {s : List UInt8} :
    (scanInt s).1 = none ↔ (afterSign s).takeWhile isDigit = [] := by
  unfold scanInt afterSign
  dsimp only
  split
  · simp [*]
  · simp [*]

/-- Where no number begins, the spaces and the sign are consumed. -/
theorem scanInt_of_none {s : List UInt8} (begins : (scanInt s).1 = none) :
    scanInt s = (none, afterSign s) := by
  have empty := scanInt_eq_none_iff.1 begins
  unfold afterSign at empty
  unfold scanInt afterSign
  dsimp only
  rw [if_pos empty]

theorem scanSign_append {s : List UInt8} (some_ : s ≠ []) (t : List UInt8) :
    (scanSign (s ++ t)).2 = (scanSign s).2 ++ t := by
  cases s with
  | nil => exact absurd rfl some_
  | cons c cs =>
      rw [List.cons_append, scanSign, scanSign]
      split
      · rfl
      · split <;> rfl

theorem scanSign_suffix (s : List UInt8) : (scanSign s).2 <:+ s := by
  cases s with
  | nil => exact List.suffix_rfl
  | cons c cs =>
      rw [scanSign]
      split
      · exact List.suffix_cons c cs
      · split
        · exact List.suffix_cons c cs
        · exact List.suffix_rfl

theorem afterSign_suffix (s : List UInt8) : afterSign s <:+ s :=
  (scanSign_suffix _).trans (List.dropWhile_suffix isSpace)

theorem afterSign_append {s : List UInt8} (text : ∃ c ∈ s, isSpace c = false) (t : List UInt8) :
    afterSign (s ++ t) = afterSign s ++ t := by
  have some_ : s.dropWhile isSpace ≠ [] := by
    rw [Ne, List.dropWhile_eq_nil_iff]
    intro blank
    obtain ⟨c, among, solid⟩ := text
    rw [blank c among] at solid
    cases solid
  unfold afterSign
  rw [List.dropWhile_append, if_neg (by rwa [List.isEmpty_iff]), scanSign_append some_]

/-- What follows a text that begins with no number cannot make it one, unless all of the text is
consumed. -/
theorem scanInt_append {s t : List UInt8} (text : ∃ c ∈ s, isSpace c = false)
    (begins : (scanInt s).1 = none) (ends : afterSign s = [] → Ends t) :
    scanInt (s ++ t) = (none, afterSign s ++ t) := by
  have longer := afterSign_append text t
  rw [← longer]
  refine scanInt_of_none (scanInt_eq_none_iff.2 ?_)
  have empty := scanInt_eq_none_iff.1 begins
  rw [longer]
  cases left : afterSign s with
  | nil =>
      have behind := ends left
      cases t with
      | nil => rfl
      | cons c cs => exact List.takeWhile_cons_of_neg (by simp [behind c rfl])
  | cons c cs =>
      rw [left] at empty
      have first : isDigit c = false := by
        by_contra digit
        rw [Bool.not_eq_false] at digit
        rw [List.takeWhile_cons_of_pos digit] at empty
        cases empty
      exact List.takeWhile_cons_of_neg (by simp [first])

/-- A text that begins with no number, cut behind its spaces and sign. -/
theorem exists_cut {s : List UInt8} {n : Nat} (begins : (scanInt s).1 = none) (some_ : 0 < n)
    (long : n ≤ (afterSign s).length) :
    ∃ piece, piece ++ (afterSign s).drop n = s ∧ afterSign piece = (afterSign s).take n ∧
      (∃ c ∈ piece, isSpace c = false) ∧ (scanInt piece).1 = none := by
  obtain ⟨front, split⟩ := afterSign_suffix s
  let piece := front ++ (afterSign s).take n
  have cut : piece ++ (afterSign s).drop n = s := by
    simp only [piece, List.append_assoc, List.take_append_drop, split]
  -- else what is behind the sign would begin behind the cut
  have solid : ∃ c ∈ piece, isSpace c = false := by
    by_contra blank
    have all : ∀ c ∈ piece, isSpace c = true := by
      intro c among
      by_contra other
      exact blank ⟨c, among, Bool.not_eq_true _ ▸ other⟩
    have same : s.dropWhile isSpace = ((afterSign s).drop n).dropWhile isSpace := by
      conv_lhs => rw [← cut]
      exact List.dropWhile_append_of_pos all
    have behind : ((afterSign s).drop n).dropWhile isSpace <:+ (afterSign s).drop n :=
      List.dropWhile_suffix isSpace
    have shorter := behind.length_le
    have longer : (afterSign s).length ≤ (s.dropWhile isSpace).length :=
      (scanSign_suffix _).length_le
    rw [← same, List.length_drop] at shorter
    omega
  have taken : afterSign piece = (afterSign s).take n := by
    have whole := afterSign_append solid ((afterSign s).drop n)
    rw [cut] at whole
    refine (List.append_left_inj ((afterSign s).drop n)).1 ?_
    rw [← whole, List.take_append_drop]
  refine ⟨piece, cut, taken, solid, ?_⟩
  rw [scanInt_eq_none_iff] at begins ⊢
  rw [taken]
  rw [← List.take_append_drop n (afterSign s), List.takeWhile_append] at begins
  split at begins
  · rw [(List.append_eq_nil_iff.1 begins).1]
    rfl
  · exact begins

/-! ## Lines -/

theorem fgets_line {size : Nat} {line : List UInt8} (rest : List UInt8) (whole : 10 ∉ line)
    (fits : line.length + 1 < size) : fgets size (line ++ 10 :: rest) = rest := by
  have front : (line ++ 10 :: rest).takeWhile (· ≠ 10) = line := by
    rw [List.takeWhile_append_of_pos]
    · exact List.append_nil line
    · intro c among
      apply decide_eq_true
      rintro rfl
      exact whole among
  unfold fgets
  rw [front, Nat.min_eq_left (by omega), List.drop_append]
  simp

theorem fgets_cut {size : Nat} {piece : List UInt8} (rest : List UInt8) (whole : 10 ∉ piece)
    (long : piece.length + 1 = size) : fgets size (piece ++ rest) = rest := by
  have front : (piece ++ rest).takeWhile (· ≠ 10) = piece ++ rest.takeWhile (· ≠ 10) := by
    refine List.takeWhile_append_of_pos ?_
    intro c among
    apply decide_eq_true
    rintro rfl
    exact whole among
  unfold fgets
  rw [front, List.length_append, Nat.min_eq_right (by omega), ← long, Nat.add_sub_cancel]
  exact List.drop_left

end LearningKernel.Kernel
