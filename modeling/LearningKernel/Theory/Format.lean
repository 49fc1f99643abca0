/-
# Theory.Format -- what a `printf` format prints

A format is cut into pieces: bytes printed as they are, `%%`, and conversions, which
print what they find for an argument.  What they find is a parameter (`Arguments`), of
which only the field width is known: a conversion prints at least as many bytes.
Nothing is known of what any other directive prints, or of what comes after it.

* `spelled_pieces`: the pieces are the format;
* `length_sprintf`: a format prints a byte for each literal and each `%%`, and what its
  conversions find;
* `length_of_plain`: without conversions, its length less one for each `%%`;
* `sprintf_eq_self_iff`: where no conversion prints a `%`, a format prints itself exactly
  if it has no `%`.
-/
import LearningKernel.Theory.Numeral
import Mathlib.Data.List.Infix

namespace LearningKernel.Theory.Format

set_option autoImplicit false

/-! ## Conversions -/

/-- A conversion, by its parts behind the `%`. -/
structure Spec where
  flags : List UInt8
  width : List UInt8
  precision : List UInt8
  modifier : List UInt8
  conversion : UInt8
  deriving DecidableEq

namespace Spec

def spelled (spec : Spec) : List UInt8 :=
  spec.flags ++ (spec.width ++ (spec.precision ++ (spec.modifier ++ [spec.conversion])))

/-- The field width that is written: none for `*`, which takes it from an argument. -/
def fieldWidth (spec : Spec) : Nat := if spec.width = [42] then 0 else numeral 0 spec.width

/-- `d`, `i`, `o`, `u`, `x` and `X`; `#` goes only with `o`, `x` and `X`. -/
def isInteger (spec : Spec) : Bool :=
  spec.conversion ∈ [100, 105, 111, 117, 120, 88] &&
    (35 ∉ spec.flags || spec.conversion ∈ [111, 120, 88])

/-- `c` and `s`, with no flag but `-` and no modifier; a precision goes only with `s`. -/
def isText (spec : Spec) : Bool :=
  spec.conversion ∈ [99, 115] && spec.flags.all (· = 45) && spec.modifier = [] &&
    (spec.precision = [] || spec.conversion = 115)

end Spec

/-- `-`, `+`, blank, `#` and `0`. -/
def isFlag (c : UInt8) : Bool := c ∈ [45, 43, 32, 35, 48]

/-- `*` or digits. -/
def fieldOf (s : List UInt8) : List UInt8 :=
  if s.head? = some 42 then [42] else s.takeWhile fun c => 48 ≤ c ∧ c ≤ 57

/-- A period, and perhaps `*` or digits. -/
def precisionOf (s : List UInt8) : List UInt8 :=
  if s.head? = some 46 then 46 :: fieldOf s.tail else []

/-- `hh`, `ll`, `h`, `l`, `j`, `z` and `t`. -/
def modifierOf : List UInt8 → List UInt8
  | 104 :: 104 :: _ => [104, 104]
  | 108 :: 108 :: _ => [108, 108]
  | c :: _ => if c ∈ [104, 108, 106, 122, 116] then [c] else []
  | [] => []

/-- The conversion that follows a `%`. -/
def spec? (s : List UInt8) : Option Spec :=
  let flags := s.takeWhile isFlag
  let s := s.drop flags.length
  let width := fieldOf s
  let s := s.drop width.length
  let precision := precisionOf s
  let s := s.drop precision.length
  let modifier := modifierOf s
  let s := s.drop modifier.length
  match s with
  | c :: _ =>
      let spec : Spec := ⟨flags, width, precision, modifier, c⟩
      if spec.isInteger || spec.isText then some spec else none
  | [] => none

/-! ## Pieces -/

inductive Piece where
  | literal (c : UInt8)
  /-- `%%` -/
  | percent
  | conversion (spec : Spec)
  /-- any other directive, and all that follows it -/
  | other (rest : List UInt8)
  deriving DecidableEq

namespace Piece

def spelled : Piece → List UInt8
  | literal c => [c]
  | percent => [37, 37]
  | conversion spec => 37 :: spec.spelled
  | other rest => 37 :: rest

/-- It prints the same whatever the arguments are. -/
def plain : Piece → Bool
  | literal _ | percent => true
  | conversion _ | other _ => false

end Piece

/-- The pieces of a format behind its first bytes, which belong to a piece before. -/
def pieces : Nat → List UInt8 → List Piece
  | _, [] => []
  | skip + 1, _ :: s => pieces skip s
  | 0, c :: s =>
      if c ≠ 37 then .literal c :: pieces 0 s
      else if s.head? = some 37 then .percent :: pieces 1 s
      else
        match spec? s with
        | some spec => .conversion spec :: pieces spec.spelled.length s
        | none => [.other s]

/-- It has no conversion. -/
def Plain (format : List UInt8) : Prop := ∀ p ∈ pieces 0 format, p.plain = true

instance (format : List UInt8) : Decidable (Plain format) := List.decidableBAll _ _

/-- How many `%%` it has. -/
def percents (format : List UInt8) : Nat := (pieces 0 format).count .percent

/-! ## Printing -/

/-- Fields of this width or more may be cut. -/
def widest : Nat := 0x800000

/-- What the pieces of a format print, by their number, for what they find as arguments. -/
structure Arguments where
  conversion : Nat → Spec → List UInt8
  other : Nat → List UInt8 → List UInt8
  wide : ∀ k spec, spec.fieldWidth < widest → spec.fieldWidth ≤ (conversion k spec).length

/-- Fields filled with blanks, and more blanks before them. -/
def Arguments.blank (more : Nat) : Arguments where
  conversion _ spec := List.replicate (more + spec.fieldWidth) 32
  other _ _ := List.replicate more 32
  wide _ _ _ := by
    rw [List.length_replicate]
    exact Nat.le_add_left _ _

/-- No `%` is printed for an argument. -/
structure Arguments.NoPercent (args : Arguments) : Prop where
  conversion : ∀ k spec, 37 ∉ args.conversion k spec
  other : ∀ k rest, 37 ∉ args.other k rest

theorem Arguments.blank_noPercent (more : Nat) : (blank more).NoPercent where
  conversion _ _ among := by
    cases List.eq_of_mem_replicate among
  other _ _ among := by
    cases List.eq_of_mem_replicate among

def Piece.prints (args : Arguments) (k : Nat) : Piece → List UInt8
  | literal c => [c]
  | percent => [37]
  | conversion spec => args.conversion k spec
  | other rest => args.other k rest

def printed (args : Arguments) : Nat → List Piece → List UInt8
  | _, [] => []
  | k, p :: ps => p.prints args k ++ printed args (k + 1) ps

/-- What `sprintf` prints. -/
def sprintf (args : Arguments) (format : List UInt8) : List UInt8 :=
  printed args 0 (pieces 0 format)

/-! ## The pieces are the format -/

theorem fieldOf_front (s : List UInt8) : fieldOf s <+: s := by
  unfold fieldOf
  split
  · rename_i star
    obtain ⟨rest, rfl⟩ := List.head?_eq_some_iff.1 star
    exact ⟨rest, rfl⟩
  · exact List.takeWhile_prefix _

theorem precisionOf_front (s : List UInt8) : precisionOf s <+: s := by
  unfold precisionOf
  split
  · rename_i period
    obtain ⟨rest, rfl⟩ := List.head?_eq_some_iff.1 period
    exact (List.prefix_cons_inj 46).2 (fieldOf_front rest)
  · exact List.nil_prefix

theorem modifierOf_front (s : List UInt8) : modifierOf s <+: s := by
  unfold modifierOf
  split
  · exact ⟨_, rfl⟩
  · exact ⟨_, rfl⟩
  · split
    · exact ⟨_, rfl⟩
    · exact List.nil_prefix
  · exact List.nil_prefix

/-- A part of the text, and the rest. -/
theorem front_append {part : List UInt8 → List UInt8} (front : ∀ s, part s <+: s)
    (s : List UInt8) : part s ++ s.drop (part s).length = s :=
  List.prefix_iff_eq_append.1 (front s)

/-- A conversion is spelled at the front of the text. -/
theorem spec?_front {s : List UInt8} {spec : Spec} (found : spec? s = some spec) :
    ∃ rest, s = spec.spelled ++ rest := by
  simp only [spec?] at found
  split at found
  · rename_i c rest behind
    split at found
    · cases found
      refine ⟨rest, ?_⟩
      have modifier := front_append modifierOf_front
      have precision := front_append precisionOf_front
      have width := front_append fieldOf_front
      have flags := List.prefix_iff_eq_append.1 (List.takeWhile_prefix (l := s) isFlag)
      simp only [Spec.spelled, List.append_assoc, List.singleton_append]
      rw [← behind, modifier, precision, width, flags]
    · cases found
  · cases found

theorem spelled_pieces (skip : Nat) (s : List UInt8) :
    (pieces skip s).flatMap Piece.spelled = s.drop skip := by
  fun_induction pieces skip s with
  | case1 skip => rw [List.drop_nil, List.flatMap_nil]
  | case2 c s skip ih => rw [ih, List.drop_succ_cons]
  | case3 c s literal ih => rw [List.flatMap_cons, ih]; rfl
  | case4 c s directive percent ih =>
      obtain ⟨rest, rfl⟩ := List.head?_eq_some_iff.1 percent
      rw [List.flatMap_cons, ih, not_not.1 directive]
      rfl
  | case5 c s directive _ spec found ih =>
      obtain ⟨rest, rfl⟩ := spec?_front found
      rw [List.flatMap_cons, ih, not_not.1 directive, List.drop_left]
      rfl
  | case6 c s directive _ none =>
      rw [List.flatMap_singleton, not_not.1 directive]
      rfl

theorem literal_ne {skip : Nat} {s : List UInt8} {c : UInt8} :
    .literal c ∈ pieces skip s → c ≠ 37 := by
  fun_induction pieces skip s with
  | case1 => nofun
  | case2 _ _ _ ih => exact ih
  | case3 d s literal ih =>
      intro among
      rcases List.mem_cons.1 among with same | later
      · rw [Piece.literal.inj same]
        exact literal
      · exact ih later
  | case4 _ _ _ _ ih =>
      intro among
      rcases List.mem_cons.1 among with same | later
      · cases same
      · exact ih later
  | case5 _ _ _ _ _ _ ih =>
      intro among
      rcases List.mem_cons.1 among with same | later
      · cases same
      · exact ih later
  | case6 =>
      intro among
      cases List.mem_singleton.1 among

/-! ## How much is printed -/

/-- How many bytes a format prints whatever the arguments are. -/
def fixed (format : List UInt8) : Nat := (pieces 0 format).countP Piece.plain

/-- How many bytes the other pieces print. -/
def found (args : Arguments) : Nat → List Piece → Nat
  | _, [] => 0
  | k, p :: ps =>
      (if p.plain = true then 0 else (p.prints args k).length) + found args (k + 1) ps

variable {args : Arguments} {ps : List Piece} {format : List UInt8}

theorem length_printed (k : Nat) :
    (printed args k ps).length = ps.countP Piece.plain + found args k ps := by
  induction ps generalizing k with
  | nil => rfl
  | cons p ps ih =>
      rw [printed, found, List.length_append, ih, List.countP_cons]
      by_cases plain : p.plain = true
      · have one : (p.prints args k).length = 1 := by
          cases p with
          | literal | percent => rfl
          | conversion | other => cases plain
        rw [if_pos plain, if_pos plain, one]
        omega
      · rw [if_neg plain, if_neg plain]
        omega

theorem length_sprintf :
    (sprintf args format).length = fixed format + found args 0 (pieces 0 format) :=
  length_printed 0

theorem found_of_plain (k : Nat) (plain : ∀ p ∈ ps, p.plain = true) : found args k ps = 0 := by
  induction ps generalizing k with
  | nil => rfl
  | cons p ps ih =>
      rw [found, if_pos (plain p List.mem_cons_self),
        ih _ fun q member => plain q (List.mem_cons_of_mem p member)]

/-- A conversion can print a lot. -/
theorem le_found (more k : Nat) {p : Piece} (among : p ∈ ps)
    (converts : p.plain = false) : more ≤ found (.blank more) k ps := by
  induction ps generalizing k with
  | nil => cases among
  | cons q ps ih =>
      rw [found]
      rcases List.mem_cons.1 among with rfl | later
      · have much : more ≤ (p.prints (.blank more) k).length := by
          cases p with
          | literal | percent => cases converts
          | conversion spec =>
              rw [Piece.prints, Arguments.blank, List.length_replicate]
              exact Nat.le_add_right ..
          | other rest =>
              rw [Piece.prints, Arguments.blank, List.length_replicate]
        rw [if_neg (by rw [converts]; decide)]
        omega
      · have behind := ih (k + 1) later
        omega

/-- A format without conversions prints its own length, less one for each `%%`. -/
theorem length_of_plain (plain : Plain format) :
    fixed format = format.length - percents format := by
  have spelled : ∀ ps : List Piece, (∀ p ∈ ps, p.plain = true) →
      (ps.flatMap Piece.spelled).length = ps.countP Piece.plain + ps.count .percent := by
    intro ps plain
    induction ps with
    | nil => rfl
    | cons p ps ih =>
        have rest := ih fun q member => plain q (List.mem_cons_of_mem p member)
        have first : p.plain = true := plain p List.mem_cons_self
        rw [List.flatMap_cons, List.length_append, rest, List.countP_cons_of_pos first,
          List.count_cons]
        cases p with
        | literal c =>
            simp [Piece.spelled]
            omega
        | percent =>
            simp [Piece.spelled]
            omega
        | conversion | other => cases first
  have whole := spelled (pieces 0 format) plain
  rw [spelled_pieces, List.drop_zero] at whole
  rw [fixed, percents]
  omega

/-- The least that a piece prints. -/
def Piece.least : Piece → Nat
  | literal _ | percent => 1
  | conversion spec => if spec.fieldWidth < widest then spec.fieldWidth else 0
  | other _ => 0

/-- The least that pieces print. -/
def least : List Piece → Nat
  | [] => 0
  | p :: ps => p.least + least ps

theorem least_le (args : Arguments) (k : Nat) (ps : List Piece) :
    least ps ≤ (printed args k ps).length := by
  have piece (k : Nat) (p : Piece) : p.least ≤ (p.prints args k).length := by
    cases p with
    | literal | percent => exact Nat.le_refl 1
    | conversion spec =>
        rw [Piece.least]
        split
        · rename_i narrow
          exact args.wide k spec narrow
        · exact Nat.zero_le _
    | other => exact Nat.zero_le _
  induction ps generalizing k with
  | nil => exact Nat.le_refl 0
  | cons p ps ih =>
      rw [least, printed, List.length_append]
      exact Nat.add_le_add (piece k p) (ih (k + 1))

/-! ## Formats that print themselves -/

theorem sprintf_of_notMem (args : Arguments) (literal : 37 ∉ format) :
    sprintf args format = format := by
  have behind (k : Nat) : printed args k (pieces 0 format) = format := by
    induction format generalizing k with
    | nil => rfl
    | cons c s ih =>
        rw [List.mem_cons, not_or] at literal
        rw [pieces, if_pos (Ne.symm literal.1), printed, ih literal.2]
        rfl
  exact behind 0

/-- What the arguments print is free of `%`, so each comes from a `%%`. -/
theorem count_printed (free : args.NoPercent) (k : Nat) (literal : .literal 37 ∉ ps) :
    (printed args k ps).count 37 = ps.count .percent := by
  induction ps generalizing k with
  | nil => rfl
  | cons p ps ih =>
      rw [List.mem_cons, not_or] at literal
      rw [printed, List.count_append, ih _ literal.2, List.count_cons]
      cases p with
      | literal c =>
          have other : c ≠ 37 := fun same => literal.1 (congrArg Piece.literal same.symm)
          simp [Piece.prints, other]
      | percent => exact Nat.add_comm 1 _
      | conversion spec =>
          rw [Piece.prints, List.count_eq_zero.2 (free.conversion k spec)]
          simp
      | other rest =>
          rw [Piece.prints, List.count_eq_zero.2 (free.other k rest)]
          simp

def Piece.isLiteral : Piece → Bool
  | literal _ => true
  | percent | conversion _ | other _ => false

/-- Every directive is spelled with a `%`, and `%%` with two. -/
theorem le_count_spelled (ps : List Piece) :
    ps.count .percent + ps.countP (fun p => !p.isLiteral) ≤
      (ps.flatMap Piece.spelled).count 37 := by
  have piece (p : Piece) : (if (p == .percent) = true then 1 else 0) +
      (if (!p.isLiteral) = true then 1 else 0) ≤ p.spelled.count 37 := by
    cases p with
    | literal c => exact Nat.zero_le _
    | percent => exact Nat.le_refl 2
    | conversion spec => exact List.count_pos_iff.2 List.mem_cons_self
    | other rest => exact List.count_pos_iff.2 List.mem_cons_self
  induction ps with
  | nil => exact Nat.le_refl 0
  | cons p ps ih =>
      have first := piece p
      rw [List.flatMap_cons, List.count_append, List.count_cons, List.countP_cons]
      omega

/-- **A format prints itself** exactly if it has no `%`, where no argument prints one. -/
theorem sprintf_eq_self_iff (free : args.NoPercent) :
    sprintf args format = format ↔ 37 ∉ format := by
  constructor
  · intro same among
    have few : (sprintf args format).count 37 = percents format :=
      count_printed free 0 fun among => literal_ne among rfl
    have many := le_count_spelled (pieces 0 format)
    rw [spelled_pieces, List.drop_zero] at many
    rw [same, percents] at few
    have none : (pieces 0 format).countP (fun p => !p.isLiteral) = 0 := by omega
    rw [← List.drop_zero (l := format), ← spelled_pieces] at among
    obtain ⟨p, member, inside⟩ := List.mem_flatMap.1 among
    have literal := List.countP_eq_zero.1 none p member
    cases p with
    | literal c => exact literal_ne member (List.mem_singleton.1 inside).symm
    | percent | conversion | other => exact literal rfl
  · exact sprintf_of_notMem args

end LearningKernel.Theory.Format
