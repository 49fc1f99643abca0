/-
# GlobalMem.Device -- globalmem, a character device over 4096 bytes

`globalmemRead`, `globalmemWrite` and `globalmemLlseek` are the handlers of
`global_mem.c` on a 64-bit kernel: `p` is the position as an `unsigned long`,
`count` the size as an `unsigned int`, and `globalmem_llseek` truncates an
absolute offset to `unsigned int` before it checks it.

`globalmem_write` copies straight into the device memory, so a failing copy has
already changed it when the handler returns `-EFAULT`.

The `_inside` and `_past` lemmas are the specification of each handler at any position,
for any size and any fault; `_of_lt` and `_at_end` are their cases at the positions an
open file can have.
-/
import LearningKernel.Kernel.Abi
import LearningKernel.Kernel.Vfs
import LearningKernel.Theory.CInt

namespace LearningKernel.GlobalMem

open LearningKernel.Theory LearningKernel.Theory.CInt LearningKernel.Kernel LearningKernel.Kernel.Vfs

set_option autoImplicit false

/-- `GLOBALMEM_SIZE`. -/
def globalmemSize : Nat := 0x1000

/-- `count` after the clamp to the memory left at `p`. -/
def clampCount (p : Int) (size : Nat) : Int :=
  let count := unsigned 32 size
  if count > unsigned 64 (globalmemSize - p) then unsigned 32 (globalmemSize - p) else count

/-- What both handlers return at or past the end. -/
def pastEnd (size : Nat) : Int :=
  if unsigned 32 size ≠ 0 then -enxio else 0

/-- `globalmem_read`; `none` when `copy_to_user` is handed bytes outside `mem`. -/
def globalmemRead (mem : Memory globalmemSize) (ppos : Int) (size uncopied : Nat) :
    Option ReadResult :=
  let p := unsigned 64 ppos
  if p ≥ globalmemSize then
    some { ret := pastEnd size, data := [], ppos := ppos }
  else
    let count := clampCount p size
    (mem.load? p count.toNat).map fun src =>
      if min uncopied count.toNat ≠ 0 then
        { ret := -efault, data := copyToUser src uncopied, ppos := ppos }
      else
        { ret := signed 32 count, data := src, ppos := signed 64 (ppos + count) }

/-- `globalmem_write` of a user buffer of `size = buf.length` bytes; `none` when
`copy_from_user` is handed bytes outside `mem`. -/
def globalmemWrite (mem : Memory globalmemSize) (ppos : Int) (buf : List UInt8) (uncopied : Nat) :
    Option (WriteResult (Memory globalmemSize)) :=
  let p := unsigned 64 ppos
  if p ≥ globalmemSize then
    some { ret := pastEnd buf.length, dev := mem, ppos := ppos }
  else
    let count := clampCount p buf.length
    (mem.store? p (copyFromUser (buf.take count.toNat) uncopied)).map fun stored =>
      if min uncopied count.toNat ≠ 0 then
        { ret := -efault, dev := stored, ppos := ppos }
      else
        { ret := signed 32 count, dev := stored, ppos := signed 64 (ppos + count) }

/-- `globalmem_llseek`. -/
def globalmemLlseek (fpos offset orig : Int) : SeekResult :=
  if orig = 0 then
    if offset < 0 then { ret := -einval, fpos := fpos }
    else if unsigned 32 offset > globalmemSize then { ret := -einval, fpos := fpos }
    else { ret := unsigned 32 offset, fpos := unsigned 32 offset }
  else if orig = 1 then
    if signed 64 (fpos + offset) > globalmemSize then { ret := -einval, fpos := fpos }
    else if signed 64 (fpos + offset) < 0 then { ret := -einval, fpos := fpos }
    else { ret := signed 64 (fpos + offset), fpos := signed 64 (fpos + offset) }
  else { ret := -einval, fpos := fpos }

/-! ## The handlers at any position -/

/-- The clamp inside the memory, for any size. -/
theorem clampCount_inside {p : Nat} (inside : p < globalmemSize) (size : Nat) :
    clampCount p size = (min (size % 2 ^ 32) (globalmemSize - p) : Nat) := by
  have room : unsigned 64 ((globalmemSize : Int) - p) = globalmemSize - p := by
    simp only [globalmemSize] at inside ⊢
    exact unsigned_eq_self (by omega) (by omega)
  have room' : unsigned 32 ((globalmemSize : Int) - p) = globalmemSize - p := by
    simp only [globalmemSize] at inside ⊢
    exact unsigned_eq_self (by omega) (by omega)
  have count : unsigned 32 (size : Int) = (size % 2 ^ 32 : Nat) := by
    simp [unsigned]
  unfold clampCount
  dsimp only
  rw [room, room', count]
  by_cases clamp : ((size % 2 ^ 32 : Nat) : Int) > globalmemSize - p
  · rw [if_pos clamp]
    omega
  · rw [if_neg clamp]
    omega

/-- `*ppos` as an `unsigned long`. -/
def place (ppos : Int) : Nat := (unsigned 64 ppos).toNat

/-- How many bytes a call of `size` bytes is to move there. -/
def span (ppos : Int) (size : Nat) : Nat := min (size % 2 ^ 32) (globalmemSize - place ppos)

theorem natCast_place (ppos : Int) : (place ppos : Int) = unsigned 64 ppos :=
  Int.toNat_of_nonneg unsigned_nonneg

theorem span_le (ppos : Int) (size : Nat) : span ppos size ≤ globalmemSize - place ppos :=
  Nat.min_le_right _ _

theorem span_le_size (ppos : Int) (size : Nat) : span ppos size ≤ size :=
  (Nat.min_le_left _ _).trans (Nat.mod_le _ _)

section Handlers

variable (mem : Memory globalmemSize) {ppos : Int} (uncopied : Nat)

theorem globalmemRead_past (past : globalmemSize ≤ place ppos) (size : Nat) :
    globalmemRead mem ppos size uncopied =
      some { ret := pastEnd size, data := [], ppos := ppos } := by
  have beyond : unsigned 64 ppos ≥ globalmemSize := by
    rw [← natCast_place]
    omega
  exact if_pos beyond

theorem globalmemWrite_past (past : globalmemSize ≤ place ppos) (buf : List UInt8) :
    globalmemWrite mem ppos buf uncopied =
      some { ret := pastEnd buf.length, dev := mem, ppos := ppos } := by
  have beyond : unsigned 64 ppos ≥ globalmemSize := by
    rw [← natCast_place]
    omega
  exact if_pos beyond

/-- `globalmem_read` inside the memory. -/
theorem globalmemRead_inside (inside : place ppos < globalmemSize) (size : Nat) :
    globalmemRead mem ppos size uncopied =
      let n := span ppos size
      some (if uncopied ≠ 0 ∧ n ≠ 0 then
          { ret := -efault, data := copyToUser (mem.load (place ppos) n) uncopied, ppos := ppos }
        else
          { ret := n, data := mem.load (place ppos) n, ppos := signed 64 (ppos + n) }) := by
  have within : ¬ unsigned 64 ppos ≥ globalmemSize := by
    rw [← natCast_place]
    omega
  show (if unsigned 64 ppos ≥ (globalmemSize : Int) then _ else _) = _
  rw [if_neg within, ← natCast_place, clampCount_inside inside, Int.toNat_natCast]
  have fits := span_le ppos size
  unfold span at fits ⊢
  generalize min (size % 2 ^ 32) (globalmemSize - place ppos) = n at fits ⊢
  have small : globalmemSize = 4096 := rfl
  rw [Memory.load?, if_pos ⟨by omega, by omega⟩, Option.map_some,
    signed_eq_self (by omega) (by omega)]
  have faults : min uncopied n ≠ 0 ↔ uncopied ≠ 0 ∧ n ≠ 0 := by omega
  simp only [faults, Int.toNat_natCast]

/-- `globalmem_write` inside the memory. -/
theorem globalmemWrite_inside (inside : place ppos < globalmemSize) (buf : List UInt8) :
    globalmemWrite mem ppos buf uncopied =
      let n := span ppos buf.length
      some (if uncopied ≠ 0 ∧ n ≠ 0 then
          { ret := -efault, dev := mem.store (place ppos) (copyFromUser (buf.take n) uncopied),
            ppos := ppos }
        else
          { ret := n, dev := mem.store (place ppos) (buf.take n), ppos := signed 64 (ppos + n) }) := by
  have within : ¬ unsigned 64 ppos ≥ globalmemSize := by
    rw [← natCast_place]
    omega
  show (if unsigned 64 ppos ≥ (globalmemSize : Int) then _ else _) = _
  rw [if_neg within, ← natCast_place, clampCount_inside inside, Int.toNat_natCast]
  have fits := span_le ppos buf.length
  have length := span_le_size ppos buf.length
  unfold span at fits length ⊢
  generalize min (buf.length % 2 ^ 32) (globalmemSize - place ppos) = n at fits length ⊢
  have small : globalmemSize = 4096 := rfl
  have range : Memory.InRange globalmemSize (place ppos)
      (copyFromUser (buf.take n) uncopied).length := by
    simp only [Memory.InRange, length_copyFromUser, List.length_take]
    omega
  rw [Memory.store?, if_pos range, Option.map_some, signed_eq_self (by omega) (by omega)]
  dsimp only
  by_cases faults : uncopied ≠ 0 ∧ n ≠ 0
  · rw [if_pos faults, if_pos (by omega), Int.toNat_natCast]
  · have whole : copyFromUser (buf.take n) uncopied = buf.take n := by
      have nothing : uncopied = 0 ∨ n = 0 := by omega
      rcases nothing with rfl | rfl <;> simp [copyFromUser]
    rw [if_neg faults, if_neg (by omega), whole, Int.toNat_natCast]

end Handlers

/-! ## The handlers at the positions of an open file -/

theorem unsigned_size {size : Nat} (vfs : size ≤ maxRwCount) : unsigned 32 (size : Int) = size := by
  simp only [maxRwCount] at vfs
  exact unsigned_eq_self (by omega) (by omega)

theorem place_natCast {p : Nat} (valid : p ≤ globalmemSize) : place (p : Int) = p := by
  have size : globalmemSize = 4096 := rfl
  rw [place, unsigned_eq_self (by omega) (by omega), Int.toNat_natCast]

theorem span_natCast {p size : Nat} (valid : p ≤ globalmemSize) (vfs : size ≤ maxRwCount) :
    span p size = min size (globalmemSize - p) := by
  simp only [maxRwCount] at vfs
  rw [span, place_natCast valid, Nat.mod_eq_of_lt (by omega)]

/-- Moving over the room left does not wrap. -/
theorem signed_advance {p n : Nat} (fits : p + n ≤ globalmemSize) :
    signed 64 ((p : Int) + n) = (p + n : Nat) := by
  have size : globalmemSize = 4096 := rfl
  rw [signed_eq_self (by omega) (by omega)]
  rfl

/-- `globalmem_read` inside the memory, every copy succeeding. -/
theorem globalmemRead_of_lt (mem : Memory globalmemSize) {p size : Nat}
    (inside : p < globalmemSize) (vfs : size ≤ maxRwCount) :
    globalmemRead mem p size 0 =
      let n := min size (globalmemSize - p)
      some { ret := n, data := mem.load p n, ppos := (p + n : Nat) } := by
  have here : place (p : Int) = p := place_natCast (Nat.le_of_lt inside)
  rw [globalmemRead_inside mem 0 (by rw [here]; exact inside), here,
    span_natCast (Nat.le_of_lt inside) vfs]
  dsimp only
  rw [if_neg (by simp), signed_advance (by omega)]

/-- `globalmem_write` inside the memory, every copy succeeding. -/
theorem globalmemWrite_of_lt (mem : Memory globalmemSize) {p : Nat} {buf : List UInt8}
    (inside : p < globalmemSize) (vfs : buf.length ≤ maxRwCount) :
    globalmemWrite mem p buf 0 =
      let n := min buf.length (globalmemSize - p)
      some { ret := n, dev := mem.store p (buf.take n), ppos := (p + n : Nat) } := by
  have here : place (p : Int) = p := place_natCast (Nat.le_of_lt inside)
  rw [globalmemWrite_inside mem 0 (by rw [here]; exact inside), here,
    span_natCast (Nat.le_of_lt inside) vfs]
  dsimp only
  rw [if_neg (by simp), signed_advance (by omega)]

theorem pastEnd_of_vfs {size : Nat} (vfs : size ≤ maxRwCount) :
    pastEnd size = if size = 0 then 0 else -enxio := by
  show (if unsigned 32 (size : Int) ≠ 0 then _ else _) = _
  rw [unsigned_size vfs]
  by_cases empty : size = 0 <;> simp [empty]

theorem globalmemRead_at_end (mem : Memory globalmemSize) {size : Nat} (vfs : size ≤ maxRwCount)
    (uncopied : Nat) :
    globalmemRead mem globalmemSize size uncopied =
      some { ret := if size = 0 then 0 else -enxio, data := [], ppos := globalmemSize } := by
  rw [globalmemRead_past mem uncopied (place_natCast (Nat.le_refl _)).ge, pastEnd_of_vfs vfs]

theorem globalmemWrite_at_end (mem : Memory globalmemSize) {buf : List UInt8}
    (vfs : buf.length ≤ maxRwCount) (uncopied : Nat) :
    globalmemWrite mem globalmemSize buf uncopied =
      some { ret := if buf.length = 0 then 0 else -enxio, dev := mem, ppos := globalmemSize } := by
  rw [globalmemWrite_past mem uncopied (place_natCast (Nat.le_refl _)).ge, pastEnd_of_vfs vfs]

/-- `globalmem_llseek` never leaves the memory, whatever its arguments. -/
theorem globalmemLlseek_range {fpos : Int} (offset orig : Int) (valid : ValidPos globalmemSize fpos) :
    ValidPos globalmemSize (globalmemLlseek fpos offset orig).fpos := by
  have low := unsigned_nonneg (w := 32) (x := offset)
  simp only [ValidPos] at valid ⊢
  unfold globalmemLlseek
  split_ifs <;> dsimp only <;> omega

/-! ## What `globalmem_llseek` accepts -/

/-- Where a seek is to go, over the integers. -/
def seekTarget (fpos offset orig : Int) : Int := if orig = 0 then offset else fpos + offset

/-- A seek from the start or the position goes where it is to if that is a position of
the device; every other is refused and moves nothing. -/
def SeeksExactly (fpos offset orig : Int) : Prop :=
  let target := seekTarget fpos offset orig
  globalmemLlseek fpos offset orig =
    if (orig = 0 ∨ orig = 1) ∧ 0 ≤ target ∧ target ≤ globalmemSize then
      { ret := target, fpos := target }
    else { ret := -einval, fpos := fpos }

theorem seekResult_ne_einval {pos fpos : Int} (valid : 0 ≤ pos) :
    ({ ret := pos, fpos := pos } : SeekResult) ≠ { ret := -einval, fpos := fpos } := by
  intro same
  have ret := congrArg SeekResult.ret same
  dsimp only [einval] at ret
  omega

/-- From the start: the offset is cut to 32 bits before its range is checked. -/
theorem seeksExactly_start_iff {fpos offset : Int} :
    SeeksExactly fpos offset 0 ↔
      ¬ (globalmemSize < offset ∧ offset % 2 ^ 32 ≤ globalmemSize) := by
  have target : seekTarget fpos offset 0 = offset := if_pos rfl
  have low : unsigned 32 offset = offset % 2 ^ 32 := rfl
  have size : (globalmemSize : Int) = 4096 := rfl
  simp only [SeeksExactly, globalmemLlseek, target, low, if_true, true_or, true_and]
  by_cases negative : offset < 0
  · rw [if_pos negative, if_neg (by omega)]
    simp only [true_iff]
    omega
  · rw [if_neg negative]
    by_cases cut : offset % 2 ^ 32 > globalmemSize
    · rw [if_pos cut, if_neg (by omega)]
      simp only [true_iff]
      omega
    · rw [if_neg cut]
      by_cases small : offset ≤ globalmemSize
      · have whole : offset % 2 ^ 32 = offset := by omega
        rw [if_pos ⟨by omega, small⟩, whole]
        simp only [true_iff]
        omega
      · rw [if_neg (by omega)]
        constructor
        · intro same
          exact absurd same (seekResult_ne_einval (by omega))
        · intro fits
          omega

/-- From the position: a sum that wraps is as far out as the one that does not. -/
theorem seeksExactly_position {fpos offset : Int} (valid : ValidPos globalmemSize fpos)
    (lo : -(2 ^ 63) ≤ offset) (hi : offset < 2 ^ 63) : SeeksExactly fpos offset 1 := by
  obtain ⟨bottom, top⟩ := valid
  have target : seekTarget fpos offset 1 = fpos + offset := if_neg (by decide)
  have residue : signed 64 (fpos + offset) % 2 ^ 64 = (fpos + offset) % 2 ^ 64 := signed_emod
  have least : -(2 ^ 64) ≤ 2 * signed 64 (fpos + offset) := le_signed
  have greatest : 2 * signed 64 (fpos + offset) < 2 ^ 64 := signed_lt (by decide)
  have size : (globalmemSize : Int) = 4096 := rfl
  simp only [SeeksExactly, globalmemLlseek, target, or_true, true_and,
    if_neg (show ¬ (1 : Int) = 0 by decide), if_true]
  by_cases above : signed 64 (fpos + offset) > globalmemSize
  · rw [if_pos above, if_neg (by omega)]
  · rw [if_neg above]
    by_cases below : signed 64 (fpos + offset) < 0
    · rw [if_pos below, if_neg (by omega)]
    · have whole : signed 64 (fpos + offset) = fpos + offset := by omega
      rw [if_neg below, whole, if_pos (by omega)]

theorem seeksExactly_other {fpos offset orig : Int} (start : orig ≠ 0) (position : orig ≠ 1) :
    SeeksExactly fpos offset orig := by
  simp [SeeksExactly, globalmemLlseek, start, position]

/-- **Which positions `globalmem_llseek` accepts**: those of the device, except that an
absolute offset counts as what is left of it in 32 bits. -/
theorem llseek_accepts_exactly_iff {fpos offset orig : Int} (valid : ValidPos globalmemSize fpos)
    (lo : -(2 ^ 63) ≤ offset) (hi : offset < 2 ^ 63) :
    SeeksExactly fpos offset orig ↔
      ¬ (orig = 0 ∧ globalmemSize < offset ∧ offset % 2 ^ 32 ≤ globalmemSize) := by
  by_cases start : orig = 0
  · subst start
    simpa only [true_and] using seeksExactly_start_iff
  · have exact_ : SeeksExactly fpos offset orig := by
      by_cases position : orig = 1
      · subst position
        exact seeksExactly_position valid lo hi
      · exact seeksExactly_other start position
    exact iff_of_true exact_ fun wraps => start wraps.1

theorem llseek_accepts_exactly_at_end : SeeksExactly 4000 96 1 :=
  (llseek_accepts_exactly_iff ⟨by decide, by decide⟩ (by decide) (by decide)).2 (by decide)

/-- An absolute offset of `2 ^ 32 + 5` is accepted as 5. -/
theorem llseek_accepts_wrapped :
    globalmemLlseek 0 (2 ^ 32 + 5) 0 = { ret := 5, fpos := 5 } ∧
      ¬ SeeksExactly 0 (2 ^ 32 + 5) 0 := by
  refine ⟨rfl, ?_⟩
  unfold SeeksExactly
  decide

end LearningKernel.GlobalMem
