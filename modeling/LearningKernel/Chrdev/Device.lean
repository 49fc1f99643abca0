/-
# Chrdev.Device -- mychrdev, a character device over a 60-byte buffer

`deviceRead`, `deviceWrite` and `deviceLseek` are the handlers of `chardev.c`,
with the C conversions where the code has them: `maxbytes` is a `loff_t`
difference stored in an `int`, and `maxbytes > lbuf` compares it as a `size_t`.

Two things separate the two handlers.  `device_write` copies into
`device_buf + *ppos`; `device_read` copies out of `device_buf`, whatever `*ppos`
is.  And the clamp of both is only sound for positions up to 60: past the end
`maxbytes` is negative, so the comparison lets all of `lbuf` through.

`device_access_inRange_iff` says for which positions and lengths the copies stay
inside the buffer.
-/
import LearningKernel.Kernel.Abi
import LearningKernel.Kernel.Vfs
import LearningKernel.Theory.CInt

namespace LearningKernel.Chrdev

open LearningKernel.Theory LearningKernel.Theory.CInt LearningKernel.Kernel LearningKernel.Kernel.Vfs

set_option autoImplicit false

/-- `MAX_LENGTH`. -/
def maxLength : Nat := 60

/-- `maxbytes = MAX_LENGTH - *ppos`. -/
def maxbytes (ppos : Int) : Int := signed 32 (signed 64 (maxLength - ppos))

/-- `bytes_to_read` and `bytes_to_write`: both handlers compute it alike. -/
def bytesToMove (ppos : Int) (lbuf : Nat) : Int :=
  if unsigned 64 (maxbytes ppos) > lbuf then signed 32 lbuf else maxbytes ppos

/-- `nbytes`, where the copy reports `min uncopied bytes` bytes not copied. -/
def bytesMoved (bytes : Int) (uncopied : Nat) : Int :=
  signed 32 (bytes - min uncopied (unsigned 64 bytes).toNat)

/-- `device_read`; `none` when `copy_to_user` is handed bytes outside `device_buf`. -/
def deviceRead (deviceBuf : Memory maxLength) (ppos : Int) (lbuf uncopied : Nat) :
    Option ReadResult :=
  let bytesToRead := bytesToMove ppos lbuf
  if bytesToRead = 0 then
    some { ret := -enospc, data := [], ppos := ppos }
  else
    -- the source is `device_buf`, not `device_buf + *ppos`
    (deviceBuf.load? 0 (unsigned 64 bytesToRead).toNat).map fun src =>
      let nbytes := bytesMoved bytesToRead uncopied
      { ret := nbytes, data := copyToUser src uncopied, ppos := signed 64 (ppos + nbytes) }

/-- `device_write` of a user buffer of `lbuf = buf.length` bytes; `none` when
`copy_from_user` is handed bytes outside `device_buf`. -/
def deviceWrite (deviceBuf : Memory maxLength) (ppos : Int) (buf : List UInt8) (uncopied : Nat) :
    Option (WriteResult (Memory maxLength)) :=
  let bytesToWrite := bytesToMove ppos buf.length
  if bytesToWrite = 0 then
    some { ret := -enospc, dev := deviceBuf, ppos := ppos }
  else
    let src := buf.take (unsigned 64 bytesToWrite).toNat
    (deviceBuf.store? ppos (copyFromUser src uncopied)).map fun stored =>
      let nbytes := bytesMoved bytesToWrite uncopied
      { ret := nbytes, dev := stored, ppos := signed 64 (ppos + nbytes) }

/-- `device_lseek`: an unknown `whence` leaves `new_pos` at 0. -/
def deviceLseek (fpos offset whence : Int) : SeekResult :=
  let newPos :=
    if whence = seekSet then offset
    else if whence = seekCur then signed 64 (fpos + offset)
    else if whence = seekEnd then signed 64 (maxLength + offset)
    else 0
  let newPos := if newPos > maxLength then (maxLength : Int) else newPos
  let newPos := if newPos < 0 then 0 else newPos
  { ret := newPos, fpos := newPos }

/-! ## The clamp -/

/-- Inside the device the clamp is the one the code means. -/
theorem bytesToMove_of_le {p : Nat} (inside : p ≤ maxLength) (lbuf : Nat) :
    bytesToMove p lbuf = (min lbuf (maxLength - p) : Nat) := by
  simp only [maxLength] at inside ⊢
  have room : maxbytes p = 60 - p := by
    unfold maxbytes maxLength
    rw [signed_eq_self (w := 64) (by omega) (by omega), signed_eq_self (by omega) (by omega)]
    rfl
  have asSize : unsigned 64 (maxbytes p) = 60 - p := by
    rw [room]
    exact unsigned_eq_self (by omega) (by omega)
  unfold bytesToMove
  by_cases fits : unsigned 64 (maxbytes p) > lbuf
  · rw [if_pos fits, signed_eq_self (by omega) (by omega)]
    omega
  · rw [if_neg fits, room]
    omega

theorem bytesMoved_natCast {n : Nat} (small : n ≤ maxLength) (uncopied : Nat) :
    bytesMoved n uncopied = (n - uncopied : Nat) := by
  simp only [maxLength] at small
  unfold bytesMoved
  rw [unsigned_eq_self (by omega) (by omega), signed_eq_self (by omega) (by omega)]
  omega

/-- `device_read` at a position of the device. -/
theorem deviceRead_of_le (deviceBuf : Memory maxLength) {p : Nat} (inside : p ≤ maxLength)
    (lbuf uncopied : Nat) :
    deviceRead deviceBuf p lbuf uncopied =
      let n := min lbuf (maxLength - p)
      if n = 0 then some { ret := -enospc, data := [], ppos := p }
      else some
        { ret := (n - uncopied : Nat), data := copyToUser (deviceBuf.load 0 n) uncopied,
          ppos := (p + (n - uncopied) : Nat) } := by
  have clamp := bytesToMove_of_le inside lbuf
  show (if bytesToMove p lbuf = 0 then _ else _) = _
  dsimp only
  rw [clamp]
  generalize count : min lbuf (maxLength - p) = n
  by_cases empty : n = 0
  · simp [empty]
  · have small : n ≤ maxLength := by omega
    rw [if_neg (by omega), if_neg empty, bytesMoved_natCast small]
    simp only [maxLength] at small inside
    rw [unsigned_eq_self (by omega) (by omega), Int.toNat_natCast, Memory.load?,
      if_pos ⟨by omega, by simp only [maxLength]; omega⟩, Option.map_some,
      signed_eq_self (by omega) (by omega)]
    simp

/-- `device_write` at a position of the device. -/
theorem deviceWrite_of_le (deviceBuf : Memory maxLength) {p : Nat} (inside : p ≤ maxLength)
    (buf : List UInt8) (uncopied : Nat) :
    deviceWrite deviceBuf p buf uncopied =
      let n := min buf.length (maxLength - p)
      if n = 0 then some { ret := -enospc, dev := deviceBuf, ppos := p }
      else some
        { ret := (n - uncopied : Nat),
          dev := deviceBuf.store p (copyFromUser (buf.take n) uncopied),
          ppos := (p + (n - uncopied) : Nat) } := by
  have clamp := bytesToMove_of_le inside buf.length
  show (if bytesToMove p buf.length = 0 then _ else _) = _
  dsimp only
  rw [clamp]
  generalize count : min buf.length (maxLength - p) = n
  by_cases empty : n = 0
  · simp [empty]
  · have small : n ≤ maxLength := by omega
    rw [if_neg (by omega), if_neg empty, bytesMoved_natCast small]
    have width : unsigned 64 (n : Int) = n := by
      simp only [maxLength] at small
      exact unsigned_eq_self (by omega) (by omega)
    have range : Memory.InRange maxLength p (copyFromUser (buf.take n) uncopied).length := by
      simp only [Memory.InRange, length_copyFromUser, List.length_take]
      omega
    simp only [maxLength] at small inside
    rw [width, Int.toNat_natCast, Memory.store?, if_pos range, Option.map_some,
      signed_eq_self (by omega) (by omega)]
    simp

/-- `device_lseek` never leaves the device. -/
theorem deviceLseek_range (fpos offset whence : Int) :
    ValidPos maxLength (deviceLseek fpos offset whence).fpos := by
  simp only [ValidPos, deviceLseek, maxLength]
  split_ifs <;> omega

/-! ## What `device_lseek` computes -/

/-- Where a seek starts from, for the three kinds of seek the driver knows. -/
def seekBase (fpos whence : Int) : Option Int :=
  if whence = seekSet then some 0
  else if whence = seekCur then some fpos
  else if whence = seekEnd then some maxLength
  else none

/-- A seek clamps the exact sum to the device, and one of another kind is refused and
moves nothing. -/
def ClampsExactly (fpos offset whence : Int) : Prop :=
  match seekBase fpos whence with
  | some base =>
      let target := max 0 (min (maxLength : Int) (base + offset))
      deviceLseek fpos offset whence = { ret := target, fpos := target }
  | none => (deviceLseek fpos offset whence).ret < 0 ∧ (deviceLseek fpos offset whence).fpos = fpos

/-- `new_pos` after the two clamps. -/
theorem clamped_eq (newPos : Int) :
    (let newPos := if newPos > maxLength then (maxLength : Int) else newPos
      if newPos < 0 then 0 else newPos) = max 0 (min (maxLength : Int) newPos) := by
  simp only [maxLength]
  split_ifs <;> omega

/-- A sum that wraps is clamped to the wrong end. -/
theorem clamped_wrapped_iff {base offset : Int} (valid : ValidPos maxLength base)
    (lo : -(2 ^ 63) ≤ offset) (hi : offset < 2 ^ 63) :
    max 0 (min (maxLength : Int) (signed 64 (base + offset))) =
        max 0 (min (maxLength : Int) (base + offset)) ↔ base + offset < 2 ^ 63 := by
  obtain ⟨bottom, top⟩ := valid
  have residue : signed 64 (base + offset) % 2 ^ 64 = (base + offset) % 2 ^ 64 := signed_emod
  have least : -(2 ^ 64) ≤ 2 * signed 64 (base + offset) := le_signed
  have greatest : 2 * signed 64 (base + offset) < 2 ^ 64 := signed_lt (by decide)
  simp only [maxLength] at top ⊢
  omega

theorem deviceLseek_eq (fpos offset whence : Int) :
    deviceLseek fpos offset whence =
      let newPos :=
        if whence = seekSet then offset
        else if whence = seekCur then signed 64 (fpos + offset)
        else if whence = seekEnd then signed 64 (maxLength + offset)
        else 0
      let target := max 0 (min (maxLength : Int) newPos)
      { ret := target, fpos := target } := by
  dsimp only
  rw [← clamped_eq]
  rfl

/-- **Where `device_lseek` clamps in exact arithmetic**: at the seeks it knows whose sum
fits in 64 bits. -/
theorem lseek_clamps_exactly_iff {fpos offset : Int} (whence : Int)
    (valid : ValidPos maxLength fpos) (lo : -(2 ^ 63) ≤ offset) (hi : offset < 2 ^ 63) :
    ClampsExactly fpos offset whence ↔
      whence = seekSet ∨ (whence = seekCur ∧ fpos + offset < 2 ^ 63) ∨
        (whence = seekEnd ∧ maxLength + offset < 2 ^ 63) := by
  unfold ClampsExactly
  rw [deviceLseek_eq]
  by_cases set : whence = seekSet
  · simp [seekBase, set]
  · by_cases cur : whence = seekCur
    · have other : ¬ seekCur = seekSet := by decide
      have last : ¬ seekCur = seekEnd := by decide
      subst cur
      simp only [seekBase, if_true, SeekResult.mk.injEq, and_self, other, last, false_or, true_and,
        false_and, or_false]
      exact clamped_wrapped_iff valid lo hi
    · by_cases ends : whence = seekEnd
      · have inside : ValidPos maxLength maxLength := ⟨by omega, Int.le_refl _⟩
        subst ends
        simp only [seekBase, if_true, SeekResult.mk.injEq, and_self, set, cur, false_or, true_and,
          false_and]
        exact clamped_wrapped_iff inside lo hi
      · simp [seekBase, set, cur, ends]

theorem lseek_clamps_exactly_back : ClampsExactly 20 (-30) seekCur :=
  (lseek_clamps_exactly_iff seekCur ⟨by decide, by decide⟩ (by decide) (by decide)).2 (by decide)

/-- From 1, the largest offset wraps and seeks to the start; a seek to data, `whence` 3,
does so, too. -/
theorem lseek_moves_to_start :
    (deviceLseek 1 (2 ^ 63 - 1) seekCur = { ret := 0, fpos := 0 } ∧
      ¬ ClampsExactly 1 (2 ^ 63 - 1) seekCur) ∧
    deviceLseek 20 0 3 = { ret := 0, fpos := 0 } ∧ ¬ ClampsExactly 20 0 3 := by
  refine ⟨⟨rfl, ?_⟩, rfl, ?_⟩
  · show ¬ deviceLseek _ _ _ = _
    decide
  · show ¬ (_ ∧ _)
    decide

/-! ## The clamp at any position -/

/-- `maxbytes` at any position the VFS can pass: the residue of the room left,
read as an `int`. -/
theorem maxbytes_emod {ppos : Int} (lo : 0 ≤ ppos) (hi : ppos < 2 ^ 63) :
    maxbytes ppos % 2 ^ 32 = (maxLength - ppos) % 2 ^ 32 := by
  unfold maxbytes
  rw [signed_emod, signed_eq_self (by simp only [maxLength]; omega) (by simp only [maxLength]; omega)]

/-- At any position: the whole of `lbuf` when `maxbytes` is negative, else the
smaller of the two. -/
theorem bytesToMove_eq (ppos : Int) {lbuf : Nat} (vfs : lbuf ≤ maxRwCount) :
    bytesToMove ppos lbuf =
      if maxbytes ppos < 0 then (lbuf : Int) else min (lbuf : Int) (maxbytes ppos) := by
  have lo : -(2 ^ 32) ≤ 2 * maxbytes ppos := le_signed
  have hi : 2 * maxbytes ppos < 2 ^ 32 := signed_lt (by decide)
  simp only [maxRwCount] at vfs
  have fits : signed 32 lbuf = lbuf := signed_eq_self (by omega) (by omega)
  have asSize : unsigned 64 (maxbytes ppos) = maxbytes ppos % 2 ^ 64 := rfl
  unfold bytesToMove
  by_cases big : unsigned 64 (maxbytes ppos) > lbuf
  · rw [if_pos big, fits]
    split <;> omega
  · rw [if_neg big]
    split <;> omega

theorem bytesToMove_range (ppos : Int) {lbuf : Nat} (vfs : lbuf ≤ maxRwCount) :
    0 ≤ bytesToMove ppos lbuf ∧ bytesToMove ppos lbuf ≤ lbuf := by
  rw [bytesToMove_eq ppos vfs]
  split <;> omega

/-- The length `copy_to_user` and `copy_from_user` take is the `int` itself. -/
theorem unsigned_bytesToMove (ppos : Int) {lbuf : Nat} (vfs : lbuf ≤ maxRwCount) :
    unsigned 64 (bytesToMove ppos lbuf) = bytesToMove ppos lbuf := by
  have range := bytesToMove_range ppos vfs
  simp only [maxRwCount] at vfs
  exact unsigned_eq_self (by omega) (by omega)

/-! ## Which accesses stay in the buffer -/

theorem deviceRead_eq_none_iff (deviceBuf : Memory maxLength) (ppos : Int) {lbuf : Nat}
    (uncopied : Nat) (vfs : lbuf ≤ maxRwCount) :
    deviceRead deviceBuf ppos lbuf uncopied = none ↔ maxLength < bytesToMove ppos lbuf := by
  have range := bytesToMove_range ppos vfs
  show (if bytesToMove ppos lbuf = 0 then _ else _) = none ↔ _
  split
  · rename_i empty
    simp [empty]
  · rw [unsigned_bytesToMove ppos vfs, Option.map_eq_none_iff]
    rw [Memory.load?, ite_eq_right_iff]
    simp only [Memory.InRange, reduceCtorEq, imp_false]
    omega

theorem deviceWrite_eq_none_iff (deviceBuf : Memory maxLength) {ppos : Int} (lo : 0 ≤ ppos)
    {buf : List UInt8} (uncopied : Nat) (vfs : buf.length ≤ maxRwCount) :
    deviceWrite deviceBuf ppos buf uncopied = none ↔
      bytesToMove ppos buf.length ≠ 0 ∧ maxLength < ppos + bytesToMove ppos buf.length := by
  have range := bytesToMove_range ppos vfs
  show (if bytesToMove ppos buf.length = 0 then _ else _) = none ↔ _
  split
  · rename_i empty
    simp [empty]
  · rename_i nonempty
    rw [unsigned_bytesToMove ppos vfs, Option.map_eq_none_iff]
    rw [Memory.store?, ite_eq_right_iff]
    simp only [Memory.InRange, length_copyFromUser, List.length_take, reduceCtorEq, imp_false]
    omega

/-- **Where the copies stay inside `device_buf`**, for every position and length
the VFS can pass.  A read starts at index 0 wherever the file is, so only its
length matters; a write past the end is harmless only when it moves nothing. -/
theorem device_access_inRange_iff (deviceBuf : Memory maxLength) {ppos : Int} (lo : 0 ≤ ppos)
    (hi : ppos < 2 ^ 63) {lbuf : Nat} (vfs : lbuf ≤ maxRwCount) (uncopied : Nat) :
    (deviceRead deviceBuf ppos lbuf uncopied ≠ none ↔
      lbuf ≤ maxLength ∨ (maxLength - ppos) % 2 ^ 32 ≤ maxLength) ∧
    ∀ buf : List UInt8, buf.length = lbuf →
      (deviceWrite deviceBuf ppos buf uncopied ≠ none ↔
        lbuf = 0 ∨ ppos ≤ maxLength ∨ (maxLength - ppos) % 2 ^ 32 = 0) := by
  have residue := maxbytes_emod lo hi
  have intLo : -(2 ^ 32) ≤ 2 * maxbytes ppos := le_signed
  have intHi : 2 * maxbytes ppos < 2 ^ 32 := signed_lt (by decide)
  have clamp := bytesToMove_eq ppos vfs
  constructor
  · rw [Ne, deviceRead_eq_none_iff deviceBuf ppos uncopied vfs, clamp]
    simp only [maxLength, maxRwCount] at *
    split <;> omega
  · rintro buf rfl
    rw [Ne, deviceWrite_eq_none_iff deviceBuf lo uncopied vfs, clamp]
    simp only [maxLength, maxRwCount] at *
    split <;> omega

theorem device_access_inRange_at_20 :
    deviceRead (Memory.zero maxLength) 20 10 0 ≠ none :=
  (device_access_inRange_iff (Memory.zero maxLength) (by decide) (by decide) (by decide) 0).1.2
    (by decide)

/-- `pread(fd, buf, 100, 61)` copies 100 bytes out of a 60-byte buffer, and the
`pwrite` at the same place stores them from index 61 on. -/
theorem access_past_end_overruns :
    0 ≤ (61 : Int) ∧ (61 : Int) < 2 ^ 63 ∧ 100 ≤ maxRwCount ∧
      deviceRead (Memory.zero maxLength) 61 100 0 = none ∧
      deviceWrite (Memory.zero maxLength) 61 (List.replicate 100 7) 0 = none := by
  refine ⟨by decide, by decide, by decide, rfl, rfl⟩

end LearningKernel.Chrdev
