/-
# Theory.Memory -- byte arrays, checked ranges, user copies and write logs

A `Memory n` is an array of `n` bytes.  `load` and `store` move a run of bytes;
`load?` and `store?` are the same for an offset the program computed, refused
when any byte of the range lies outside the array.

`copyFromUser` and `copyToUser` are the two user copies of an operating system
kernel, as functions of how many bytes at the end the environment fails to copy:
a failing copy in zero-fills the rest of its destination.

`storeUser` and `loadUser` are what such copies do to a user's memory.

`lastWritten` reads a log of writes: the byte most recently written at an
index, 0 where none was.  `Holds` says that a memory agrees with a log on its
whole extent; a store and its log entry keep it (`Holds.store`), and a load then
reads what the log says (`Holds.load`).
-/
import Mathlib.Data.List.Basic
import Mathlib.Tactic.Common

namespace LearningKernel.Theory

set_option autoImplicit false

/-- An array of `n` bytes. -/
structure Memory (n : Nat) where
  byte : Fin n → UInt8

namespace Memory

variable {n : Nat}

/-- The zeroed array. -/
def zero (n : Nat) : Memory n := ⟨fun _ => 0⟩

/-- The byte at an index, 0 beyond the array. -/
def get (m : Memory n) (i : Nat) : UInt8 :=
  if h : i < n then m.byte ⟨i, h⟩ else 0

/-- `len` bytes from `off`. -/
def load (m : Memory n) (off len : Nat) : List UInt8 :=
  (List.range len).map fun k => m.get (off + k)

/-- Overwrite from `off` with `bs`. -/
def store (m : Memory n) (off : Nat) (bs : List UInt8) : Memory n :=
  ⟨fun i => if off ≤ i then bs[i - off]?.getD (m.byte i) else m.byte i⟩

/-- All of `off, …, off + len - 1` are indices of an array of `n`. -/
def InRange (n : Nat) (off : Int) (len : Nat) : Prop := 0 ≤ off ∧ off + len ≤ n

instance (n : Nat) (off : Int) (len : Nat) : Decidable (InRange n off len) :=
  inferInstanceAs (Decidable (_ ∧ _))

/-- `load` at an offset the program computed. -/
def load? (m : Memory n) (off : Int) (len : Nat) : Option (List UInt8) :=
  if InRange n off len then some (m.load off.toNat len) else none

/-- `store` at an offset the program computed. -/
def store? (m : Memory n) (off : Int) (bs : List UInt8) : Option (Memory n) :=
  if InRange n off bs.length then some (m.store off.toNat bs) else none

theorem ext_get {m m' : Memory n} (same : ∀ i, i < n → m.get i = m'.get i) : m = m' := by
  cases m with
  | mk byte =>
      cases m' with
      | mk byte' =>
          congr 1
          funext i
          simpa [get, i.isLt] using same i i.isLt

@[simp] theorem get_zero (i : Nat) : (zero n).get i = 0 := by
  simp [get, zero]

theorem get_store (m : Memory n) (off : Nat) (bs : List UInt8) {i : Nat} (inside : i < n) :
    (m.store off bs).get i = if off ≤ i then bs[i - off]?.getD (m.get i) else m.get i := by
  simp [get, store, inside]

/-- The frame of a store. -/
theorem get_store_outside (m : Memory n) (off : Nat) (bs : List UInt8) {i : Nat}
    (outside : i < off ∨ off + bs.length ≤ i) : (m.store off bs).get i = m.get i := by
  by_cases inside : i < n
  · rw [get_store m off bs inside]
    rcases outside with below | above
    · rw [if_neg (by omega)]
    · rw [List.getElem?_eq_none (by omega)]
      split <;> rfl
  · simp [get, inside]

@[simp] theorem store_nil (m : Memory n) (off : Nat) : m.store off [] = m :=
  ext_get fun i _ => get_store_outside m off [] (by simp; omega)

@[simp] theorem length_load (m : Memory n) (off len : Nat) : (m.load off len).length = len := by
  simp [load]

/-- A store is read back. -/
theorem load_store (m : Memory n) (off : Nat) (bs : List UInt8) (fits : off + bs.length ≤ n) :
    (m.store off bs).load off bs.length = bs := by
  apply List.ext_getElem
  · simp
  · intro k hk hk'
    have inside : off + k < n := by omega
    simp only [load, List.getElem_map, List.getElem_range]
    rw [get_store m off bs inside, if_pos (by omega), Nat.add_sub_cancel_left,
      List.getElem?_eq_getElem hk']
    rfl

/-- A store changes nothing exactly if it stores what is there. -/
theorem store_eq_self_iff (m : Memory n) (off : Nat) (bs : List UInt8)
    (fits : off + bs.length ≤ n) : m.store off bs = m ↔ m.load off bs.length = bs := by
  constructor
  · intro same
    have back := load_store m off bs fits
    rw [same] at back
    exact back
  · intro there
    apply ext_get
    intro i inside
    rw [get_store m off bs inside]
    split
    · rename_i above
      by_cases within : i - off < bs.length
      · have byte : (m.load off bs.length)[i - off]? = bs[i - off]? := by rw [there]
        rw [← byte]
        simp [load, within, Nat.add_sub_cancel' above]
      · rw [List.getElem?_eq_none (by omega)]
        rfl
    · rfl

/-- Two stores, one behind the other. -/
theorem store_append (m : Memory n) (off : Nat) (bs cs : List UInt8) :
    (m.store off bs).store (off + bs.length) cs = m.store off (bs ++ cs) := by
  apply ext_get
  intro i inside
  rw [get_store _ _ _ inside, get_store _ _ _ inside, get_store _ _ _ inside]
  by_cases above : off ≤ i
  · rw [if_pos above, if_pos above]
    by_cases second : off + bs.length ≤ i
    · rw [if_pos second, List.getElem?_append_right (by omega), List.getElem?_eq_none (l := bs)
        (by omega), Nat.sub_add_eq]
      rfl
    · rw [if_neg second, List.getElem?_append_left (by omega)]
  · rw [if_neg above, if_neg (by omega), if_neg above]

/-- What goes past the end of the array is not stored. -/
theorem store_take (m : Memory n) (off : Nat) (bs : List UInt8) {k : Nat} (room : n ≤ off + k) :
    m.store off (bs.take k) = m.store off bs := by
  apply ext_get
  intro i inside
  rw [get_store _ _ _ inside, get_store _ _ _ inside]
  by_cases above : off ≤ i
  · rw [if_pos above, if_pos above, List.getElem?_take_of_lt (by omega)]
  · rw [if_neg above, if_neg above]

theorem store_past (m : Memory n) {off : Nat} (bs : List UInt8) (past : n ≤ off) :
    m.store off bs = m := by
  apply ext_get
  intro i inside
  exact get_store_outside m off bs (Or.inl (by omega))

/-- Two loads, one behind the other. -/
theorem load_append (m : Memory n) (off len len' : Nat) :
    m.load off (len + len') = m.load off len ++ m.load (off + len) len' := by
  simp [load, List.range_add, Function.comp_def, Nat.add_assoc]

/-- A store of bytes and then zeros, read back. -/
theorem load_store_padded (m : Memory n) (p : Nat) (bs : List UInt8) (k : Nat)
    (fits : p + bs.length + k ≤ n) :
    (m.store p (bs ++ List.replicate k 0)).load p bs.length = bs := by
  have whole := load_store m p (bs ++ List.replicate k 0) (by simp; omega)
  rw [List.length_append, load_append] at whole
  exact List.append_inj_left whole (length_load _ _ _)

/-- Outside the bytes, such a store changes what is not zero among the `k` behind them. -/
theorem get_store_padded_iff (m : Memory n) (p : Nat) (bs : List UInt8) (k : Nat)
    (fits : p + bs.length + k ≤ n) :
    (∀ i, i < n → i < p ∨ p + bs.length ≤ i →
        (m.store p (bs ++ List.replicate k 0)).get i = m.get i) ↔
      ∀ i, p + bs.length ≤ i → i < p + bs.length + k → m.get i = 0 := by
  have padded : ∀ i, p + bs.length ≤ i → i < p + bs.length + k →
      (m.store p (bs ++ List.replicate k 0)).get i = 0 := by
    intro i above below
    rw [get_store _ _ _ (by omega), if_pos (by omega),
      List.getElem?_append_right (by omega), List.getElem?_replicate, if_pos (by omega)]
    rfl
  constructor
  · intro same i above below
    rw [← same i (by omega) (Or.inr above)]
    exact padded i above below
  · intro zeros i inside outside
    by_cases behind : p + bs.length ≤ i ∧ i < p + bs.length + k
    · rw [padded i behind.1 behind.2, zeros i behind.1 behind.2]
    · apply get_store_outside
      rw [List.length_append, List.length_replicate]
      omega

end Memory

/-! ## User copies -/

/-- What a copy from user space leaves in its destination when the last
`uncopied` bytes of `src` cannot be read: the bytes before them, then zeros. -/
def copyFromUser (src : List UInt8) (uncopied : Nat) : List UInt8 :=
  src.take (src.length - uncopied) ++ List.replicate (min uncopied src.length) 0

/-- What a copy to user space delivers when the last `uncopied` bytes cannot be
written. -/
def copyToUser (src : List UInt8) (uncopied : Nat) : List UInt8 :=
  src.take (src.length - uncopied)

@[simp] theorem length_copyFromUser (src : List UInt8) (uncopied : Nat) :
    (copyFromUser src uncopied).length = src.length := by
  simp [copyFromUser]
  omega

@[simp] theorem copyFromUser_zero (src : List UInt8) : copyFromUser src 0 = src := by
  simp [copyFromUser]

@[simp] theorem copyToUser_zero (src : List UInt8) : copyToUser src 0 = src := by
  simp [copyToUser]

/-! ## User memory -/

/-- A user's memory after `bs` was stored at an address. -/
def storeUser (mem : Nat → UInt8) (addr : Nat) (bs : List UInt8) : Nat → UInt8 := fun a =>
  if addr ≤ a then bs[a - addr]?.getD (mem a) else mem a

/-- `len` bytes of a user's memory. -/
def loadUser (mem : Nat → UInt8) (addr len : Nat) : List UInt8 :=
  (List.range len).map fun k => mem (addr + k)

@[simp] theorem length_loadUser (mem : Nat → UInt8) (addr len : Nat) :
    (loadUser mem addr len).length = len := by
  simp [loadUser]

theorem loadUser_storeUser (mem : Nat → UInt8) (addr : Nat) (bs : List UInt8) :
    loadUser (storeUser mem addr bs) addr bs.length = bs := by
  apply List.ext_getElem
  · simp
  · intro k _ inside
    simp only [loadUser, storeUser, List.getElem_map, List.getElem_range]
    rw [if_pos (Nat.le_add_right _ _), Nat.add_sub_cancel_left, List.getElem?_eq_getElem inside]
    rfl

/-- A part of what was stored. -/
theorem loadUser_storeUser_part (mem : Nat → UInt8) (addr : Nat) (bs : List UInt8) {off len : Nat}
    (inside : off + len ≤ bs.length) :
    loadUser (storeUser mem addr bs) (addr + off) len = (bs.drop off).take len := by
  apply List.ext_getElem
  · simp
    omega
  · intro k _ within
    have bound : off + k < bs.length := by
      simp only [List.length_take, List.length_drop] at within
      omega
    simp only [loadUser, storeUser, List.getElem_map, List.getElem_range, List.getElem_take,
      List.getElem_drop]
    rw [if_pos (by omega), Nat.add_assoc, Nat.add_sub_cancel_left, List.getElem?_eq_getElem bound]
    rfl

/-- Storing what is there changes nothing. -/
theorem storeUser_loadUser (mem : Nat → UInt8) (addr len : Nat) :
    storeUser mem addr (loadUser mem addr len) = mem := by
  funext a
  unfold storeUser
  split
  · rename_i above
    by_cases inside : a - addr < len
    · rw [List.getElem?_eq_getElem (by simpa using inside)]
      simp only [loadUser, List.getElem_map, List.getElem_range, Option.getD_some]
      rw [Nat.add_sub_cancel' above]
    · rw [List.getElem?_eq_none (by simpa using inside)]
      rfl
  · rfl

theorem storeUser_eq_self_iff {mem : Nat → UInt8} {addr : Nat} {bs : List UInt8} :
    storeUser mem addr bs = mem ↔ loadUser mem addr bs.length = bs := by
  constructor
  · intro same
    rw [← same, loadUser_storeUser]
  · intro there
    rw [← there, storeUser_loadUser]

theorem storeUser_inj {mem : Nat → UInt8} {addr : Nat} {bs bs' : List UInt8}
    (length : bs.length = bs'.length) :
    storeUser mem addr bs = storeUser mem addr bs' ↔ bs = bs' := by
  constructor
  · intro same
    rw [← loadUser_storeUser mem addr bs, same, length, loadUser_storeUser]
  · rintro rfl
    rfl

/-! ## Write logs -/

/-- A run of bytes written at an offset. -/
structure Write where
  off : Nat
  bytes : List UInt8

/-- The byte a write leaves at `i`, where `before` is what it found. -/
def Write.apply (w : Write) (i : Nat) (before : UInt8) : UInt8 :=
  if w.off ≤ i then w.bytes[i - w.off]?.getD before else before

/-- The byte most recently written at `i` by a chronological log, 0 where
nothing was written. -/
def lastWritten (log : List Write) (i : Nat) : UInt8 :=
  log.foldl (fun before w => w.apply i before) 0

@[simp] theorem lastWritten_nil (i : Nat) : lastWritten [] i = 0 := rfl

theorem lastWritten_concat (log : List Write) (w : Write) (i : Nat) :
    lastWritten (log ++ [w]) i = w.apply i (lastWritten log i) := by
  simp [lastWritten]

/-- The memory is what the log wrote. -/
def Holds {n : Nat} (m : Memory n) (log : List Write) : Prop :=
  ∀ i, i < n → m.get i = lastWritten log i

/-- The write has a byte of its own for `i`. -/
def Write.Covers (w : Write) (i : Nat) : Prop := w.off ≤ i ∧ i < w.off + w.bytes.length

instance (w : Write) (i : Nat) : Decidable (w.Covers i) := inferInstanceAs (Decidable (_ ∧ _))

theorem Write.apply_of_covers {w : Write} {i : Nat} (covers : w.Covers i)
    (before before' : UInt8) : w.apply i before = w.apply i before' := by
  obtain ⟨above, below⟩ := covers
  have own : i - w.off < w.bytes.length := by omega
  rw [Write.apply, Write.apply, if_pos above, if_pos above, List.getElem?_eq_getElem own]
  rfl

theorem Write.apply_of_not_covers {w : Write} {i : Nat} (outside : ¬ w.Covers i)
    (before : UInt8) : w.apply i before = before := by
  unfold Write.apply
  split
  · rename_i above
    rw [List.getElem?_eq_none (by unfold Write.Covers at outside; omega)]
    rfl
  · rfl

theorem holds_zero (n : Nat) : Holds (Memory.zero n) [] := fun i _ => by simp

variable {n : Nat} {m : Memory n} {log : List Write}

theorem Holds.store (holds : Holds m log) (off : Nat) (bs : List UInt8) :
    Holds (m.store off bs) (log ++ [⟨off, bs⟩]) := by
  intro i inside
  rw [Memory.get_store m off bs inside, lastWritten_concat, Write.apply, holds i inside]

theorem Holds.load (holds : Holds m log) {off len : Nat} (fits : off + len ≤ n) :
    m.load off len = (List.range len).map fun k => lastWritten log (off + k) := by
  apply List.map_congr_left
  intro k member
  have bound : k < len := List.mem_range.1 member
  exact holds (off + k) (by omega)

end LearningKernel.Theory
