/-
# GlobalMem.Chunks -- one transfer in several calls

Handlers that clamp at the end of the device and refuse to start there move, chunk by
chunk, what they move at once: the clamps add up (`movable_add`), so a list of writes is
the write of its concatenation (`writeChunks_eq`), and a list of reads the read of its sum
(`readChunks_eq`).  `chunking_harmless` is the case of two.
-/
import LearningKernel.GlobalMem.File

namespace LearningKernel.GlobalMem

open LearningKernel.Theory LearningKernel.Kernel LearningKernel.Kernel.Vfs

set_option autoImplicit false

/-- What may be moved at `p` in two parts. -/
theorem movable_add (p m n : Nat) :
    movable p (m + n) = movable p m + movable (p + movable p m) n := by
  unfold movable
  omega

theorem movable_le {p : Nat} (inside : p ≤ globalmemSize) (n : Nat) :
    p + movable p n ≤ globalmemSize := by
  unfold movable
  omega

theorem movable_at_end (n : Nat) : movable globalmemSize n = 0 := by
  simp [movable]

/-! ## One call -/

/-- The memory and the position after a write. -/
def afterWrite (mem : Memory globalmemSize) (ppos : Int) (buf : List UInt8) :
    Option (Memory globalmemSize × Int) :=
  (globalmemWrite mem ppos buf 0).map fun r => (r.dev, r.ppos)

/-- What a read delivers, and the position after it. -/
def afterRead (mem : Memory globalmemSize) (ppos : Int) (size : Nat) : Option (List UInt8 × Int) :=
  (globalmemRead mem ppos size 0).map fun r => (r.data, r.ppos)

theorem afterWrite_eq (mem : Memory globalmemSize) {p : Nat} (inside : p ≤ globalmemSize)
    {buf : List UInt8} (vfs : buf.length ≤ maxRwCount) :
    afterWrite mem p buf = some (mem.store p buf, ((p + movable p buf.length : Nat) : Int)) := by
  unfold afterWrite
  rcases Nat.lt_or_ge p globalmemSize with within | past
  · rw [globalmemWrite_of_lt mem within vfs]
    have stored : mem.store p (buf.take (movable p buf.length)) = mem.store p buf := by
      by_cases fits : p + buf.length ≤ globalmemSize
      · rw [List.take_of_length_le (by unfold movable; omega)]
      · exact Memory.store_take mem p buf (by unfold movable; omega)
    rw [← stored]
    rfl
  · obtain rfl : p = globalmemSize := by omega
    rw [globalmemWrite_at_end mem vfs, Memory.store_past mem buf (Nat.le_refl _), movable_at_end]
    rfl

theorem afterRead_eq (mem : Memory globalmemSize) {p : Nat} (inside : p ≤ globalmemSize)
    {size : Nat} (vfs : size ≤ maxRwCount) :
    afterRead mem p size =
      some (mem.load p (movable p size), ((p + movable p size : Nat) : Int)) := by
  unfold afterRead
  rcases Nat.lt_or_ge p globalmemSize with within | past
  · rw [globalmemRead_of_lt mem within vfs]
    rfl
  · obtain rfl : p = globalmemSize := by omega
    rw [globalmemRead_at_end mem vfs, movable_at_end]
    rfl

/-! ## Any number of calls -/

/-- Writes one after the other, each at the position that the one before it left. -/
def writeChunks (mem : Memory globalmemSize) (ppos : Int) :
    List (List UInt8) → Option (Memory globalmemSize × Int)
  | [] => some (mem, ppos)
  | chunk :: chunks =>
      (afterWrite mem ppos chunk).bind fun after => writeChunks after.1 after.2 chunks

/-- And reads: what they deliver together. -/
def readChunks (mem : Memory globalmemSize) (ppos : Int) :
    List Nat → Option (List UInt8 × Int)
  | [] => some ([], ppos)
  | size :: sizes =>
      (afterRead mem ppos size).bind fun after =>
        (readChunks mem after.2 sizes).map fun rest => (after.1 ++ rest.1, rest.2)

/-- A store behind a store that stopped at the end of the memory. -/
theorem store_movable (mem : Memory globalmemSize) {p : Nat} (inside : p ≤ globalmemSize)
    (bs cs : List UInt8) :
    (mem.store p bs).store (p + movable p bs.length) cs = mem.store p (bs ++ cs) := by
  by_cases fits : p + bs.length ≤ globalmemSize
  · have whole : movable p bs.length = bs.length := by
      unfold movable
      omega
    rw [whole, Memory.store_append]
  · have atEnd : p + movable p bs.length = globalmemSize := by
      unfold movable
      omega
    rw [atEnd, Memory.store_past _ cs (Nat.le_refl _)]
    have cut := Memory.store_take mem p (bs ++ cs) (k := bs.length) (by omega)
    rw [List.take_left] at cut
    exact cut

/-- **Writing in chunks** leaves what one write of all of them leaves. -/
theorem writeChunks_eq (mem : Memory globalmemSize) {p : Nat} (inside : p ≤ globalmemSize)
    {chunks : List (List UInt8)} (vfs : chunks.flatten.length ≤ maxRwCount) :
    writeChunks mem p chunks = afterWrite mem p chunks.flatten := by
  rw [afterWrite_eq mem inside vfs]
  induction chunks generalizing mem p with
  | nil => simp [writeChunks, movable]
  | cons chunk chunks ih =>
      rw [List.flatten_cons, List.length_append] at vfs
      rw [writeChunks, afterWrite_eq mem inside (by omega), Option.bind_some]
      dsimp only
      rw [ih _ (movable_le inside _) (by omega), store_movable mem inside, List.flatten_cons,
        List.length_append, movable_add, Nat.add_assoc]

/-- **Reading in chunks** delivers what one read of their sum delivers. -/
theorem readChunks_eq (mem : Memory globalmemSize) {p : Nat} (inside : p ≤ globalmemSize)
    {sizes : List Nat} (vfs : sizes.sum ≤ maxRwCount) :
    readChunks mem p sizes = afterRead mem p sizes.sum := by
  rw [afterRead_eq mem inside vfs]
  induction sizes generalizing p with
  | nil => simp [readChunks, movable, Memory.load]
  | cons size sizes ih =>
      rw [List.sum_cons] at vfs
      rw [readChunks, afterRead_eq mem inside (by omega), Option.bind_some]
      dsimp only
      rw [ih (movable_le inside _) (by omega), Option.map_some, List.sum_cons, movable_add,
        Memory.load_append, Nat.add_assoc]

/-- **Chunking does not matter**: two writes leave the memory and the position of one
write of both buffers, and two reads deliver the bytes and leave the position of one read
of both sizes, wherever the end of the device falls. -/
theorem chunking_harmless (mem : Memory globalmemSize) {p : Nat} (inside : p ≤ globalmemSize) :
    (∀ a b : List UInt8, a.length + b.length ≤ maxRwCount →
      ((globalmemWrite mem p a 0).bind fun first =>
          (globalmemWrite first.dev first.ppos b 0).map fun r => (r.dev, r.ppos)) =
        (globalmemWrite mem p (a ++ b) 0).map fun r => (r.dev, r.ppos)) ∧
    ∀ m n, m + n ≤ maxRwCount →
      ((globalmemRead mem p m 0).bind fun first =>
          (globalmemRead mem first.ppos n 0).map fun r => (first.data ++ r.data, r.ppos)) =
        (globalmemRead mem p (m + n) 0).map fun r => (r.data, r.ppos) := by
  refine ⟨?_, ?_⟩
  · intro a b vfs
    have total : [a, b].flatten.length ≤ maxRwCount := by simpa using vfs
    have both := writeChunks_eq mem inside total
    simp only [writeChunks, afterWrite, List.flatten_cons, List.flatten_nil, List.append_nil] at both
    rw [← both]
    cases globalmemWrite mem p a 0 with
    | none => rfl
    | some first =>
        simp only [Option.bind_some, Option.map_some]
        cases globalmemWrite first.dev first.ppos b 0 <;> rfl
  · intro m n vfs
    have total : [m, n].sum ≤ maxRwCount := by simpa using vfs
    have both := readChunks_eq mem inside total
    simp only [readChunks, afterRead, List.sum_cons, List.sum_nil, Nat.add_zero] at both
    rw [← both]
    cases globalmemRead mem p m 0 with
    | none => rfl
    | some first =>
        simp only [Option.bind_some, Option.map_some]
        cases globalmemRead mem first.ppos n 0 with
        | none => rfl
        | some second => simp

/-- The end of the device falls into the second chunk. -/
theorem chunking_harmless_across_end :
    let mem := Memory.zero globalmemSize
    (((globalmemWrite mem (4093 : Nat) [1, 2] 0).bind fun first =>
        (globalmemWrite first.dev first.ppos [3, 4] 0).map fun r => (r.dev, r.ppos)) =
      (globalmemWrite mem (4093 : Nat) [1, 2, 3, 4] 0).map fun r => (r.dev, r.ppos)) ∧
    ((globalmemRead mem (4093 : Nat) 2 0).bind fun first =>
        (globalmemRead mem first.ppos 2 0).map fun r => (first.data ++ r.data, r.ppos)) =
      (globalmemRead mem (4093 : Nat) 4 0).map fun r => (r.data, r.ppos) :=
  ⟨(chunking_harmless _ (by decide)).1 [1, 2] [3, 4] (by decide),
    (chunking_harmless _ (by decide)).2 2 2 (by decide)⟩

end LearningKernel.GlobalMem
