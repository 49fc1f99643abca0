/-
# Reading.Lengths -- the length that a read asks for

The read handlers of the polled key, of the four interrupt-driven keys and of the motion
sensor copy a record of fixed size to the user and do not look at `cnt`.

* `respects_iff`: a call respects the caller's buffer exactly if `copy_to_user` has no
  more than `cnt` bytes to copy, because the record is that short, because it faults
  before, or because the call returns without a copy;
* `keryRead_of_returned`, `keyRead_of_copied`: these whole calls are the ones whose steps
  `Key.Readers` and `PolledKey.Reads` interleave.
-/
import LearningKernel.Icm20608.Samples
import LearningKernel.Key.Readers
import LearningKernel.PolledKey.Reads

namespace LearningKernel.Reading

open LearningKernel.Theory LearningKernel.Kernel LearningKernel.Key LearningKernel.Icm20608

set_option autoImplicit false

/-- What a call returns, and the bytes that it stores from the start of the buffer on. -/
structure Given where
  ret : Int
  stored : List UInt8

/-! ## The handlers -/

/-- `key_read` of `11_key` from its `atomic_read`, which finds `value`. -/
def keyRead (_cnt : Nat) (value : Int) (uncopied : Nat) : Given :=
  { ret := if min uncopied sizeofInt ≠ 0 then -efault else sizeofInt
    stored := copyToUser (bytes value) uncopied }

/-- The numbers of `enum key_status`. -/
def code : KeyStatus → Int
  | .keyPress => 0
  | .keyRelease => 1
  | .keyNone => 2

/-- `kery_read`, where the test finds the status `atTest` and the section the device
`dev`; with what it leaves of the device. -/
def keryRead (driver : Driver) (_cnt : Nat) (nonblock : Bool) (atTest : KeyStatus) (dev : KeyDev)
    (uncopied : Nat) : Given × KeyDev :=
  match keryReadGate driver nonblock atTest with
  | .again => ({ ret := -eagain, stored := [] }, dev)
  | .enter | .wait =>
      let d := keryReadLocked dev uncopied
      ({ ret := d.ret, stored := copyToUser (bytes (code dev.status)) uncopied }, d.dev)

/-- `icm20608_read`. -/
def sampleRead (_cnt : Nat) (spi : Spi) (stack : Memory 14) (uncopied : Nat) : Given :=
  { ret := 0, stored := copyToUser ((icm20608Readdata spi stack).flatMap bytes) uncopied }

theorem sampleRead_eq (cnt : Nat) (spi : Spi) (stack : Memory 14) (uncopied buf : Nat)
    (mem : Nat → UInt8) :
    icm20608Read spi stack uncopied buf mem =
      ((sampleRead cnt spi stack uncopied).ret,
        storeUser mem buf (sampleRead cnt spi stack uncopied).stored) := rfl

/-! ## The calls of the machines -/

/-- A call that does not test for an event first, or waits for one, does its section. -/
theorem keryRead_blocking (driver : Driver) (cnt : Nat) (atTest : KeyStatus) (dev : KeyDev)
    (uncopied : Nat) :
    (keryRead driver cnt false atTest dev uncopied).1.ret = (keryReadLocked dev uncopied).ret ∧
      (keryRead driver cnt false atTest dev uncopied).2 = (keryReadLocked dev uncopied).dev := by
  cases driver <;> exact ⟨rfl, rfl⟩

/-- What a step of `Key.Readers` returns, a whole call returns, and it leaves the same
device. -/
theorem keryRead_of_returned {R : Type} [DecidableEq R] {driver : Driver} {e : KeyEvent R}
    (taken : (machine driver).Takes e) {r : R} {ret : Int} {copied : Option KeyStatus}
    (out : e.out = .returned r ret copied) (cnt : Nat) :
    ∃ nonblock atTest uncopied,
      (keryRead driver cnt nonblock atTest e.source.dev uncopied).1.ret = ret ∧
        (keryRead driver cnt nonblock atTest e.source.dev uncopied).2 = e.target.dev := by
  obtain ⟨s, act, out', t⟩ := e
  simp only [Machine.Takes, machine] at taken
  cases out
  cases act with
  | expire level | notify | wake r' | interrupt r' =>
      simp only [Key.step] at taken
      split at taken <;> cases taken
  | call r' nonblock =>
      simp only [Key.step] at taken
      split at taken
      · cases gate : keryReadGate driver nonblock s.dev.status with
        | again =>
            rw [gate] at taken
            cases taken
            exact ⟨nonblock, s.dev.status, 0, by rw [keryRead, gate], by rw [keryRead, gate]⟩
        | enter | wait =>
            rw [gate] at taken
            cases taken
      · cases taken
  | locked r' uncopied =>
      simp only [Key.step] at taken
      split at taken
      · cases taken
        exact ⟨false, s.dev.status, uncopied,
          keryRead_blocking driver cnt s.dev.status s.dev uncopied⟩
      · cases taken

/-- What the last step of a call in `PolledKey.Reads` gives, `keyRead` gives. -/
theorem keyRead_of_copied {C : Type} [DecidableEq C] {s t : PolledKey.Reads.State C} {c : C}
    {pressed : Bool} {value : Int} {uncopied : Nat} (cnt : Nat)
    (here : s.phase c = .copying pressed value)
    (taken : PolledKey.Reads.step s (.copyToUser c (min uncopied sizeofInt = 0)) = some t) :
    t.phase c = if (keyRead cnt value uncopied).ret = sizeofInt then .returned pressed value
      else .failed := by
  simp only [PolledKey.Reads.step, here, Option.some.injEq] at taken
  rw [← taken, keyRead]
  by_cases complete : min uncopied sizeofInt = 0
  · simp [PolledKey.Reads.State.enter, complete]
  · have failed : -efault ≠ (sizeofInt : Int) := by decide
    simp [PolledKey.Reads.State.enter, complete, failed]

/-! ## The caller's buffer -/

/-- A call of one of the handlers, in any state, with any flags and any user buffer. -/
inductive Call where
  | key (value : Int) (uncopied : Nat)
  | kery (driver : Driver) (nonblock : Bool) (atTest : KeyStatus) (dev : KeyDev) (uncopied : Nat)
  | icm20608 (spi : Spi) (stack : Memory 14) (uncopied : Nat)

namespace Call

/-- The bytes of a record. -/
def record : Call → Nat
  | key .. | kery .. => sizeofInt
  | icm20608 .. => 7 * sizeofInt

def given (cnt : Nat) : Call → Given
  | key value uncopied => keyRead cnt value uncopied
  | kery driver nonblock atTest dev uncopied =>
      (keryRead driver cnt nonblock atTest dev uncopied).1
  | icm20608 spi stack uncopied => sampleRead cnt spi stack uncopied

/-- The call takes the event that its section finds. -/
def Consumes (cnt : Nat) : Call → Prop
  | kery driver nonblock atTest dev uncopied =>
      (keryRead driver cnt nonblock atTest dev uncopied).2.status ≠ dev.status
  | key .. | icm20608 .. => False

/-- What a read owes to the buffer of `cnt` bytes. -/
structure Respects (cnt : Nat) (call : Call) : Prop where
  stored : (call.given cnt).stored.length ≤ cnt
  ret : (call.given cnt).ret ≤ cnt
  event : cnt < call.record → ¬ call.Consumes cnt

/-- How many bytes `copy_to_user` can copy of the record, 0 if it is not reached. -/
def copies : Call → Nat
  | key _ uncopied => sizeofInt - uncopied
  | kery driver nonblock atTest _ uncopied =>
      match keryReadGate driver nonblock atTest with
      | .again => 0
      | .enter | .wait => sizeofInt - uncopied
  | icm20608 _ _ uncopied => 7 * sizeofInt - uncopied

theorem length_stored (cnt : Nat) (call : Call) :
    (call.given cnt).stored.length = call.copies := by
  have length (src : List UInt8) (uncopied : Nat) :
      (copyToUser src uncopied).length = src.length - uncopied := by
    rw [copyToUser, List.length_take]
    omega
  cases call with
  | key value uncopied => exact length (bytes value) uncopied
  | kery driver nonblock atTest dev uncopied =>
      simp only [given, keryRead, copies]
      cases keryReadGate driver nonblock atTest with
      | again => rfl
      | enter | wait => exact length (bytes (code dev.status)) uncopied
  | icm20608 spi stack uncopied =>
      exact length ((icm20608Readdata spi stack).flatMap bytes) uncopied

/-- A section that copies its record returns its size and takes the event, and one that
does not fails and leaves it. -/
theorem keryReadLocked_cases (dev : KeyDev) (uncopied : Nat) :
    (uncopied = 0 ∧ (keryReadLocked dev uncopied).ret = sizeofInt) ∨
      (keryReadLocked dev uncopied).ret = -efault ∧ (keryReadLocked dev uncopied).dev = dev := by
  unfold keryReadLocked
  by_cases fails : min uncopied sizeofInt ≠ 0
  · rw [if_pos fails]
    exact Or.inr ⟨rfl, rfl⟩
  · rw [if_neg fails]
    refine Or.inl ⟨?_, rfl⟩
    unfold sizeofInt at fails
    omega

/-- A call returns no more than it stores, and takes no event unless it stores its record. -/
theorem ret_le (cnt : Nat) (call : Call) :
    (call.given cnt).ret ≤ call.copies ∧ (call.Consumes cnt → call.copies = call.record) := by
  have failure : -efault ≤ (0 : Int) := by decide
  cases call with
  | key value uncopied =>
      refine ⟨?_, False.elim⟩
      simp only [given, keyRead, copies]
      split
      · omega
      · unfold sizeofInt at *
        omega
  | icm20608 spi stack uncopied => exact ⟨Int.natCast_nonneg _, False.elim⟩
  | kery driver nonblock atTest dev uncopied =>
      have section_case : (keryReadLocked dev uncopied).ret ≤ ((sizeofInt - uncopied : Nat) : Int) ∧
          ((keryReadLocked dev uncopied).dev.status ≠ dev.status →
            sizeofInt - uncopied = sizeofInt) := by
        rcases keryReadLocked_cases dev uncopied with ⟨rfl, ret⟩ | ⟨ret, left⟩
        · exact ⟨ret.le, fun _ => rfl⟩
        · refine ⟨by omega, ?_⟩
          intro taken
          exact absurd (congrArg KeyDev.status left) taken
      simp only [given, Consumes, keryRead, copies, record]
      cases keryReadGate driver nonblock atTest with
      | again =>
          have refused : -eagain ≤ (0 : Int) := by decide
          exact ⟨refused, fun taken => absurd rfl taken⟩
      | enter | wait => exact section_case

/-- **Whose buffer is respected.**  No handler looks at `cnt`: a call respects a buffer of
`cnt` bytes exactly if it copies no more than `cnt`. -/
theorem respects_iff (cnt : Nat) (call : Call) : call.Respects cnt ↔ call.copies ≤ cnt := by
  obtain ⟨returned, consumed⟩ := ret_le cnt call
  constructor
  · intro respects
    rw [← length_stored cnt call]
    exact respects.stored
  · intro enough
    refine ⟨(length_stored cnt call).le.trans enough, by omega, ?_⟩
    intro short taken
    have whole := consumed taken
    omega

/-- With room for one byte, the key driver stores four and takes the press, and the motion
sensor stores 28. -/
theorem short_reads_overrun :
    let press : Call := .kery .fasync true .keyPress ⟨.keyPress, 0⟩ 0
    let sample : Call := .icm20608 ⟨fun _ => 0, 0⟩ (Memory.zero 14) 0
    (press.given 1).ret = 4 ∧ (press.given 1).stored = [0, 0, 0, 0] ∧ press.Consumes 1 ∧
      (sample.given 1).stored.length = 28 ∧
      ∀ call ∈ [press, sample, .key 0xF0 0], ¬ call.Respects 1 := by
  refine ⟨rfl, rfl, nofun, rfl, ?_⟩
  intro call among respects
  have stored := respects.stored
  rw [length_stored] at stored
  simp only [List.mem_cons, List.not_mem_nil, or_false] at among
  rcases among with rfl | rfl | rfl
  · exact absurd stored (by decide)
  · exact absurd stored (by decide)
  · exact absurd stored (by decide)

end Call

end LearningKernel.Reading
