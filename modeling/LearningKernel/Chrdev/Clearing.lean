/-
# Chrdev.Clearing -- `init_device` clears a buffer that can be written already

`init_device` zeroes `device_buf` after `register_chrdev`, so the calls of open files
fall between the turns of its loop.  The buffer is static and zero before, and all that
the loop can do is to take back what such a call has written.

`clearing_spares_iff`: over every run, with copies that fault, the buffer is what the
calls put there exactly if each byte the loop clears was zero still or is written again;
a byte that is lost reads 0.
-/
import LearningKernel.Chrdev.Device
import LearningKernel.Theory.Latest

namespace LearningKernel.Chrdev

open LearningKernel.Theory LearningKernel.Kernel LearningKernel.Kernel.Vfs

set_option autoImplicit false

/-- `fops` of `chardev.c`; the copy of the call leaves the last `uncopied` bytes. -/
def deviceFops (uncopied : Nat) : FileOperations (Memory maxLength) where
  read deviceBuf ppos lbuf := deviceRead deviceBuf ppos lbuf uncopied
  write deviceBuf ppos buf := deviceWrite deviceBuf ppos buf uncopied
  llseek := deviceLseek

namespace Clearing

/-- The open files, and the `i` of `init_device` once `register_chrdev` has succeeded. -/
structure State (File : Type) where
  files : Files (Memory maxLength) File
  i : Option Nat

/-- The module is loaded; `device_buf` is static. -/
def State.loaded (File : Type) : State File := ⟨Files.opened File (Memory.zero maxLength), none⟩

inductive Act (File : Type) where
  /-- `register_chrdev` -/
  | register (major : Int)
  /-- a turn of the loop -/
  | clear
  /-- a call of a client, whose copy leaves the last `uncopied` bytes -/
  | call (uncopied : Nat) (c : Call File)

inductive Out where
  | registered
  /-- `init_device` returns `major` -/
  | failed (major : Int)
  | cleared
  | reply (r : Reply)
  deriving DecidableEq

variable {File : Type} [DecidableEq File]

def step (s : State File) : Act File → Option (Out × State File)
  | .register major =>
      match s.i with
      | none =>
          if major < 0 then some (.failed major, s)
          else some (.registered, { s with i := some 0 })
      | some _ => none
  | .clear =>
      match s.i with
      | none => none
      | some i =>
          if i < maxLength then
            let files := { s.files with dev := s.files.dev.store i [0] }
            some (.cleared, { files := files, i := some (i + 1) })
          else none
  | .call uncopied c =>
      match s.i with
      | none => none
      | some _ =>
          let r := Vfs.call (deviceFops uncopied) s.files c
          some (.reply r.1, { s with files := r.2 })

/-- `init_device` and the clients, in any order. -/
def machine (File : Type) [DecidableEq File] : Machine (State File) (Act File) Out := ⟨step⟩

abbrev ClearEvent (File : Type) := Event (State File) (Act File) Out

/-! ## What is put into the buffer -/

/-- What a call puts there: of what it was given, as much as there is room for, of which
the last bytes are zeros if the copy faults. -/
def puts (s : Files (Memory maxLength) File) (uncopied : Nat) : Call File → Option Write
  | .write file data =>
      let p := (s.pos file).toNat
      some ⟨p, copyFromUser (data.take (min data.length (maxLength - p))) uncopied⟩
  | .read _ _ | .llseek _ _ _ => none

def put? (e : ClearEvent File) : Option Write :=
  match e.act with
  | .call uncopied c => puts e.source.files uncopied c
  | .register _ | .clear => none

/-- The log of the clients. -/
def written (es : List (ClearEvent File)) : List Write := es.filterMap put?

omit [DecidableEq File] in
theorem written_concat (es : List (ClearEvent File)) (e : ClearEvent File) :
    written (es ++ [e]) = written es ++ (put? e).toList := by
  rw [written, List.filterMap_append, written]
  cases here : put? e <;> simp [here]

/-- The loop clears this byte. -/
def Clears (e : ClearEvent File) (i : Nat) : Prop := e.act = .clear ∧ e.source.i = some i

theorem deviceFops_keepsPos (uncopied : Nat) : KeepsPos maxLength (deviceFops uncopied) where
  read := by
    rintro m pos lbuf r ⟨lo, hi⟩ result success
    obtain ⟨p, rfl⟩ := Int.eq_ofNat_of_zero_le lo
    simp only [deviceFops, deviceRead_of_le m (Int.ofNat_le.1 hi)] at result
    split at result
    · cases result
      exact validPos_natCast (Int.ofNat_le.1 hi)
    · cases result
      exact validPos_natCast (by omega)
  write := by
    rintro m pos buf r ⟨lo, hi⟩ result success
    obtain ⟨p, rfl⟩ := Int.eq_ofNat_of_zero_le lo
    simp only [deviceFops, deviceWrite_of_le m (Int.ofNat_le.1 hi)] at result
    split at result
    · cases result
      exact validPos_natCast (Int.ofNat_le.1 hi)
    · cases result
      exact validPos_natCast (by omega)
  llseek pos offset whence _ := deviceLseek_range pos offset whence

/-- What a call does to the buffer. -/
theorem call_get (uncopied : Nat) {s : Files (Memory maxLength) File}
    (valid : ∀ f, ValidPos maxLength (s.pos f)) (c : Call File) {i : Nat} (inside : i < maxLength) :
    (Vfs.call (deviceFops uncopied) s c).2.dev.get i =
      (puts s uncopied c).elim (s.dev.get i) fun w => w.apply i (s.dev.get i) := by
  cases c with
  | read file lbuf =>
      simp only [Vfs.call, puts, Option.elim_none]
      split <;> rfl
  | llseek file offset whence => rfl
  | write file data =>
      obtain ⟨lo, hi⟩ := valid file
      obtain ⟨p, here⟩ := Int.eq_ofNat_of_zero_le lo
      rw [here] at hi
      simp only [Vfs.call, puts, here, deviceFops, deviceWrite_of_le s.dev (Int.ofNat_le.1 hi),
        Option.elim_some, Int.toNat_natCast]
      split_ifs with nothing
      · rw [nothing, Write.apply_of_not_covers]
        rintro ⟨above, below⟩
        dsimp only at above below
        rw [length_copyFromUser, List.length_take, Nat.zero_min] at below
        omega
      · exact Memory.get_store s.dev p _ inside

/-! ## The loop and the clients -/

/-- Where the loop clears `i`, it finds a 0, or a client writes there again. -/
def Spared (es : List (ClearEvent File)) (i : Nat) : Prop :=
  ∀ before e after, es = before ++ e :: after → Clears e i →
    lastWritten (written before) i = 0 ∨ ∃ w ∈ written after, w.Covers i

omit [DecidableEq File] in
theorem spared_concat {es : List (ClearEvent File)} {e : ClearEvent File} {i : Nat} :
    Spared (es ++ [e]) i ↔
      (Spared es i ∨ ∃ w ∈ put? e, w.Covers i) ∧ (Clears e i → lastWritten (written es) i = 0) := by
  unfold Spared
  rw [forall_cuts_concat]
  refine and_congr ?_ ?_
  · by_cases again : ∃ w ∈ put? e, w.Covers i
    · simp only [again, or_true, iff_true]
      obtain ⟨w, put, covers⟩ := again
      intro before d after _ _
      refine Or.inr ⟨w, ?_, covers⟩
      rw [written_concat]
      exact List.mem_append_right _ (Option.mem_toList.2 put)
    · simp only [again, or_false]
      refine forall_congr' fun before => forall_congr' fun d => forall_congr' fun after => ?_
      refine forall_congr' fun _ => forall_congr' fun _ => or_congr_right ?_
      constructor
      · rintro ⟨w, member, covers⟩
        rw [written_concat] at member
        rcases List.mem_append.1 member with earlier | last
        · exact ⟨w, earlier, covers⟩
        · exact absurd ⟨w, Option.mem_toList.1 last, covers⟩ again
      · rintro ⟨w, member, covers⟩
        refine ⟨w, ?_, covers⟩
        rw [written_concat]
        exact List.mem_append_left _ member
  · refine forall_congr' fun _ => or_iff_left ?_
    rintro ⟨w, member, -⟩
    cases member

/-- What a step does to the buffer, the positions and the loop. -/
structure Does (e : ClearEvent File) : Prop where
  valid : (∀ f, ValidPos maxLength (e.source.files.pos f)) →
    ∀ f, ValidPos maxLength (e.target.files.pos f)
  cleared : ∀ i, i < maxLength → Clears e i → put? e = none ∧ e.target.files.dev.get i = 0
  kept : (∀ f, ValidPos maxLength (e.source.files.pos f)) → ∀ i, i < maxLength → ¬ Clears e i →
    e.target.files.dev.get i =
      (put? e).elim (e.source.files.dev.get i) fun w => w.apply i (e.source.files.dev.get i)
  onward : ∀ i, e.source.i = some i → ∃ j, e.target.i = some j ∧ i ≤ j
  past : ∀ i, Clears e i → e.target.i = some (i + 1)

theorem does_of_takes {e : ClearEvent File} (taken : (machine File).Takes e) : Does e := by
  obtain ⟨s, act, out, t⟩ := e
  simp only [Machine.Takes, machine] at taken
  cases act with
  | register major =>
      simp only [step] at taken
      split at taken
      · rename_i before
        have same : t.files = s.files := by
          split at taken <;> cases taken <;> rfl
        have quiet : ∀ i, ¬ Clears ⟨s, .register major, out, t⟩ i := fun i clears => by
          cases clears.1
        refine ⟨fun valid => ?_, fun i _ clears => absurd clears (quiet i), fun _ i _ _ => ?_,
          fun i here => ?_, fun i clears => absurd clears (quiet i)⟩
        · rw [same]
          exact valid
        · rw [same]
          rfl
        · rw [before] at here
          cases here
      · cases taken
  | clear =>
      simp only [step] at taken
      split at taken
      · cases taken
      · rename_i k here
        split at taken
        · rename_i inside
          cases taken
          refine ⟨fun valid => valid, fun i bound clears => ⟨rfl, ?_⟩, fun _ i bound stays => ?_,
            fun i there => ?_, fun i clears => ?_⟩
          · obtain rfl : k = i := Option.some.inj (here.symm.trans clears.2)
            rw [Memory.get_store _ _ _ bound, if_pos (Nat.le_refl k), Nat.sub_self]
            rfl
          · have other : i < k ∨ k + [(0 : UInt8)].length ≤ i := by
              have apart : k ≠ i := fun same => stays ⟨rfl, same ▸ here⟩
              rw [List.length_singleton]
              omega
            exact Memory.get_store_outside _ _ _ other
          · obtain rfl : k = i := Option.some.inj (here.symm.trans there)
            exact ⟨k + 1, rfl, Nat.le_succ k⟩
          · obtain rfl : k = i := Option.some.inj (here.symm.trans clears.2)
            rfl
        · cases taken
  | call uncopied c =>
      simp only [step] at taken
      split at taken
      · cases taken
      · rename_i k here
        cases taken
        have quiet : ∀ i, ¬ (Act.call uncopied c = .clear ∧ s.i = some i) := fun i clears => by
          cases clears.1
        exact ⟨fun valid => (deviceFops_keepsPos uncopied).call valid c,
          fun i _ clears => absurd clears (quiet i),
          fun valid i bound _ => call_get uncopied valid c bound,
          fun i there => ⟨i, there, Nat.le_refl i⟩, fun i clears => absurd clears (quiet i)⟩

/-- What holds along a run. -/
structure Tracks (es : List (ClearEvent File)) (s : State File) : Prop where
  valid : ∀ f, ValidPos maxLength (s.files.pos f)
  /-- each byte is cleared once -/
  once : ∀ d ∈ es, ∀ j, Clears d j → ∃ i, s.i = some i ∧ j < i
  spared : ∀ i, i < maxLength → Spared es i → s.files.dev.get i = lastWritten (written es) i
  lost : ∀ i, i < maxLength → ¬ Spared es i →
    s.files.dev.get i = 0 ∧ lastWritten (written es) i ≠ 0

omit [DecidableEq File] in
theorem tracks_loaded : Tracks [] (State.loaded File) where
  valid _ := validPos_natCast (Nat.zero_le _)
  once _ member := absurd member List.not_mem_nil
  spared i _ _ := Memory.get_zero i
  lost _ _ taken := absurd (fun _ _ _ cut => absurd cut (by simp)) taken

theorem Tracks.step {es : List (ClearEvent File)} {e : ClearEvent File}
    (taken : (machine File).Takes e) (tracks : Tracks es e.source) :
    Tracks (es ++ [e]) e.target := by
  have does := does_of_takes taken
  have first : ∀ i, Clears e i → Spared es i := by
    rintro i ⟨-, here⟩ before d after cut clears
    obtain ⟨k, there, below⟩ := tracks.once d (by simp [cut]) i clears
    rw [here] at there
    cases there
    exact absurd below (Nat.lt_irrefl i)
  -- each byte: it is cleared, or a client writes there, or nothing happens to it
  have byte : ∀ i, i < maxLength →
      (Spared (es ++ [e]) i →
        e.target.files.dev.get i = lastWritten (written (es ++ [e])) i) ∧
      (¬ Spared (es ++ [e]) i →
        e.target.files.dev.get i = 0 ∧ lastWritten (written (es ++ [e])) i ≠ 0) := by
    intro i bound
    rw [spared_concat, written_concat]
    by_cases clears : Clears e i
    · obtain ⟨nothing, zero⟩ := does.cleared i bound clears
      have spared := first i clears
      rw [nothing, zero, Option.toList_none, List.append_nil]
      exact ⟨fun taken => (taken.2 clears).symm,
        fun taken => ⟨rfl, fun still => taken ⟨Or.inl spared, fun _ => still⟩⟩⟩
    · rw [does.kept tracks.valid i bound clears]
      cases put : put? e with
      | none =>
          simp only [clears, Option.mem_def, reduceCtorEq, false_and, exists_false, or_false,
            false_implies, and_true, Option.elim_none, Option.toList_none, List.append_nil]
          exact ⟨tracks.spared i bound, tracks.lost i bound⟩
      | some w =>
          simp only [clears, Option.mem_def, Option.some.injEq, exists_eq_left', false_implies,
            and_true, Option.elim_some, Option.toList_some, lastWritten_concat]
          by_cases covers : w.Covers i
          · exact ⟨fun _ => Write.apply_of_covers covers _ _,
              fun taken => absurd (Or.inr covers) taken⟩
          · rw [Write.apply_of_not_covers covers, Write.apply_of_not_covers covers,
              or_iff_left covers]
            exact ⟨tracks.spared i bound, tracks.lost i bound⟩
  refine ⟨does.valid tracks.valid, ?_, fun i bound => (byte i bound).1,
    fun i bound => (byte i bound).2⟩
  intro d member j clears
  rcases List.mem_append.1 member with earlier | last
  · obtain ⟨i, here, below⟩ := tracks.once d earlier j clears
    obtain ⟨k, there, above⟩ := does.onward i here
    exact ⟨k, there, Nat.lt_of_lt_of_le below above⟩
  · obtain rfl := List.mem_singleton.1 last
    exact ⟨j + 1, does.past j clears, Nat.lt_succ_self j⟩

theorem tracks_run {es : List (ClearEvent File)} {u : State File}
    (path : (machine File).Path (State.loaded File) es u) : Tracks es u :=
  path.history (C := fun _ => True) tracks_loaded (fun _ _ _ taken _ tracks => tracks.step taken)
    fun _ _ => trivial

/-- **What the loop of `init_device` takes back.**  In every run of `register_chrdev`, the turns
of the loop and the calls of any open files, with any faults: the buffer is what the calls
put there exactly if each byte the loop clears was 0 still or is written again after it;
every other byte that it clears reads 0, where the calls left another value. -/
theorem clearing_spares_iff {es : List (ClearEvent File)} {u : State File}
    (path : (machine File).Path (State.loaded File) es u) :
    (Holds u.files.dev (written es) ↔ ∀ i, i < maxLength → Spared es i) ∧
      ∀ i, i < maxLength → ¬ Spared es i →
        u.files.dev.get i = 0 ∧ lastWritten (written es) i ≠ 0 := by
  have tracks := tracks_run path
  refine ⟨⟨?_, fun spared i bound => tracks.spared i bound (spared i bound)⟩, tracks.lost⟩
  intro holds i bound
  by_contra taken
  obtain ⟨zero, other⟩ := tracks.lost i bound taken
  rw [holds i bound] at zero
  exact other zero

/-- Two bytes are written before the loop has begun, and the first again behind it. -/
def writtenEarly : List (Act Unit) :=
  [.register 240, .call 0 (.write () [5, 6]), .clear, .call 0 (.llseek () 0 seekSet),
    .call 0 (.write () [9]), .clear]

theorem clearing_spares_iff_writtenEarly :
    let es := (machine Unit).trace (State.loaded Unit) writtenEarly
    let u := (machine Unit).final (State.loaded Unit) writtenEarly
    ((Holds u.files.dev (written es) ↔ ∀ i, i < maxLength → Spared es i) ∧
      ∀ i, i < maxLength → ¬ Spared es i →
        u.files.dev.get i = 0 ∧ lastWritten (written es) i ≠ 0) ∧
      u.files.dev.load 0 2 = [9, 0] :=
  ⟨clearing_spares_iff (Machine.path_trace _ _ _), by decide⟩

end Clearing

end LearningKernel.Chrdev
