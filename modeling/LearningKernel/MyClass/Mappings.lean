/-
# MyClass.Mappings -- register mappings and open files

The mapping pointers of a device are shared by all files open on it, while
`led_chrdev_open` maps the registers and `led_chrdev_release` unmaps them once for
each file.  `needed_iff`: the pointers are live while a file is open, nothing
else is unmapped or accessed, and nothing stays mapped after the last release,
exactly in the runs in which every mapping succeeds and every file released is
the only one open on its device.
-/
import LearningKernel.Kernel.Iomap
import LearningKernel.MyClass.Device
import LearningKernel.Theory.Machine

namespace LearningKernel.MyClass

open LearningKernel.Theory LearningKernel.Theory.BitField LearningKernel.Kernel

set_option autoImplicit false

/-- The mapped registers, the pointers `va_*` (NULL is 0), and the open files with
the device each is on. -/
structure LedState (File : Type) where
  io : Mmio Dev
  va : Dev → Reg → Nat
  files : File → Option Dev

/-- Loaded, and never opened. -/
def unopened (File : Type) (word : Nat → BitVec 32) : LedState File :=
  { io := { live := fun _ => none, word := word, log := [] }
    va := fun _ _ => 0
    files := fun _ => none }

/-- The order in which the registers are mapped and unmapped. -/
def regs : List Reg := [.dr, .gdir, .iomuxcMux, .ccmCcgrx, .iomuxPad]

theorem mem_regs (r : Reg) : r ∈ regs := by
  cases r <;> decide

/-- The register accesses of `led_chrdev_open`.  The pad is written at its physical
address. -/
def openAccesses (d : Dev) (va : Reg → Nat) (io : Mmio Dev) : Mmio Dev :=
  let (val, io) := io.ioread32 (va .ccmCcgrx)
  let val := update (3#32 <<< d.clockOffset) (3#32 <<< d.clockOffset) val
  let io := io.iowrite32 val (va .ccmCcgrx)
  let io := io.iowrite32 5 (va .iomuxcMux)
  let io := io.iowrite32 0x1F838 (d.pa .iomuxPad)
  let (val, io) := io.ioread32 (va .gdir)
  let val := update d.bit d.bit val
  let io := io.iowrite32 val (va .gdir)
  let (val, io) := io.ioread32 (va .dr)
  let val := val ||| d.bit
  io.iowrite32 val (va .dr)

/-- `led_chrdev_open`, where `ioremap` answers `pick`. -/
def ledChrdevOpen (d : Dev) (pick : Reg → Nat) (io : Mmio Dev) : Option (Mmio Dev) :=
  (io.ioremapAll (regs.map fun r => (pick r, ⟨d, d.pa r⟩))).map (openAccesses d pick)

/-- `led_chrdev_release`. -/
def ledChrdevRelease (va : Reg → Nat) (io : Mmio Dev) : Mmio Dev := io.iounmapAll (regs.map va)

/-- `led_chrdev_write`. -/
def ledChrdevWrite (d : Dev) (buf : UserText) (va : Reg → Nat) (io : Mmio Dev) : Mmio Dev :=
  let (val, io) := io.ioread32 (va .dr)
  io.iowrite32 (driven d (writtenNumber buf) val) (va .dr)

inductive FileCall (File : Type) where
  | «open» (f : File) (d : Dev) (pick : Reg → Nat)
  | write (f : File) (buf : UserText)
  | release (f : File)

variable {File : Type} [DecidableEq File]

/-- One call; the log holds what that call touched. -/
def fileStep (s : LedState File) : FileCall File → Option (Unit × LedState File)
  | .open f d pick =>
      match s.files f with
      | some _ => none
      | none =>
          (ledChrdevOpen d pick { s.io with log := [] }).map fun io =>
            ((), { io := io
                   va := Function.update s.va d pick
                   files := Function.update s.files f (some d) })
  | .write f buf =>
      match s.files f with
      | none => none
      | some d => some ((), { s with io := ledChrdevWrite d buf (s.va d) { s.io with log := [] } })
  | .release f =>
      match s.files f with
      | none => none
      | some d =>
          some ((), { s with
            io := ledChrdevRelease (s.va d) { s.io with log := [] }
            files := Function.update s.files f none })

/-- The files of the three devices, opened, written and released in any order. -/
def fileMachine (File : Type) [DecidableEq File] : Machine (LedState File) (FileCall File) Unit :=
  ⟨fileStep⟩

abbrev FileEvent (File : Type) := Event (LedState File) (FileCall File) Unit

/-! ## One call -/

/-- What the mappings of an open leave at an address. -/
theorem mapped_at {d : Dev} {pick : Reg → Nat} {io io₁ : Mmio Dev}
    (made : io.ioremapAll (regs.map fun r => (pick r, ⟨d, d.pa r⟩)) = some io₁)
    (mapped : ∀ r, pick r ≠ 0) :
    (∀ r, io.live (pick r) = none ∧ io₁.live (pick r) = some ⟨d, d.pa r⟩) ∧
      ∀ a, (∀ r, pick r ≠ a) → io₁.live a = io.live a := by
  obtain ⟨fresh, others⟩ := Mmio.ioremapAll_live made (by simpa [regs] using
    ⟨mapped _, mapped _, mapped _, mapped _, mapped _⟩)
  refine ⟨fun r => fresh _ (List.mem_map.2 ⟨r, mem_regs r, rfl⟩), ?_⟩
  intro a avoided
  apply others
  intro p member
  obtain ⟨r, -, rfl⟩ := List.mem_map.1 member
  exact avoided r

/-- The cases of one call, for the mappings. -/
inductive Served (e : FileEvent File) : Prop where
  | opened (f : File) (d : Dev) (pick : Reg → Nat) (act : e.act = .open f d pick)
      (closed : e.source.files f = none)
      (va : e.target.va = Function.update e.source.va d pick)
      (files : e.target.files = Function.update e.source.files f (some d))
      (live : (∀ r, pick r ≠ 0) →
        (∀ r, e.source.io.live (pick r) = none ∧ e.target.io.live (pick r) = some ⟨d, d.pa r⟩) ∧
          ∀ a, (∀ r, pick r ≠ a) → e.target.io.live a = e.source.io.live a)
  | written (f : File) (d : Dev) (buf : UserText) (act : e.act = .write f buf)
      (here : e.source.files f = some d) (va : e.target.va = e.source.va)
      (files : e.target.files = e.source.files) (live : e.target.io.live = e.source.io.live)
      (log : ∀ t ∈ e.target.io.log, t.found = e.source.io.live (e.source.va d .dr))
  | released (f : File) (d : Dev) (act : e.act = .release f)
      (here : e.source.files f = some d) (va : e.target.va = e.source.va)
      (files : e.target.files = Function.update e.source.files f none)
      (live : ∀ a, e.target.io.live a =
        if a ∈ regs.map (e.source.va d) then none else e.source.io.live a)
      (log : (regs.map (e.source.va d)).Nodup → ∀ t ∈ e.target.io.log,
        ∃ r, t.found = e.source.io.live (e.source.va d r))

theorem served_of_takes {e : FileEvent File} (taken : (fileMachine File).Takes e) : Served e := by
  obtain ⟨s, act, ⟨⟩, t⟩ := e
  simp only [Machine.Takes, fileMachine] at taken
  cases act with
  | «open» f d pick =>
      simp only [fileStep] at taken
      split at taken
      · cases taken
      · rename_i closed
        obtain ⟨io, opens, same⟩ := Option.map_eq_some_iff.1 taken
        cases same
        obtain ⟨io', made, rfl⟩ := Option.map_eq_some_iff.1 opens
        refine .opened f d pick rfl closed rfl rfl ?_
        intro mapped
        obtain ⟨fresh, others⟩ := mapped_at made mapped
        exact ⟨fresh, others⟩
  | write f buf =>
      simp only [fileStep] at taken
      split at taken <;> cases taken
      rename_i d here
      refine .written f d buf rfl here rfl rfl rfl ?_
      simp [ledChrdevWrite, Mmio.ioread32, Mmio.iowrite32]
  | release f =>
      simp only [fileStep] at taken
      split at taken <;> cases taken
      rename_i d here
      refine .released f d rfl here rfl rfl (fun a => Mmio.iounmapAll_live _ _ a) ?_
      intro distinct t member
      simp only [ledChrdevRelease, Mmio.iounmapAll_log distinct, List.nil_append] at member
      obtain ⟨va, among, rfl⟩ := List.mem_map.1 member
      obtain ⟨r, -, rfl⟩ := List.mem_map.1 among
      exact ⟨r, rfl⟩

/-! ## Live as long as needed -/

/-- The pointer to a register is a live mapping of it. -/
def Live (s : LedState File) (d : Dev) (r : Reg) : Prop :=
  s.va d r ≠ 0 ∧ s.io.live (s.va d r) = some ⟨d, d.pa r⟩

/-- Live while a file is open, and gone with the last one. -/
structure Needed (s : LedState File) : Prop where
  live : ∀ f d, s.files f = some d → ∀ r, Live s d r
  gone : ∀ d, (∀ f, s.files f ≠ some d) → ∀ a mapping, s.io.live a = some mapping →
    mapping.owner ≠ d

/-- What a write accesses and what a release unmaps is live. -/
def TouchesLive (e : FileEvent File) : Prop :=
  match e.act with
  | .open .. => True
  | .write .. | .release .. => ∀ t ∈ e.target.io.log, t.found ≠ none

/-- `f` is the only file open on `d`. -/
def Sole (s : LedState File) (f : File) (d : Dev) : Prop := ∀ f', s.files f' = some d → f' = f

/-- Every mapping of an open succeeds, and a file is released as the only one open
on its device. -/
def Singly (e : FileEvent File) : Prop :=
  match e.act with
  | .open _ _ pick => ∀ r, pick r ≠ 0
  | .write .. => True
  | .release f => ∀ d ∈ e.source.files f, Sole e.source f d

instance [Fintype File] (s : LedState File) (f : File) (d : Dev) : Decidable (Sole s f d) :=
  inferInstanceAs (Decidable (∀ f', s.files f' = some d → f' = f))

instance [Fintype File] (e : FileEvent File) : Decidable (Singly e) :=
  match act : e.act with
  | .open _ _ pick => decidable_of_iff (∀ r, pick r ≠ 0) (by simp only [Singly, act])
  | .write .. => isTrue (by simp only [Singly, act])
  | .release f =>
      decidable_of_iff (∀ d ∈ e.source.files f, Sole e.source f d) (by simp only [Singly, act])

/-- The invariant of such runs: `Needed`, and a device with one file open has no
other mappings than its pointers. -/
structure Inv (s : LedState File) : Prop where
  live : ∀ f d, s.files f = some d → ∀ r, Live s d r
  owned : ∀ a mapping, s.io.live a = some mapping → ∃ f, s.files f = some mapping.owner
  exactly : ∀ f d, s.files f = some d → Sole s f d → ∀ a mapping, s.io.live a = some mapping →
    mapping.owner = d → ∃ r, s.va d r = a

omit [DecidableEq File] in
theorem Inv.needed {s : LedState File} (inv : Inv s) : Needed s where
  live := inv.live
  gone d closed a mapping live same := by
    obtain ⟨f, here⟩ := inv.owned a mapping live
    exact closed f (same ▸ here)

omit [DecidableEq File] in
/-- Live pointers to different registers differ. -/
theorem nodup_of_live {s : LedState File} {d : Dev} (live : ∀ r, Live s d r) :
    (regs.map (s.va d)).Nodup := by
  apply List.Nodup.map_on
  · intro r _ r' _ same
    have here := (live r).2
    rw [same, (live r').2] at here
    simp only [Option.some.injEq, Mapping.mk.injEq, true_and] at here
    exact (Dev.pa_inj here).symm
  · decide

theorem inv_opened {e : FileEvent File} {f : File} {d : Dev} {pick : Reg → Nat}
    (closed : e.source.files f = none) (va : e.target.va = Function.update e.source.va d pick)
    (files : e.target.files = Function.update e.source.files f (some d))
    (mapped : ∀ r, pick r ≠ 0)
    (fresh : ∀ r, e.source.io.live (pick r) = none ∧
      e.target.io.live (pick r) = some ⟨d, d.pa r⟩)
    (others : ∀ a, (∀ r, pick r ≠ a) → e.target.io.live a = e.source.io.live a)
    (inv : Inv e.source) : Inv e.target := by
  -- what was live still is, as the new addresses were free
  have still : ∀ a mapping, e.source.io.live a = some mapping →
      e.target.io.live a = some mapping := by
    intro a mapping live
    rw [others a, live]
    rintro r rfl
    rw [(fresh r).1] at live
    cases live
  have cases : ∀ a mapping, e.target.io.live a = some mapping →
      (∃ r, pick r = a ∧ mapping.owner = d) ∨ e.source.io.live a = some mapping := by
    intro a mapping live
    by_cases new : ∃ r, pick r = a
    · obtain ⟨r, rfl⟩ := new
      rw [(fresh r).2] at live
      cases live
      exact Or.inl ⟨r, rfl, rfl⟩
    · exact Or.inr (by rw [← others a (not_exists.1 new), live])
  have kept : ∀ f' d', e.source.files f' = some d' → e.target.files f' = some d' := by
    intro f' d' here
    rw [files, Function.update_of_ne, here]
    rintro rfl
    rw [closed] at here
    cases here
  have older : ∀ f' d', e.target.files f' = some d' → d' ≠ d → e.source.files f' = some d' := by
    intro f' d' here other
    rw [files] at here
    by_cases new : f' = f
    · rw [new, Function.update_self] at here
      cases here
      exact absurd rfl other
    · rwa [Function.update_of_ne new] at here
  refine ⟨?_, ?_, ?_⟩
  · intro f' d' here r
    by_cases same : d' = d
    · subst same
      rw [Live, va, Function.update_self]
      exact ⟨mapped r, (fresh r).2⟩
    · have before := older f' d' here same
      rw [Live, va, Function.update_of_ne same]
      exact ⟨(inv.live f' d' before r).1, still _ _ (inv.live f' d' before r).2⟩
  · intro a mapping live
    rcases cases a mapping live with ⟨r, -, owner⟩ | before
    · exact ⟨f, by rw [files, Function.update_self, owner]⟩
    · obtain ⟨f', here⟩ := inv.owned a mapping before
      exact ⟨f', kept f' _ here⟩
  · intro f' d' here sole a mapping live owner
    by_cases same : d' = d
    · subst same
      rw [va, Function.update_self]
      rcases cases a mapping live with ⟨r, at_, -⟩ | before
      · exact ⟨r, at_⟩
      · -- an earlier file would be a second one
        obtain ⟨f'', earlier⟩ := inv.owned a mapping before
        rw [owner] at earlier
        have one := sole f (by rw [files, Function.update_self])
        have two := sole f'' (kept f'' d' earlier)
        rw [two, ← one, closed] at earlier
        cases earlier
    · rw [va, Function.update_of_ne same]
      rcases cases a mapping live with ⟨r, -, new⟩ | before
      · exact absurd (owner.symm.trans new) same
      · exact inv.exactly f' d' (older f' d' here same) (fun f'' also => sole f'' (kept f'' d' also))
          a mapping before owner

theorem inv_released {e : FileEvent File} {f : File} {d : Dev} (here : e.source.files f = some d)
    (va : e.target.va = e.source.va)
    (files : e.target.files = Function.update e.source.files f none)
    (live : ∀ a, e.target.io.live a =
      if a ∈ regs.map (e.source.va d) then none else e.source.io.live a)
    (sole : Sole e.source f d) (inv : Inv e.source) : Inv e.target := by
  have before : ∀ a mapping, e.target.io.live a = some mapping →
      (∀ r, e.source.va d r ≠ a) ∧ e.source.io.live a = some mapping := by
    intro a mapping now
    rw [live a] at now
    split at now
    · cases now
    · rename_i apart
      exact ⟨fun r same => apart (List.mem_map.2 ⟨r, mem_regs r, same⟩), now⟩
  have open_iff : ∀ f' d', e.target.files f' = some d' ↔ e.source.files f' = some d' ∧ d' ≠ d := by
    intro f' d'
    rw [files]
    by_cases same : f' = f
    · subst same
      rw [Function.update_self, here]
      simp [eq_comm]
    · rw [Function.update_of_ne same]
      constructor
      · intro still
        refine ⟨still, ?_⟩
        rintro rfl
        exact same (sole f' still)
      · exact And.left
  refine ⟨?_, ?_, ?_⟩
  · intro f' d' still r
    obtain ⟨was, other⟩ := (open_iff f' d').1 still
    obtain ⟨mapped, found⟩ := inv.live f' d' was r
    rw [Live, va, live, if_neg]
    · exact ⟨mapped, found⟩
    · -- the pointers of another device map other registers
      intro among
      obtain ⟨r', -, same⟩ := List.mem_map.1 among
      have own := (inv.live f d here r').2
      rw [same, found] at own
      exact other (congrArg Mapping.owner (Option.some.inj own))
  · intro a mapping now
    obtain ⟨apart, was⟩ := before a mapping now
    obtain ⟨f', opened⟩ := inv.owned a mapping was
    refine ⟨f', (open_iff _ _).2 ⟨opened, ?_⟩⟩
    intro owner
    obtain ⟨r, at_⟩ := inv.exactly f d here sole a mapping was owner
    exact apart r at_
  · intro f' d' still alone a mapping now owner
    obtain ⟨was, other⟩ := (open_iff f' d').1 still
    rw [va]
    exact inv.exactly f' d' was (fun f'' also => alone f'' ((open_iff f'' d').2 ⟨also, other⟩)) a
      mapping (before a mapping now).2 owner

theorem inv_step {e : FileEvent File} (served : Served e) (singly : Singly e)
    (inv : Inv e.source) : Inv e.target := by
  cases served with
  | opened f d pick act closed va files live =>
      have mapped : ∀ r, pick r ≠ 0 := by
        simpa only [Singly, act] using singly
      exact inv_opened closed va files mapped (live mapped).1 (live mapped).2 inv
  | written f d buf act here va files live log =>
      refine ⟨?_, ?_, ?_⟩
      · simpa only [Live, va, files, live] using inv.live
      · simpa only [files, live] using inv.owned
      · simpa only [Sole, va, files, live] using inv.exactly
  | released f d act here va files live log =>
      have sole : Sole e.source f d := by
        simp only [Singly, act] at singly
        exact singly d here
      exact inv_released here va files live sole inv

theorem touchesLive_of_inv {e : FileEvent File} (served : Served e) (inv : Inv e.source) :
    TouchesLive e := by
  cases served with
  | opened f d pick act closed va files live =>
      simp only [TouchesLive, act]
  | written f d buf act here va files live log =>
      simp only [TouchesLive, act]
      intro t member
      rw [log t member, (inv.live f d here .dr).2]
      exact Option.some_ne_none _
  | released f d act here va files live log =>
      simp only [TouchesLive, act]
      intro t member
      obtain ⟨r, found⟩ := log (nodup_of_live (inv.live f d here)) t member
      rw [found, (inv.live f d here r).2]
      exact Option.some_ne_none _

/-- A step that is not of this kind leaves an open file without a register. -/
theorem singly_of_needed {e : FileEvent File} (served : Served e) (needed : Needed e.target) :
    Singly e := by
  cases served with
  | opened f d pick act closed va files live =>
      simp only [Singly, act]
      intro r
      have mapped := (needed.live f d (by rw [files, Function.update_self]) r).1
      rwa [va, Function.update_self] at mapped
  | written f d buf act here va files live log =>
      simp only [Singly, act]
  | released f d act here va files live log =>
      simp only [Singly, act]
      intro d' here' f' also
      obtain rfl : d = d' := Option.some.inj (here.symm.trans here')
      by_contra other
      have still : e.target.files f' = some d := by
        rw [files, Function.update_of_ne other, also]
      have found := (needed.live f' d still .dr).2
      have unmapped : e.source.va d .dr ∈ regs.map (e.source.va d) :=
        List.mem_map.2 ⟨.dr, mem_regs .dr, rfl⟩
      rw [va, live, if_pos unmapped] at found
      cases found

/-- **Mappings and open files.**  From the loaded module, the pointers of a device
are live while a file is open on it, every access of a write and every `iounmap`
goes to a live mapping, and the last release leaves none, in all states of a run,
if and only if its mappings succeed and it releases a file only as the single one
of its device. -/
theorem needed_iff {word : Nat → BitVec 32} {es : List (FileEvent File)} {u : LedState File}
    (path : (fileMachine File).Path (unopened File word) es u) :
    (Needed u ∧ ∀ e ∈ es, Needed e.source ∧ Needed e.target ∧ TouchesLive e) ↔
      ∀ e ∈ es, Singly e := by
  constructor
  · rintro ⟨-, along⟩ e member
    exact singly_of_needed (served_of_takes (path.takes e member)) (along e member).2.1
  · intro singly
    have start : Inv (unopened File word) := by
      refine ⟨?_, ?_, ?_⟩
      · intro f d opened
        cases opened
      · intro a mapping live
        cases live
      · intro f d opened
        cases opened
    obtain ⟨final, along⟩ := path.keeps (C := Singly) (I := Inv)
      (fun e taken => inv_step (served_of_takes taken)) singly start
    refine ⟨final.needed, ?_⟩
    intro e member
    obtain ⟨taken, before, after⟩ := along e member
    exact ⟨before.needed, after.needed, touchesLive_of_inv (served_of_takes taken) before⟩

/-- Addresses for the mappings of an open. -/
def picks (base : Nat) : Reg → Nat
  | .dr => base
  | .gdir => base + 1
  | .iomuxcMux => base + 2
  | .ccmCcgrx => base + 3
  | .iomuxPad => base + 4

/-- A device opened, written and released, and then another. -/
theorem needed_in_turn :
    let calls : List (FileCall Bool) :=
      [.open false .led1 (picks 100), .write false ⟨[49], 1⟩, .release false,
        .open true .led2 (picks 100), .release true]
    let es := (fileMachine Bool).trace (unopened Bool fun _ => 0) calls
    es.length = 5 ∧ (Needed ((fileMachine Bool).final (unopened Bool fun _ => 0) calls) ∧
      ∀ e ∈ es, Needed e.source ∧ Needed e.target ∧ TouchesLive e) := by
  refine ⟨by decide, (needed_iff (Machine.path_trace _ _ _)).2 ?_⟩
  decide

/-- The second of two files open on LED 1 is left with pointers to nothing, and its
own release unmaps nothing, while the first mappings stay. -/
theorem release_unmaps_open_file :
    let calls : List (FileCall Bool) :=
      [.open false .led1 (picks 100), .open true .led1 (picks 200), .release false]
    let s := (fileMachine Bool).final (unopened Bool fun _ => 0) calls
    let t := (fileMachine Bool).final s [.release true]
    s.files true = some .led1 ∧ s.io.live (s.va .led1 .dr) = none ∧
      t.io.log = List.replicate 5 ⟨.unmap, none⟩ ∧
      t.files false = none ∧ t.files true = none ∧ t.io.live 100 = some ⟨.led1, 0x20A8000⟩ := by
  decide

end LearningKernel.MyClass
