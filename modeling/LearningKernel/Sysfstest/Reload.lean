/-
# Sysfstest.Reload -- loading the sysfs test module again and again

`chrdev_init` creates the kset `mysystest`, the kobject `obj_test` below it and the
attribute group, `chrdev_exit` gives the kobject back.  A kobject holds its parent, and
exists as long as somebody holds it.  Nothing in the module gives its own reference to
the kset back; where the kernel does it, because `chrdev_kob->kset` was set without a
reference of its own, the kset goes with the kobject.  A load that does not get the
kobject leaves the kset, and no later load succeeds.

`reloadable_iff`: everything is gone whenever the module is not loaded exactly in the
runs without such a load, for a kernel that puts the kset named by a released kobject
and for one that does not.
-/
import LearningKernel.Kernel.Abi
import LearningKernel.Theory.Machine

namespace LearningKernel.Sysfstest

open LearningKernel.Theory LearningKernel.Kernel

set_option autoImplicit false

/-! ## The kernel's objects -/

/-- How many references there are to the kset and to the kobject, each of which exists
while there is one; whether `chrdev_kob->kset` is set; and the group. -/
structure Sysfs where
  kset : Nat := 0
  kob : Nat := 0
  kobKset : Bool := false
  group : Bool := false
  deriving DecidableEq

inductive KobjectAction where
  | add
  | remove
  deriving DecidableEq

/-- A uevent, and whether the kobject that it is sent for exists. -/
abbrev Uevent := KobjectAction × Bool

namespace Sysfs

/-- `kset_create_and_add`: fails while a kset of the name exists. -/
def ksetCreateAndAdd (s : Sysfs) (fails : Bool) : Option Sysfs :=
  if s.kset ≠ 0 ∨ fails = true then none else some { s with kset := 1 }

/-- `kobject_create_and_add`: the kobject takes a reference to its parent. -/
def kobjectCreateAndAdd (s : Sysfs) (fails : Bool) : Option Sysfs :=
  if s.kob ≠ 0 ∨ fails = true then none
  else some { s with kset := s.kset + 1, kob := 1, kobKset := false }

/-- `kobject_put`.  The last one releases the kobject: it goes with its group, gives up
its parent and, where `leaves`, puts the kset that it names. -/
def kobjectPut (leaves : Bool) (s : Sysfs) : Sysfs :=
  if s.kob = 1 then
    { kset := s.kset - (if leaves = true ∧ s.kobKset = true then 1 else 0) - 1
      kob := 0
      kobKset := false
      group := false }
  else { s with kob := s.kob - 1 }

/-- `kobject_uevent`. -/
def uevent (s : Sysfs) (action : KobjectAction) : Uevent := (action, decide (s.kob ≠ 0))

end Sysfs

/-! ## The module -/

/-- Which allocations of a load fail, and the error of `sysfs_create_group`, or 0. -/
structure Faults where
  kset : Bool
  kobject : Bool
  group : Nat

/-- No allocation fails. -/
def Faults.none : Faults := { kset := false, kobject := false, group := 0 }

/-- What a call returns, what it leaves and the uevents it sends. -/
structure Outcome where
  ret : Int
  sysfs : Sysfs
  uevents : List Uevent

/-- `chrdev_init`. -/
def chrdevInit (leaves : Bool) (faults : Faults) (s : Sysfs) : Outcome :=
  match s.ksetCreateAndAdd faults.kset with
  | .none => { ret := -enomem, sysfs := s, uevents := [] }
  | some s =>
      match s.kobjectCreateAndAdd faults.kobject with
      | .none => { ret := -enomem, sysfs := s, uevents := [] }
      | some s =>
          let s := { s with kobKset := true }
          let rc : Int := -faults.group
          let s := if rc ≠ 0 then s.kobjectPut leaves else { s with group := true }
          { ret := rc, sysfs := s, uevents := [s.uevent .add] }

/-- `chrdev_exit`. -/
def chrdevExit (leaves : Bool) (s : Sysfs) : Outcome :=
  { ret := 0
    sysfs := { s with group := false }.kobjectPut leaves
    uevents := [s.uevent .remove] }

structure State where
  sysfs : Sysfs
  loaded : Bool

/-- The module never loaded. -/
def State.fresh : State := { sysfs := {}, loaded := false }

inductive Act where
  | load (faults : Faults)
  | unload

/-- A load that returns 0 leaves the module loaded.  The observation is what is returned,
and the uevents. -/
def step (leaves : Bool) (s : State) : Act → Option ((Int × List Uevent) × State)
  | .load faults =>
      if s.loaded then .none
      else
        let outcome := chrdevInit leaves faults s.sysfs
        some ((outcome.ret, outcome.uevents), { sysfs := outcome.sysfs, loaded := outcome.ret = 0 })
  | .unload =>
      if s.loaded then
        let outcome := chrdevExit leaves s.sysfs
        some ((outcome.ret, outcome.uevents), { sysfs := outcome.sysfs, loaded := false })
      else .none

def machine (leaves : Bool) : Machine State Act (Int × List Uevent) := ⟨step leaves⟩

abbrev ModuleEvent := Event State Act (Int × List Uevent)

/-! ## What is left -/

/-- While the module is not loaded, nothing of it exists, and it can be loaded. -/
structure Reloadable (leaves : Bool) (s : State) : Prop where
  gone : s.loaded = false → s.sysfs.kset = 0 ∧ s.sysfs.kob = 0 ∧ s.sysfs.group = false
  again : s.loaded = false → (chrdevInit leaves .none s.sysfs).ret = 0

/-- The load creates the kset, and what comes after it fails. -/
def Faults.Strands (faults : Faults) (leaves : Bool) : Prop :=
  faults.kset = false ∧ (faults.kobject = true ∨ leaves = false ∧ faults.group ≠ 0)

/-- No load fails at the kobject; and where a released kobject does not put the kset, none
fails at the group, either, and the module is not unloaded. -/
def GivesBack (leaves : Bool) (e : ModuleEvent) : Prop :=
  match e.act with
  | .load faults => ¬ faults.Strands leaves
  | .unload => leaves = true

/-- What is there while the module is loaded: the kset, held by the module and by the
kobject, and the kobject with its group. -/
def Sysfs.full : Sysfs := { kset := 2, kob := 1, kobKset := true, group := true }

/-- What exists is what the loaded module has. -/
def Matches (s : State) : Prop := s.sysfs = if s.loaded then Sysfs.full else {}

/-- Where nothing exists, a load leaves all of it or nothing, unless it strands the kset. -/
theorem chrdevInit_empty (leaves : Bool) (faults : Faults) :
    let outcome := chrdevInit leaves faults {}
    (¬ faults.Strands leaves →
        outcome.sysfs = if outcome.ret = 0 then Sysfs.full else {}) ∧
      (faults.Strands leaves → outcome.ret ≠ 0 ∧ outcome.sysfs.kset = 1) := by
  obtain ⟨kset, kobject, group⟩ := faults
  cases kset with
  | true =>
      have nothing : chrdevInit leaves ⟨true, kobject, group⟩ {} = ⟨-enomem, {}, []⟩ := by
        simp [chrdevInit, Sysfs.ksetCreateAndAdd]
      rw [nothing]
      refine ⟨fun _ => rfl, ?_⟩
      rintro ⟨got, -⟩
      cases got
  | false =>
      cases kobject with
      | true =>
          have stranded : chrdevInit leaves ⟨false, true, group⟩ {} =
              ⟨-enomem, { kset := 1 }, []⟩ := by
            simp [chrdevInit, Sysfs.ksetCreateAndAdd, Sysfs.kobjectCreateAndAdd]
          rw [stranded]
          refine ⟨fun gives => absurd ⟨rfl, Or.inl rfl⟩ gives, fun _ => ⟨by decide, rfl⟩⟩
      | false =>
          by_cases succeeds : group = 0
          · subst succeeds
            have loads : chrdevInit leaves ⟨false, false, 0⟩ {} =
                ⟨0, Sysfs.full, [(.add, true)]⟩ := by
              simp [chrdevInit, Sysfs.ksetCreateAndAdd, Sysfs.kobjectCreateAndAdd, Sysfs.full,
                Sysfs.uevent]
            rw [loads]
            refine ⟨fun _ => rfl, ?_⟩
            rintro ⟨-, missed | ⟨-, failed⟩⟩
            · cases missed
            · exact absurd rfl failed
          · have put : chrdevInit leaves ⟨false, false, group⟩ {} =
                ⟨-group, { kset := if leaves then 0 else 1 }, [(.add, false)]⟩ := by
              cases leaves <;>
                simp [chrdevInit, Sysfs.ksetCreateAndAdd, Sysfs.kobjectCreateAndAdd,
                  Sysfs.kobjectPut, Sysfs.uevent, succeeds]
            have failed : -(group : Int) ≠ 0 := by omega
            rw [put]
            cases leaves with
            | true =>
                refine ⟨fun _ => (if_neg failed).symm, ?_⟩
                rintro ⟨-, missed | ⟨never, -⟩⟩
                · cases missed
                · cases never
            | false =>
                refine ⟨fun gives => absurd ⟨rfl, Or.inr ⟨rfl, succeeds⟩⟩ gives, ?_⟩
                exact fun _ => ⟨failed, rfl⟩

/-- A module unloaded gives back all but the kset, and that where a released kobject puts it. -/
theorem chrdevExit_full (leaves : Bool) :
    (chrdevExit leaves Sysfs.full).sysfs = { kset := if leaves then 0 else 1 } := by
  cases leaves <;> rfl

/-! ## Runs -/

/-- The cases of one step. -/
inductive Turns (leaves : Bool) (e : ModuleEvent) : Prop where
  | loads (faults : Faults) (act : e.act = .load faults) (free : e.source.loaded = false)
      (out : e.out.1 = (chrdevInit leaves faults e.source.sysfs).ret)
      (sysfs : e.target.sysfs = (chrdevInit leaves faults e.source.sysfs).sysfs)
      (loaded : e.target.loaded = decide ((chrdevInit leaves faults e.source.sysfs).ret = 0))
  | unloads (act : e.act = .unload) (here : e.source.loaded = true)
      (sysfs : e.target.sysfs = (chrdevExit leaves e.source.sysfs).sysfs)
      (loaded : e.target.loaded = false)

theorem turns_of_takes {leaves : Bool} {e : ModuleEvent} (taken : (machine leaves).Takes e) :
    Turns leaves e := by
  obtain ⟨s, act, out, t⟩ := e
  simp only [Machine.Takes, machine] at taken
  cases act with
  | load faults =>
      simp only [step] at taken
      split at taken
      · cases taken
      · rename_i free
        cases taken
        exact .loads faults rfl (Bool.eq_false_iff.2 free) rfl rfl rfl
  | unload =>
      simp only [step] at taken
      split at taken
      · rename_i here
        cases taken
        exact .unloads rfl here rfl rfl
      · cases taken

theorem Matches.step {leaves : Bool} (e : ModuleEvent) (taken : (machine leaves).Takes e)
    (gives : GivesBack leaves e) (before : Matches e.source) : Matches e.target := by
  unfold Matches at before ⊢
  cases turns_of_takes taken with
  | loads faults act free out sysfs loaded =>
      simp only [GivesBack, act] at gives
      rw [free, if_neg Bool.false_ne_true] at before
      rw [sysfs, loaded, before, (chrdevInit_empty leaves faults).1 gives]
      simp only [decide_eq_true_eq]
  | unloads act here sysfs loaded =>
      simp only [GivesBack, act] at gives
      rw [here, if_pos rfl] at before
      rw [sysfs, loaded, before, chrdevExit_full, gives]
      rfl

theorem Matches.reloadable {leaves : Bool} {s : State} (same : Matches s) :
    Reloadable leaves s := by
  have empty : s.loaded = false → s.sysfs = {} := by
    intro free
    rw [Matches, free] at same
    exact same
  refine ⟨?_, ?_⟩
  · intro free
    rw [empty free]
    exact ⟨rfl, rfl, rfl⟩
  · intro free
    rw [empty free]
    rfl

/-- A step that does not give the kset back leaves it. -/
theorem givesBack_of_reloadable {leaves : Bool} (e : ModuleEvent)
    (taken : (machine leaves).Takes e) (before : Matches e.source)
    (reloadable : Reloadable leaves e.target) : GivesBack leaves e := by
  unfold Matches at before
  cases turns_of_takes taken with
  | loads faults act free out sysfs loaded =>
      simp only [GivesBack, act]
      intro strands
      rw [free, if_neg Bool.false_ne_true] at before
      obtain ⟨failed, kset⟩ := (chrdevInit_empty leaves faults).2 strands
      rw [before] at sysfs loaded
      have gone := (reloadable.gone (loaded.trans (decide_eq_false failed))).1
      rw [sysfs, kset] at gone
      cases gone
  | unloads act here sysfs loaded =>
      simp only [GivesBack, act]
      rw [here, if_pos rfl] at before
      have gone := (reloadable.gone loaded).1
      rw [sysfs, before, chrdevExit_full] at gone
      cases leaves with
      | true => rfl
      | false => cases gone

/-- **Reloading the module.**  In a run of loads and unloads, everything is gone and can
be loaded again whenever the module is not loaded, if and only if no step of the run
strands the kset. -/
theorem reloadable_iff {leaves : Bool} {es : List ModuleEvent} {u : State}
    (path : (machine leaves).Path State.fresh es u) :
    (∀ e ∈ es, Reloadable leaves e.target) ↔ ∀ e ∈ es, GivesBack leaves e := by
  have start : Matches State.fresh := rfl
  constructor
  · exact path.forces (I := Matches) Matches.step givesBack_of_reloadable start
  · intro gives e member
    obtain ⟨-, -, after⟩ := (path.keeps Matches.step gives start).2 e member
    exact after.reloadable

/-- A load without the kset, one whose group fails, and two that succeed. -/
def reloads : List Act :=
  [.load ⟨true, false, 0⟩, .load ⟨false, false, 12⟩, .load .none, .unload, .load .none, .unload]

theorem reloadable_iff_reloads :
    let es := (machine true).trace State.fresh reloads
    es.length = 6 ∧ ((∀ e ∈ es, Reloadable true e.target) ↔ ∀ e ∈ es, GivesBack true e) :=
  ⟨rfl, reloadable_iff (Machine.path_trace _ _ reloads)⟩

/-- After a load that does not get the kobject, one in which no allocation fails does not
succeed, either; and where a released kobject does not put the kset, not even a load after
one that succeeded and was unloaded. -/
theorem kset_stays :
    let failing : Faults := { kset := false, kobject := true, group := 0 }
    (∀ leaves ∈ [true, false],
      let es := (machine leaves).trace State.fresh [.load failing, .load .none]
      es.map (fun e => e.out.1) = [-enomem, -enomem] ∧
        es.map (fun e => (e.target.loaded, e.target.sysfs)) =
          [(false, { kset := 1 }), (false, { kset := 1 })]) ∧
      ((machine false).trace State.fresh [.load .none, .unload, .load .none]).map
        (fun e => (e.out.1, e.target.sysfs.kset)) = [(0, 2), (0, 1), (-enomem, 1)] := by
  decide

end LearningKernel.Sysfstest
