/-
# Key.Loads -- what a key driver holds when it is not loaded

The load scripts of `Key.Lifecycle` executed again and again, each with any of its
calls failing, and the loaded driver unloaded.  Every exit of `mykey_init` and
`mykey_probe` releases what it acquired except two: `key_gpio_init` returns without
`gpio_free` if the direction of the line cannot be set (after a failed
`request_irq` it frees it), and `mykey_probe` drops the input device that it cannot
register.  A driver that is not loaded holds nothing exactly in the runs in which
neither happens (`unloaded_holds_nothing_iff`).
-/
import LearningKernel.Key.Lifecycle
import LearningKernel.Theory.Loads

namespace LearningKernel.Key

open LearningKernel.Theory LearningKernel.Kernel

set_option autoImplicit false

inductive Resource where
  | gpio
  | irq
  | region
  | cdev
  | cls
  | device
  | inputdev
  deriving DecidableEq

def Call.effect : Call → Theory.Effect Resource
  | .gpioRequest => .acquire .gpio
  | .requestIrq => .acquire .irq
  | .allocChrdevRegion => .acquire .region
  | .cdevAdd => .acquire .cdev
  | .classCreate => .acquire .cls
  | .deviceCreate => .acquire .device
  | .inputAllocateDevice => .acquire .inputdev
  | .inputUnregisterDevice => .release .inputdev
  | .deviceDestroy => .release .device
  | .classDestroy => .release .cls
  | .cdevDel => .release .cdev
  | .unregisterChrdevRegion => .release .region
  | .freeIrq => .release .irq
  | .gpioFree => .release .gpio
  | .initWaitqueueHead | .spinLockInit | .keyParse | .gpioDirectionInput
  | .gpioDirectionOutput | .taskletInit | .cdevInit | .timerSetup | .inputRegisterDevice
  | .delTimerSync => .neither

/-- A load that answers 0 leaves the driver loaded. -/
def Answer.loaded (answer : Answer) : Option Unit :=
  if answer = .zero then some () else none

def keyLoads (m : KeyModule) : Loadable Call Unit Answer Unit Empty where
  load _ := m.load
  loaded _ answer := answer.loaded
  serve _ := Empty.elim
  unload _ := (m.unload.exec fun _ => false).1

/-- What the loaded driver holds, the last acquired first. -/
def KeyModule.holds : KeyModule → List Resource
  | .chrdev _ => [.device, .cls, .cdev, .region, .irq, .gpio]
  | .keyinput => [.inputdev, .irq, .gpio]

/-- The calls after whose failure something is left. -/
def Call.Leaks (k : Call) : Prop :=
  k = .gpioDirectionInput ∨ k = .gpioDirectionOutput ∨ k = .inputRegisterDevice

instance (k : Call) : Decidable k.Leaks := inferInstanceAs (Decidable (_ ∨ _ ∨ _))

/-- No such call is the one that fails. -/
def KeyModule.Clean (m : KeyModule) (fails : Nat → Bool) : Prop :=
  ∀ k ∈ m.load.firstFailure fails, ¬ k.Leaks

/-- What the calls of a load hold at its end. -/
abbrev heldAfter (ks : List Call) : List Resource := Effect.held Call.effect [] ks

theorem load_courses (m : KeyModule) :
    ∀ c ∈ m.load.courses,
      ((∀ k ∈ c.1, ¬ k.Leaks) → Effect.Grounded Call.effect [] c.2.1 ∧
        heldAfter c.2.1 = Loadable.due (fun _ => m.holds) c.2.2.loaded) ∧
      ((∃ k ∈ c.1, k.Leaks) → c.2.2.loaded = none ∧ heldAfter c.2.1 ≠ []) := by
  cases m with
  | chrdev driver => cases driver <;> decide
  | keyinput => decide

theorem unload_releases (m : KeyModule) :
    Effect.Grounded Call.effect m.holds (m.unload.exec fun _ => false).1 ∧
      Effect.held Call.effect m.holds (m.unload.exec fun _ => false).1 = [] := by
  cases m with
  | chrdev driver => cases driver <;> decide
  | keyinput => decide

/-- A clean load holds exactly what it leaves loaded. -/
theorem keyLoads_keeps (m : KeyModule) :
    (keyLoads m).Keeps Call.effect (fun _ => m.holds) fun _ fails => m.Clean fails where
  load _ fails clean := (load_courses m _ (Script.exec_mem_courses fails m.load)).1 clean
  serve _ := nofun
  unload _ := unload_releases m

abbrev LoadsState := Loadable.State Call Unit
abbrev LoadsEvent := Loadable.LoadEvent Call Unit Answer Unit Empty

/-- Not loaded, the driver holds nothing; and every release so far was of something
held, which it then no longer was. -/
structure HoldsNothingUnloaded (s : LoadsState) : Prop where
  unloaded : s.loaded = none → heldAfter s.log = []
  grounded : Effect.Grounded Call.effect [] s.log

/-- A load of the event fails at no call that leaves something. -/
def CleanLoad (m : KeyModule) (e : LoadsEvent) : Prop :=
  Loadable.Loads (fun _ fails => m.Clean fails) e

section Runs

variable {m : KeyModule} {es : List LoadsEvent} {u : LoadsState}

/-- A load that is not clean leaves something, whatever was there before. -/
theorem leaves_of_leaks {e : LoadsEvent} {fails : Nat → Bool} (turns : (keyLoads m).Turns e)
    (act : e.act = .load () fails) (before : e.source.loaded = none → heldAfter e.source.log = [])
    (leaks : ∃ k ∈ m.load.firstFailure fails, k.Leaks) :
    e.target.loaded = none ∧ heldAfter e.target.log ≠ [] := by
  obtain ⟨free, -, log, loaded⟩ := turns.of_load act
  have course := (load_courses m _ (Script.exec_mem_courses fails m.load)).2 leaks
  refine ⟨loaded.trans course.1, ?_⟩
  have nothing : Effect.held Call.effect [] e.source.log = [] := before free
  rw [log, heldAfter, Effect.held_append, nothing]
  exact course.2

/-- **A key driver that is not loaded holds nothing** exactly in the runs in which no
load fails at setting the direction of the line or at registering the input device. -/
theorem unloaded_holds_nothing_iff (path : (keyLoads m).machine.Path Loadable.fresh es u) :
    (∀ e ∈ es, HoldsNothingUnloaded e.source ∧ HoldsNothingUnloaded e.target) ↔
      ∀ e ∈ es, CleanLoad m e := by
  constructor
  · rintro holds e member ⟨⟩ fails act k fails_at leaks
    obtain ⟨before, after⟩ := holds e member
    have left := leaves_of_leaks (Loadable.turns_of_takes (path.takes e member)) act
      before.unloaded ⟨k, fails_at, leaks⟩
    exact left.2 (after.unloaded left.1)
  · intro clean e member
    have nothing : ∀ {s : LoadsState},
        Loadable.Balanced Call.effect (fun _ => m.holds) s → HoldsNothingUnloaded s := by
      intro s balanced
      refine ⟨?_, balanced.grounded⟩
      intro unloaded
      rw [heldAfter, balanced.holds, unloaded]
      rfl
    obtain ⟨-, before, after⟩ := (Loadable.balanced path (keyLoads_keeps m) clean).2 e member
    exact ⟨nothing before, nothing after⟩

end Runs

/-- The `n`-th fallible call fails. -/
def failsAt (n : Nat) : Nat → Bool := fun i => i == n

/-- `16_fasync` fails at `request_irq`, is loaded, unloaded, and fails at `device_create`. -/
def loadsAndFailures : List (Loadable.Act Unit Empty) :=
  [.load () (failsAt 3), .load () fun _ => false, .unload, .load () (failsAt 7)]

theorem unloaded_holds_nothing_iff_loadsAndFailures :
    let es := (keyLoads (.chrdev .fasync)).machine.trace Loadable.fresh loadsAndFailures
    (∀ e ∈ es, HoldsNothingUnloaded e.source ∧ HoldsNothingUnloaded e.target) ↔
      ∀ e ∈ es, CleanLoad (.chrdev .fasync) e :=
  unloaded_holds_nothing_iff (Machine.path_trace _ _ _)

/-- The GPIO that `key_gpio_init` could not set up stays requested, and so does the
input device that `mykey_probe` could not register stay allocated. -/
theorem failed_load_keeps_gpio_or_inputdev :
    (∀ driver, ∃ (es : List LoadsEvent) (u : LoadsState),
      (keyLoads (.chrdev driver)).machine.Path Loadable.fresh es u ∧ u.loaded = none ∧
        heldAfter u.log = [.gpio]) ∧
    ∃ (es : List LoadsEvent) (u : LoadsState),
      (keyLoads .keyinput).machine.Path Loadable.fresh es u ∧ u.loaded = none ∧
        heldAfter u.log = [.inputdev] := by
  refine ⟨?_, ?_⟩
  · intro driver
    refine ⟨_, _, Machine.path_trace _ Loadable.fresh [.load () (failsAt 2)], ?_⟩
    cases driver <;> decide
  · refine ⟨_, _, Machine.path_trace _ Loadable.fresh [.load () (failsAt 5)], ?_⟩
    decide

end LearningKernel.Key
