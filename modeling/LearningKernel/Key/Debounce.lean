/-
# Key.Debounce -- the key line behind interrupt, tasklet and timer

An edge of the key line raises the interrupt, `key_interrupt_handler` schedules the
tasklet, `key_irq_tasklet` arms the timer and `timer_function` samples the line:
three stages that coalesce, each entered, doing its part and left in separate
steps, with edges at any time.  `13_irq` keeps the sample as `last_value`,
`20_input` reports its negation.

`quiet_line_known`: after the first `timer_function`, both know the level whenever
nothing is on its way.
-/
import LearningKernel.Key.Readers
import LearningKernel.Theory.Relay

namespace LearningKernel.Key

open LearningKernel.Theory

set_option autoImplicit false

inductive Handler where
  | keyInterruptHandler
  | keyIrqTasklet
  | timerFunction
  deriving DecidableEq

/-- `tasklet_schedule`, `mod_timer`; `timer_function` samples. -/
def Handler.raises : Handler → Option Handler
  | .keyInterruptHandler => some .keyIrqTasklet
  | .keyIrqTasklet => some .timerFunction
  | .timerFunction => none

/-- `13_irq`: `timer_function` stores the sample in its section, and `kery_read` has
its own section with any number of bytes that cannot be copied. -/
def keyirqRelay : Relay Handler Level KeyDev Nat where
  first := .keyInterruptHandler
  next := Handler.raises
  put dev level := timerFunction dev level.value
  use uncopied dev := (keryReadLocked dev uncopied).dev

/-- `!value`. -/
def lnot (value : Int) : Int := if value = 0 then 1 else 0

/-- `20_input`: the store is the value that `input_report_key` was last given for
`KEY_0`, and nobody else uses it. -/
def keyinputRelay : Relay Handler Level (Option Int) Empty where
  first := .keyInterruptHandler
  next := Handler.raises
  put _ level := some (lnot level.value)
  use _ reported := reported

theorem lastValue_timerFunction (dev : KeyDev) (curValue : Int) :
    (timerFunction dev curValue).lastValue = curValue := rfl

/-- A read leaves `last_value`. -/
theorem lastValue_keryReadLocked (dev : KeyDev) (uncopied : Nat) :
    (keryReadLocked dev uncopied).dev.lastValue = dev.lastValue := by
  unfold keryReadLocked
  split <;> rfl

/-- **Once the line is quiet the drivers know its level.** -/
theorem quiet_line_known :
    (∀ level es u, keyirqRelay.machine.Path (.still Handler level .loaded) es u →
      (∃ e ∈ es, e.act = .store) → u.Still → u.store.lastValue = u.source.value) ∧
    ∀ level es u, keyinputRelay.machine.Path (.still Handler level none) es u →
      (∃ e ∈ es, e.act = .store) → u.Still → u.store = some (lnot u.source.value) := by
  refine ⟨?_, ?_⟩
  · intro level es u path stored still
    have start : (Relay.State.still Handler level KeyDev.loaded).Sampled := Or.inr nofun
    apply Relay.sink_knows (K := fun dev (level : Level) => dev.lastValue = level.value) ?_ ?_
      path start stored still
    · intro dev level
      exact lastValue_timerFunction dev level.value
    · intro uncopied dev level known
      exact (lastValue_keryReadLocked dev uncopied).trans known
  · intro level es u path stored still
    have start : (Relay.State.still Handler level (none : Option Int)).Sampled := Or.inr nofun
    apply Relay.sink_knows
      (K := fun reported (level : Level) => reported = some (lnot level.value)) ?_ ?_
      path start stored still
    · intro _ _
      rfl
    · intro x
      cases x

/-- An uninterrupted run of a handler. -/
def Handler.run {ε : Type} (i : Handler) : List (Relay.Act Handler Level ε) :=
  [.enter i, .pass i, .leave i]

/-- An edge that comes while `timer_function` stores its sample. -/
def bounce {ε : Type} : List (Relay.Act Handler Level ε) :=
  .change .low :: Handler.keyInterruptHandler.run ++ Handler.keyIrqTasklet.run ++
    [.enter .timerFunction, .pass .timerFunction, .change .high, .store, .leave .timerFunction] ++
    Handler.keyInterruptHandler.run ++ Handler.keyIrqTasklet.run ++
    [.enter .timerFunction, .pass .timerFunction, .store, .leave .timerFunction]

theorem quiet_line_known_bounce :
    let s := keyirqRelay.machine.final (.still Handler .high .loaded) bounce
    let t := keyinputRelay.machine.final (.still Handler .high none) bounce
    (s.source = .high ∧ s.store.lastValue = s.source.value) ∧
      t.source = .high ∧ t.store = some (lnot t.source.value) := by
  refine ⟨⟨rfl, ?_⟩, rfl, ?_⟩
  · refine quiet_line_known.1 .high _ _ (Machine.path_trace _ _ _) ?_ ⟨?_, rfl⟩
    · decide
    · intro i
      cases i <;> decide
  · refine quiet_line_known.2 .high _ _ (Machine.path_trace _ _ _) ?_ ⟨?_, rfl⟩
    · decide
    · intro i
      cases i <;> decide

end LearningKernel.Key
