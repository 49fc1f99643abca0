/-
# MultiTouch.Lifecycle -- the touch interrupt and its input device

`edt_ft5426_ts_probe` requests the interrupt before it allocates the input device,
so that the managed release, which goes in reverse, frees the input device before
the interrupt.  `isr_finds_input_iff` says when `edt_ft5426_ts_isr` nevertheless
always finds an input device with slots: if every interrupt comes between
`input_mt_init_slots` and the release of the device, and no handler is running
when that is released.
-/
import LearningKernel.Kernel.Abi
import LearningKernel.Theory.Cycle

namespace LearningKernel.MultiTouch

open LearningKernel.Theory LearningKernel.Kernel

set_option autoImplicit false

inductive TsGpio where
  | reset
  | irq
  deriving DecidableEq

/-- What binding and unbinding calls. -/
inductive Call where
  | devmKmalloc
  | ofGetNamedGpio (gpio : TsGpio)
  | devmGpioRequestOne (gpio : TsGpio)
  | gpioSetValue (level : Bool)
  /-- `edt_ft5426_ts_write`, its result ignored -/
  | write (data : UInt8)
  | devmRequestThreadedIrq
  | devmInputAllocateDevice
  /-- `ft5426->input = input` -/
  | setInput
  | inputMtInitSlots
  | inputRegisterDevice
  | i2cSetClientdata
  | inputUnregisterDevice
  /-- the managed release -/
  | kfree
  | gpioFree (gpio : TsGpio)
  | freeIrq
  | inputFreeDevice
  deriving DecidableEq

inductive Answer where
  | probed
  /-- with an error number, or that of the call that failed -/
  | failed (code : Option Int)
  | removed
  deriving DecidableEq

/-- The managed release of what was acquired, in reverse order. -/
def devresReleaseAll (acquired : List Call) (answer : Answer) : Script Call Answer :=
  .calls (acquired.reverse.filterMap fun k =>
    match k with
    | .devmKmalloc => some .kfree
    | .devmGpioRequestOne gpio => some (.gpioFree gpio)
    | .devmRequestThreadedIrq => some .freeIrq
    | .devmInputAllocateDevice => some .inputFreeDevice
    | _ => none) (.ret answer)

/-- What the probe acquires, in order. -/
def acquisitions : List Call :=
  [.devmKmalloc, .devmGpioRequestOne .reset, .devmGpioRequestOne .irq, .devmRequestThreadedIrq,
    .devmInputAllocateDevice]

/-- The end of a probe that fails with the first `n` acquisitions made. -/
def failing (n : Nat) (code : Option Int) : Script Call Answer :=
  devresReleaseAll (acquisitions.take n) (.failed code)

/-- `edt_ft5426_ts_reset`, before the rest of the probe. -/
def edtFt5426TsReset (rest : Script Call Answer) : Script Call Answer :=
  .attempt (.ofGetNamedGpio .reset)
    (.attempt (.devmGpioRequestOne .reset)
      (.calls [.gpioSetValue false, .gpioSetValue true] rest)
      (failing 1 none))
    (failing 1 none)

/-- `edt_ft5426_ts_irq`, before the rest of the probe. -/
def edtFt5426TsIrq (rest : Script Call Answer) : Script Call Answer :=
  .attempt (.ofGetNamedGpio .irq)
    (.attempt (.devmGpioRequestOne .irq)
      (.attempt .devmRequestThreadedIrq rest (failing 3 none))
      (failing 2 none))
    (failing 2 none)

/-- `edt_ft5426_ts_probe`, with the managed release if it fails. -/
def edtFt5426TsProbe : Script Call Answer :=
  .attempt .devmKmalloc
    (edtFt5426TsReset <|
      .calls [.write 0, .write 1] <|
      edtFt5426TsIrq <|
      .attempt .devmInputAllocateDevice
        (.call .setInput <|
          .attempt .inputMtInitSlots
            (.attempt .inputRegisterDevice
              (.call .i2cSetClientdata (.ret .probed))
              (failing 5 none))
            (failing 5 (some (-enomem))))
        (failing 4 (some (-enomem))))
    (failing 0 (some (-enomem)))

/-- `edt_ft5426_ts_remove`, and the managed release after it. -/
def edtFt5426TsRemove : Script Call Answer :=
  .call .inputUnregisterDevice (devresReleaseAll acquisitions .removed)

def again : Answer → Script Call Answer
  | .probed => edtFt5426TsRemove
  | .failed _ | .removed => edtFt5426TsProbe

/-! ## The platform -/

/-- What the driver holds; `input` is that `ft5426->input` points to the input
device it allocated. -/
structure Held where
  ft5426 : Bool := false
  resetGpio : Bool := false
  irqGpio : Bool := false
  irq : Bool := false
  inputdev : Bool := false
  input : Bool := false
  slots : Bool := false
  registered : Bool := false
  deriving DecidableEq

def own (k : Call) (held : Held) : Held :=
  match k with
  | .devmKmalloc => { held with ft5426 := true, input := false }
  | .devmGpioRequestOne .reset => { held with resetGpio := true }
  | .devmGpioRequestOne .irq => { held with irqGpio := true }
  | .devmRequestThreadedIrq => { held with irq := true }
  | .devmInputAllocateDevice => { held with inputdev := true }
  | .setInput => { held with input := true }
  | .inputMtInitSlots => { held with slots := true }
  | .inputRegisterDevice => { held with registered := true }
  | .inputUnregisterDevice => { held with registered := false }
  | .inputFreeDevice => { held with inputdev := false, slots := false, registered := false }
  | .freeIrq => { held with irq := false }
  | .gpioFree .reset => { held with resetGpio := false }
  | .gpioFree .irq => { held with irqGpio := false }
  | .kfree => { held with ft5426 := false, input := false }
  | .ofGetNamedGpio _ | .gpioSetValue _ | .write _ | .i2cSetClientdata => held

/-- A run of `edt_ft5426_ts_isr`. -/
inductive Occurrence where
  | interrupt
  | handled
  deriving DecidableEq

/-- Whether the handler is running; `free_irq` waits for it. -/
def settle (k : Call) (running : Bool) : Option Bool :=
  match k with
  | .freeIrq => if running then none else some running
  | _ => some running

/-- The interrupt is a one-shot: it does not come while it is handled. -/
def occur (x : Occurrence) (held : Held) (running : Bool) : Option Bool :=
  match x with
  | .interrupt => if held.irq ∧ ¬ running then some true else none
  | .handled => if running then some false else none

def platform : Platform Call Occurrence Held Bool := { own, settle, occur }

abbrev TouchState := Platform.State Call Held Bool Answer
abbrev TouchEvent := Platform.CycleEvent Call Occurrence Held Bool Answer

/-- Before the first probe. -/
def unbound : TouchState := { held := {}, flight := false, rest := .ret .removed }

/-- What a bound driver holds. -/
def bound : Held :=
  { ft5426 := true, resetGpio := true, irqGpio := true, irq := true, inputdev := true,
    input := true, slots := true, registered := true }

/-! ## The input device of the handler -/

/-- `ft5426->input` points to an allocated input device with slots. -/
def Held.Usable (held : Held) : Prop :=
  held.ft5426 = true ∧ held.input = true ∧ held.inputdev = true ∧ held.slots = true

instance (held : Held) : Decidable held.Usable := inferInstanceAs (Decidable (_ ∧ _))

/-- The handler runs only on such a device. -/
def FindsInput (s : TouchState) : Prop := s.flight = true → s.held.Usable

/-- Before `input_mt_init_slots`, after it failed, or between the release of the input
device and that of the interrupt. -/
def NoSlots (rest : Script Call Answer) : Prop :=
  .inputMtInitSlots ∈ rest.ahead ∨ rest = failing 5 (some (-enomem)) ∨
    (.freeIrq ∈ rest.ahead ∧ .inputFreeDevice ∉ rest.ahead)

instance (rest : Script Call Answer) : Decidable (NoSlots rest) :=
  inferInstanceAs (Decidable (_ ∨ _))

/-- No interrupt comes there, and the input device is freed when no handler is
running. -/
structure Timely (e : TouchEvent) : Prop where
  interrupts : e.act = some (.occur .interrupt) → ¬ NoSlots e.source.rest
  frees : e.act = some .proceed → e.source.rest.next? = some .inputFreeDevice →
    e.source.flight = false

instance (e : TouchEvent) : Decidable (Timely e) :=
  decidable_of_iff ((e.act = some (.occur .interrupt) → ¬ NoSlots e.source.rest) ∧
    (e.act = some .proceed → e.source.rest.next? = some .inputFreeDevice →
      e.source.flight = false))
    ⟨fun ⟨interrupts, frees⟩ => ⟨interrupts, frees⟩, fun timely =>
      ⟨timely.interrupts, timely.frees⟩⟩

def entries : List (Held × Script Call Answer) :=
  [({}, .ret .removed), ({}, edtFt5426TsProbe), (bound, edtFt5426TsRemove)]

def touchPlaces : List (Held × Script Call Answer) :=
  entries.flatMap fun entry => entry.2.reach (fun _ => true) own entry.1

theorem places_enter : ∀ p ∈ touchPlaces, ∀ a ∈ p.2.answer?, (p.1, again a) ∈ entries := by
  decide

/-- Elsewhere a requested interrupt has a device with slots, until that is freed. -/
theorem places_usable : ∀ p ∈ touchPlaces,
    (p.1.irq = true → (¬ NoSlots p.2 ↔ p.1.Usable)) ∧
      ∀ k ∈ p.2.next?, k ≠ .inputFreeDevice → p.1.Usable → (own k p.1).Usable := by
  decide

theorem occur_interrupt {held : Held} {running running' : Bool}
    (happens : occur .interrupt held running = some running') :
    held.irq = true ∧ running' = true := by
  simp only [occur] at happens
  split at happens
  · rename_i free
    exact ⟨free.1, (Option.some.inj happens).symm⟩
  · cases happens

section Runs

variable {es : List TouchEvent} {u : TouchState}

theorem FindsInput.step {e : TouchEvent} (turns : platform.Turns again e) (timely : Timely e)
    (place : e.source.place ∈ touchPlaces) (finds : FindsInput e.source) : FindsInput e.target := by
  obtain ⟨setUp, kept⟩ := places_usable _ place
  intro running
  cases turns with
  | proceeded k act next held flight rest =>
      have was : e.source.flight = true := by
        have same : settle k e.source.flight = some true := by
          rw [← running]
          exact flight
        cases k with
        | freeIrq =>
            simp only [settle] at same
            split at same
            · cases same
            · exact Option.some.inj same
        | _ => exact Option.some.inj same
      have other : k ≠ .inputFreeDevice := by
        rintro rfl
        have quiet := timely.frees act next
        rw [was] at quiet
        cases quiet
      rw [held]
      exact kept k next other (finds was)
  | failed k fail act next fails held flight rest =>
      rw [flight] at running
      rw [held]
      exact finds running
  | occurred x act held flight rest =>
      rw [held]
      cases x with
      | interrupt =>
          have requested := (occur_interrupt flight).1
          exact (setUp requested).1 (timely.interrupts act)
      | handled =>
          have stopped : occur .handled e.source.held e.source.flight = some true := by
            rw [← running]
            exact flight
          simp only [occur] at stopped
          split at stopped <;> cases stopped
  | entered answer act here held flight rest =>
      rw [flight] at running
      rw [held]
      exact finds running

/-- An interrupt at any other time, or a release under a running handler, leaves the
handler without the device. -/
theorem timely_of_findsInput {e : TouchEvent} (turns : platform.Turns again e)
    (place : e.source.place ∈ touchPlaces) (after : FindsInput e.target) : Timely e := by
  refine ⟨?_, ?_⟩
  · intro interrupt
    obtain ⟨held, flight⟩ := turns.of_occur interrupt
    obtain ⟨requested, running⟩ := occur_interrupt flight
    have usable := after running
    rw [held] at usable
    exact ((places_usable _ place).1 requested).2 usable
  · intro proceeds frees
    obtain ⟨k, next, held, flight⟩ := turns.of_proceed proceeds
    cases frees.symm.trans next
    cases was : e.source.flight with
    | false => rfl
    | true =>
        have still : e.target.flight = true := by
          rw [was] at flight
          exact (Option.some.inj flight).symm
        have freed := (after still).2.2.1
        rw [held] at freed
        cases freed

theorem run_among (path : (platform.cycle again).Path unbound es u) {C : TouchEvent → Prop}
    {I : TouchState → Prop}
    (step : ∀ e : TouchEvent, platform.Turns again e → C e → e.source.place ∈ touchPlaces →
      I e.source → I e.target) (along : ∀ e ∈ es, C e) (start : I unbound) :
    ∀ e ∈ es, platform.Turns again e ∧ e.source.place ∈ touchPlaces ∧ I e.source ∧ I e.target := by
  have run := Platform.cycle_keeps (P := platform) (I := I) places_enter
    (fun _ _ _ _ _ _ _ => rfl) step path along List.mem_cons_self start
  intro e member
  obtain ⟨turns, before, after⟩ := run.2 e member
  exact ⟨turns, before.1, before.2, after.2⟩

/-- **The handler and its input device.**  Over any number of bindings, with any step
of a probe failing, `edt_ft5426_ts_isr` runs only with `ft5426->input` pointing to
an allocated device with slots, if and only if every step is timely. -/
theorem isr_finds_input_iff (path : (platform.cycle again).Path unbound es u) :
    (∀ e ∈ es, FindsInput e.source ∧ FindsInput e.target) ↔ ∀ e ∈ es, Timely e := by
  constructor
  · intro finds e member
    have run := run_among path (C := fun _ => True) (I := fun _ => True)
      (fun _ _ _ _ _ => trivial) (fun _ _ => trivial) trivial
    obtain ⟨turns, place, -⟩ := run e member
    exact timely_of_findsInput turns place (finds e member).2
  · intro timely e member
    have start : FindsInput unbound := by
      intro running
      cases running
    have run := run_among path (fun e turns here place finds => finds.step turns here place) timely
      start
    exact (run e member).2.2

end Runs

/-- A touch while the device is bound, and none while it is set up or torn down. -/
theorem isr_finds_input_session :
    let acts := none :: List.replicate edtFt5426TsProbe.ahead.length (some .proceed) ++
      [some (.occur .interrupt), some (.occur .handled), none] ++
        List.replicate edtFt5426TsRemove.ahead.length (some .proceed)
    let es := (platform.cycle again).trace unbound acts
    es.length = acts.length ∧ ∀ e ∈ es, FindsInput e.source ∧ FindsInput e.target := by
  refine ⟨by decide, (isr_finds_input_iff (Machine.path_trace _ _ _)).2 ?_⟩
  decide

/-- A touch before the input device is allocated, and one after it is freed. -/
theorem isr_misses_input :
    let cycle := platform.cycle again
    let early := cycle.final unbound
      (none :: List.replicate 10 (some .proceed) ++ [some (.occur .interrupt)])
    let late := cycle.final unbound
      (none :: List.replicate edtFt5426TsProbe.ahead.length (some .proceed) ++
        [none, some .proceed, some .proceed, some (.occur .interrupt)])
    (early.flight = true ∧ early.held.input = false) ∧
      late.flight = true ∧ late.held.input = true ∧ late.held.inputdev = false := by
  decide

end LearningKernel.MultiTouch
