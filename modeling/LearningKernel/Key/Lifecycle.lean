/-
# Key.Lifecycle -- loading and unloading the key drivers

The load and unload code of the interrupt-driven key drivers as scripts, over the
objects it sets up and the chain that an edge of the line starts: the handler
schedules the tasklet, the tasklet arms the timer, the timer runs
`timer_function`.  The character drivers `13_irq` to `16_fasync` load by
`mykey_init`, the input driver `20_input` by `mykey_probe`.
-/
import LearningKernel.Key.Readers
import LearningKernel.Theory.Script

namespace LearningKernel.Key

open LearningKernel.Theory LearningKernel.Kernel

set_option autoImplicit false

/-- What loading and unloading calls. -/
inductive Call where
  | initWaitqueueHead
  | spinLockInit
  | keyParse
  | gpioRequest
  | gpioDirectionInput
  | gpioDirectionOutput
  | requestIrq
  | taskletInit
  | allocChrdevRegion
  | cdevInit
  | cdevAdd
  | classCreate
  | deviceCreate
  | timerSetup
  | inputAllocateDevice
  | inputRegisterDevice
  | inputUnregisterDevice
  | delTimerSync
  | deviceDestroy
  | classDestroy
  | cdevDel
  | unregisterChrdevRegion
  | freeIrq
  | gpioFree
  deriving DecidableEq

/-- What loading and unloading answers. -/
inductive Answer where
  | zero
  | errno (code : Int)
  /-- the code of the call that failed -/
  | callee
  deriving DecidableEq

/-! ## The scripts -/

/-- How `key_gpio_init` sets the line up. -/
def Driver.gpioDirection : Driver → Call
  | .keyirq => .gpioDirectionInput
  | .blockio | .noblockio | .fasync => .gpioDirectionOutput

/-- What `mykey_init` initialises first. -/
def Driver.lockInits : Driver → List Call
  | .keyirq => [.spinLockInit]
  | .blockio | .noblockio | .fasync => [.initWaitqueueHead, .spinLockInit]

/-- `key_gpio_init`, before the rest of its caller. -/
def keyGpioInit (gpioDirection : Call) (rest : Script Call Answer) : Script Call Answer :=
  .attempt .gpioRequest
    (.attempt gpioDirection
      (.attempt .requestIrq rest (.call .gpioFree (.ret .callee)))
      (.ret .callee))
    (.ret .callee)

/-- `mykey_init`, with its labels. -/
def mykeyInit (driver : Driver) : Script Call Answer :=
  let freeGpio := .calls [.freeIrq, .gpioFree] (.ret (.errno (-eio)))
  let delUnregister := .call .unregisterChrdevRegion freeGpio
  let delCdev := .call .cdevDel delUnregister
  let destroyClass := .call .classDestroy delCdev
  .calls driver.lockInits <|
  .attempt .keyParse
    (keyGpioInit driver.gpioDirection <|
      .call .taskletInit <|
      .attempt .allocChrdevRegion
        (.call .cdevInit <|
          .attempt .cdevAdd
            (.attempt .classCreate
              (.attempt .deviceCreate (.call .timerSetup (.ret .zero)) destroyClass)
              delCdev)
            delUnregister)
        freeGpio)
    (.ret .callee)

/-- `mykey_exit`. -/
def mykeyExit : Script Call Answer :=
  .calls [.delTimerSync, .cdevDel, .unregisterChrdevRegion, .deviceDestroy, .classDestroy,
    .freeIrq, .gpioFree] (.ret .zero)

/-- `mykey_probe`, with its label. -/
def mykeyProbe : Script Call Answer :=
  let freeGpio := fun ret => Script.calls [.freeIrq, .gpioFree, .delTimerSync] (.ret ret)
  .attempt .keyParse
    (keyGpioInit .gpioDirectionInput <|
      .calls [.taskletInit, .timerSetup] <|
      .attempt .inputAllocateDevice
        (.attempt .inputRegisterDevice (.ret .zero) (freeGpio .callee))
        (freeGpio (.errno (-enomem))))
    (.ret .callee)

/-- `mykey_remove`. -/
def mykeyRemove : Script Call Answer :=
  .calls [.delTimerSync, .freeIrq, .gpioFree, .inputUnregisterDevice] (.ret .zero)

/-- The loadable drivers. -/
inductive KeyModule where
  | chrdev (driver : Driver)
  | keyinput
  deriving DecidableEq

def KeyModule.load : KeyModule → Script Call Answer
  | .chrdev driver => mykeyInit driver
  | .keyinput => mykeyProbe

def KeyModule.unload : KeyModule → Script Call Answer
  | .chrdev _ => mykeyExit
  | .keyinput => mykeyRemove

/-! ## The platform -/

/-- What a driver holds or has initialised. -/
structure Held where
  gpio : Bool := false
  irq : Bool := false
  tasklet : Bool := false
  timer : Bool := false
  region : Bool := false
  cdev : Bool := false
  cls : Bool := false
  device : Bool := false
  inputdev : Bool := false
  inputRegistered : Bool := false
  deriving DecidableEq

def own (k : Call) (held : Held) : Held :=
  match k with
  | .gpioRequest => { held with gpio := true }
  | .requestIrq => { held with irq := true }
  | .taskletInit => { held with tasklet := true }
  | .timerSetup => { held with timer := true }
  | .allocChrdevRegion => { held with region := true }
  | .cdevAdd => { held with cdev := true }
  | .classCreate => { held with cls := true }
  | .deviceCreate => { held with device := true }
  | .inputAllocateDevice => { held with inputdev := true }
  | .inputRegisterDevice => { held with inputRegistered := true }
  | .inputUnregisterDevice => { held with inputdev := false, inputRegistered := false }
  | .deviceDestroy => { held with device := false }
  | .classDestroy => { held with cls := false }
  | .cdevDel => { held with cdev := false }
  | .unregisterChrdevRegion => { held with region := false }
  | .freeIrq => { held with irq := false }
  | .gpioFree => { held with gpio := false }
  | .initWaitqueueHead | .spinLockInit | .keyParse | .gpioDirectionInput
  | .gpioDirectionOutput | .cdevInit | .delTimerSync => held

/-- The chain an edge starts: the tasklet is scheduled, the timer is pending,
`timer_function` is running. -/
structure Flight where
  scheduled : Bool := false
  pending : Bool := false
  running : Bool := false
  deriving DecidableEq

/-- Initialising a tasklet or a timer clears it; `del_timer_sync` waits for a
running handler. -/
def settle (k : Call) (flight : Flight) : Option Flight :=
  match k with
  | .taskletInit => some { flight with scheduled := false }
  | .timerSetup => some { flight with pending := false }
  | .delTimerSync => if flight.running then none else some { flight with pending := false }
  | _ => some flight

inductive Occurrence where
  /-- an edge: `key_interrupt_handler` -/
  | edge
  /-- `key_irq_tasklet` -/
  | tasklet
  /-- `timer_function` is entered -/
  | expiry
  /-- and left -/
  | finished
  deriving DecidableEq

def occur (x : Occurrence) (held : Held) (flight : Flight) : Option Flight :=
  match x with
  | .edge => if held.irq then some { flight with scheduled := true } else none
  | .tasklet =>
      if flight.scheduled then some { flight with scheduled := false, pending := true } else none
  | .expiry =>
      if flight.pending ∧ ¬ flight.running then
        some { flight with pending := false, running := true }
      else none
  | .finished => if flight.running then some { flight with running := false } else none

def platform : Platform Call Occurrence Held Flight := { own, settle, occur }

abbrev LifeState := Platform.State Call Held Flight Answer
abbrev LifeEvent := Platform.RunEvent Call Occurrence Held Flight Answer

/-- The driver about to be loaded. -/
def loading (m : KeyModule) : LifeState := { held := {}, flight := {}, rest := m.load }

/-- What a loaded driver holds. -/
def KeyModule.loaded : KeyModule → Held
  | .chrdev _ =>
      { gpio := true, irq := true, tasklet := true, timer := true, region := true, cdev := true,
        cls := true, device := true }
  | .keyinput =>
      { gpio := true, irq := true, tasklet := true, timer := true, inputdev := true,
        inputRegistered := true }

/-- A load that answers 0 leaves exactly that. -/
theorem loaded_of_zero (m : KeyModule) :
    ∀ p ∈ m.load.places own {}, p.2.answer? = some .zero → p.1 = m.loaded := by
  cases m with
  | chrdev driver => cases driver <;> decide
  | keyinput => decide

/-! ## Nothing in flight -/

theorem settle_quiet {k : Call} {flight : Flight} (settled : settle k {} = some flight) :
    flight = {} := by
  have same : settle k {} = some {} := by
    cases k <;> rfl
  rw [same] at settled
  exact (Option.some.inj settled).symm

/-- With nothing in flight, only an edge of a registered interrupt occurs. -/
theorem occur_quiet {x : Occurrence} {held : Held} {flight : Flight}
    (happens : occur x held {} = some flight) : x = .edge ∧ held.irq = true := by
  cases x with
  | edge =>
      by_cases registered : held.irq = true
      · exact ⟨rfl, registered⟩
      · simp [occur, registered] at happens
  | tasklet | expiry | finished => simp [occur] at happens

theorem own_irq {k : Call} {held : Held} (other : k ≠ .requestIrq) (free : held.irq = false) :
    (own k held).irq = false := by
  cases k with
  | requestIrq => exact absurd rfl other
  | freeIrq => rfl
  | _ => exact free

theorem own_gpio {k : Call} {held : Held} (notRequest : k ≠ .gpioRequest) (notFree : k ≠ .gpioFree) :
    (own k held).gpio = held.gpio := by
  cases k with
  | gpioRequest => exact absurd rfl notRequest
  | gpioFree => exact absurd rfl notFree
  | _ => rfl

/-- A flight that is not empty is somewhere along the chain. -/
theorem Flight.ne_quiet {flight : Flight} (busy : flight ≠ {}) :
    flight.scheduled = true ∨ flight.pending = true ∨ flight.running = true := by
  obtain ⟨scheduled, pending, running⟩ := flight
  cases scheduled <;> cases pending <;> cases running <;> simp at busy ⊢

/-- By itself, what waits in flight goes on waiting or runs. -/
theorem occur_chain {x : Occurrence} {held : Held} {flight flight' : Flight}
    (happens : occur x held flight = some flight')
    (chain : flight.scheduled = true ∨ flight.pending = true) :
    flight'.scheduled = true ∨ flight'.pending = true ∨ flight'.running = true := by
  cases x with
  | edge =>
      simp only [occur] at happens
      split at happens <;> cases happens
      exact Or.inl rfl
  | tasklet =>
      simp only [occur] at happens
      split at happens <;> cases happens
      exact Or.inr (Or.inl rfl)
  | expiry =>
      simp only [occur] at happens
      split at happens <;> cases happens
      exact Or.inr (Or.inr rfl)
  | finished =>
      simp only [occur] at happens
      split at happens <;> cases happens
      exact chain.imp_right Or.inl

end LearningKernel.Key
