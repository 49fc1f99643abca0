/-
# Key.Readers -- the debounced key and its readers

The four interrupt-driven key drivers (`13_irq`, `14_blockio`, `15_noblockio`,
`16_fasync`) share one `status` cell.  `timer_function` samples the line and
stores a press, a release or, when the sample is the last one, `KEY_NONE`;
`kery_read` copies the cell to the user and resets it.  Each spinlock section is
one step; what differs between the drivers is how `kery_read` gets to its section
(`keryReadGate`) and whom `timer_function` tells afterwards (`notify`).

A reader is idle, asleep in `wait_event_interruptible`, or past its test with the
section still to come.  The test and the section are separate steps, so other
readers and the timer run between them.

`Effect` is the specification of a step on the shared device; `effect_of_takes`
derives it once, and every law below is a case analysis on it.
-/
import LearningKernel.Kernel.Abi
import LearningKernel.Theory.Machine
import Mathlib.Data.Fintype.Basic
import Mathlib.Logic.Function.Basic

namespace LearningKernel.Key

open LearningKernel.Theory LearningKernel.Kernel

set_option autoImplicit false

/-- `enum key_status`. -/
inductive KeyStatus where
  | keyPress
  | keyRelease
  | keyNone
  deriving DecidableEq

/-- The drivers, by their module. -/
inductive Driver where
  | keyirq
  | blockio
  | noblockio
  | fasync
  deriving DecidableEq

/-- What the handlers share of `struct key_dev`, with the static `last_value` of
`timer_function`. -/
structure KeyDev where
  status : KeyStatus
  lastValue : Int
  deriving DecidableEq

/-- `keydev` as the module is loaded. -/
def KeyDev.loaded : KeyDev := { status := .keyNone, lastValue := 1 }

/-- A level of the key line. -/
inductive Level where
  | low
  | high
  deriving DecidableEq

instance : Fintype Level := ⟨{.low, .high}, by intro level; cases level <;> simp⟩

/-- `gpio_get_value`. -/
def Level.value : Level → Int
  | .low => 0
  | .high => 1

/-- The locked section of `timer_function`. -/
def timerFunction (dev : KeyDev) (curValue : Int) : KeyDev :=
  { status :=
      if 0 = curValue ∧ curValue ≠ dev.lastValue then .keyPress
      else if 1 = curValue ∧ curValue ≠ dev.lastValue then .keyRelease
      else .keyNone
    lastValue := curValue }

/-- What `kery_read` does before it takes the lock. -/
inductive Gate where
  | enter
  | again
  | wait

/-- The head of `kery_read`, up to `spin_lock_irqsave`. -/
def keryReadGate : Driver → Bool → KeyStatus → Gate
  | .keyirq, _, _ => .enter
  | .blockio, _, _ => .wait
  | .noblockio, nonblock, status | .fasync, nonblock, status =>
      if nonblock then (if status = .keyNone then .again else .enter) else .wait

/-- What `kery_read` returns, copies out, and leaves. -/
structure Delivery where
  ret : Int
  copied : Option KeyStatus
  dev : KeyDev

/-- The locked section of `kery_read`.  It does not look at what
`wait_event_interruptible` returned. -/
def keryReadLocked (dev : KeyDev) (uncopied : Nat) : Delivery :=
  if min uncopied sizeofInt ≠ 0 then { ret := -efault, copied := none, dev := dev }
  else { ret := sizeofInt, copied := some dev.status, dev := { dev with status := .keyNone } }

/-- Whether `timer_function` wakes readers after its section. -/
def Driver.wakes : Driver → Bool
  | .keyirq => false
  | _ => true

/-- Whether it also raises `SIGIO`. -/
def Driver.signals : Driver → Bool
  | .fasync => true
  | _ => false

/-- Where a call of `kery_read` is. -/
inductive Reader where
  | idle
  | waiting
  | ready (interrupted : Bool)
  deriving DecidableEq

/-- The device, each reader, and whether `timer_function` is between its section
and its return. -/
structure State (R : Type) where
  dev : KeyDev
  readers : R → Reader
  notifying : Bool

def State.loaded (R : Type) : State R :=
  { dev := .loaded, readers := fun _ => .idle, notifying := false }

inductive Act (R : Type) where
  /-- `timer_function` up to its unlock -/
  | expire (level : Level)
  /-- its `wake_up_interruptible` and `kill_fasync` -/
  | notify
  /-- `kery_read` up to its test -/
  | call (r : R) (nonblock : Bool)
  /-- `wait_event_interruptible` has seen the condition and returns 0 -/
  | wake (r : R)
  /-- `wait_event_interruptible` returns an error for a signal -/
  | interrupt (r : R)
  /-- `kery_read` from its lock to its return -/
  | locked (r : R) (uncopied : Nat)
  deriving DecidableEq

inductive Out (R : Type) where
  | stored (status : KeyStatus)
  | notified (sigio : Bool)
  | silent
  | returned (r : R) (ret : Int) (copied : Option KeyStatus)

section Machine

variable {R : Type} [DecidableEq R] (driver : Driver)

def State.setReader (s : State R) (r : R) (reader : Reader) : State R :=
  { s with readers := Function.update s.readers r reader }

def step (s : State R) : Act R → Option (Out R × State R)
  | .expire level =>
      if s.notifying then none
      else
        let dev := timerFunction s.dev level.value
        some (.stored dev.status, { s with dev := dev, notifying := driver.wakes })
  | .notify =>
      if s.notifying then some (.notified driver.signals, { s with notifying := false }) else none
  | .call r nonblock =>
      if s.readers r = .idle then
        match keryReadGate driver nonblock s.dev.status with
        | .enter => some (.silent, s.setReader r (.ready false))
        | .again => some (.returned r (-eagain) none, s)
        | .wait => some (.silent, s.setReader r .waiting)
      else none
  | .wake r =>
      if s.readers r = .waiting ∧ s.dev.status ≠ .keyNone then
        some (.silent, s.setReader r (.ready false))
      else none
  | .interrupt r =>
      if s.readers r = .waiting then some (.silent, s.setReader r (.ready true)) else none
  | .locked r uncopied =>
      match s.readers r with
      | .ready _ =>
          let d := keryReadLocked s.dev uncopied
          some (.returned r d.ret d.copied, { s.setReader r .idle with dev := d.dev })
      | _ => none

/-- The driver with any readers, the timer and signals, in any order. -/
def machine : Machine (State R) (Act R) (Out R) := ⟨step driver⟩

end Machine

abbrev KeyEvent (R : Type) := Event (State R) (Act R) (Out R)

section Effects

variable {R : Type}

/-- What one event does to the shared device, and what a call returns by it. -/
inductive Effect (e : KeyEvent R) : Prop where
  | expired (level : Level) (act : e.act = .expire level)
      (out : e.out = .stored (timerFunction e.source.dev level.value).status)
      (dev : e.target.dev = timerFunction e.source.dev level.value)
  | delivered (r : R) (interrupted : Bool) (act : e.act = .locked r 0)
      (ready : e.source.readers r = .ready interrupted)
      (out : e.out = .returned r sizeofInt (some e.source.dev.status))
      (dev : e.target.dev = { e.source.dev with status := .keyNone })
  | faulted (r : R) (uncopied : Nat) (act : e.act = .locked r uncopied) (fails : uncopied ≠ 0)
      (out : e.out = .returned r (-efault) none) (dev : e.target.dev = e.source.dev)
  | again (r : R) (act : e.act = .call r true) (empty : e.source.dev.status = .keyNone)
      (out : e.out = .returned r (-eagain) none) (dev : e.target.dev = e.source.dev)
  | silent (act : (∃ r nonblock, e.act = .call r nonblock) ∨ (∃ r, e.act = .wake r) ∨
        (∃ r, e.act = .interrupt r) ∨ e.act = .notify)
      (out : e.out = .silent ∨ ∃ sigio, e.out = .notified sigio)
      (dev : e.target.dev = e.source.dev)

theorem keryReadGate_again {driver : Driver} {nonblock : Bool} {status : KeyStatus}
    (refused : keryReadGate driver nonblock status = .again) :
    nonblock = true ∧ status = .keyNone := by
  cases driver with
  | keyirq => simp [keryReadGate] at refused
  | blockio => simp [keryReadGate] at refused
  | noblockio | fasync =>
      cases nonblock with
      | false => simp [keryReadGate] at refused
      | true =>
          by_cases empty : status = .keyNone
          · exact ⟨rfl, empty⟩
          · simp [keryReadGate, empty] at refused

variable [DecidableEq R] {driver : Driver}

theorem effect_locked {s t : State R} {r : R} {uncopied : Nat} {out : Out R}
    (taken : step driver s (.locked r uncopied) = some (out, t)) :
    Effect ⟨s, .locked r uncopied, out, t⟩ := by
  simp only [step] at taken
  split at taken
  · rename_i interrupted ready
    obtain ⟨rfl, rfl⟩ := Prod.mk.inj (Option.some.inj taken)
    by_cases whole : uncopied = 0
    · subst whole
      exact .delivered r interrupted rfl ready rfl rfl
    · have faults : min uncopied sizeofInt ≠ 0 := by
        simp only [sizeofInt]
        omega
      refine .faulted r uncopied rfl whole ?_ ?_ <;> simp [keryReadLocked, faults]
  · cases taken

/-- **The specification of a step.** -/
theorem effect_of_takes {e : KeyEvent R} (taken : (machine driver).Takes e) : Effect e := by
  obtain ⟨s, act, out, t⟩ := e
  simp only [Machine.Takes, machine] at taken
  cases act with
  | expire level =>
      simp only [step] at taken
      split at taken
      · cases taken
      · obtain ⟨rfl, rfl⟩ := Prod.mk.inj (Option.some.inj taken)
        exact .expired level rfl rfl rfl
  | notify =>
      simp only [step] at taken
      split at taken
      · obtain ⟨rfl, rfl⟩ := Prod.mk.inj (Option.some.inj taken)
        exact .silent (by simp) (by simp) rfl
      · cases taken
  | call r nonblock =>
      simp only [step] at taken
      split at taken
      · cases gate : keryReadGate driver nonblock s.dev.status with
        | again =>
            rw [gate] at taken
            obtain ⟨rfl, rfl⟩ := Prod.mk.inj (Option.some.inj taken)
            obtain ⟨rfl, empty⟩ := keryReadGate_again gate
            exact .again r rfl empty rfl rfl
        | enter | wait =>
            rw [gate] at taken
            obtain ⟨rfl, rfl⟩ := Prod.mk.inj (Option.some.inj taken)
            exact .silent (by simp) (by simp) rfl
      · cases taken
  | wake r | interrupt r =>
      simp only [step] at taken
      split at taken
      · obtain ⟨rfl, rfl⟩ := Prod.mk.inj (Option.some.inj taken)
        exact .silent (by simp) (by simp) rfl
      · cases taken
  | locked r uncopied => exact effect_locked taken

/-- What an expiry does, read off its action. -/
theorem expire_event {e : KeyEvent R} (taken : (machine driver).Takes e) {level : Level}
    (act : e.act = .expire level) :
    e.out = .stored (timerFunction e.source.dev level.value).status ∧
      e.target.dev = timerFunction e.source.dev level.value := by
  cases effect_of_takes taken with
  | expired level' act' out dev =>
      rw [act] at act'
      cases act'
      exact ⟨out, dev⟩
  | delivered r interrupted act' | faulted r uncopied act' | again r act' =>
      rw [act] at act'
      cases act'
  | silent act' => simp [act] at act'

/-- What a section that copies does, read off its action. -/
theorem locked_event {e : KeyEvent R} (taken : (machine driver).Takes e) {r : R}
    (act : e.act = .locked r 0) :
    (∃ interrupted, e.source.readers r = .ready interrupted) ∧
      e.out = .returned r sizeofInt (some e.source.dev.status) ∧
      e.target.dev = { e.source.dev with status := .keyNone } := by
  cases effect_of_takes taken with
  | delivered r' interrupted act' ready out dev =>
      rw [act] at act'
      cases act'
      exact ⟨⟨interrupted, ready⟩, out, dev⟩
  | faulted r' uncopied act' fails =>
      rw [act] at act'
      cases act'
      exact absurd rfl fails
  | expired level act' | again r' act' =>
      rw [act] at act'
      cases act'
  | silent act' => simp [act] at act'

/-- `timer_function` stores an event exactly when the sample is not the last one. -/
theorem timerFunction_status_eq_keyNone_iff (dev : KeyDev) (level : Level) :
    (timerFunction dev level.value).status = .keyNone ↔ level.value = dev.lastValue := by
  cases level with
  | low =>
      by_cases same : (0 : Int) = dev.lastValue <;> simp [timerFunction, Level.value, same]
  | high =>
      by_cases same : (1 : Int) = dev.lastValue <;> simp [timerFunction, Level.value, same]

end Effects

end LearningKernel.Key
