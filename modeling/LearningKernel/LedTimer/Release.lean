/-
# LedTimer.Release -- closing the LED timer device

`led_release` drives the LED off, frees its GPIO and only then deletes the timer,
while `timer_function` toggles the level, drives it and arms the timer again.
`timer_stopped_iff`: whatever falls between, the close stops the timer for good
exactly if the timer was at rest when it began; and any run in which the timer
does not drive the LED after `gpio_set_value` is one in which it did.
-/
import LearningKernel.Theory.Script

namespace LearningKernel.LedTimer

open LearningKernel.Theory

set_option autoImplicit false

/-- What `led_release` calls. -/
inductive Call where
  | gpioSetValue
  | gpioFree
  | delTimerSync
  deriving DecidableEq

/-- `led_release`; it sets the value 1, off. -/
def ledRelease : Script Call Unit := .calls [.gpioSetValue, .gpioFree, .delTimerSync] (.ret ())

structure Held where
  gpio : Bool
  deriving DecidableEq

/-- Where `timer_function` is. -/
inductive Handler where
  | idle
  /-- before `sta = !sta` -/
  | entered
  /-- before `gpio_set_value` -/
  | toggled
  /-- before `mod_timer` -/
  | driven
  /-- before it returns -/
  | armed
  deriving DecidableEq

/-- The timer, the handler with its static `sta`, and the level last driven. -/
structure Flight where
  pending : Bool
  handler : Handler
  sta : Bool
  level : Bool
  deriving DecidableEq

def own (k : Call) (held : Held) : Held :=
  match k with
  | .gpioFree => { held with gpio := false }
  | .gpioSetValue | .delTimerSync => held

/-- `del_timer_sync` waits for the handler. -/
def settle (k : Call) (flight : Flight) : Option Flight :=
  match k with
  | .gpioSetValue => some { flight with level := true }
  | .gpioFree => some flight
  | .delTimerSync =>
      if flight.handler = .idle then some { flight with pending := false } else none

/-- The steps of an expiry. -/
inductive Occurrence where
  | expiry
  | toggle
  | drive
  | modTimer
  | leave
  deriving DecidableEq

/-- `timer_function`, step by step. -/
def occur (x : Occurrence) (_ : Held) (flight : Flight) : Option Flight :=
  match x, flight.handler with
  | .expiry, .idle =>
      if flight.pending then some { flight with pending := false, handler := .entered } else none
  | .toggle, .entered => some { flight with sta := !flight.sta, handler := .toggled }
  | .drive, .toggled => some { flight with level := flight.sta, handler := .driven }
  | .modTimer, .driven => some { flight with pending := true, handler := .armed }
  | .leave, .armed => some { flight with handler := .idle }
  | _, _ => none

def platform : Platform Call Occurrence Held Flight := { own, settle, occur }

abbrev TimerState := Platform.State Call Held Flight Unit
abbrev TimerEvent := Platform.RunEvent Call Occurrence Held Flight Unit

/-- The last file about to be closed, with the timer in any condition. -/
def closing (flight : Flight) : TimerState :=
  { held := { gpio := true }, flight := flight, rest := ledRelease }

/-- Not pending, and `timer_function` not about to arm it. -/
def Flight.AtRest (flight : Flight) : Prop :=
  flight.pending = false ∧ (flight.handler = .idle ∨ flight.handler = .armed)

instance (flight : Flight) : Decidable flight.AtRest := inferInstanceAs (Decidable (_ ∧ _))

/-- The timer drives the LED only while its GPIO is held, and the close returns
with the timer deleted and the LED off. -/
structure Stopped (es : List TimerEvent) (u : TimerState) : Prop where
  drives_held : ∀ e ∈ es, e.act = .occur .drive → e.source.held.gpio = true
  deleted : u.rest.answer? = some () → u.flight.pending = false
  off : u.rest.answer? = some () → u.flight.level = true

/-- The timer does not drive the LED once the close has. -/
def DrivesBefore (e : TimerEvent) : Prop := e.act = .occur .drive → e.source.rest = ledRelease

instance (e : TimerEvent) : Decidable (DrivesBefore e) :=
  inferInstanceAs (Decidable (_ → _))

/-! ## The places of a close -/

theorem release_places :
    ∀ p ∈ ledRelease.places own { gpio := true },
      (p.2 = ledRelease → p.1.gpio = true) ∧
        (∀ k ∈ p.2.next?, p.2 = ledRelease → k = .gpioSetValue) ∧
        (∀ k ∈ p.2.next?, p.2.proceed.answer? = some () → k = .delTimerSync) ∧
        p.2.fail? = none := by
  decide

/-- A timer at rest stays so. -/
theorem occur_atRest {x : Occurrence} {held : Held} {flight flight' : Flight}
    (happens : occur x held flight = some flight') (rest : flight.AtRest) :
    x = .leave ∧ flight'.AtRest := by
  obtain ⟨notPending, idle | armed⟩ := rest
  · cases x <;> simp [occur, idle, notPending] at happens
  · cases x with
    | leave =>
        simp only [occur, armed] at happens
        cases happens
        exact ⟨rfl, notPending, Or.inl rfl⟩
    | expiry | toggle | drive | modTimer => simp [occur, armed] at happens

theorem settle_atRest {k : Call} {flight flight' : Flight} (settled : settle k flight = some flight')
    (rest : flight.AtRest) : flight'.AtRest := by
  cases k with
  | gpioSetValue | gpioFree =>
      cases settled
      exact rest
  | delTimerSync =>
      simp only [settle] at settled
      split at settled <;> cases settled
      exact ⟨rfl, rest.2⟩

/-- Only `drive` changes the level. -/
theorem occur_level {x : Occurrence} {held : Held} {flight flight' : Flight}
    (happens : occur x held flight = some flight') (other : x ≠ .drive) :
    flight'.level = flight.level := by
  unfold occur at happens
  split at happens
  · split at happens <;> cases happens
    rfl
  · cases happens
    rfl
  · exact absurd rfl other
  · cases happens
    rfl
  · cases happens
    rfl
  · cases happens

/-- The invariant of a close. -/
structure Closing (s : TimerState) : Prop where
  off : s.rest ≠ ledRelease → s.flight.level = true
  atRest : s.rest.answer? = some () → s.flight.AtRest

theorem settle_level {k : Call} {flight flight' : Flight} (settled : settle k flight = some flight')
    (before : k ≠ .gpioSetValue → flight.level = true) : flight'.level = true := by
  cases k with
  | gpioSetValue =>
      cases settled
      rfl
  | gpioFree =>
      cases settled
      exact before (by decide)
  | delTimerSync =>
      simp only [settle] at settled
      split at settled <;> cases settled
      exact before (by decide)

theorem settle_deleted {flight flight' : Flight}
    (settled : settle .delTimerSync flight = some flight') : flight'.AtRest := by
  simp only [settle] at settled
  split at settled <;> cases settled
  rename_i idle
  exact ⟨rfl, Or.inl idle⟩

theorem Closing.step {e : TimerEvent} (moves : platform.Moves e) (before : DrivesBefore e)
    (within : e.source.Within platform ledRelease { gpio := true }) (closing : Closing e.source) :
    Closing e.target := by
  obtain ⟨-, first, last, sure⟩ := release_places _ within
  cases moves with
  | proceeded k act next held flight rest =>
      refine ⟨fun _ => settle_level flight ?_, ?_⟩
      · intro other
        apply closing.off
        intro start
        exact other (first k next start)
      · intro returned
        rw [rest] at returned
        obtain rfl := last k next returned
        exact settle_deleted flight
  | failed k next fail act here held flight rest =>
      have fails : e.source.rest.fail? = some fail := by
        rw [here]
        rfl
      cases fails.symm.trans sure
  | occurred x act held flight rest =>
      have happens : occur x e.source.held e.source.flight = some e.target.flight := flight
      refine ⟨?_, ?_⟩
      · intro started
        rw [rest] at started
        have other : x ≠ .drive := by
          rintro rfl
          exact started (before act)
        rw [occur_level happens other]
        exact closing.off started
      · intro returned
        rw [rest] at returned
        exact (occur_atRest happens (closing.atRest returned)).2

/-- A run in which the timer does not drive the LED after the close has. -/
theorem stopped_of_drivesBefore {flight : Flight} {es : List TimerEvent} {u : TimerState}
    (path : (platform.machine Unit).Path (closing flight) es u) (before : ∀ e ∈ es, DrivesBefore e) :
    Stopped es u := by
  have start : Closing (closing flight) := by
    refine ⟨fun other => absurd rfl other, ?_⟩
    intro returned
    cases returned
  obtain ⟨final, along⟩ := Platform.keeps (fun e => Closing.step) path before
    (Platform.State.within_self platform _) start
  refine ⟨?_, ?_, ?_⟩
  · intro e member drives
    obtain ⟨-, place, -⟩ := along e member
    exact (release_places _ place).1 (before e member drives)
  · exact fun returned => (final.atRest returned).1
  · intro returned
    apply final.off
    intro start
    rw [start] at returned
    cases returned

/-- At rest when the close begins, the timer does nothing during it. -/
theorem drivesBefore_of_atRest {flight : Flight} (rest : flight.AtRest) {es : List TimerEvent}
    {u : TimerState} (path : (platform.machine Unit).Path (closing flight) es u) :
    ∀ e ∈ es, DrivesBefore e := by
  have run := Platform.keeps (C := fun _ => True) (I := fun s => s.flight.AtRest) ?_ path
    (fun _ _ => trivial) (Platform.State.within_self platform _) rest
  · intro e member drives
    obtain ⟨moves, -, before, -⟩ := run.2 e member
    have happens : occur .drive e.source.held e.source.flight = some e.target.flight :=
      (moves.of_occur drives).2
    cases (occur_atRest happens before).1
  · intro e moves _ _ before
    cases moves with
    | proceeded k act next held flight rest => exact settle_atRest flight before
    | failed k next fail act here held flight rest =>
        rw [flight]
        exact before
    | occurred x act held flight rest =>
        have happens : occur x e.source.held e.source.flight = some e.target.flight := flight
        exact (occur_atRest happens before).2

/-- What the timer may do, with the close in between, until it drives a GPIO that
was freed. -/
def stray : Handler → List (Platform.Act Occurrence)
  | .idle => [.proceed, .proceed, .occur .expiry, .occur .toggle, .occur .drive]
  | .entered => [.proceed, .proceed, .occur .toggle, .occur .drive]
  | .toggled => [.proceed, .proceed, .occur .drive]
  | .driven =>
      [.occur .modTimer, .occur .leave, .proceed, .proceed, .occur .expiry, .occur .toggle,
        .occur .drive]
  | .armed =>
      [.occur .leave, .proceed, .proceed, .occur .expiry, .occur .toggle, .occur .drive]

theorem strays {flight : Flight} (busy : ¬ flight.AtRest) :
    ∃ e ∈ (platform.machine Unit).trace (closing flight) (stray flight.handler),
      e.act = .occur .drive ∧ e.source.held.gpio = false := by
  obtain ⟨pending, handler, sta, level⟩ := flight
  cases pending <;> cases handler <;> cases sta <;> cases level <;> revert busy <;> decide

/-- **Closing the LED timer.**  Whatever falls between its steps, the close stops
the timer if and only if the timer is at rest when it begins; and so does any
run in which the timer does not drive the LED after the close has. -/
theorem timer_stopped_iff (flight : Flight) :
    ((∀ es u, (platform.machine Unit).Path (closing flight) es u → Stopped es u) ↔
        flight.AtRest) ∧
      ∀ es u, (platform.machine Unit).Path (closing flight) es u → (∀ e ∈ es, DrivesBefore e) →
        Stopped es u := by
  refine ⟨⟨?_, ?_⟩, fun es u path before => stopped_of_drivesBefore path before⟩
  · intro stops
    by_contra busy
    obtain ⟨e, member, drives, free⟩ := strays busy
    have held := (stops _ _ (Machine.path_trace _ _ _)).drives_held e member drives
    rw [free] at held
    cases held
  · intro rest es u path
    exact stopped_of_drivesBefore path (drivesBefore_of_atRest rest path)

/-- An expiry between `gpio_free` and `del_timer_sync` drives the freed GPIO and
leaves the LED on. -/
theorem release_leaves_led_on :
    let flight : Flight := { pending := true, handler := .idle, sta := true, level := true }
    let acts := stray .idle ++ [.occur .modTimer, .occur .leave, .proceed]
    let es := (platform.machine Unit).trace (closing flight) acts
    let u := (platform.machine Unit).final (closing flight) acts
    es.length = 8 ∧ (∃ e ∈ es, e.act = .occur .drive ∧ e.source.held.gpio = false) ∧
      u.rest.answer? = some () ∧ u.flight.level = false := by
  decide

end LearningKernel.LedTimer
