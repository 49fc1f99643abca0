/-
# Key.Notify -- the readiness signals of `16_fasync` and what a read gets

`key_poll` looks at the cell, and reports readiness exactly in the states in which an
`O_NONBLOCK` read delivers an event.  `timer_function` raises `SIGIO` whatever it has
stored, and after it has given up the lock.

`pending_iff_latest` says what the cell holds in terms of the samples and reads so
far; `notifications_agree` reads off it when each `SIGIO` finds an event.
-/
import LearningKernel.Key.Events
import LearningKernel.Theory.Latest

namespace LearningKernel.Key

open LearningKernel.Theory LearningKernel.Kernel

set_option autoImplicit false

/-- `key_poll`, after its `poll_wait`. -/
def keyPoll (dev : KeyDev) : Nat :=
  if dev.status ≠ .keyNone then pollin ||| pollrdnorm else 0

theorem keyPoll_ready_iff (dev : KeyDev) :
    keyPoll dev = pollin ||| pollrdnorm ↔ dev.status ≠ .keyNone := by
  by_cases empty : dev.status = .keyNone
  · simp [keyPoll, empty, pollin, pollrdnorm]
  · simp [keyPoll, empty]

/-- What an expiry or a read leaves in the cell: `some true` an event, `some false` none. -/
def leaves? {R : Type} (e : KeyEvent R) : Option Bool :=
  match e.act with
  | .expire level => some (decide (level.value ≠ e.source.dev.lastValue))
  | .locked _ 0 => some false
  | _ => none

section Runs

variable {R : Type} [DecidableEq R] {driver : Driver} {es : List (KeyEvent R)} {u : State R}

/-- An `O_NONBLOCK` read that `r` begins in this state, alone, delivers an event. -/
def State.ReadDelivers (s : State R) (r : R) : Prop :=
  ∃ d ∈ (machine .fasync).trace (s.setReader r .idle) [.call r true, .locked r 0],
    ∃ v, returnedEvent? d = some v

/-- It does so exactly if there is one. -/
theorem readDelivers_iff (s : State R) (r : R) : s.ReadDelivers r ↔ s.dev.status ≠ .keyNone := by
  obtain ⟨⟨status, lastValue⟩, readers, notifying⟩ := s
  cases status <;>
    simp [State.ReadDelivers, Machine.trace, machine, step, State.setReader, keryReadGate,
      keryReadLocked, returnedEvent?, KeyStatus.event?]

omit [DecidableEq R] in
theorem leaves?_eq_none {e : KeyEvent R} (other : ∀ level, e.act ≠ .expire level)
    (copies : ∀ r, e.act ≠ .locked r 0) : leaves? e = none := by
  unfold leaves?
  split
  · rename_i level act
    exact absurd act (other level)
  · rename_i r act
    exact absurd act (copies r)
  · rfl

/-- What a step leaves in the cell. -/
theorem status_of_takes {e : KeyEvent R} (taken : (machine driver).Takes e) :
    (leaves? e = none ∧ e.target.dev.status = e.source.dev.status) ∨
      ∃ event : Bool, leaves? e = some event ∧ (e.target.dev.status ≠ .keyNone ↔ event = true) := by
  cases effect_of_takes taken with
  | expired level act out dev =>
      right
      refine ⟨decide (level.value ≠ e.source.dev.lastValue), ?_, ?_⟩
      · simp [leaves?, act]
      · rw [dev, Ne, timerFunction_status_eq_keyNone_iff, decide_eq_true_eq]
  | delivered r interrupted act ready out dev =>
      right
      refine ⟨false, ?_, ?_⟩
      · simp [leaves?, act]
      · simp [dev]
  | faulted r uncopied act fails out dev =>
      left
      refine ⟨leaves?_eq_none ?_ ?_, congrArg KeyDev.status dev⟩
      · simp [act]
      · simp [act, fails]
  | again r act empty out dev =>
      left
      refine ⟨leaves?_eq_none ?_ ?_, congrArg KeyDev.status dev⟩ <;> simp [act]
  | silent act out dev =>
      left
      refine ⟨leaves?_eq_none ?_ ?_, congrArg KeyDev.status dev⟩
      · rintro level same
        simp [same] at act
      · rintro r same
        simp [same] at act

/-- The cell holds an event exactly if, of the expiries and the reads that copied, the
latest was an expiry that sampled another value than the one before it. -/
theorem pending_iff_latest (path : (machine driver).Path (State.loaded R) es u) :
    u.dev.status ≠ .keyNone ↔ latest leaves? es = some true := by
  refine path.history (C := fun _ => True)
    (J := fun es s => s.dev.status ≠ .keyNone ↔ latest leaves? es = some true) ?_ ?_
    (fun _ _ => trivial)
  · simp [State.loaded, KeyDev.loaded, latest]
  · intro es e _ taken _ before
    rw [latest_concat]
    rcases status_of_takes taken with ⟨nothing, same⟩ | ⟨event, left, pending⟩
    · rw [nothing, same, Option.none_or]
      exact before
    · rw [left, pending, Option.some_or, Option.some.injEq]

/-- `kill_fasync` is called with an event that `r` could read. -/
def SignalsReady (r : R) (e : KeyEvent R) : Prop := e.act = .notify → e.source.ReadDelivers r

/-- **The readiness signals of `16_fasync`.**  In every reachable state `key_poll` agrees
with an `O_NONBLOCK` read; `SIGIO` does so exactly in the runs in which each
`kill_fasync` comes after an expiry that sampled another value than the one before it,
with no read that copied in between. -/
theorem notifications_agree (r : R) (path : (machine .fasync).Path (State.loaded R) es u) :
    (keyPoll u.dev = pollin ||| pollrdnorm ↔ u.ReadDelivers r) ∧
      ((∀ e ∈ es, SignalsReady r e) ↔
        ∀ before e after, es = before ++ e :: after → e.act = .notify →
          latest leaves? before = some true) := by
  refine ⟨(keyPoll_ready_iff u.dev).trans (readDelivers_iff u r).symm, ?_, ?_⟩
  · rintro ready before e after rfl notifies
    obtain ⟨front, -, -⟩ := path.split
    rw [← pending_iff_latest front, ← readDelivers_iff e.source r]
    exact ready e (by simp) notifies
  · intro fresh e member notifies
    obtain ⟨before, after, rfl⟩ := List.append_of_mem member
    obtain ⟨front, -, -⟩ := path.split
    rw [readDelivers_iff, pending_iff_latest front]
    exact fresh before e after rfl notifies

end Runs

/-- The press is read between the unlock of `timer_function` and its `kill_fasync`. -/
def pressReadBeforeSignal : List (Act Unit) :=
  [.expire .low, .call () true, .locked () 0, .notify]

theorem notifications_agree_pressReadSettle :
    let es := (machine .fasync).trace (State.loaded Unit) pressReadSettle
    let u := (machine .fasync).final (State.loaded Unit) pressReadSettle
    (keyPoll u.dev = pollin ||| pollrdnorm ↔ u.ReadDelivers ()) ∧
      ((∀ e ∈ es, SignalsReady () e) ↔
        ∀ before e after, es = before ++ e :: after → e.act = .notify →
          latest leaves? before = some true) :=
  notifications_agree () (Machine.path_trace _ _ _)

/-- `SIGIO` is raised with nothing to read: after a sample that finds the key as it
was, and after a read that came first. -/
theorem sigio_without_event :
    (∃ e ∈ (machine .fasync).trace (State.loaded Unit) (pressSettle ++ [.notify]),
      e.out = .notified true ∧ keyPoll e.source.dev = 0 ∧ ¬ SignalsReady () e) ∧
    ∃ e ∈ (machine .fasync).trace (State.loaded Unit) pressReadBeforeSignal,
      e.out = .notified true ∧ keyPoll e.source.dev = 0 ∧ ¬ SignalsReady () e := by
  have late : ∀ {e : KeyEvent Unit}, e.act = .notify → e.source.dev.status = .keyNone →
      ¬ SignalsReady () e := by
    intro e notifies empty ready
    exact (readDelivers_iff e.source ()).1 (ready notifies) empty
  refine ⟨⟨((machine .fasync).trace (State.loaded Unit) (pressSettle ++ [.notify]))[3],
      List.getElem_mem _, rfl, rfl, late rfl rfl⟩,
    ⟨((machine .fasync).trace (State.loaded Unit) pressReadBeforeSignal)[3],
      List.getElem_mem _, rfl, rfl, late rfl rfl⟩⟩

end LearningKernel.Key
