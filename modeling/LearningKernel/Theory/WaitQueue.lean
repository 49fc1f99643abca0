/-
# Theory.WaitQueue -- waiting for a condition, one step at a time

A process that waits for a condition enters a queue, tests the condition and, if it
does not hold, goes to sleep; whoever makes the condition true wakes the queue
afterwards.  The test and the sleep are separate steps, so the condition may change
between them.

`Protocol` is what a waiting process has to do: its step on the condition as it finds it,
what a wake-up and a signal do to it, and the laws that make the two sides meet.
`NoLost` is the invariant of a queue: a process is asleep beside a true condition only while
a wake-up is still due.  One lemma for each thing that can happen keeps it.

* `Waiter.protocol`: the loop of `wait_event_interruptible`;
* `Poller.protocol`: the loop of `select` over one file;
* `Protocol.sum`: a queue with processes of two kinds;
* `Protocol.awake_induction`: what a process that is awake beside a true condition comes to.
-/
import Mathlib.Logic.Function.Basic
import Mathlib.Tactic.Common

namespace LearningKernel.Theory

set_option autoImplicit false

universe u v w

/-- A process that waits.  `next?` is its next step on the condition it finds; it has none
when it is asleep or has finished, having seen the condition or been interrupted. -/
structure Protocol (W : Type u) where
  next? : Bool → W → Option W
  wake : W → W
  signal : W → W
  finished? : W → Option Bool
  Asleep : W → Prop
  /-- the process is on the queue whenever it may fall asleep -/
  Queued : W → Prop
  rank : W → Nat
  next_queued : ∀ {c w w'}, next? c w = some w' → Queued w → Queued w'
  wake_queued : ∀ {w}, Queued w → Queued (wake w)
  signal_queued : ∀ {w}, Queued w → Queued (signal w)
  wake_finished : ∀ {w}, finished? (wake w) = finished? w
  signal_finished : ∀ {w}, finished? (signal w) = finished? w
  /-- it falls asleep only on a test that failed -/
  falls_asleep : ∀ {c w w'}, next? c w = some w' → Asleep w' → c = false
  wake_asleep : ∀ {w}, Queued w → ¬ Asleep (wake w)
  signal_asleep : ∀ {w}, ¬ Asleep (signal w)
  /-- it takes the condition for true only if it is -/
  finished_saw : ∀ {c w w'}, next? c w = some w' → finished? w' = some true → c = true
  /-- beside a true condition it gets closer to its end, and does not miss it -/
  advances : ∀ {w}, ¬ Asleep w → finished? w = none →
    ∃ w', next? true w = some w' ∧ finished? w' ≠ some false ∧ rank w' < rank w

namespace Protocol

section Queue

variable {W : Type u} {R : Type v} (P : Protocol W)

/-- A process of the queue: it is still waiting and in order, and it is asleep beside a true
condition only if a wake-up is due. -/
structure Covered (condition due : Bool) (w : W) : Prop where
  active : P.finished? w = none
  queued : P.Queued w
  due : P.Asleep w → condition = true → due = true

def NoLost (condition due : Bool) (queue : R → Option W) : Prop :=
  ∀ r w, queue r = some w → P.Covered condition due w

variable {P} {condition due : Bool} {queue : R → Option W}

theorem NoLost.empty : P.NoLost condition due (fun _ : R => none) := nofun

/-- The condition changes: what makes it true owes a wake-up, and one that is due stays due. -/
theorem NoLost.change (safe : P.NoLost condition due queue) {condition' due' : Bool}
    (owed : condition' = true → due' = true ∨ condition = true)
    (kept : due = true → due' = true) : P.NoLost condition' due' queue := by
  intro r w waiting
  obtain ⟨active, queued, covered⟩ := safe r w waiting
  refine ⟨active, queued, ?_⟩
  intro asleep holds
  rcases owed holds with due | already
  · exact due
  · exact kept (covered asleep already)

/-- The wake-up is given. -/
theorem NoLost.woken (safe : P.NoLost condition due queue) (condition' : Bool) :
    P.NoLost condition' false (fun r => (queue r).map P.wake) := by
  intro r w waiting
  obtain ⟨w₀, before, rfl⟩ := Option.map_eq_some_iff.1 waiting
  obtain ⟨active, queued, -⟩ := safe r w₀ before
  exact ⟨P.wake_finished.trans active, P.wake_queued queued,
    fun asleep => absurd asleep (P.wake_asleep queued)⟩

variable [DecidableEq R]

/-- A process leaves the queue. -/
theorem NoLost.leave (safe : P.NoLost condition due queue) (r : R) :
    P.NoLost condition due (Function.update queue r none) := by
  intro r' w waiting
  by_cases same : r' = r
  · subst same
    rw [Function.update_self] at waiting
    cases waiting
  · rw [Function.update_of_ne same] at waiting
    exact safe r' w waiting

theorem NoLost.put (safe : P.NoLost condition due queue) {r : R} {w : W}
    (covered : P.Covered condition due w) :
    P.NoLost condition due (Function.update queue r (some w)) := by
  intro r' w' waiting
  by_cases same : r' = r
  · subst same
    rw [Function.update_self] at waiting
    cases waiting
    exact covered
  · rw [Function.update_of_ne same] at waiting
    exact safe r' w' waiting

/-- A process takes a step of its own, and goes on waiting. -/
theorem NoLost.next (safe : P.NoLost condition due queue) {r : R} {w w' : W}
    (waiting : queue r = some w) (taken : P.next? condition w = some w')
    (active : P.finished? w' = none) :
    P.NoLost condition due (Function.update queue r (some w')) := by
  refine safe.put ⟨active, P.next_queued taken (safe r w waiting).queued, ?_⟩
  intro asleep holds
  rw [P.falls_asleep taken asleep] at holds
  cases holds

theorem NoLost.signal (safe : P.NoLost condition due queue) {r : R} {w : W}
    (waiting : queue r = some w) :
    P.NoLost condition due (Function.update queue r (some (P.signal w))) := by
  obtain ⟨active, queued, -⟩ := safe r w waiting
  exact safe.put ⟨P.signal_finished.trans active, P.signal_queued queued,
    fun asleep => absurd asleep P.signal_asleep⟩

end Queue

/-- **What a process that is awake beside a true condition comes to**, by its own steps: it
is enough that the last step gives it, and that each other step passes it on. -/
theorem awake_induction {W : Type u} (P : Protocol W) {motive : W → Prop}
    (last : ∀ w w', P.next? true w = some w' → P.rank w' < P.rank w →
      P.finished? w' = some true → motive w)
    (more : ∀ w w', P.next? true w = some w' → P.rank w' < P.rank w →
      P.finished? w' = none → motive w' → motive w)
    {w : W} (awake : ¬ P.Asleep w) (active : P.finished? w = none) : motive w := by
  induction rank : P.rank w using Nat.strongRecOn generalizing w with
  | ind k ih =>
      subst rank
      obtain ⟨w', taken, uninterrupted, closer⟩ := P.advances awake active
      cases ended : P.finished? w' with
      | none =>
          have stillAwake : ¬ P.Asleep w' := fun asleep => nomatch P.falls_asleep taken asleep
          exact more w w' taken closer ended (ih _ closer stillAwake ended rfl)
      | some seen =>
          cases seen with
          | false => exact absurd ended uninterrupted
          | true => exact last w w' taken closer ended

/-- Processes of two kinds on one queue. -/
def sum {W : Type u} {V : Type v} (P : Protocol W) (Q : Protocol V) : Protocol (W ⊕ V) where
  next? c := Sum.elim (fun w => (P.next? c w).map .inl) fun v => (Q.next? c v).map .inr
  wake := Sum.map P.wake Q.wake
  signal := Sum.map P.signal Q.signal
  finished? := Sum.elim P.finished? Q.finished?
  Asleep := Sum.elim P.Asleep Q.Asleep
  Queued := Sum.elim P.Queued Q.Queued
  rank := Sum.elim P.rank Q.rank
  next_queued {c x x'} taken queued := by
    cases x with
    | inl w =>
        obtain ⟨w', step, rfl⟩ := Option.map_eq_some_iff.1 taken
        exact P.next_queued step queued
    | inr v =>
        obtain ⟨v', step, rfl⟩ := Option.map_eq_some_iff.1 taken
        exact Q.next_queued step queued
  wake_queued {x} queued := by
    cases x with
    | inl w => exact P.wake_queued queued
    | inr v => exact Q.wake_queued queued
  signal_queued {x} queued := by
    cases x with
    | inl w => exact P.signal_queued queued
    | inr v => exact Q.signal_queued queued
  wake_finished {x} := by
    cases x with
    | inl w => exact P.wake_finished
    | inr v => exact Q.wake_finished
  signal_finished {x} := by
    cases x with
    | inl w => exact P.signal_finished
    | inr v => exact Q.signal_finished
  falls_asleep {c x x'} taken asleep := by
    cases x with
    | inl w =>
        obtain ⟨w', step, rfl⟩ := Option.map_eq_some_iff.1 taken
        exact P.falls_asleep step asleep
    | inr v =>
        obtain ⟨v', step, rfl⟩ := Option.map_eq_some_iff.1 taken
        exact Q.falls_asleep step asleep
  wake_asleep {x} queued := by
    cases x with
    | inl w => exact P.wake_asleep queued
    | inr v => exact Q.wake_asleep queued
  signal_asleep {x} := by
    cases x with
    | inl w => exact P.signal_asleep
    | inr v => exact Q.signal_asleep
  finished_saw {c x x'} taken ended := by
    cases x with
    | inl w =>
        obtain ⟨w', step, rfl⟩ := Option.map_eq_some_iff.1 taken
        exact P.finished_saw step ended
    | inr v =>
        obtain ⟨v', step, rfl⟩ := Option.map_eq_some_iff.1 taken
        exact Q.finished_saw step ended
  advances {x} awake active := by
    cases x with
    | inl w =>
        obtain ⟨w', step, rest⟩ := P.advances awake active
        exact ⟨.inl w', by simp [step], rest⟩
    | inr v =>
        obtain ⟨v', step, rest⟩ := Q.advances awake active
        exact ⟨.inr v', by simp [step], rest⟩

end Protocol

/-! ## `wait_event_interruptible` -/

/-- Where the loop of `wait_event_interruptible` is. -/
inductive WaitStage where
  /-- before the first test, which is made off the queue -/
  | testing
  /-- before `prepare_to_wait_event` -/
  | preparing
  /-- after it, before the test; whether it has found a signal -/
  | looking (interrupted : Bool)
  /-- at `schedule` -/
  | parking
  | done (interrupted : Bool)
  deriving DecidableEq

/-- A process in `wait_event_interruptible`: whether its entry is on the queue, whether its
task state is `TASK_INTERRUPTIBLE`, and whether a signal is pending. -/
structure Waiter where
  stage : WaitStage
  queued : Bool
  sleeps : Bool
  signalled : Bool
  deriving DecidableEq

namespace Waiter

def start : Waiter := ⟨.testing, false, false, false⟩

def next? (condition : Bool) (w : Waiter) : Option Waiter :=
  match w.stage with
  | .testing =>
      if condition then some { w with stage := .done false }
      else some { w with stage := .preparing }
  | .preparing =>
      -- a pending signal takes the entry off the queue and leaves the task running
      if w.signalled then some { w with stage := .looking true, queued := false, sleeps := false }
      else some { w with stage := .looking false, queued := true, sleeps := true }
  | .looking interrupted =>
      if condition then some { w with stage := .done false, queued := false, sleeps := false }
      else if interrupted then some { w with stage := .done true }
      else some { w with stage := .parking }
  | .parking => if w.sleeps then none else some { w with stage := .preparing }
  | .done _ => none

/-- `autoremove_wake_function`: a task that is not about to sleep is left on the queue. -/
def wake (w : Waiter) : Waiter :=
  if w.queued && w.sleeps then { w with queued := false, sleeps := false } else w

def signal (w : Waiter) : Waiter := { w with sleeps := false, signalled := true }

/-- What the wait ended with. -/
def finished? (w : Waiter) : Option Bool :=
  match w.stage with
  | .done interrupted => some (!interrupted)
  | _ => none

def rank (w : Waiter) : Nat :=
  match w.stage with
  | .parking => 3
  | .preparing => 2
  | .testing | .looking _ => 1
  | .done _ => 0

theorem rank_le (w : Waiter) : w.rank ≤ 3 := by
  unfold rank
  split <;> omega

def Asleep (w : Waiter) : Prop := w.stage = .parking ∧ w.sleeps = true

def Queued (w : Waiter) : Prop := w.sleeps = true → w.queued = true

theorem start_queued : start.Queued := nofun

theorem start_awake : ¬ start.Asleep := nofun

theorem next_queued {c : Bool} {w w' : Waiter} (taken : next? c w = some w')
    (queued : w.Queued) : w'.Queued := by
  obtain ⟨stage, onQueue, sleeps, signalled⟩ := w
  unfold next? at taken
  cases stage with
  | testing =>
      dsimp only at taken
      split at taken <;> cases taken <;> exact queued
  | preparing =>
      dsimp only at taken
      split at taken <;> cases taken <;> simp [Queued]
  | looking interrupted =>
      dsimp only at taken
      split at taken
      · cases taken
        simp [Queued]
      · split at taken <;> cases taken <;> exact queued
  | parking =>
      dsimp only at taken
      split at taken <;> cases taken
      exact queued
  | done => cases taken

theorem falls_asleep {c : Bool} {w w' : Waiter} (taken : next? c w = some w')
    (asleep : w'.Asleep) : c = false := by
  obtain ⟨stage, queued, sleeps, signalled⟩ := w
  unfold next? at taken
  cases c with
  | false => rfl
  | true =>
      cases stage with
      | preparing | parking =>
          dsimp only at taken
          split at taken <;> cases taken <;> cases asleep.1
      | testing | looking =>
          cases taken
          cases asleep.1
      | done => cases taken

theorem finished_saw {c : Bool} {w w' : Waiter} (taken : next? c w = some w')
    (ended : w'.finished? = some true) : c = true := by
  obtain ⟨stage, queued, sleeps, signalled⟩ := w
  unfold next? at taken
  cases c with
  | true => rfl
  | false =>
      cases stage with
      | preparing | parking =>
          dsimp only at taken
          split at taken <;> cases taken <;> cases ended
      | looking =>
          dsimp only at taken
          rw [if_neg nofun] at taken
          split at taken <;> cases taken <;> cases ended
      | testing =>
          cases taken
          cases ended
      | done => cases taken

theorem advances {w : Waiter} (awake : ¬ w.Asleep) (active : w.finished? = none) :
    ∃ w', next? true w = some w' ∧ w'.finished? ≠ some false ∧ w'.rank < w.rank := by
  obtain ⟨stage, queued, sleeps, signalled⟩ := w
  cases stage with
  | testing => exact ⟨_, rfl, by simp [finished?], by simp [rank]⟩
  | preparing =>
      cases signalled with
      | false => exact ⟨_, rfl, by simp [finished?], by simp [rank]⟩
      | true => exact ⟨_, rfl, by simp [finished?], by simp [rank]⟩
  | looking interrupted => exact ⟨_, rfl, by simp [finished?], by simp [rank]⟩
  | parking =>
      cases sleeps with
      | true => exact absurd ⟨rfl, rfl⟩ awake
      | false => exact ⟨_, rfl, by simp [finished?], by simp [rank]⟩
  | done interrupted => cases active

theorem wake_asleep {w : Waiter} (queued : w.Queued) : ¬ w.wake.Asleep := by
  rintro ⟨-, sleeps⟩
  unfold wake at sleeps
  split at sleeps
  · cases sleeps
  · rename_i other
    simp [sleeps, queued sleeps] at other

def protocol : Protocol Waiter where
  next? := next?
  wake := wake
  signal := signal
  finished? := finished?
  Asleep := Asleep
  Queued := Queued
  rank := rank
  next_queued := next_queued
  wake_queued {w} queued := by
    unfold wake
    split
    · simp [Queued]
    · exact queued
  signal_queued _ := nofun
  wake_finished {w} := by
    unfold wake
    split <;> rfl
  signal_finished := rfl
  falls_asleep := falls_asleep
  wake_asleep := wake_asleep
  signal_asleep asleep := nomatch asleep.2
  finished_saw := finished_saw
  advances := advances

end Waiter

/-! ## `select` -/

/-- Where the loop of `select` is, over one file and without a timeout. -/
inductive PollStage where
  /-- before the driver's `poll_wait` -/
  | registering
  /-- after it, before the driver looks at its condition -/
  | testing
  /-- at `poll_schedule_timeout` -/
  | parking
  | done (ready : Bool)
  deriving DecidableEq

/-- A process in `select`: whether `poll_wait` has put it on the queue, whether it has been
woken since its last test, and whether a signal is pending. -/
structure Poller where
  stage : PollStage
  queued : Bool
  triggered : Bool
  signalled : Bool
  deriving DecidableEq

namespace Poller

def start : Poller := ⟨.registering, false, false, false⟩

def next? (condition : Bool) (p : Poller) : Option Poller :=
  match p.stage with
  | .registering => some { p with stage := .testing, queued := true }
  | .testing =>
      if condition then some { p with stage := .done true, queued := false }
      else if p.signalled then some { p with stage := .done false, queued := false }
      else some { p with stage := .parking }
  | .parking =>
      if p.triggered || p.signalled then some { p with stage := .testing, triggered := false }
      else none
  | .done _ => none

/-- `pollwake`. -/
def wake (p : Poller) : Poller := if p.queued then { p with triggered := true } else p

def signal (p : Poller) : Poller := { p with signalled := true }

def finished? (p : Poller) : Option Bool :=
  match p.stage with
  | .done ready => some ready
  | _ => none

def rank (p : Poller) : Nat :=
  match p.stage with
  | .registering | .parking => 2
  | .testing => 1
  | .done _ => 0

theorem rank_le (p : Poller) : p.rank ≤ 2 := by
  unfold rank
  split <;> omega

def Asleep (p : Poller) : Prop :=
  p.stage = .parking ∧ p.triggered = false ∧ p.signalled = false

def Queued (p : Poller) : Prop := p.stage = .testing ∨ p.stage = .parking → p.queued = true

theorem start_queued : start.Queued := nofun

theorem start_awake : ¬ start.Asleep := nofun

theorem next_queued {c : Bool} {p p' : Poller} (taken : next? c p = some p')
    (queued : p.Queued) : p'.Queued := by
  obtain ⟨stage, onQueue, triggered, signalled⟩ := p
  unfold next? at taken
  cases stage with
  | registering =>
      cases taken
      exact fun _ => rfl
  | testing =>
      dsimp only at taken
      split at taken
      · cases taken
        simp [Queued]
      · split at taken
        · cases taken
          simp [Queued]
        · cases taken
          exact fun _ => queued (Or.inl rfl)
  | parking =>
      dsimp only at taken
      split at taken <;> cases taken
      exact fun _ => queued (Or.inr rfl)
  | done => cases taken

theorem falls_asleep {c : Bool} {p p' : Poller} (taken : next? c p = some p')
    (asleep : p'.Asleep) : c = false := by
  obtain ⟨stage, queued, triggered, signalled⟩ := p
  unfold next? at taken
  cases c with
  | false => rfl
  | true =>
      cases stage with
      | registering | testing =>
          cases taken
          cases asleep.1
      | parking =>
          dsimp only at taken
          split at taken <;> cases taken
          cases asleep.1
      | done => cases taken

theorem finished_saw {c : Bool} {p p' : Poller} (taken : next? c p = some p')
    (ended : p'.finished? = some true) : c = true := by
  obtain ⟨stage, queued, triggered, signalled⟩ := p
  unfold next? at taken
  cases c with
  | true => rfl
  | false =>
      cases stage with
      | registering =>
          cases taken
          cases ended
      | testing =>
          dsimp only at taken
          rw [if_neg nofun] at taken
          split at taken <;> cases taken <;> cases ended
      | parking =>
          dsimp only at taken
          split at taken <;> cases taken
          cases ended
      | done => cases taken

theorem advances {p : Poller} (awake : ¬ p.Asleep) (active : p.finished? = none) :
    ∃ p', next? true p = some p' ∧ p'.finished? ≠ some false ∧ p'.rank < p.rank := by
  obtain ⟨stage, queued, triggered, signalled⟩ := p
  cases stage with
  | registering | testing => exact ⟨_, rfl, by simp [finished?], by simp [rank]⟩
  | parking =>
      have woken : (triggered || signalled) = true := by
        by_contra neither
        simp only [Bool.or_eq_true, not_or, Bool.not_eq_true] at neither
        exact awake ⟨rfl, neither⟩
      exact ⟨_, if_pos woken, by simp [finished?], by simp [rank]⟩
  | done ready => cases active

theorem wake_asleep {p : Poller} (queued : p.Queued) : ¬ p.wake.Asleep := by
  rintro ⟨parking, untouched, -⟩
  unfold wake at parking untouched
  split at untouched
  · cases untouched
  · rename_i off
    rw [if_neg off] at parking
    exact off (queued (Or.inr parking))

def protocol : Protocol Poller where
  next? := next?
  wake := wake
  signal := signal
  finished? := finished?
  Asleep := Asleep
  Queued := Queued
  rank := rank
  next_queued := next_queued
  wake_queued {p} queued := by
    unfold wake
    split
    · exact queued
    · exact queued
  signal_queued queued := queued
  wake_finished {p} := by
    unfold wake
    split <;> rfl
  signal_finished := rfl
  falls_asleep := falls_asleep
  wake_asleep := wake_asleep
  signal_asleep asleep := nomatch asleep.2.2
  finished_saw := finished_saw
  advances := advances

end Poller

end LearningKernel.Theory
