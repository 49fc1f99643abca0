/-
# Key.Waiting -- the waits of the key drivers, step by step

In `Key.Readers` a reader that waits is in one of two places, before and after
`wait_event_interruptible`.  Here the wait itself is run: the tests, the entry on `r_wait`, the
sleep and the wake-up are steps of their own, and `select` waits on the same queue through
`key_poll` (`Theory.WaitQueue`).

* `no_wakeup_lost`: nobody sleeps beside an event unless `wake_up_interruptible` is still to
  come, and whoever does not sleep beside one is out of its wait in three steps of its own;
* `waits_refine`: what the readers and the timer do is a run of `Key.Readers`, so what holds of
  those runs holds here.
-/
import LearningKernel.Key.Notify
import LearningKernel.Theory.WaitQueue

namespace LearningKernel.Key.Waiting

open LearningKernel.Theory LearningKernel.Kernel

set_option autoImplicit false

/-- A process on `r_wait`: in the wait of `kery_read`, or in `select`. -/
abbrev Sleeper := Waiter ⊕ Poller

def protocol : Protocol Sleeper := Waiter.protocol.sum Poller.protocol

/-- The condition a process finds: `kery_read` names it in its wait, `select` asks `key_poll`. -/
def Sleeper.finds (dev : KeyDev) : Sleeper → Bool
  | .inl _ => decide (dev.status ≠ .keyNone)
  | .inr _ => decide (keyPoll dev ≠ 0)

/-- Where a process is in its calls of the driver. -/
inductive Task where
  | idle
  | inside (sleeper : Sleeper)
  /-- `kery_read` before its lock -/
  | ready (interrupted : Bool)
  deriving DecidableEq

def Task.sleeper? : Task → Option Sleeper
  | .inside sleeper => some sleeper
  | _ => none

/-- `wake_up_interruptible`, for one process. -/
def Task.wake : Task → Task
  | .inside sleeper => .inside (protocol.wake sleeper)
  | task => task

structure State (R : Type) where
  dev : KeyDev
  tasks : R → Task
  notifying : Bool

def State.loaded (R : Type) : State R :=
  { dev := .loaded, tasks := fun _ => .idle, notifying := false }

inductive Act (R : Type) where
  /-- `timer_function` up to its unlock -/
  | expire (level : Level)
  /-- its `wake_up_interruptible` and `kill_fasync` -/
  | notify
  /-- `kery_read` up to its wait or its lock -/
  | call (r : R) (nonblock : Bool)
  /-- `select` on the device, for reading and without a timeout -/
  | select (r : R)
  /-- the next step of a wait -/
  | advance (r : R)
  /-- a signal for a process in a wait -/
  | signal (r : R)
  /-- `kery_read` from its lock to its return -/
  | locked (r : R) (uncopied : Nat)
  deriving DecidableEq

inductive Out (R : Type) where
  | key (out : Key.Out R)
  /-- `select` returns, with the file ready or with `EINTR` -/
  | selected (r : R) (ready : Bool)

/-- Whether `timer_fops` of the module has a `poll`. -/
def polls : Driver → Bool
  | .keyirq | .blockio => false
  | .noblockio | .fasync => true

section Machine

variable {R : Type} [DecidableEq R] (driver : Driver)

def State.setTask (s : State R) (r : R) (task : Task) : State R :=
  { s with tasks := Function.update s.tasks r task }

/-- A process in a wait after its step. -/
def State.settle (s : State R) (r : R) (sleeper : Sleeper) : Out R × State R :=
  match protocol.finished? sleeper, sleeper with
  | none, _ => (.key .silent, s.setTask r (.inside sleeper))
  | some seen, .inl _ => (.key .silent, s.setTask r (.ready (!seen)))
  | some seen, .inr _ => (.selected r seen, s.setTask r .idle)

def step (s : State R) : Act R → Option (Out R × State R)
  | .expire level =>
      if s.notifying then none
      else
        let dev := timerFunction s.dev level.value
        some (.key (.stored dev.status), { s with dev := dev, notifying := driver.wakes })
  | .notify =>
      if s.notifying then
        some (.key (.notified driver.signals),
          { s with tasks := fun r => (s.tasks r).wake, notifying := false })
      else none
  | .call r nonblock =>
      if s.tasks r = .idle then
        match keryReadGate driver nonblock s.dev.status with
        | .enter => some (.key .silent, s.setTask r (.ready false))
        | .again => some (.key (.returned r (-eagain) none), s)
        | .wait => some (.key .silent, s.setTask r (.inside (.inl .start)))
      else none
  | .select r =>
      if s.tasks r = .idle then
        -- a file without a `poll` is always ready
        if polls driver then some (.key .silent, s.setTask r (.inside (.inr .start)))
        else some (.selected r true, s)
      else none
  | .advance r =>
      match s.tasks r with
      | .inside sleeper => (protocol.next? (sleeper.finds s.dev) sleeper).map (s.settle r)
      | _ => none
  | .signal r =>
      match s.tasks r with
      | .inside sleeper => some (.key .silent, s.setTask r (.inside (protocol.signal sleeper)))
      | _ => none
  | .locked r uncopied =>
      match s.tasks r with
      | .ready _ =>
          let d := keryReadLocked s.dev uncopied
          some (.key (.returned r d.ret d.copied), { s.setTask r .idle with dev := d.dev })
      | _ => none

/-- The driver with any processes, the timer and signals, in any order. -/
def machine : Machine (State R) (Act R) (Out R) := ⟨step driver⟩

end Machine

abbrev WaitEvent (R : Type) := Event (State R) (Act R) (Out R)

section Runs

variable {R : Type}

/-- Whether the cell holds an event. -/
def State.event (s : State R) : Bool := decide (s.dev.status ≠ .keyNone)

theorem State.event_eq_true_iff {s : State R} : s.event = true ↔ s.dev.status ≠ .keyNone :=
  decide_eq_true_iff

/-- Both kinds of wait look at the same thing. -/
theorem finds_eq_event (s : State R) (sleeper : Sleeper) : sleeper.finds s.dev = s.event := by
  cases sleeper with
  | inl w => rfl
  | inr p =>
      by_cases empty : s.dev.status = .keyNone
      · simp [Sleeper.finds, State.event, keyPoll, empty]
      · simp [Sleeper.finds, State.event, keyPoll, empty, pollin, pollrdnorm]

/-! ## No wake-up is lost -/

/-- The wait queue. -/
def State.queue (s : State R) (r : R) : Option Sleeper := (s.tasks r).sleeper?

/-- Nobody sleeps beside an event without a wake-up to come. -/
def Safe (s : State R) : Prop := protocol.NoLost s.event s.notifying s.queue

theorem queue_woken (s : State R) :
    (fun r => ((s.tasks r).wake).sleeper?) = fun r => (s.queue r).map protocol.wake := by
  funext r
  unfold State.queue
  cases s.tasks r with
  | idle | inside sleeper | ready interrupted => rfl

variable [DecidableEq R] {driver : Driver}

theorem queue_setTask (s : State R) (r : R) (task : Task) :
    (s.setTask r task).queue = Function.update s.queue r task.sleeper? :=
  Function.comp_update Task.sleeper? s.tasks r task

theorem safe_leave {s : State R} (safe : Safe s) (r : R) {task : Task}
    (out : task.sleeper? = none) : Safe (s.setTask r task) := by
  unfold Safe
  rw [queue_setTask, out]
  exact Protocol.NoLost.leave safe r

theorem safe_start {s : State R} (safe : Safe s) (r : R) {sleeper : Sleeper}
    (active : protocol.finished? sleeper = none) (queued : protocol.Queued sleeper)
    (awake : ¬ protocol.Asleep sleeper) : Safe (s.setTask r (.inside sleeper)) := by
  unfold Safe
  rw [queue_setTask]
  exact Protocol.NoLost.put safe ⟨active, queued, fun asleep => absurd asleep awake⟩

theorem safe_settle {s : State R} (safe : Safe s) {r : R} {sleeper sleeper' : Sleeper}
    (waiting : s.queue r = some sleeper)
    (taken : protocol.next? s.event sleeper = some sleeper') : Safe (s.settle r sleeper').2 := by
  unfold State.settle
  split
  · rename_i active
    unfold Safe
    rw [queue_setTask]
    exact Protocol.NoLost.next safe waiting taken active
  · exact safe_leave safe r rfl
  · exact safe_leave safe r rfl

/-- The section of a read makes no event. -/
theorem event_of_locked {dev : KeyDev} {uncopied : Nat}
    (event : (keryReadLocked dev uncopied).dev.status ≠ .keyNone) : dev.status ≠ .keyNone := by
  unfold keryReadLocked at event
  split at event
  · exact event
  · exact absurd rfl event

/-- The one step for which `notifying` covers the new event is the expiry. -/
theorem safe_of_takes (wakes : driver.wakes = true) {e : WaitEvent R}
    (taken : (machine driver).Takes e) (safe : Safe e.source) : Safe e.target := by
  obtain ⟨s, act, out, t⟩ := e
  simp only [Machine.Takes, machine] at taken
  change Safe s at safe
  change Safe t
  cases act with
  | expire level =>
      simp only [step] at taken
      split at taken
      · cases taken
      · cases taken
        exact Protocol.NoLost.change safe (fun _ => Or.inl wakes) fun _ => wakes
  | notify =>
      simp only [step] at taken
      split at taken
      · cases taken
        unfold Safe State.queue
        rw [queue_woken]
        exact Protocol.NoLost.woken safe _
      · cases taken
  | call r nonblock =>
      simp only [step] at taken
      split at taken
      · split at taken <;> cases taken
        · exact safe_leave safe r rfl
        · exact safe
        · exact safe_start safe r rfl Waiter.start_queued Waiter.start_awake
      · cases taken
  | select r =>
      simp only [step] at taken
      split at taken
      · split at taken <;> cases taken
        · exact safe_start safe r rfl Poller.start_queued Poller.start_awake
        · exact safe
      · cases taken
  | advance r =>
      simp only [step] at taken
      split at taken
      · rename_i sleeper inside
        obtain ⟨sleeper', next, settled⟩ := Option.map_eq_some_iff.1 taken
        rw [finds_eq_event] at next
        have waiting : s.queue r = some sleeper := by rw [State.queue, inside, Task.sleeper?]
        have reached : (s.settle r sleeper').2 = t := congrArg Prod.snd settled
        rw [← reached]
        exact safe_settle safe waiting next
      · cases taken
  | signal r =>
      simp only [step] at taken
      split at taken
      · rename_i sleeper inside
        cases taken
        have waiting : s.queue r = some sleeper := by rw [State.queue, inside, Task.sleeper?]
        unfold Safe
        rw [queue_setTask]
        exact Protocol.NoLost.signal safe waiting
      · cases taken
  | locked r uncopied =>
      simp only [step] at taken
      split at taken
      · cases taken
        refine Protocol.NoLost.change (safe_leave safe r rfl) ?_ id
        intro event
        right
        rw [State.event_eq_true_iff] at event ⊢
        exact event_of_locked event
      · cases taken

@[simp] theorem setTask_tasks_self (s : State R) (r : R) (task : Task) :
    (s.setTask r task).tasks r = task := Function.update_self _ _ _

/-- The process leaves its wait by this step, having seen the event. -/
def Sees (r : R) (e : WaitEvent R) : Sleeper → Prop
  | .inl _ => e.target.tasks r = .ready false
  | .inr _ => e.out = .selected r true ∧ e.target.tasks r = .idle

/-- The step of a process in a wait, beside an event. -/
def advanceEvent (s : State R) (r : R) (sleeper : Sleeper) : WaitEvent R :=
  ⟨s, .advance r, (s.settle r sleeper).1, (s.settle r sleeper).2⟩

theorem takes_advance {s : State R} {r : R} {sleeper sleeper' : Sleeper}
    (inside : s.tasks r = .inside sleeper) (event : s.dev.status ≠ .keyNone)
    (next : protocol.next? true sleeper = some sleeper') :
    (machine driver).Takes (advanceEvent s r sleeper') := by
  simp only [Machine.Takes, machine, step, advanceEvent, inside]
  rw [finds_eq_event, State.event_eq_true_iff.2 event, next]
  rfl

omit [DecidableEq R] in
/-- A process stays in its kind of wait. -/
theorem sees_of_next {c : Bool} {r : R} {e : WaitEvent R} {sleeper sleeper' : Sleeper}
    (taken : protocol.next? c sleeper = some sleeper') : Sees r e sleeper' → Sees r e sleeper := by
  cases sleeper with
  | inl w =>
      obtain ⟨w', -, rfl⟩ := Option.map_eq_some_iff.1 taken
      exact id
  | inr p =>
      obtain ⟨p', -, rfl⟩ := Option.map_eq_some_iff.1 taken
      exact id

theorem sees_settled {s : State R} {r : R} {sleeper : Sleeper}
    (ended : protocol.finished? sleeper = some true) : Sees r (advanceEvent s r sleeper) sleeper := by
  cases sleeper with
  | inl w => simp [Sees, advanceEvent, State.settle, ended]
  | inr p => simp [Sees, advanceEvent, State.settle, ended]

theorem settle_dev (s : State R) (r : R) (sleeper : Sleeper) :
    (s.settle r sleeper).2.dev = s.dev := by
  unfold State.settle
  split <;> rfl

/-- A process that is awake beside an event leaves its wait, with the event seen. -/
theorem leaves_wait {sleeper : Sleeper} (awake : ¬ protocol.Asleep sleeper)
    (active : protocol.finished? sleeper = none) (s : State R) (r : R)
    (inside : s.tasks r = .inside sleeper) (event : s.dev.status ≠ .keyNone) :
    ∃ es e u, (machine driver).Path s (es ++ [e]) u ∧ es.length < protocol.rank sleeper ∧
      (∀ d ∈ es ++ [e], d.act = .advance r) ∧ u.dev = s.dev ∧ Sees r e sleeper := by
  revert s
  refine protocol.awake_induction (motive := fun sleeper => ∀ s : State R,
    s.tasks r = .inside sleeper → s.dev.status ≠ .keyNone →
      ∃ es e u, (machine driver).Path s (es ++ [e]) u ∧ es.length < protocol.rank sleeper ∧
        (∀ d ∈ es ++ [e], d.act = .advance r) ∧ u.dev = s.dev ∧ Sees r e sleeper)
    ?_ ?_ awake active
  · intro w w' next closer ended s inside event
    refine ⟨[], advanceEvent s r w', _, .cons rfl (takes_advance inside event next) (.nil _),
      Nat.zero_lt_of_lt closer, ?_, settle_dev s r w', sees_of_next next (sees_settled ended)⟩
    intro d member
    obtain rfl := List.mem_singleton.1 member
    rfl
  · intro w w' next closer active ih s inside event
    have reached : (advanceEvent s r w').target = s.setTask r (.inside w') := by
      simp only [advanceEvent, State.settle, active]
    obtain ⟨es, e, u, path, short, acts, dev, sees⟩ :=
      ih (s.setTask r (.inside w')) (setTask_tasks_self s r _) event
    refine ⟨advanceEvent s r w' :: es, e, u, ?_, ?_, ?_, dev, sees_of_next next sees⟩
    · refine .cons rfl (takes_advance inside event next) ?_
      rw [reached]
      exact path
    · rw [List.length_cons]
      omega
    · rintro d (_ | ⟨_, later⟩)
      · rfl
      · exact acts d later

theorem rank_le (sleeper : Sleeper) : protocol.rank sleeper ≤ 3 := by
  cases sleeper with
  | inl w => exact w.rank_le
  | inr p => exact p.rank_le.trans (by omega)

/-- Who waits after `wake_up_interruptible` has been woken by it. -/
theorem woken_of_takes {e : WaitEvent R} (taken : (machine driver).Takes e)
    (notifies : e.act = .notify) {r : R} {sleeper : Sleeper}
    (inside : e.target.tasks r = .inside sleeper) :
    ∃ sleeper₀, sleeper = protocol.wake sleeper₀ ∧ e.source.tasks r = .inside sleeper₀ := by
  obtain ⟨s, act, out, t⟩ := e
  subst notifies
  simp only [Machine.Takes, machine, step] at taken
  split at taken
  · cases taken
    change (s.tasks r).wake = .inside sleeper at inside
    change ∃ sleeper₀, sleeper = protocol.wake sleeper₀ ∧ s.tasks r = .inside sleeper₀
    cases task : s.tasks r with
    | idle | ready interrupted =>
        rw [task] at inside
        cases inside
    | inside sleeper₀ =>
        rw [task] at inside
        cases inside
        exact ⟨sleeper₀, rfl, rfl⟩
  · cases taken

/-- **No wake-up is lost.**  In every reachable state nobody sleeps beside an event unless
`wake_up_interruptible` is still to come; when it has come nobody sleeps at all.  A process
that waits beside an event, and does not sleep or has no wake-up to come, is out of its wait in
at most three steps of its own, with the event seen and untouched. -/
theorem no_wakeup_lost (wakes : driver.wakes = true) {es : List (WaitEvent R)} {u : State R}
    (path : (machine driver).Path (State.loaded R) es u) :
    (∀ r sleeper, u.tasks r = .inside sleeper → protocol.Asleep sleeper →
      u.dev.status = .keyNone ∨ u.notifying = true) ∧
    (∀ e ∈ es, e.act = .notify → ∀ r sleeper, e.target.tasks r = .inside sleeper →
      ¬ protocol.Asleep sleeper) ∧
    ∀ r sleeper, u.tasks r = .inside sleeper → u.dev.status ≠ .keyNone →
      (u.notifying = false ∨ ¬ protocol.Asleep sleeper) →
      ∃ es e v, (machine driver).Path u (es ++ [e]) v ∧ es.length < 3 ∧
        (∀ d ∈ es ++ [e], d.act = .advance r) ∧ v.dev = u.dev ∧ Sees r e sleeper := by
  obtain ⟨safe, along⟩ :=
    path.invariant (fun _ taken => safe_of_takes wakes taken) Protocol.NoLost.empty
  have covered : ∀ {s : State R}, Safe s → ∀ {r sleeper}, s.tasks r = .inside sleeper →
      protocol.Covered s.event s.notifying sleeper := by
    intro s safe r sleeper inside
    refine safe r sleeper ?_
    rw [State.queue, inside, Task.sleeper?]
  have due : ∀ r sleeper, u.tasks r = .inside sleeper → protocol.Asleep sleeper →
      u.dev.status = .keyNone ∨ u.notifying = true := by
    intro r sleeper inside asleep
    by_cases empty : u.dev.status = .keyNone
    · exact Or.inl empty
    · exact Or.inr ((covered safe inside).due asleep (State.event_eq_true_iff.2 empty))
  refine ⟨due, ?_, ?_⟩
  · intro e member notifies r sleeper inside
    obtain ⟨taken, before, -⟩ := along e member
    obtain ⟨sleeper₀, woken, waited⟩ := woken_of_takes taken notifies inside
    rw [woken]
    exact protocol.wake_asleep (covered before waited).queued
  · intro r sleeper inside event quiet
    have awake : ¬ protocol.Asleep sleeper := by
      rcases quiet with quiet | awake
      · intro asleep
        rcases due r sleeper inside asleep with empty | notifying
        · exact event empty
        · rw [quiet] at notifying
          cases notifying
      · exact awake
    obtain ⟨es, e, v, steps, short, acts, dev, sees⟩ :=
      leaves_wait awake (covered safe inside).active u r inside event
    exact ⟨es, e, v, steps, short.trans_le (rank_le sleeper), acts, dev, sees⟩

/-! ## The readers and the timer -/

/-- Where `Key.Readers` sees a process: `select` is no call of `kery_read`. -/
def Task.reader : Task → Reader
  | .idle | .inside (.inr _) => .idle
  | .inside (.inl _) => .waiting
  | .ready interrupted => .ready interrupted

def State.key (s : State R) : Key.State R :=
  { dev := s.dev, readers := fun r => (s.tasks r).reader, notifying := s.notifying }

/-- What `Key.Readers` sees of a step: of a wait, only its end. -/
def readersAct? (e : WaitEvent R) : Option (Key.Act R) :=
  match e.act with
  | .expire level => some (.expire level)
  | .notify => some .notify
  | .call r nonblock => some (.call r nonblock)
  | .advance r =>
      match e.target.tasks r with
      | .ready interrupted => some (if interrupted then .interrupt r else .wake r)
      | _ => none
  | .locked r uncopied => some (.locked r uncopied)
  | .select _ | .signal _ => none

def readersEvent? (e : WaitEvent R) : Option (KeyEvent R) :=
  match readersAct? e, e.out with
  | some act, .key out => some ⟨e.source.key, act, out, e.target.key⟩
  | _, _ => none

theorem key_setTask (s : State R) (r : R) (task : Task) :
    (s.setTask r task).key = s.key.setReader r task.reader := by
  have readers : (fun r' => (Function.update s.tasks r task r').reader) =
      Function.update s.key.readers r task.reader :=
    Function.comp_update Task.reader s.tasks r task
  simp only [State.key, State.setTask, Key.State.setReader, readers]

theorem key_setTask_same {s : State R} {r : R} {task : Task}
    (same : task.reader = (s.tasks r).reader) : (s.setTask r task).key = s.key := by
  have here : task.reader = s.key.readers r := same
  rw [key_setTask, Key.State.setReader, here, Function.update_eq_self]

omit [DecidableEq R] in
theorem reader_wake (task : Task) : task.wake.reader = task.reader := by
  rcases task with _ | (w | p) | interrupted <;> rfl

omit [DecidableEq R] in
theorem reader_signal (sleeper : Sleeper) :
    (Task.inside (protocol.signal sleeper)).reader = (Task.inside sleeper).reader := by
  rcases sleeper with w | p <;> rfl

/-- What a call of `kery_read` and `timer_function` show of themselves. -/
def visible? : Key.Out R → Option (Key.Out R)
  | .silent => none
  | out => some out

def Out.visible? : Out R → Option (Key.Out R)
  | .key out => Waiting.visible? out
  | .selected _ _ => none

/-- A step of a wait is the end of the wait of a read, or nothing that `Key.Readers` sees. -/
theorem readersEvent_of_settle {s : State R} {r : R} {sleeper sleeper' : Sleeper}
    (inside : s.tasks r = .inside sleeper)
    (next : protocol.next? (sleeper.finds s.dev) sleeper = some sleeper') :
    (readersEvent? (advanceEvent s r sleeper') = none ∧ (s.settle r sleeper').2.key = s.key ∧
        (s.settle r sleeper').1.visible? = none) ∨
      ∃ d, readersEvent? (advanceEvent s r sleeper') = some d ∧ (Key.machine driver).Takes d ∧
        d.source = s.key ∧ d.target = (s.settle r sleeper').2.key := by
  rw [finds_eq_event] at next
  cases sleeper with
  | inr p =>
      left
      obtain ⟨p', -, rfl⟩ := Option.map_eq_some_iff.1 next
      cases ended : protocol.finished? (Sum.inr p') with
      | none =>
          simp only [advanceEvent, State.settle, ended, readersEvent?, readersAct?, setTask_tasks_self]
          exact ⟨trivial, key_setTask_same (by rw [inside]; rfl), rfl⟩
      | some seen =>
          simp only [advanceEvent, State.settle, ended, readersEvent?, readersAct?, setTask_tasks_self]
          exact ⟨trivial, key_setTask_same (by rw [inside]; rfl), rfl⟩
  | inl w =>
      obtain ⟨w', waited, rfl⟩ := Option.map_eq_some_iff.1 next
      have waiting : s.key.readers r = .waiting := by
        simp only [State.key, inside, Task.reader]
      cases ended : protocol.finished? (Sum.inl w') with
      | none =>
          left
          simp only [advanceEvent, State.settle, ended, readersEvent?, readersAct?, setTask_tasks_self]
          exact ⟨trivial, key_setTask_same (by rw [inside]; rfl), rfl⟩
      | some seen =>
          right
          simp only [advanceEvent, State.settle, ended, readersEvent?, readersAct?, setTask_tasks_self]
          refine ⟨_, rfl, ?_, rfl, rfl⟩
          cases seen with
          | true =>
              have event : s.dev.status ≠ .keyNone :=
                State.event_eq_true_iff.1 (protocol.finished_saw next ended)
              show Key.step driver s.key (.wake r) = some (.silent, (s.setTask r (.ready false)).key)
              rw [key_setTask]
              exact if_pos ⟨waiting, event⟩
          | false =>
              show Key.step driver s.key (.interrupt r) =
                some (.silent, (s.setTask r (.ready true)).key)
              rw [key_setTask]
              exact if_pos waiting

/-- Each step is a step of `Key.Readers`, or none. -/
theorem readersEvent_of_takes {e : WaitEvent R} (taken : (machine driver).Takes e) :
    (readersEvent? e = none ∧ e.target.key = e.source.key ∧ e.out.visible? = none) ∨
      ∃ d, readersEvent? e = some d ∧ (Key.machine driver).Takes d ∧ d.source = e.source.key ∧
        d.target = e.target.key := by
  obtain ⟨s, act, out, t⟩ := e
  simp only [Machine.Takes, machine] at taken
  cases act with
  | expire level =>
      right
      simp only [step] at taken
      split at taken
      · cases taken
      · rename_i quiet
        cases taken
        refine ⟨_, rfl, ?_, rfl, rfl⟩
        exact if_neg quiet
  | notify =>
      right
      simp only [step] at taken
      split at taken
      · rename_i notifying
        cases taken
        refine ⟨_, rfl, ?_, rfl, rfl⟩
        simp only [Machine.Takes, Key.machine, Key.step, State.key, reader_wake]
        exact if_pos notifying
      · cases taken
  | call r nonblock =>
      right
      simp only [step] at taken
      split at taken
      · rename_i idle
        have reads : s.key.readers r = .idle := by
          simp only [State.key, idle, Task.reader]
        cases gate : keryReadGate driver nonblock s.dev.status with
        | enter | again | wait =>
            have gate' : keryReadGate driver nonblock s.key.dev.status = _ := gate
            rw [gate] at taken
            cases taken
            refine ⟨_, rfl, ?_, rfl, rfl⟩
            simp only [Machine.Takes, Key.machine, Key.step, reads, gate', key_setTask]
            rfl
      · cases taken
  | select r =>
      left
      simp only [step] at taken
      split at taken
      · rename_i idle
        split at taken <;> cases taken
        · exact ⟨rfl, key_setTask_same (by rw [idle]; rfl), rfl⟩
        · exact ⟨rfl, rfl, rfl⟩
      · cases taken
  | advance r =>
      simp only [step] at taken
      split at taken
      · rename_i sleeper inside
        obtain ⟨sleeper', next, settled⟩ := Option.map_eq_some_iff.1 taken
        have ends := @readersEvent_of_settle R _ driver s r sleeper sleeper' inside next
        simp only [advanceEvent, settled] at ends
        exact ends
      · cases taken
  | signal r =>
      left
      simp only [step] at taken
      split at taken
      · rename_i sleeper inside
        cases taken
        exact ⟨rfl, key_setTask_same (by rw [inside, reader_signal]), rfl⟩
      · cases taken
  | locked r uncopied =>
      right
      simp only [step] at taken
      split at taken
      · rename_i interrupted ready
        have reads : s.key.readers r = .ready interrupted := by
          simp only [State.key, ready, Task.reader]
        cases taken
        refine ⟨_, rfl, ?_, rfl, rfl⟩
        have idle : (s.setTask r .idle).key.readers = (s.key.setReader r .idle).readers :=
          congrArg Key.State.readers (key_setTask s r .idle)
        simp only [Machine.Takes, Key.machine, Key.step, reads]
        rw [← idle]
        rfl
      · cases taken

theorem readersPath {es : List (WaitEvent R)} {u : State R}
    (path : (machine driver).Path (State.loaded R) es u) :
    (Key.machine driver).Path (Key.State.loaded R) (es.filterMap readersEvent?) u.key := by
  refine path.project (π := State.key) fun e taken => ?_
  rcases readersEvent_of_takes taken with ⟨nothing, same, -⟩ | seen
  · exact Or.inl ⟨nothing, same⟩
  · exact Or.inr seen

theorem visible_of_takes {e : WaitEvent R} (taken : (machine driver).Takes e) :
    ((readersEvent? e).bind fun d => visible? d.out) = e.out.visible? := by
  rcases readersEvent_of_takes taken with ⟨nothing, -, silent⟩ | ⟨d, seen, -⟩
  · rw [nothing, silent, Option.bind_none]
  · rw [seen, Option.bind_some]
    unfold readersEvent? at seen
    split at seen
    · rename_i act out _ shown
      cases seen
      rw [shown, Out.visible?]
    · cases seen

/-- **The waits refine.**  A run with every step of the waits is a run of `Key.Readers` that
shows the same stored statuses, signals and returns in the same order. -/
theorem waits_refine {es : List (WaitEvent R)} {u : State R}
    (path : (machine driver).Path (State.loaded R) es u) :
    (Key.machine driver).Path (Key.State.loaded R) (es.filterMap readersEvent?) u.key ∧
      (es.filterMap readersEvent?).filterMap (fun d => visible? d.out) =
        es.filterMap fun e => e.out.visible? := by
  refine ⟨readersPath path, ?_⟩
  rw [List.filterMap_filterMap]
  exact List.filterMap_congr fun e member => visible_of_takes (path.takes e member)

end Runs

/-- A read finds no event, and the press comes between its test and its sleep. -/
def pressBeforeSleep : List (Act Unit) :=
  [.call () false, .advance (), .advance (), .advance (), .expire .low, .notify, .advance (),
    .advance (), .advance (), .locked () 0]

/-- The press wakes the one reader; it sleeps again, the release comes, and before the wake-up
the other calls `read`. -/
def secondReader : List (Act Bool) :=
  .call false false :: List.replicate 3 (.advance false) ++ [.expire .low, .notify] ++
    List.replicate 3 (.advance false) ++ [.locked false 0, .call false false] ++
    List.replicate 3 (.advance false) ++ [.expire .high, .call true false]

theorem no_wakeup_lost_secondReader :
    let es := (machine .blockio).trace (State.loaded Bool) secondReader
    let u := (machine .blockio).final (State.loaded Bool) secondReader
    ((∃ sleeper, u.tasks false = .inside sleeper ∧ protocol.Asleep sleeper ∧
        u.dev.status ≠ .keyNone) ∧
      (∃ e ∈ es, e.act = .notify ∧ ∃ sleeper, e.target.tasks false = .inside sleeper) ∧
      ∃ sleeper, u.tasks true = .inside sleeper ∧ ¬ protocol.Asleep sleeper) ∧
    (∀ r sleeper, u.tasks r = .inside sleeper → protocol.Asleep sleeper →
      u.dev.status = .keyNone ∨ u.notifying = true) ∧
    (∀ e ∈ es, e.act = .notify → ∀ r sleeper, e.target.tasks r = .inside sleeper →
      ¬ protocol.Asleep sleeper) ∧
    ∀ r sleeper, u.tasks r = .inside sleeper → u.dev.status ≠ .keyNone →
      (u.notifying = false ∨ ¬ protocol.Asleep sleeper) →
      ∃ es e v, (machine .blockio).Path u (es ++ [e]) v ∧ es.length < 3 ∧
        (∀ d ∈ es ++ [e], d.act = .advance r) ∧ v.dev = u.dev ∧ Sees r e sleeper := by
  refine ⟨⟨⟨_, rfl, ⟨rfl, rfl⟩, by decide⟩, ?_, ⟨_, rfl, Waiter.start_awake⟩⟩,
    no_wakeup_lost rfl (Machine.path_trace _ _ _)⟩
  exact ⟨((machine .blockio).trace (State.loaded Bool) secondReader)[5], List.getElem_mem _, rfl,
    _, rfl⟩

theorem waits_refine_pressBeforeSleep :
    let es := (machine .blockio).trace (State.loaded Unit) pressBeforeSleep
    let u := (machine .blockio).final (State.loaded Unit) pressBeforeSleep
    (Key.machine .blockio).Path (Key.State.loaded Unit) (es.filterMap readersEvent?) u.key ∧
      (es.filterMap readersEvent?).filterMap (fun d => visible? d.out) =
        es.filterMap fun e => e.out.visible? :=
  waits_refine (Machine.path_trace _ _ _)

end LearningKernel.Key.Waiting
