/-
# Key.Sections -- the spinlock sections of the key drivers, access by access

`Key.Readers` has `timer_function` and `kery_read` each as one step from their
`spin_lock_irqsave` to their `spin_unlock_irqrestore`.  Here they are taken apart: the status goes
to the user byte by byte, the sample, `status` and `last_value` are separate steps, and the tests
of `kery_read` and of `wait_event_interruptible`, which look at `status` without the lock,
come between them.

`moves_of_takes` is what one step can do; `Locked` is the invariant of the lock: who is in a
section holds it, and what a reader has copied is still in `status`.
-/
import LearningKernel.Reading.Lengths

namespace LearningKernel.Key.Sections

open LearningKernel.Theory LearningKernel.Kernel LearningKernel.Reading

set_option autoImplicit false

/-! ## The drivers -/

/-- The `int` in `status`. -/
def statusBytes (status : KeyStatus) : List UInt8 := toLE sizeofInt (code status).toNat

/-- Where a call of `kery_read` is. -/
inductive Task where
  | idle
  | waiting
  | ready (interrupted : Bool)
  /-- in `copy_to_user`, which has copied this -/
  | copying (interrupted : Bool) (uncopied : Nat) (data : List UInt8)
  /-- before its unlock -/
  | leaving (ret : Int) (data : List UInt8)

/-- Where `timer_function` is. -/
inductive TimerStage where
  | idle
  | locked
  | sampled (level : Level)
  /-- with `status` stored -/
  | stored (level : Level)
  /-- with `last_value` stored -/
  | kept
  | notifying

inductive Holder (R : Type) where
  | timer
  | reader (r : R)

structure State (R : Type) where
  dev : KeyDev
  spinlock : Option (Holder R)
  tasks : R → Task
  timer : TimerStage

def State.loaded (R : Type) : State R :=
  { dev := .loaded, spinlock := none, tasks := fun _ => .idle, timer := .idle }

inductive Act (R : Type) where
  /-- the next step of `timer_function`, with what the line is at -/
  | timer (level : Level)
  /-- `kery_read` up to its test -/
  | call (r : R) (nonblock : Bool)
  | wake (r : R)
  | interrupt (r : R)
  /-- `spin_lock_irqsave` of `kery_read` -/
  | lock (r : R) (uncopied : Nat)
  /-- its next step up to the unlock -/
  | advance (r : R)
  /-- the unlock, and its return -/
  | unlock (r : R)

inductive Out (R : Type) where
  | silent
  | stored (status : KeyStatus)
  | notified (sigio : Bool)
  | returned (r : R) (ret : Int) (data : List UInt8)

section Machine

variable {R : Type} [DecidableEq R] (driver : Driver)

def State.setTask (s : State R) (r : R) (task : Task) : State R :=
  { s with tasks := Function.update s.tasks r task }

/-- `timer_function`, and what comes after its unlock. -/
def timerStep (s : State R) (level : Level) : Option (Out R × State R) :=
  match s.timer with
  | .idle =>
      match s.spinlock with
      | none => some (.silent, { s with spinlock := some .timer, timer := .locked })
      | some _ => none
  | .locked => some (.silent, { s with timer := .sampled level })
  | .sampled curValue =>
      let status := (timerFunction s.dev curValue.value).status
      some (.stored status, { s with dev := { s.dev with status := status }, timer := .stored curValue })
  | .stored curValue =>
      some (.silent, { s with dev := { s.dev with lastValue := curValue.value }, timer := .kept })
  | .kept =>
      some (.silent,
        { s with spinlock := none, timer := if driver.wakes then .notifying else .idle })
  | .notifying => some (.notified driver.signals, { s with timer := .idle })

/-- What `kery_read` does with the lock. -/
def readStep (s : State R) (r : R) (interrupted : Bool) (uncopied : Nat) (data : List UInt8) :
    State R :=
  if data.length < sizeofInt - uncopied then
    let byte := (statusBytes s.dev.status)[data.length]?.getD 0
    s.setTask r (.copying interrupted uncopied (data ++ [byte]))
  else if min uncopied sizeofInt ≠ 0 then s.setTask r (.leaving (-efault) data)
  else { s.setTask r (.leaving sizeofInt data) with dev := { s.dev with status := .keyNone } }

def step (s : State R) : Act R → Option (Out R × State R)
  | .timer level => timerStep driver s level
  | .call r nonblock =>
      match s.tasks r with
      | .idle =>
          match keryReadGate driver nonblock s.dev.status with
          | .enter => some (.silent, s.setTask r (.ready false))
          | .again => some (.returned r (-eagain) [], s)
          | .wait => some (.silent, s.setTask r .waiting)
      | _ => none
  | .wake r =>
      match s.tasks r with
      | .waiting =>
          if s.dev.status ≠ .keyNone then some (.silent, s.setTask r (.ready false)) else none
      | _ => none
  | .interrupt r =>
      match s.tasks r with
      | .waiting => some (.silent, s.setTask r (.ready true))
      | _ => none
  | .lock r uncopied =>
      match s.tasks r, s.spinlock with
      | .ready interrupted, none =>
          some (.silent,
            { s.setTask r (.copying interrupted uncopied []) with spinlock := some (.reader r) })
      | _, _ => none
  | .advance r =>
      match s.tasks r with
      | .copying interrupted uncopied data =>
          some (.silent, readStep s r interrupted uncopied data)
      | _ => none
  | .unlock r =>
      match s.tasks r with
      | .leaving ret data =>
          some (.returned r ret data, { s.setTask r .idle with spinlock := none })
      | _ => none

def machine : Machine (State R) (Act R) (Out R) := ⟨step driver⟩

end Machine

abbrev SectionEvent (R : Type) := Event (State R) (Act R) (Out R)

/-! ## The cases of a step -/

section Steps

variable {R : Type} [DecidableEq R] {driver : Driver}

@[simp] theorem setTask_self (s : State R) (r : R) (task : Task) :
    (s.setTask r task).tasks r = task := Function.update_self _ _ _

theorem setTask_of_ne (s : State R) {r r' : R} (other : r' ≠ r) (task : Task) :
    (s.setTask r task).tasks r' = s.tasks r' := Function.update_of_ne other _ _

/-- **The specification of a step.** -/
inductive Moves (driver : Driver) (e : SectionEvent R) : Prop where
  | timerLocks (level : Level) (act : e.act = .timer level) (before : e.source.timer = .idle)
      (free : e.source.spinlock = none) (out : e.out = .silent)
      (target : e.target = { e.source with spinlock := some .timer, timer := .locked })
  | samples (level : Level) (act : e.act = .timer level) (before : e.source.timer = .locked)
      (out : e.out = .silent) (target : e.target = { e.source with timer := .sampled level })
  | stores (level curValue : Level) (act : e.act = .timer level)
      (before : e.source.timer = .sampled curValue)
      (out : e.out = .stored (timerFunction e.source.dev curValue.value).status)
      (target : e.target =
        { e.source with
          dev := { e.source.dev with
            status := (timerFunction e.source.dev curValue.value).status }
          timer := .stored curValue })
  | keeps (level curValue : Level) (act : e.act = .timer level)
      (before : e.source.timer = .stored curValue) (out : e.out = .silent)
      (target : e.target =
        { e.source with
          dev := { e.source.dev with lastValue := curValue.value }
          timer := .kept })
  | timerUnlocks (level : Level) (act : e.act = .timer level) (before : e.source.timer = .kept)
      (out : e.out = .silent)
      (target : e.target =
        { e.source with
          spinlock := none
          timer := if driver.wakes then .notifying else .idle })
  | notifies (level : Level) (act : e.act = .timer level) (before : e.source.timer = .notifying)
      (out : e.out = .notified driver.signals) (target : e.target = { e.source with timer := .idle })
  | enters (r : R) (nonblock : Bool) (task : Task) (act : e.act = .call r nonblock)
      (before : e.source.tasks r = .idle)
      (gate : keryReadGate driver nonblock e.source.dev.status = .enter ∧ task = .ready false ∨
        keryReadGate driver nonblock e.source.dev.status = .wait ∧ task = .waiting)
      (out : e.out = .silent) (target : e.target = e.source.setTask r task)
  | again (r : R) (nonblock : Bool) (act : e.act = .call r nonblock)
      (before : e.source.tasks r = .idle)
      (gate : keryReadGate driver nonblock e.source.dev.status = .again)
      (out : e.out = .returned r (-eagain) []) (target : e.target = e.source)
  | wakes (r : R) (act : e.act = .wake r) (before : e.source.tasks r = .waiting)
      (event : e.source.dev.status ≠ .keyNone) (out : e.out = .silent)
      (target : e.target = e.source.setTask r (.ready false))
  | interrupts (r : R) (act : e.act = .interrupt r) (before : e.source.tasks r = .waiting)
      (out : e.out = .silent) (target : e.target = e.source.setTask r (.ready true))
  | locks (r : R) (interrupted : Bool) (uncopied : Nat) (act : e.act = .lock r uncopied)
      (before : e.source.tasks r = .ready interrupted) (free : e.source.spinlock = none)
      (out : e.out = .silent)
      (target : e.target =
        { e.source.setTask r (.copying interrupted uncopied []) with
          spinlock := some (.reader r) })
  | copies (r : R) (interrupted : Bool) (uncopied : Nat) (data : List UInt8)
      (act : e.act = .advance r) (before : e.source.tasks r = .copying interrupted uncopied data)
      (more : data.length < sizeofInt - uncopied) (out : e.out = .silent)
      (target : e.target = e.source.setTask r (.copying interrupted uncopied
        (data ++ [(statusBytes e.source.dev.status)[data.length]?.getD 0])))
  | faults (r : R) (interrupted : Bool) (uncopied : Nat) (data : List UInt8)
      (act : e.act = .advance r) (before : e.source.tasks r = .copying interrupted uncopied data)
      (fails : min uncopied sizeofInt ≠ 0) (out : e.out = .silent)
      (target : e.target = e.source.setTask r (.leaving (-efault) data))
  | clears (r : R) (interrupted : Bool) (data : List UInt8) (act : e.act = .advance r)
      (before : e.source.tasks r = .copying interrupted 0 data) (whole : sizeofInt ≤ data.length)
      (out : e.out = .silent)
      (target : e.target =
        { e.source.setTask r (.leaving sizeofInt data) with
          dev := { e.source.dev with status := .keyNone } })
  | unlocks (r : R) (ret : Int) (data : List UInt8) (act : e.act = .unlock r)
      (before : e.source.tasks r = .leaving ret data) (out : e.out = .returned r ret data)
      (target : e.target = { e.source.setTask r .idle with spinlock := none })

theorem moves_of_timerStep {s t : State R} {level : Level} {out : Out R}
    (taken : timerStep driver s level = some (out, t)) :
    Moves driver ⟨s, .timer level, out, t⟩ := by
  unfold timerStep at taken
  split at taken
  · rename_i before
    split at taken
    · rename_i free
      cases taken
      exact .timerLocks level rfl before free rfl rfl
    · cases taken
  · rename_i before
    cases taken
    exact .samples level rfl before rfl rfl
  · rename_i curValue before
    cases taken
    exact .stores level curValue rfl before rfl rfl
  · rename_i curValue before
    cases taken
    exact .keeps level curValue rfl before rfl rfl
  · rename_i before
    cases taken
    exact .timerUnlocks level rfl before rfl rfl
  · rename_i before
    cases taken
    exact .notifies level rfl before rfl rfl

theorem moves_of_readStep {s : State R} {r : R} {interrupted : Bool} {uncopied : Nat}
    {data : List UInt8} (before : s.tasks r = .copying interrupted uncopied data) :
    Moves driver ⟨s, .advance r, .silent, readStep s r interrupted uncopied data⟩ := by
  by_cases more : data.length < sizeofInt - uncopied
  · exact .copies r interrupted uncopied data rfl before more rfl (if_pos more)
  · by_cases fails : min uncopied sizeofInt ≠ 0
    · refine .faults r interrupted uncopied data rfl before fails rfl ?_
      show readStep s r interrupted uncopied data = _
      rw [readStep, if_neg more, if_pos fails]
    · obtain rfl : uncopied = 0 := by
        simp only [sizeofInt] at fails
        omega
      refine .clears r interrupted data rfl before (by omega) rfl ?_
      show readStep s r interrupted 0 data = _
      rw [readStep, if_neg more, if_neg fails]

theorem moves_of_takes {e : SectionEvent R} (taken : (machine driver).Takes e) :
    Moves driver e := by
  obtain ⟨s, act, out, t⟩ := e
  simp only [Machine.Takes, machine] at taken
  cases act with
  | timer level => exact moves_of_timerStep taken
  | call r nonblock =>
      simp only [step] at taken
      split at taken
      · rename_i before
        split at taken <;> rename_i gate <;> cases taken
        · exact .enters r nonblock _ rfl before (Or.inl ⟨gate, rfl⟩) rfl rfl
        · exact .again r nonblock rfl before gate rfl rfl
        · exact .enters r nonblock _ rfl before (Or.inr ⟨gate, rfl⟩) rfl rfl
      · cases taken
  | wake r =>
      simp only [step] at taken
      split at taken
      · rename_i before
        split at taken
        · rename_i event
          cases taken
          exact .wakes r rfl before event rfl rfl
        · cases taken
      · cases taken
  | interrupt r =>
      simp only [step] at taken
      split at taken
      · rename_i before
        cases taken
        exact .interrupts r rfl before rfl rfl
      · cases taken
  | lock r uncopied =>
      simp only [step] at taken
      split at taken
      · rename_i interrupted before free
        cases taken
        exact .locks r interrupted uncopied rfl before free rfl rfl
      · cases taken
  | advance r =>
      simp only [step] at taken
      split at taken
      · rename_i interrupted uncopied data before
        cases taken
        exact moves_of_readStep before
      · cases taken
  | unlock r =>
      simp only [step] at taken
      split at taken
      · rename_i ret data before
        cases taken
        exact .unlocks r ret data rfl before rfl rfl
      · cases taken

/-! ## The lock -/

def Task.holds : Task → Bool
  | copying _ _ _ | leaving _ _ => true
  | _ => false

def TimerStage.holds : TimerStage → Bool
  | locked | sampled _ | stored _ | kept => true
  | _ => false

/-- Who is in a section holds the lock, and what a reader has copied is still in `status`. -/
structure Locked (s : State R) : Prop where
  readers : ∀ r, (s.tasks r).holds = true → s.spinlock = some (.reader r)
  timer : s.timer.holds = true → s.spinlock = some .timer
  copied : ∀ r interrupted uncopied data, s.tasks r = .copying interrupted uncopied data →
    data.length ≤ sizeofInt - uncopied ∧ data = (statusBytes s.dev.status).take data.length

omit [DecidableEq R] in
theorem locked_loaded : Locked (State.loaded R) where
  readers r holds := by cases holds
  timer holds := by cases holds
  copied r interrupted uncopied data copying := by cases copying

omit [DecidableEq R] in
theorem Locked.nobody {s : State R} (locked : Locked s) (free : s.spinlock = none) :
    (∀ r, (s.tasks r).holds = false) ∧ s.timer.holds = false := by
  constructor
  · intro r
    by_contra holds
    have mine := locked.readers r (Bool.not_eq_false _ ▸ holds)
    rw [free] at mine
    cases mine
  · by_contra holds
    have mine := locked.timer (Bool.not_eq_false _ ▸ holds)
    rw [free] at mine
    cases mine

omit [DecidableEq R] in
/-- Beside `timer_function` no reader is in a section. -/
theorem Locked.alone_timer {s : State R} (locked : Locked s) (holds : s.timer.holds = true) (r : R) :
    (s.tasks r).holds = false := by
  by_contra theirs
  have mine := locked.timer holds
  rw [locked.readers r (Bool.not_eq_false _ ▸ theirs)] at mine
  cases mine

omit [DecidableEq R] in
/-- Beside a reader no other is in a section, and neither is `timer_function`. -/
theorem Locked.alone_reader {s : State R} (locked : Locked s) {r : R}
    (holds : (s.tasks r).holds = true) :
    (∀ r', r' ≠ r → (s.tasks r').holds = false) ∧ s.timer.holds = false := by
  have mine := locked.readers r holds
  constructor
  · intro r' other
    by_contra theirs
    rw [locked.readers r' (Bool.not_eq_false _ ▸ theirs)] at mine
    cases mine
    exact other rfl
  · by_contra theirs
    rw [locked.timer (Bool.not_eq_false _ ▸ theirs)] at mine
    cases mine

omit [DecidableEq R] in
theorem not_copying {s : State R} {r : R} (outside : (s.tasks r).holds = false) :
    ∀ interrupted uncopied data, s.tasks r ≠ .copying interrupted uncopied data := by
  intro interrupted uncopied data copying
  rw [copying] at outside
  cases outside

/-- A reader that is outside before and after. -/
theorem Locked.outside {s : State R} (locked : Locked s) {r : R} {task : Task}
    (before : (s.tasks r).holds = false) (after : task.holds = false) :
    Locked (s.setTask r task) := by
  refine ⟨?_, locked.timer, ?_⟩
  · intro r' holds
    by_cases same : r' = r
    · subst same
      rw [setTask_self, after] at holds
      cases holds
    · rw [setTask_of_ne s same] at holds
      exact locked.readers r' holds
  · intro r' interrupted uncopied data copying
    by_cases same : r' = r
    · subst same
      rw [setTask_self] at copying
      rw [copying] at after
      cases after
    · rw [setTask_of_ne s same] at copying
      exact locked.copied r' interrupted uncopied data copying

/-- A reader that goes on in its section. -/
theorem Locked.inside {s : State R} (locked : Locked s) {r : R} {task : Task} (dev : KeyDev)
    (before : (s.tasks r).holds = true)
    (copied : ∀ interrupted uncopied data, task = .copying interrupted uncopied data →
      data.length ≤ sizeofInt - uncopied ∧ data = (statusBytes dev.status).take data.length) :
    Locked { s.setTask r task with dev := dev } := by
  have mine := locked.readers r before
  obtain ⟨others, timer⟩ := locked.alone_reader before
  refine ⟨?_, ?_, ?_⟩
  · intro r' holds
    by_cases same : r' = r
    · rw [same]
      exact mine
    · have theirs : (s.tasks r').holds = true := by
        rw [← setTask_of_ne s same task]
        exact holds
      rw [others r' same] at theirs
      cases theirs
  · intro holds
    cases timer.symm.trans holds
  · intro r' interrupted uncopied data copying
    by_cases same : r' = r
    · subst same
      exact copied interrupted uncopied data ((setTask_self s _ task).symm.trans copying)
    · exact absurd ((setTask_of_ne s same task).symm.trans copying)
        (not_copying (others r' same) _ _ _)

omit [DecidableEq R] in
/-- A step of `timer_function` in its section, or out of it. -/
theorem Locked.tick {s : State R} (locked : Locked s) {dev : KeyDev} {timer : TimerStage}
    (status : s.timer.holds = true ∨ dev.status = s.dev.status)
    (after : timer.holds = true → s.timer.holds = true) :
    Locked { s with dev := dev, timer := timer } := by
  refine ⟨locked.readers, fun holds => locked.timer (after holds), ?_⟩
  intro r interrupted uncopied data copying
  rcases status with holds | same
  · exact absurd copying (not_copying (locked.alone_timer holds r) _ _ _)
  · show _ ∧ data = (statusBytes dev.status).take data.length
    rw [same]
    exact locked.copied r interrupted uncopied data copying

theorem length_statusBytes (status : KeyStatus) : (statusBytes status).length = sizeofInt :=
  length_toLE _ _

theorem Locked.step {e : SectionEvent R} (moves : Moves driver e) (locked : Locked e.source) :
    Locked e.target := by
  cases moves with
  | timerLocks level act before free out target =>
      obtain ⟨readers, -⟩ := locked.nobody free
      rw [target]
      refine ⟨?_, fun _ => rfl, locked.copied⟩
      intro r holds
      rw [readers r] at holds
      cases holds
  | samples level act before out target =>
      rw [target]
      exact locked.tick (Or.inr rfl) (fun _ => by rw [before]; rfl)
  | stores level curValue act before out target =>
      rw [target]
      exact locked.tick (Or.inl (by rw [before]; rfl)) (fun _ => by rw [before]; rfl)
  | keeps level curValue act before out target =>
      rw [target]
      exact locked.tick (Or.inr rfl) (fun _ => by rw [before]; rfl)
  | timerUnlocks level act before out target =>
      have alone := locked.alone_timer (by rw [before]; rfl)
      rw [target]
      refine ⟨?_, ?_, locked.copied⟩
      · intro r holds
        rw [alone r] at holds
        cases holds
      · intro holds
        cases wakes : driver.wakes <;> simp [wakes, TimerStage.holds] at holds
  | notifies level act before out target =>
      rw [target]
      refine locked.tick (Or.inr rfl) ?_
      intro holds
      cases holds
  | enters r nonblock task act before gate out target =>
      rw [target]
      refine locked.outside (by rw [before]; rfl) ?_
      rcases gate with ⟨-, rfl⟩ | ⟨-, rfl⟩ <;> rfl
  | again r nonblock act before gate out target =>
      rw [target]
      exact locked
  | wakes r act before event out target =>
      rw [target]
      exact locked.outside (by rw [before]; rfl) rfl
  | interrupts r act before out target =>
      rw [target]
      exact locked.outside (by rw [before]; rfl) rfl
  | locks r interrupted uncopied act before free out target =>
      obtain ⟨readers, timer⟩ := locked.nobody free
      rw [target]
      refine ⟨?_, ?_, ?_⟩
      · intro r' holds
        by_cases same : r' = r
        · rw [same]
        · have theirs : (e.source.tasks r').holds = true := by
            rw [← setTask_of_ne e.source same]
            exact holds
          rw [readers r'] at theirs
          cases theirs
      · intro holds
        cases timer.symm.trans holds
      · intro r' interrupted' uncopied' data copying
        by_cases same : r' = r
        · subst same
          cases (setTask_self e.source _ _).symm.trans copying
          exact ⟨Nat.zero_le _, rfl⟩
        · exact absurd ((setTask_of_ne e.source same _).symm.trans copying)
            (not_copying (readers r') _ _ _)
  | copies r interrupted uncopied data act before more out target =>
      obtain ⟨-, same⟩ := locked.copied r interrupted uncopied data before
      rw [target]
      refine locked.inside e.source.dev (by rw [before]; rfl) ?_
      rintro interrupted' uncopied' data' ⟨⟩
      have inside : data.length < (statusBytes e.source.dev.status).length := by
        rw [length_statusBytes]
        omega
      rw [List.length_append, List.length_singleton]
      refine ⟨more, ?_⟩
      rw [List.take_succ_eq_append_getElem inside, ← same, List.getElem?_eq_getElem inside,
        Option.getD_some]
  | faults r interrupted uncopied data act before fails out target =>
      rw [target]
      refine locked.inside e.source.dev (by rw [before]; rfl) ?_
      rintro interrupted' uncopied' data' ⟨⟩
  | clears r interrupted data act before whole out target =>
      rw [target]
      refine locked.inside _ (by rw [before]; rfl) ?_
      rintro interrupted' uncopied' data' ⟨⟩
  | unlocks r ret data act before out target =>
      obtain ⟨others, timer⟩ := locked.alone_reader (r := r) (by rw [before]; rfl)
      have all : ∀ r', ((e.source.setTask r .idle).tasks r').holds = false := by
        intro r'
        by_cases same : r' = r
        · rw [same, setTask_self]
          rfl
        · rw [setTask_of_ne e.source same]
          exact others r' same
      rw [target]
      refine ⟨?_, ?_, ?_⟩
      · intro r' holds
        rw [all r'] at holds
        cases holds
      · intro holds
        cases timer.symm.trans holds
      · intro r' interrupted uncopied data' copying
        exact absurd copying (not_copying (all r') _ _ _)

end Steps

end LearningKernel.Key.Sections
