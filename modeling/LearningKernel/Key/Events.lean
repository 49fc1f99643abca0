/-
# Key.Events -- what becomes of the events `timer_function` stores

Two laws over whole runs, with any readers, any samples, any signals and any
outcome of the user copies:

* `no_event_lost_iff`: a stored event stays in the cell until it is read or
  replaced, exactly when no expiry samples the last value again over it;
* `events_returned_once`: what the readers get is a subsequence of what was
  stored, each event for one reader, and a faulting read takes none.

`Flow` reads the events off one step; `pending_origin` is the invariant behind
both: a pending event was stored, and nothing has been
stored or returned since.
-/
import LearningKernel.Key.Readers

namespace LearningKernel.Key

open LearningKernel.Theory LearningKernel.Kernel

set_option autoImplicit false

/-- The press or release a status is, if it is one. -/
def KeyStatus.event? : KeyStatus → Option KeyStatus
  | .keyNone => none
  | status => some status

theorem KeyStatus.event?_eq_some_iff {status v : KeyStatus} :
    status.event? = some v ↔ status = v ∧ v ≠ .keyNone := by
  cases status <;> cases v <;> simp [event?]

@[simp] theorem KeyStatus.event?_keyNone : keyNone.event? = none := rfl

@[simp] theorem KeyStatus.event?_eq_none_iff {status : KeyStatus} :
    status.event? = none ↔ status = .keyNone := by
  cases status <;> simp [event?]

variable {R : Type}

/-- The press or release that `timer_function` stores by this step. -/
def storedEvent? (e : KeyEvent R) : Option KeyStatus :=
  match e.out with
  | .stored status => status.event?
  | _ => none

/-- The press or release that a successful `kery_read` returns by this step. -/
def returnedEvent? (e : KeyEvent R) : Option KeyStatus :=
  match e.out with
  | .returned _ ret (some status) => if ret = sizeofInt then status.event? else none
  | _ => none

/-- How events move in one step. -/
inductive Flow (e : KeyEvent R) : Prop where
  | produced (level : Level) (act : e.act = .expire level)
      (dev : e.target.dev = timerFunction e.source.dev level.value)
      (stored : storedEvent? e = e.target.dev.status.event?)
      (returned : returnedEvent? e = none)
  | consumed (stored : storedEvent? e = none)
      (returned : returnedEvent? e = e.source.dev.status.event?)
      (dev : e.target.dev.status = .keyNone)
  | kept (stored : storedEvent? e = none) (returned : returnedEvent? e = none)
      (dev : e.target.dev = e.source.dev)

theorem Effect.flow {e : KeyEvent R} (effect : Effect e) : Flow e := by
  cases effect with
  | expired level act out dev =>
      refine .produced level act dev ?_ ?_
      · simp [storedEvent?, out, dev]
      · simp [returnedEvent?, out]
  | delivered r interrupted act ready out dev =>
      refine .consumed ?_ ?_ ?_
      · simp [storedEvent?, out]
      · simp [returnedEvent?, out]
      · rw [dev]
  | faulted r uncopied act fails out dev | again r act empty out dev =>
      refine .kept ?_ ?_ dev
      · simp [storedEvent?, out]
      · simp [returnedEvent?, out]
  | silent act out dev =>
      refine .kept ?_ ?_ dev
      · rcases out with out | ⟨sigio, out⟩ <;> simp [storedEvent?, out]
      · rcases out with out | ⟨sigio, out⟩ <;> simp [returnedEvent?, out]

/-- The cell's event was stored by one of the events, and nothing has been stored
or returned since. -/
def PendingOrigin (es : List (KeyEvent R)) (status : KeyStatus) : Prop :=
  ∀ v, status.event? = some v →
    ∃ front e mid, es = front ++ e :: mid ∧ storedEvent? e = some v ∧
      ∀ d ∈ mid, storedEvent? d = none ∧ returnedEvent? d = none

theorem Flow.pendingOrigin {e : KeyEvent R} (flow : Flow e) {es : List (KeyEvent R)}
    (before : PendingOrigin es e.source.dev.status) :
    PendingOrigin (es ++ [e]) e.target.dev.status := by
  intro v pending
  cases flow with
  | produced level act dev stored returned =>
      exact ⟨es, e, [], rfl, stored.trans pending, by simp⟩
  | consumed stored returned dev =>
      rw [dev] at pending
      cases pending
  | kept stored returned dev =>
      rw [dev] at pending
      obtain ⟨front, origin, mid, rfl, produced, quiet⟩ := before v pending
      refine ⟨front, origin, mid ++ [e], by simp, produced, ?_⟩
      intro d member
      rcases List.mem_append.1 member with earlier | last
      · exact quiet d earlier
      · obtain rfl := List.mem_singleton.1 last
        exact ⟨stored, returned⟩

/-- What the readers got, then what is pending, is within what was stored. -/
def DeliveredInOrder (es : List (KeyEvent R)) (status : KeyStatus) : Prop :=
  (es.filterMap returnedEvent? ++ status.event?.toList).Sublist (es.filterMap storedEvent?)

theorem Flow.deliveredInOrder {e : KeyEvent R} (flow : Flow e) {es : List (KeyEvent R)}
    (before : DeliveredInOrder es e.source.dev.status) :
    DeliveredInOrder (es ++ [e]) e.target.dev.status := by
  have within : (es.filterMap returnedEvent? ++ e.source.dev.status.event?.toList).Sublist
      (es.filterMap storedEvent?) := before
  show (List.filterMap returnedEvent? (es ++ [e]) ++ _).Sublist
    (List.filterMap storedEvent? (es ++ [e]))
  simp only [List.filterMap_append, List.filterMap_cons, List.filterMap_nil]
  cases flow with
  | produced level act dev stored returned =>
      have got : (es.filterMap returnedEvent?).Sublist (es.filterMap storedEvent?) :=
        (List.sublist_append_left _ _).trans within
      rw [returned, stored]
      cases e.target.dev.status.event? with
      | none => simpa using got
      | some v => simpa using got.append_right [v]
  | consumed stored returned dev =>
      rw [returned, stored, dev]
      cases held : e.source.dev.status.event? with
      | none => simpa [held] using within
      | some v => simpa [held] using within
  | kept stored returned dev =>
      rw [returned, stored, dev]
      simpa using within

section Runs

variable [DecidableEq R] {driver : Driver} {es : List (KeyEvent R)} {u : State R}

theorem pending_origin (path : (machine driver).Path (State.loaded R) es u) :
    PendingOrigin es u.dev.status := by
  refine path.history (C := fun _ => True) (J := fun es s => PendingOrigin es s.dev.status)
    ?_ ?_ (fun _ _ => trivial)
  · intro v pending
    cases pending
  · intro es e _ taken _ before
    exact (effect_of_takes taken).flow.pendingOrigin before

/-! ## No event is discarded -/

/-- The event `v` is read successfully, or replaced by a stored event. -/
def Discharges (v : KeyStatus) (e : KeyEvent R) : Prop :=
  returnedEvent? e = some v ∨ ∃ w, storedEvent? e = some w

/-- Each stored event stays in the cell until it is read or replaced. -/
def NoEventLost (es : List (KeyEvent R)) : Prop :=
  ∀ before e after v, es = before ++ e :: after → storedEvent? e = some v →
    StaysUntil (fun s => s.dev.status = v) (Discharges v) after

/-- An expiry that samples the last value again finds no event in the cell. -/
def SettlesOnEmpty (e : KeyEvent R) : Prop :=
  ∀ level : Level, e.act = .expire level → level.value = e.source.dev.lastValue →
    e.source.dev.status = .keyNone

/-- An expiry that samples the last value again empties the cell and stores nothing. -/
theorem settles_event {e : KeyEvent R} (taken : (machine driver).Takes e) {level : Level}
    (act : e.act = .expire level) (same : level.value = e.source.dev.lastValue) :
    storedEvent? e = none ∧ returnedEvent? e = none ∧ e.target.dev.status = .keyNone := by
  obtain ⟨out, dev⟩ := expire_event taken act
  have emptied := (timerFunction_status_eq_keyNone_iff e.source.dev level).2 same
  refine ⟨?_, ?_, ?_⟩
  · simp [storedEvent?, out, emptied]
  · simp [returnedEvent?, out]
  · rw [dev, emptied]

theorem stored_event {e : KeyEvent R} (taken : (machine driver).Takes e) {v : KeyStatus}
    (stores : storedEvent? e = some v) : e.target.dev.status = v ∧ v ≠ .keyNone := by
  cases (effect_of_takes taken).flow with
  | produced level act dev stored returned =>
      exact KeyStatus.event?_eq_some_iff.1 (stored.symm.trans stores)
  | consumed stored | kept stored =>
      rw [stored] at stores
      cases stores

instance (e : KeyEvent R) : Decidable (SettlesOnEmpty e) :=
  inferInstanceAs (Decidable (∀ level : Level, e.act = .expire level →
    level.value = e.source.dev.lastValue → e.source.dev.status = .keyNone))

theorem discharges_or_stays {e : KeyEvent R} (taken : (machine driver).Takes e)
    (settles : SettlesOnEmpty e) {v : KeyStatus} (event : v ≠ .keyNone)
    (pending : e.source.dev.status = v) : Discharges v e ∨ e.target.dev.status = v := by
  cases (effect_of_takes taken).flow with
  | produced level act dev stored returned =>
      left
      right
      cases left : e.target.dev.status.event? with
      | some w => exact ⟨w, stored.trans left⟩
      | none =>
          rw [KeyStatus.event?_eq_none_iff, dev, timerFunction_status_eq_keyNone_iff] at left
          exact absurd (settles level act left) (pending ▸ event)
  | consumed stored returned dev =>
      left
      left
      rw [returned, pending]
      exact KeyStatus.event?_eq_some_iff.2 ⟨rfl, event⟩
  | kept stored returned dev =>
      right
      rw [dev, pending]

/-- **No event is discarded unread, exactly when no sample settles over one.** -/
theorem no_event_lost_iff (path : (machine driver).Path (State.loaded R) es u) :
    NoEventLost es ↔ ∀ e ∈ es, SettlesOnEmpty e := by
  constructor
  · intro kept e member level act same
    obtain ⟨before, after, rfl⟩ := List.append_of_mem member
    obtain ⟨front, taken, -⟩ := path.split
    obtain ⟨notStored, notReturned, emptied⟩ := settles_event taken act same
    by_contra pending
    -- the event in the cell was stored once, and this expiry drops it
    obtain ⟨first, origin, mid, rfl, produced, quiet⟩ :=
      pending_origin front _ (KeyStatus.event?_eq_some_iff.2 ⟨rfl, pending⟩)
    have stays := kept first origin (mid ++ e :: after) _ (by simp) produced
    have silent : ∀ d ∈ mid, ¬ Discharges e.source.dev.status d := by
      intro d member discharged
      simp [Discharges, quiet d member] at discharged
    rcases stays.at_event silent with discharged | still
    · simp [Discharges, notStored, notReturned] at discharged
    · exact pending (still.symm.trans emptied)
  · rintro settles before e after v rfl stored
    obtain ⟨-, taken, rest⟩ := path.split
    obtain ⟨pending, event⟩ := stored_event taken stored
    refine rest.staysUntil (C := SettlesOnEmpty) ?_ (fun d member => settles d (by simp [member]))
      pending
    intro d step settled held
    exact discharges_or_stays step settled event held

end Runs

/-- A press, read, and a sample that finds the key still down. -/
def pressReadSettle : List (Act Unit) :=
  [.expire .low, .notify, .call () true, .locked () 0, .expire .low]

theorem no_event_lost_pressReadSettle :
    NoEventLost ((machine .fasync).trace (State.loaded Unit) pressReadSettle) :=
  (no_event_lost_iff (Machine.path_trace _ _ _)).2 (by decide)

/-- The key bounces and is sampled down again before the press is read. -/
def pressSettle : List (Act Unit) := [.expire .low, .notify, .expire .low]

/-- The second sample replaces the unread press by `KEY_NONE`. -/
theorem unread_press_lost :
    ∃ (es : List (KeyEvent Unit)) (press settle : KeyEvent Unit) (u : State Unit),
      (machine .fasync).Path (State.loaded Unit) es u ∧ press ∈ es ∧ settle ∈ es ∧
        press.out = .stored .keyPress ∧ settle.source.dev.status = .keyPress ∧
        settle.out = .stored .keyNone ∧ ¬ NoEventLost es := by
  let es := (machine .fasync).trace (State.loaded Unit) pressSettle
  have path := Machine.path_trace (machine .fasync) (State.loaded Unit) pressSettle
  refine ⟨es, es[0], es[2], _, path, List.getElem_mem _, List.getElem_mem _, rfl, rfl, rfl, ?_⟩
  intro kept
  have stays := kept [] es[0] [es[1], es[2]] .keyPress rfl rfl
  rcases stays with (read | ⟨w, replaced⟩) | ⟨-, (read | ⟨w, replaced⟩) | ⟨still, -⟩⟩
  · cases read
  · cases replaced
  · cases read
  · cases replaced
  · cases still

section Runs

variable [DecidableEq R] {driver : Driver} {es : List (KeyEvent R)} {u : State R}

/-! ## Each event is returned once, in order -/

theorem returned_append_pending_sublist (path : (machine driver).Path (State.loaded R) es u) :
    DeliveredInOrder es u.dev.status := by
  refine path.history (C := fun _ => True) (J := fun es s => DeliveredInOrder es s.dev.status)
    ?_ ?_ (fun _ _ => trivial)
  · exact List.Sublist.refl []
  · intro es e _ taken _ before
    exact (effect_of_takes taken).flow.deliveredInOrder before

/-- **No event is duplicated or reordered.**  The events the readers get are a
subsequence of those stored.  Each was the last one stored before its read, and
nobody else got it in between.  A read that answers `-EFAULT` leaves the cell. -/
theorem events_returned_once (path : (machine driver).Path (State.loaded R) es u) :
    (es.filterMap returnedEvent?).Sublist (es.filterMap storedEvent?) ∧
      (∀ before e after v, es = before ++ e :: after → returnedEvent? e = some v →
        ∃ front origin mid, before = front ++ origin :: mid ∧ storedEvent? origin = some v ∧
          ∀ d ∈ mid, storedEvent? d = none ∧ returnedEvent? d = none) ∧
      ∀ e ∈ es, ∀ r copied, e.out = .returned r (-efault) copied →
        e.target.dev = e.source.dev := by
  refine ⟨(List.sublist_append_left _ _).trans (returned_append_pending_sublist path), ?_, ?_⟩
  · rintro before e after v rfl returns
    obtain ⟨front, taken, -⟩ := path.split
    have held : e.source.dev.status.event? = some v := by
      cases (effect_of_takes taken).flow with
      | consumed stored returned dev => exact returned.symm.trans returns
      | produced level act dev stored returned | kept stored returned dev =>
          rw [returned] at returns
          cases returns
    exact pending_origin front v held
  · intro e member r copied out
    cases effect_of_takes (path.takes e member) with
    | faulted r' uncopied act fails out' dev | again r' act empty out' dev | silent act out' dev =>
        exact dev
    | expired level act out' dev =>
        rw [out] at out'
        cases out'
    | delivered r' interrupted act ready out' dev =>
        rw [out] at out'
        cases out'

end Runs

/-- A press that one reader faults on and another gets. -/
def faultThenRead : List (Act (Fin 2)) :=
  [.expire .low, .notify, .call 0 false, .call 1 false, .wake 0, .wake 1, .locked 0 4,
    .locked 1 0]

theorem events_returned_once_faultThenRead :
    let es := (machine .blockio).trace (State.loaded (Fin 2)) faultThenRead
    (es.filterMap returnedEvent?).Sublist (es.filterMap storedEvent?) ∧
      (∀ before e after v, es = before ++ e :: after → returnedEvent? e = some v →
        ∃ front origin mid, before = front ++ origin :: mid ∧ storedEvent? origin = some v ∧
          ∀ d ∈ mid, storedEvent? d = none ∧ returnedEvent? d = none) ∧
      ∀ e ∈ es, ∀ r copied, e.out = .returned r (-efault) copied →
        e.target.dev = e.source.dev :=
  events_returned_once (Machine.path_trace _ _ _)

end LearningKernel.Key
