/-
# Key.Alternation -- presses and releases take turns

`timer_function` stores a press or a release only when the sample differs from the one
before, which it keeps as `last_value`.  Over any run, with any readers, the events it
stores alternate from a press on, and `last_value` tells whose turn is next
(`debounced_events_alternate`).
-/
import LearningKernel.Key.Events
import LearningKernel.Theory.Alternation
import LearningKernel.Theory.Latest

namespace LearningKernel.Key

open LearningKernel.Theory LearningKernel.Kernel

set_option autoImplicit false

variable {R : Type}

/-- What `timer_function` samples by this step. -/
def sample? (e : KeyEvent R) : Option Level :=
  match e.act with
  | .expire level => some level
  | _ => none

/-- The last sample, or the one that `last_value` starts with. -/
def lastSample (es : List (KeyEvent R)) : Level := (latest sample? es).getD .high

/-- The event that a sample other than the last one stands for. -/
def Level.event : Level → KeyStatus
  | low => .keyPress
  | high => .keyRelease

/-- What `timer_function` stores. -/
theorem timerFunction_status {dev : KeyDev} {last : Level} (known : dev.lastValue = last.value)
    (level : Level) :
    (timerFunction dev level.value).status = if level = last then .keyNone else level.event := by
  cases level <;> cases last <;> simp [timerFunction, Level.value, Level.event, known]

/-- A step that is no expiry stores nothing and keeps `last_value`. -/
theorem Effect.unsampled {e : KeyEvent R} (effect : Effect e) (none_ : sample? e = none) :
    storedEvent? e = none ∧ e.target.dev.lastValue = e.source.dev.lastValue := by
  cases effect with
  | expired level act out dev => simp [sample?, act] at none_
  | delivered r interrupted act ready out dev =>
      refine ⟨?_, ?_⟩
      · simp [storedEvent?, out]
      · rw [dev]
  | faulted r uncopied act fails out dev | again r act empty out dev =>
      refine ⟨?_, ?_⟩
      · simp [storedEvent?, out]
      · rw [dev]
  | silent act out dev =>
      refine ⟨?_, ?_⟩
      · rcases out with out | ⟨sigio, out⟩ <;> simp [storedEvent?, out]
      · rw [dev]

/-- The invariant: the events alternate, and their number is odd while the key is down. -/
structure Debounced (es : List (KeyEvent R)) (s : State R) : Prop where
  alternates : Alternates .keyPress .keyRelease (es.filterMap storedEvent?)
  lastValue : s.dev.lastValue = (lastSample es).value
  parity : (es.filterMap storedEvent?).length % 2 = if lastSample es = .low then 1 else 0

theorem debounced_loaded (R : Type) : Debounced [] (State.loaded R) where
  alternates := trivial
  lastValue := rfl
  parity := rfl

section Runs

variable [DecidableEq R] {driver : Driver} {es : List (KeyEvent R)} {e : KeyEvent R}
  {u : State R}

/-- What an expiry stores, by its sample and the one before. -/
theorem Debounced.expire (debounced : Debounced es e.source) (taken : (machine driver).Takes e)
    {level : Level} (act : e.act = .expire level) :
    e.out = .stored (if level = lastSample es then .keyNone else level.event) := by
  rw [(expire_event taken act).1, timerFunction_status debounced.lastValue]

theorem Debounced.step (debounced : Debounced es e.source) (taken : (machine driver).Takes e) :
    Debounced (es ++ [e]) e.target := by
  have samples : lastSample (es ++ [e]) = (sample? e).getD (lastSample es) := by
    rw [lastSample, latest_concat]
    cases sample? e <;> rfl
  cases sampled : sample? e with
  | none =>
      obtain ⟨stored, kept⟩ := (effect_of_takes taken).unsampled sampled
      rw [sampled, Option.getD_none] at samples
      refine ⟨?_, ?_, ?_⟩
      · simpa [List.filterMap_append, stored] using debounced.alternates
      · rw [samples, kept]
        exact debounced.lastValue
      · simpa [List.filterMap_append, stored, samples] using debounced.parity
  | some level =>
      have act : e.act = .expire level := by
        unfold sample? at sampled
        split at sampled
        · rename_i level' act
          cases sampled
          exact act
        · cases sampled
      have out := debounced.expire taken act
      have dev := (expire_event taken act).2
      rw [sampled, Option.getD_some] at samples
      have value : e.target.dev.lastValue = (lastSample (es ++ [e])).value := by
        rw [dev, samples]
        rfl
      by_cases same : level = lastSample es
      · have stored : storedEvent? e = none := by
          rw [storedEvent?, out, if_pos same]
          rfl
        refine ⟨?_, value, ?_⟩
        · simpa [List.filterMap_append, stored] using debounced.alternates
        · simpa [List.filterMap_append, stored, samples, same] using debounced.parity
      · have stored : storedEvent? e = some level.event := by
          rw [storedEvent?, out, if_neg same]
          cases level <;> rfl
        have events : (es ++ [e]).filterMap storedEvent? =
            es.filterMap storedEvent? ++ [level.event] := by
          simp [List.filterMap_append, stored]
        have parity := debounced.parity
        refine ⟨?_, value, ?_⟩
        · rw [events, alternates_concat]
          refine ⟨debounced.alternates, ?_⟩
          rw [Theory.turn, parity]
          cases level <;> cases last : lastSample es <;> simp_all [Level.event]
        · rw [events, samples, List.length_append, List.length_singleton]
          cases level <;> cases last : lastSample es <;> simp_all <;> omega

theorem debounced (path : (machine driver).Path (State.loaded R) es u) : Debounced es u :=
  path.history (C := fun _ => True) (J := Debounced) (debounced_loaded R)
    (fun _ _ _ taken _ before => before.step taken) fun _ _ => trivial

/-- **Debounced events alternate**, from a press on: `last_value` is 0 while there is one
press more than releases, and an expiry stores no event exactly if it samples what the
last one has. -/
theorem debounced_events_alternate (path : (machine driver).Path (State.loaded R) es u) :
    let stored := es.filterMap storedEvent?
    Alternates .keyPress .keyRelease stored ∧
      ((u.dev.lastValue = 0 ∧ stored.count .keyPress = stored.count .keyRelease + 1) ∨
        (u.dev.lastValue = 1 ∧ stored.count .keyPress = stored.count .keyRelease)) ∧
      ∀ before e after level, es = before ++ e :: after → e.act = .expire level →
        (e.out = .stored .keyNone ↔ level = lastSample before) := by
  obtain ⟨alternates, lastValue, parity⟩ := debounced path
  have count := alternates.count (by decide)
  refine ⟨alternates, ?_, ?_⟩
  · rw [lastValue]
    cases last : lastSample es with
    | low =>
        left
        rw [last, if_pos rfl] at parity
        exact ⟨rfl, by omega⟩
    | high =>
        right
        rw [last, if_neg nofun] at parity
        exact ⟨rfl, by omega⟩
  · rintro before e after level rfl act
    obtain ⟨front, taken, -⟩ := path.split
    rw [(Key.debounced front).expire taken act]
    by_cases same : level = lastSample before
    · simp [same]
    · cases level <;> simp [same, Level.event]

/-- Every sequence of samples is the one of some run. -/
theorem exists_run_sampling (driver : Driver) (levels : List Level) :
    ∃ es u, (machine driver).Path (State.loaded R) es u ∧ es.filterMap sample? = levels := by
  have run : ∃ es u, (machine driver).Path (State.loaded R) es u ∧
      es.filterMap sample? = levels ∧ u.notifying = false := by
    induction levels using List.reverseRecOn with
    | nil => exact ⟨[], _, .nil _, rfl, rfl⟩
    | append_singleton levels level ih =>
        obtain ⟨es, u, path, sampled, free⟩ := ih
        let dev := timerFunction u.dev level.value
        let expires : KeyEvent R :=
          ⟨u, .expire level, .stored dev.status, { u with dev := dev, notifying := driver.wakes }⟩
        have taken : (machine driver).Takes expires := by
          simp [Machine.Takes, machine, step, expires, free, dev]
        cases wakes : driver.wakes with
        | false =>
            refine ⟨es ++ [expires], _, Machine.path_concat_iff.2 ⟨path, taken, rfl⟩, ?_, wakes⟩
            simp [List.filterMap_append, sampled, sample?, expires]
        | true =>
            let notifies : KeyEvent R :=
              ⟨expires.target, .notify, .notified driver.signals,
                { expires.target with notifying := false }⟩
            have notified : (machine driver).Takes notifies := by
              simp [Machine.Takes, machine, step, notifies, expires, wakes]
            refine ⟨es ++ [expires] ++ [notifies], _, Machine.path_concat_iff.2
              ⟨Machine.path_concat_iff.2 ⟨path, taken, rfl⟩, notified, rfl⟩, ?_, rfl⟩
            simp [List.filterMap_append, sampled, sample?, expires, notifies]
  obtain ⟨es, u, path, sampled, -⟩ := run
  exact ⟨es, u, path, sampled⟩

end Runs

/-- A press that bounces, is read, and is released. -/
def pressBounceRelease : List (Act Unit) :=
  [.expire .low, .notify, .expire .low, .notify, .expire .high, .notify, .call () true,
    .locked () 0, .expire .low]

theorem debounced_events_alternate_pressBounceRelease :
    let es := (machine .noblockio).trace (State.loaded Unit) pressBounceRelease
    let u := (machine .noblockio).final (State.loaded Unit) pressBounceRelease
    let stored := es.filterMap storedEvent?
    Alternates .keyPress .keyRelease stored ∧
      ((u.dev.lastValue = 0 ∧ stored.count .keyPress = stored.count .keyRelease + 1) ∨
        (u.dev.lastValue = 1 ∧ stored.count .keyPress = stored.count .keyRelease)) ∧
      ∀ before e after level, es = before ++ e :: after → e.act = .expire level →
        (e.out = .stored .keyNone ↔ level = lastSample before) :=
  debounced_events_alternate (Machine.path_trace _ _ _)

end LearningKernel.Key
