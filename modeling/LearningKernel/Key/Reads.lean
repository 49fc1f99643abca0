/-
# Key.Reads -- what a successful `kery_read` carries

A read tests for an event, and copies and resets the cell in a later section.
`reads_carry_events_iff` says which runs keep the promise that a success carries
an event: those in which every section that copies was not interrupted and still
finds an event.  `undisturbed_findsEvent` gives a discipline of the schedule that
is enough for it: no signal breaks a wait, and nothing empties the cell while
another reader is between its test and its section.
-/
import LearningKernel.Key.Readers

namespace LearningKernel.Key

open LearningKernel.Theory LearningKernel.Kernel

set_option autoImplicit false

section Answers

variable {R : Type}

/-- What a call of `kery_read` answers: a success delivers a press or a release,
and a call that was interrupted or finds no event fails and leaves the cell. -/
structure CarriesEvent (e : KeyEvent R) : Prop where
  delivers : ∀ r copied, e.out = .returned r sizeofInt copied →
    copied = some .keyPress ∨ copied = some .keyRelease
  refuses : ∀ r ret copied, e.out = .returned r ret copied →
    e.source.readers r = .ready true ∨ e.source.dev.status = .keyNone →
      ret < 0 ∧ e.target.dev.status = e.source.dev.status

/-- A section that copies without a fault was not interrupted before it, and
still finds an event. -/
def FindsEvent (e : KeyEvent R) : Prop :=
  ∀ r, e.act = .locked r 0 →
    e.source.readers r = .ready false ∧ e.source.dev.status ≠ .keyNone

instance [Fintype R] [DecidableEq R] (e : KeyEvent R) : Decidable (FindsEvent e) :=
  inferInstanceAs (Decidable (∀ r, e.act = .locked r 0 →
    e.source.readers r = .ready false ∧ e.source.dev.status ≠ .keyNone))

theorem KeyStatus.press_or_release {status : KeyStatus} (event : status ≠ .keyNone) :
    some status = some .keyPress ∨ some status = some .keyRelease := by
  cases status with
  | keyPress => exact Or.inl rfl
  | keyRelease => exact Or.inr rfl
  | keyNone => exact absurd rfl event

theorem carriesEvent_of_delivered {e : KeyEvent R} {r : R} {status : KeyStatus}
    (ready : e.source.readers r = .ready false) (event : status ≠ .keyNone)
    (held : e.source.dev.status = status) (out : e.out = .returned r sizeofInt (some status)) :
    CarriesEvent e where
  delivers := by
    intro r' copied out'
    rw [out] at out'
    cases out'
    exact KeyStatus.press_or_release event
  refuses := by
    intro r' ret copied out' disturbed
    rw [out] at out'
    cases out'
    rw [ready, held] at disturbed
    rcases disturbed with interrupted | empty
    · cases interrupted
    · exact absurd empty event

theorem carriesEvent_of_fails {e : KeyEvent R}
    (fails : ∀ r ret copied, e.out = .returned r ret copied →
      ret < 0 ∧ e.target.dev = e.source.dev) : CarriesEvent e where
  delivers := by
    intro r copied out
    have failed := (fails r sizeofInt copied out).1
    simp [sizeofInt] at failed
  refuses := by
    intro r ret copied out _
    obtain ⟨failed, dev⟩ := fails r ret copied out
    exact ⟨failed, by rw [dev]⟩

/-- A call returns by a section that copies, or it fails and leaves the cell. -/
theorem Effect.copies_or_fails {e : KeyEvent R} (effect : Effect e) :
    (∃ r, e.act = .locked r 0) ∨
      (∀ r, e.act ≠ .locked r 0) ∧
        ∀ r ret copied, e.out = .returned r ret copied → ret < 0 ∧ e.target.dev = e.source.dev := by
  cases effect with
  | delivered r interrupted act => exact Or.inl ⟨r, act⟩
  | faulted r uncopied act fails out dev =>
      refine Or.inr ⟨?_, ?_⟩
      · intro r' act'
        rw [act] at act'
        cases act'
        exact fails rfl
      · intro r' ret copied out'
        rw [out] at out'
        cases out'
        exact ⟨by decide, dev⟩
  | again r act empty out dev =>
      refine Or.inr ⟨by simp [act], ?_⟩
      intro r' ret copied out'
      rw [out] at out'
      cases out'
      exact ⟨by decide, dev⟩
  | expired level act out dev => exact Or.inr ⟨by simp [act], by simp [out]⟩
  | silent act out dev =>
      refine Or.inr ⟨?_, ?_⟩
      · intro r act'
        simp [act'] at act
      · intro r ret copied out'
        simp [out'] at out

end Answers

section Steps

variable {R : Type} [DecidableEq R] {driver : Driver}

/-- One step keeps the promise exactly when its section finds an event. -/
theorem carriesEvent_iff {e : KeyEvent R} (taken : (machine driver).Takes e) :
    CarriesEvent e ↔ FindsEvent e := by
  rcases (effect_of_takes taken).copies_or_fails with ⟨r, act⟩ | ⟨other, fails⟩
  · obtain ⟨⟨interrupted, ready⟩, out, -⟩ := locked_event taken act
    constructor
    · intro carries r' act'
      obtain rfl : r = r' := by
        rw [act] at act'
        cases act'
        rfl
      have calm : ¬ (e.source.readers r = .ready true ∨ e.source.dev.status = .keyNone) := by
        intro disturbed
        have failed := (carries.refuses r _ _ out disturbed).1
        simp [sizeofInt] at failed
      rw [not_or, ready] at calm
      obtain ⟨uninterrupted, event⟩ := calm
      cases interrupted with
      | false => exact ⟨ready, event⟩
      | true => exact absurd rfl uninterrupted
    · intro finds
      obtain ⟨calm, event⟩ := finds r act
      exact carriesEvent_of_delivered calm event rfl out
  · apply iff_of_true (carriesEvent_of_fails fails)
    intro r act
    exact absurd act (other r)

theorem State.ready_setReader {s : State R} {r r' : R} {reader : Reader} {interrupted : Bool}
    (ready : (s.setReader r' reader).readers r = .ready interrupted) :
    (r = r' ∧ reader = .ready interrupted) ∨ (r ≠ r' ∧ s.readers r = .ready interrupted) := by
  by_cases same : r = r'
  · subst same
    simp only [State.setReader, Function.update_self] at ready
    exact Or.inl ⟨rfl, ready⟩
  · simp only [State.setReader, Function.update_of_ne same] at ready
    exact Or.inr ⟨same, ready⟩

theorem keryReadGate_enter (tests : driver ≠ .keyirq) {nonblock : Bool} {status : KeyStatus}
    (entered : keryReadGate driver nonblock status = .enter) : status ≠ .keyNone := by
  cases driver with
  | keyirq => exact absurd rfl tests
  | blockio => simp [keryReadGate] at entered
  | noblockio | fasync =>
      rintro rfl
      cases nonblock <;> simp [keryReadGate] at entered

/-- Whoever is ready after a step was ready and did not move, was interrupted by
it, or has just seen an event. -/
theorem ready_of_takes (tests : driver ≠ .keyirq) {e : KeyEvent R}
    (taken : (machine driver).Takes e) {r : R} {interrupted : Bool}
    (ready : e.target.readers r = .ready interrupted) :
    (e.source.readers r = .ready interrupted ∧ ∀ uncopied, e.act ≠ .locked r uncopied) ∨
      e.act = .interrupt r ∨
      (interrupted = false ∧ e.target.dev = e.source.dev ∧ e.source.dev.status ≠ .keyNone) := by
  obtain ⟨s, act, out, t⟩ := e
  simp only [Machine.Takes, machine] at taken
  dsimp only at ready ⊢
  cases act with
  | expire level | notify =>
      simp only [step] at taken
      split at taken <;> cases taken
      exact Or.inl ⟨ready, by simp⟩
  | call r' nonblock =>
      simp only [step] at taken
      split at taken
      · cases gate : keryReadGate driver nonblock s.dev.status with
        | again =>
            rw [gate] at taken
            cases taken
            exact Or.inl ⟨ready, by simp⟩
        | enter =>
            rw [gate] at taken
            cases taken
            rcases State.ready_setReader ready with ⟨rfl, now⟩ | ⟨-, before⟩
            · cases now
              exact Or.inr (Or.inr ⟨rfl, rfl, keryReadGate_enter tests gate⟩)
            · exact Or.inl ⟨before, by simp⟩
        | wait =>
            rw [gate] at taken
            cases taken
            rcases State.ready_setReader ready with ⟨-, now⟩ | ⟨-, before⟩
            · cases now
            · exact Or.inl ⟨before, by simp⟩
      · cases taken
  | wake r' =>
      simp only [step] at taken
      split at taken
      · rename_i woken
        cases taken
        rcases State.ready_setReader ready with ⟨rfl, now⟩ | ⟨-, before⟩
        · cases now
          exact Or.inr (Or.inr ⟨rfl, rfl, woken.2⟩)
        · exact Or.inl ⟨before, by simp⟩
      · cases taken
  | interrupt r' =>
      simp only [step] at taken
      split at taken
      · cases taken
        rcases State.ready_setReader ready with ⟨rfl, -⟩ | ⟨-, before⟩
        · exact Or.inr (Or.inl rfl)
        · exact Or.inl ⟨before, by simp⟩
      · cases taken
  | locked r' uncopied =>
      simp only [step] at taken
      split at taken
      · cases taken
        rcases State.ready_setReader ready with ⟨-, now⟩ | ⟨other, before⟩
        · cases now
        · refine Or.inl ⟨before, ?_⟩
          rintro n same
          cases same
          exact other rfl
      · cases taken

/-- The step breaks no wait, and empties the cell only when no other reader is
between its test and its section. -/
structure Undisturbed (e : KeyEvent R) : Prop where
  uninterrupted : ∀ r, e.act ≠ .interrupt r
  alone : ∀ r r' interrupted, e.act = .locked r 0 → e.source.readers r' = .ready interrupted →
    r' = r
  unsettled : ∀ (level : Level) r interrupted, e.act = .expire level →
    level.value = e.source.dev.lastValue → e.source.readers r ≠ .ready interrupted

/-- Whoever has passed its test still has its event. -/
def ReadersHold (s : State R) : Prop :=
  ∀ r interrupted, s.readers r = .ready interrupted →
    interrupted = false ∧ s.dev.status ≠ .keyNone

theorem Undisturbed.readersHold (tests : driver ≠ .keyirq) {e : KeyEvent R}
    (taken : (machine driver).Takes e) (calm : Undisturbed e) (hold : ReadersHold e.source) :
    ReadersHold e.target := by
  intro r interrupted ready
  rcases ready_of_takes tests taken ready with ⟨before, other⟩ | signal | ⟨fresh, dev, event⟩
  · obtain ⟨uninterrupted, event⟩ := hold r interrupted before
    refine ⟨uninterrupted, ?_⟩
    cases effect_of_takes taken with
    | expired level act out dev =>
        rw [dev, Ne, timerFunction_status_eq_keyNone_iff]
        intro same
        exact calm.unsettled level r interrupted act same before
    | delivered r' interrupted' act =>
        obtain rfl := calm.alone r' r interrupted act before
        exact absurd act (other 0)
    | faulted r' uncopied act fails out dev | again r' act empty out dev | silent act out dev =>
        rw [dev]
        exact event
  · exact absurd signal (calm.uninterrupted r)
  · rw [dev]
    exact ⟨fresh, event⟩

theorem ReadersHold.findsEvent {e : KeyEvent R} (taken : (machine driver).Takes e)
    (hold : ReadersHold e.source) : FindsEvent e := by
  intro r act
  obtain ⟨⟨interrupted, ready⟩, -, -⟩ := locked_event taken act
  obtain ⟨rfl, event⟩ := hold r interrupted ready
  exact ⟨ready, event⟩

variable {es : List (KeyEvent R)} {u : State R}

/-- A discipline of the schedule under which every section finds its event. -/
theorem undisturbed_findsEvent (tests : driver ≠ .keyirq)
    (path : (machine driver).Path (State.loaded R) es u) (calm : ∀ e ∈ es, Undisturbed e) :
    ∀ e ∈ es, FindsEvent e := by
  have start : ReadersHold (State.loaded R) := by
    intro r interrupted ready
    cases ready
  have along := (path.keeps (fun e taken here hold => here.readersHold tests taken hold)
    calm start).2
  intro e member
  obtain ⟨taken, hold, -⟩ := along e member
  exact hold.findsEvent taken

/-- **A successful read carries an event.**  In any run every call keeps this
promise exactly when every section that copies was not interrupted and finds an
event; and it does wherever no signal breaks a wait and nothing empties the cell
between another reader's test and its section. -/
theorem reads_carry_events_iff (path : (machine driver).Path (State.loaded R) es u) :
    ((∀ e ∈ es, CarriesEvent e) ↔ ∀ e ∈ es, FindsEvent e) ∧
      (driver ≠ .keyirq → (∀ e ∈ es, Undisturbed e) → ∀ e ∈ es, CarriesEvent e) := by
  have exact_ : (∀ e ∈ es, CarriesEvent e) ↔ ∀ e ∈ es, FindsEvent e :=
    forall₂_congr fun e member => carriesEvent_iff (path.takes e member)
  refine ⟨exact_, ?_⟩
  intro tests calm
  exact exact_.2 (undisturbed_findsEvent tests path calm)

end Steps

/-- Two readers, one event each. -/
def calmReads : List (Act Bool) :=
  [.call false false, .call true false, .expire .low, .notify, .wake false, .locked false 0,
    .expire .high, .notify, .wake true, .locked true 0]

theorem reads_carry_events_calm :
    let es := (machine .fasync).trace (State.loaded Bool) calmReads
    es.length = 10 ∧ ∀ e ∈ es, CarriesEvent e := by
  refine ⟨rfl, ?_⟩
  exact (reads_carry_events_iff (Machine.path_trace _ _ _)).1.2 (by decide)

/-- One reader takes the event while another, woken by it too, is before its
section; the wait of a third is broken by a signal. -/
def contendedReads : List (Act (Fin 3)) :=
  [.call 0 false, .call 1 false, .call 2 false, .interrupt 2, .expire .low, .notify,
    .wake 0, .wake 1, .locked 0 0, .locked 1 0, .locked 2 0]

/-- The second reader and the interrupted one both succeed with `KEY_NONE`. -/
theorem contended_reads_return_keyNone :
    ∃ (es : List (KeyEvent (Fin 3))) (second third : KeyEvent (Fin 3)) (u : State (Fin 3)),
      (machine .blockio).Path (State.loaded (Fin 3)) es u ∧ second ∈ es ∧ third ∈ es ∧
        second.out = .returned 1 sizeofInt (some .keyNone) ∧ ¬ CarriesEvent second ∧
        third.source.readers 2 = .ready true ∧
        third.out = .returned 2 sizeofInt (some .keyNone) ∧ ¬ CarriesEvent third := by
  let es := (machine .blockio).trace (State.loaded (Fin 3)) contendedReads
  have fails : ∀ (e : KeyEvent (Fin 3)) r,
      e.out = .returned r sizeofInt (some .keyNone) → ¬ CarriesEvent e := by
    intro e r out carries
    rcases carries.delivers r _ out with press | release
    · cases press
    · cases release
  exact ⟨es, es[9], es[10], _, Machine.path_trace _ _ contendedReads, List.getElem_mem _,
    List.getElem_mem _, rfl, fails _ 1 rfl, rfl, rfl, fails _ 2 rfl⟩

end LearningKernel.Key
