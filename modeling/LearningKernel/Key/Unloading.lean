/-
# Key.Unloading -- edges while a key driver is unloaded

`mykey_exit` and `mykey_remove` delete the timer before they free the interrupt,
and nothing kills the tasklet.  An edge in between starts the chain again, and
whether it has run down when `gpio_free` is called decides the rest of the unload
(`unload_leaves_nothing_iff`): once the interrupt is freed, what is not in flight
then is never in flight again, and what is in flight then outlives its GPIO.
-/
import LearningKernel.Key.Lifecycle

namespace LearningKernel.Key

open LearningKernel.Theory LearningKernel.Kernel

set_option autoImplicit false

/-- The loaded driver about to be unloaded, with anything in flight. -/
def unloading (m : KeyModule) (flight : Flight) : LifeState :=
  { held := m.loaded, flight := flight, rest := m.unload }

/-- What `timer_function` works on is held. -/
def Held.Usable (m : KeyModule) (held : Held) : Prop :=
  held.gpio = true ∧ (m = .keyinput → held.inputdev = true)

/-- When the unload has returned nothing is scheduled or pending, and
`timer_function` runs only while what it works on is held. -/
structure UnloadSafe (m : KeyModule) (s : LifeState) : Prop where
  leaves_nothing : s.rest.answer?.isSome = true →
    s.flight.scheduled = false ∧ s.flight.pending = false
  runs_on_held : s.flight.running = true → s.held.Usable m

/-- `gpio_free` is called with nothing in flight. -/
def FreesQuiet (e : LifeEvent) : Prop :=
  e.act = .proceed → e.source.rest.next? = some .gpioFree → e.source.flight = {}

instance (m : KeyModule) (held : Held) : Decidable (held.Usable m) :=
  inferInstanceAs (Decidable (_ ∧ _))

instance (e : LifeEvent) : Decidable (FreesQuiet e) :=
  inferInstanceAs (Decidable (e.act = .proceed → e.source.rest.next? = some .gpioFree →
    e.source.flight = {}))

/-- At the places of an unload: what `timer_function` works on goes with the GPIO,
which is gone on return. -/
theorem unload_places (m : KeyModule) :
    ∀ p ∈ m.unload.places own m.loaded,
      (p.1.gpio = true → p.1.Usable m) ∧ (p.2.answer?.isSome = true → p.1.gpio = false) := by
  cases m with
  | chrdev driver => cases driver <;> decide
  | keyinput => decide

/-- The calls of an unload: the interrupt is freed before the GPIO, and the timer
is deleted before both. -/
theorem unload_calls (m : KeyModule) :
    ∀ p ∈ m.unload.places own m.loaded, ∀ k ∈ p.2.next?,
      (k = .gpioFree → p.1.irq = false) ∧ (p.1.gpio = false → k ≠ .delTimerSync) ∧
        k ≠ .requestIrq ∧ k ≠ .gpioRequest ∧ k ≠ .taskletInit ∧ k ≠ .timerSetup := by
  cases m with
  | chrdev driver => cases driver <;> decide
  | keyinput => decide

/-- A call that neither clears nor waits leaves what is in flight. -/
theorem settle_other {k : Call} {flight flight' : Flight} (settled : settle k flight = some flight')
    (notDel : k ≠ .delTimerSync) (notTasklet : k ≠ .taskletInit) (notTimer : k ≠ .timerSetup) :
    flight' = flight := by
  cases k with
  | delTimerSync => exact absurd rfl notDel
  | taskletInit => exact absurd rfl notTasklet
  | timerSetup => exact absurd rfl notTimer
  | _ => exact (Option.some.inj settled).symm

section Runs

variable {m : KeyModule} {flight : Flight} {es : List LifeEvent} {u : LifeState}

/-- The GPIO is free only with the interrupt free and nothing in flight. -/
def FreeQuiet (s : LifeState) : Prop :=
  s.held.gpio = false → s.held.irq = false ∧ s.flight = {}

theorem FreeQuiet.step {e : LifeEvent} (moves : platform.Moves e) (frees : FreesQuiet e)
    (within : e.source.Within platform m.unload m.loaded) (before : FreeQuiet e.source) :
    FreeQuiet e.target := by
  intro free
  cases moves with
  | proceeded k act next held flight rest =>
      obtain ⟨irqFirst, -, notRequestIrq, notGpioRequest, -, -⟩ := unload_calls m _ within k next
      have quiet : e.source.held.irq = false ∧ e.source.flight = {} := by
        by_cases isFree : k = .gpioFree
        · exact ⟨irqFirst isFree, frees act (isFree ▸ next)⟩
        · apply before
          rw [held] at free
          exact (own_gpio notGpioRequest isFree).symm.trans free
      rw [quiet.2] at flight
      rw [held]
      exact ⟨own_irq notRequestIrq quiet.1, settle_quiet flight⟩
  | failed k next fail act here held flight rest =>
      rw [held] at free ⊢
      rw [flight]
      exact before free
  | occurred x act held flight rest =>
      rw [held] at free
      obtain ⟨unregistered, quiet⟩ := before free
      rw [quiet] at flight
      have registered := (occur_quiet flight).2
      rw [unregistered] at registered
      cases registered

theorem FreeQuiet.unloadSafe {s : LifeState} (within : s.Within platform m.unload m.loaded)
    (quiet : FreeQuiet s) : UnloadSafe m s where
  leaves_nothing := by
    intro returned
    have free := (unload_places m _ within).2 returned
    rw [(quiet free).2]
    exact ⟨rfl, rfl⟩
  runs_on_held := by
    intro running
    cases gpio : s.held.gpio with
    | true => exact (unload_places m _ within).1 gpio
    | false =>
        rw [(quiet gpio).2] at running
        cases running

theorem unloadSafe_of_freesQuiet (path : (platform.machine Answer).Path (unloading m flight) es u)
    (frees : ∀ e ∈ es, FreesQuiet e) : ∀ e ∈ es, UnloadSafe m e.target := by
  have start : FreeQuiet (unloading m flight) := by
    intro free
    cases m <;> cases free
  have run := (Platform.keeps (fun e moves here within before => before.step moves here within)
    path frees (Platform.State.within_self platform (unloading m flight)) start).2
  intro e member
  obtain ⟨moves, within, -, after⟩ := run e member
  exact after.unloadSafe (moves.within within)

/-- Without its GPIO a chain in flight is safe only as long as it does not run. -/
def Outlives (s : LifeState) : Prop :=
  s.held.gpio = false ∧ (s.flight.scheduled = true ∨ s.flight.pending = true)

theorem Outlives.step {e : LifeEvent} (moves : platform.Moves e) (safe : UnloadSafe m e.target)
    (within : e.source.Within platform m.unload m.loaded) (before : Outlives e.source) :
    Outlives e.target := by
  obtain ⟨free, chain⟩ := before
  cases moves with
  | proceeded k act next held flight rest =>
      obtain ⟨-, notDel, -, notGpioRequest, notTasklet, notTimer⟩ :=
        unload_calls m _ within k next
      rw [Outlives, held, settle_other flight (notDel free) notTasklet notTimer]
      refine ⟨?_, chain⟩
      by_cases isFree : k = .gpioFree
      · rw [isFree]
        rfl
      · exact (own_gpio notGpioRequest isFree).trans free
  | failed k next fail act here held flight rest =>
      rw [Outlives, held, flight]
      exact ⟨free, chain⟩
  | occurred x act held flight rest =>
      have stays : e.target.held.gpio = false := by
        rw [held]
        exact free
      refine ⟨stays, ?_⟩
      rcases occur_chain flight chain with scheduled | pending | running
      · exact Or.inl scheduled
      · exact Or.inr pending
      · have usable := (safe.runs_on_held running).1
        cases usable.symm.trans stays

/-- **What an unload leaves behind.**  An unload that calls `gpio_free` with
nothing in flight leaves nothing scheduled or pending, and never runs
`timer_function` on released objects; and of the unloads that return, only those
do. -/
theorem unload_leaves_nothing_iff
    (path : (platform.machine Answer).Path (unloading m flight) es u) :
    ((∀ e ∈ es, FreesQuiet e) → ∀ e ∈ es, UnloadSafe m e.target) ∧
      (u.rest.answer?.isSome = true →
        ((∀ e ∈ es, UnloadSafe m e.target) ↔ ∀ e ∈ es, FreesQuiet e)) := by
  refine ⟨unloadSafe_of_freesQuiet path, ?_⟩
  intro returned
  refine ⟨?_, unloadSafe_of_freesQuiet path⟩
  intro safe e member act next
  by_contra busy
  obtain ⟨before, after, rfl⟩ := List.append_of_mem member
  obtain ⟨moves, within⟩ :=
    Platform.within path (Platform.State.within_self platform (unloading m flight)) e member
  have here := safe e member
  -- the chain that `gpio_free` finds in flight is still there on return
  have outlives : Outlives e.target := by
    obtain ⟨held, flight⟩ := moves.of_proceed act next
    have free : e.target.held.gpio = false := by
      rw [held]
      rfl
    have kept : e.target.flight = e.source.flight := (Option.some.inj flight).symm
    refine ⟨free, ?_⟩
    rcases Flight.ne_quiet (kept ▸ busy) with scheduled | pending | running
    · exact Or.inl scheduled
    · exact Or.inr pending
    · cases free.symm.trans (here.runs_on_held running).1
  obtain ⟨-, -, rest⟩ := path.split
  have final := (Platform.keeps (C := fun d : LifeEvent => UnloadSafe m d.target)
    (I := fun s => UnloadSafe m s ∧ Outlives s)
    (fun d moves safe within before => ⟨safe, before.2.step moves safe within⟩) rest
    (fun d later => safe d (by simp [later])) (moves.within within) ⟨here, outlives⟩).1
  obtain ⟨unscheduled, unpending⟩ := final.1.leaves_nothing returned
  rcases final.2.2 with scheduled | pending
  · cases unscheduled.symm.trans scheduled
  · cases unpending.symm.trans pending

end Runs

/-- An unload of `16_fasync` without edges. -/
def calmUnload : List (Platform.Act Occurrence) :=
  [.occur .tasklet, .occur .expiry, .occur .finished, .proceed, .proceed, .proceed, .proceed,
    .proceed, .proceed, .proceed]

theorem unload_leaves_nothing_calm :
    let es := (platform.machine Answer).trace
      (unloading (.chrdev .fasync) { scheduled := true }) calmUnload
    es.length = 10 ∧ ∀ e ∈ es, UnloadSafe (.chrdev .fasync) e.target := by
  refine ⟨rfl, ?_⟩
  exact (unload_leaves_nothing_iff (Machine.path_trace _ _ _)).1 (by decide)

/-- An edge after `del_timer_sync`. -/
def edgeAfterDelTimer : List (Platform.Act Occurrence) :=
  [.proceed, .occur .edge, .proceed, .proceed, .proceed, .proceed, .proceed, .proceed,
    .occur .tasklet, .occur .expiry]

/-- On return of `mykey_exit` the tasklet is scheduled, and `timer_function` then
runs on a GPIO that has been freed. -/
theorem edge_outlives_unload :
    ∃ (es : List LifeEvent) (last run : LifeEvent) (u : LifeState),
      (platform.machine Answer).Path (unloading (.chrdev .fasync) {}) es u ∧
        last ∈ es ∧ last.target.rest.answer? = some .zero ∧
        last.target.flight.scheduled = true ∧ ¬ UnloadSafe (.chrdev .fasync) last.target ∧
        run ∈ es ∧ run.target.flight.running = true ∧ run.target.held.gpio = false ∧
        ¬ UnloadSafe (.chrdev .fasync) run.target := by
  let es := (platform.machine Answer).trace (unloading (.chrdev .fasync) {}) edgeAfterDelTimer
  refine ⟨es, es[7], es[9], _, Machine.path_trace _ _ edgeAfterDelTimer, List.getElem_mem _, rfl,
    rfl, ?_, List.getElem_mem _, rfl, rfl, ?_⟩
  · intro safe
    cases (safe.leaves_nothing rfl).1
  · intro safe
    cases (safe.runs_on_held rfl).1

end LearningKernel.Key
