/-
# Key.Loading -- edges while a key driver is loaded

`key_gpio_init` registers the interrupt before `tasklet_init` and `timer_setup`
have run, and `mykey_probe` allocates its input device later still.  So the rule
"registered means initialised" is broken by every load that gets as far as
`request_irq` (`load_initialised_iff`); what the handlers use is initialised only
if no edge comes before the last of these calls.
-/
import LearningKernel.Key.Lifecycle

namespace LearningKernel.Key

open LearningKernel.Theory LearningKernel.Kernel

set_option autoImplicit false

/-- A registered interrupt finds its tasklet and its timer initialised. -/
def RegisteredInitialised (s : LifeState) : Prop :=
  s.held.irq = true → s.held.tasklet = true ∧ s.held.timer = true

/-- `key_interrupt_handler`, `key_irq_tasklet` and `timer_function` run on an
initialised tasklet, timer and (`20_input`) input device. -/
def UsesInitialised (m : KeyModule) (e : LifeEvent) : Prop :=
  match e.act with
  | .occur .edge => e.source.held.tasklet = true
  | .occur .tasklet => e.source.held.timer = true
  | .occur .expiry => m = .keyinput → e.source.held.inputdev = true
  | _ => True

/-- `request_irq` succeeds by this step. -/
def RegistersIrq (e : LifeEvent) : Prop :=
  e.act = .proceed ∧ e.source.rest.next? = some .requestIrq

/-- All that the chain uses is initialised. -/
def Held.Ready (m : KeyModule) (held : Held) : Prop :=
  held.tasklet = true ∧ held.timer = true ∧ (m = .keyinput → held.inputdev = true)

/-- An edge comes only when all of it is. -/
def EdgeWhenReady (m : KeyModule) (e : LifeEvent) : Prop :=
  e.act = .occur .edge → e.source.held.Ready m

instance (m : KeyModule) (held : Held) : Decidable (held.Ready m) :=
  inferInstanceAs (Decidable (_ ∧ _ ∧ _))

/-- What holds at the places of a load. -/
theorem load_places (m : KeyModule) :
    ∀ p ∈ m.load.places own {}, ∀ k ∈ p.2.next?,
      (k = .requestIrq → p.1.tasklet = false) ∧ (p.1.Ready m → (own k p.1).Ready m) := by
  cases m with
  | chrdev driver => cases driver <;> decide
  | keyinput => decide

section Runs

variable {m : KeyModule} {es : List LifeEvent} {u : LifeState}

/-- Without `request_irq` nothing ever happens beside the load. -/
theorem idle_until_registered (path : (platform.machine Answer).Path (loading m) es u)
    (unregistered : ∀ e ∈ es, ¬ RegistersIrq e) :
    ∀ e ∈ es, e.target.held.irq = false ∧ ∀ x, e.act ≠ .occur x := by
  have run := (Platform.keeps
    (C := fun e => ¬ RegistersIrq e)
    (I := fun s : LifeState => s.held.irq = false ∧ s.flight = {}) ?_ path unregistered
    (Platform.State.within_self platform (loading m)) ⟨rfl, rfl⟩).2
  · intro e member
    obtain ⟨moves, -, ⟨free, quiet⟩, after⟩ := run e member
    refine ⟨after.1, ?_⟩
    intro x act
    have flight := (moves.of_occur act).2
    rw [quiet] at flight
    have registered := (occur_quiet flight).2
    rw [free] at registered
    cases registered
  · rintro e moves notRegisters - ⟨free, quiet⟩
    cases moves with
    | proceeded k act next held flight rest =>
        have other : k ≠ .requestIrq := fun same => notRegisters ⟨act, same ▸ next⟩
        rw [quiet] at flight
        refine ⟨?_, ?_⟩
        · rw [held]
          exact own_irq other free
        · exact settle_quiet flight
    | failed k next fail act here held flight rest =>
        rw [held, flight]
        exact ⟨free, quiet⟩
    | occurred x act held flight rest =>
        rw [quiet] at flight
        have registered := (occur_quiet flight).2
        rw [free] at registered
        cases registered

/-- If edges wait for it, whatever is in flight finds everything initialised. -/
theorem uses_initialised (path : (platform.machine Answer).Path (loading m) es u)
    (edges : ∀ e ∈ es, EdgeWhenReady m e) : ∀ e ∈ es, UsesInitialised m e := by
  have run := (Platform.keeps
    (C := EdgeWhenReady m)
    (I := fun s : LifeState => s.flight = {} ∨ s.held.Ready m) ?_ path edges
    (Platform.State.within_self platform (loading m)) (Or.inl rfl)).2
  · intro e member
    obtain ⟨moves, -, safe, -⟩ := run e member
    cases moves with
    | proceeded k act | failed k next fail act => simp [UsesInitialised, act]
    | occurred x act held flight rest =>
        have ready : e.source.held.Ready m := by
          rcases safe with quiet | ready
          · rw [quiet] at flight
            obtain ⟨rfl, -⟩ := occur_quiet flight
            exact edges e member act
          · exact ready
        obtain ⟨tasklet, timer, inputdev⟩ := ready
        unfold UsesInitialised
        rw [act]
        cases x with
        | edge => exact tasklet
        | tasklet => exact timer
        | expiry => exact inputdev
        | finished => trivial
  · rintro e moves edge within safe
    cases moves with
    | proceeded k act next held flight rest =>
        rcases safe with quiet | ready
        · left
          rw [quiet] at flight
          exact settle_quiet flight
        · right
          rw [held]
          exact (load_places m _ within k next).2 ready
    | failed k next fail act here held flight rest =>
        rw [held, flight]
        exact safe
    | occurred x act held flight rest =>
        right
        rw [held]
        rcases safe with quiet | ready
        · rw [quiet] at flight
          obtain ⟨rfl, -⟩ := occur_quiet flight
          exact edge act
        · exact ready

/-- **The key interrupt and uninitialised objects.**  In a run of a load with any
edges, registered always means initialised, and every handler uses initialised
objects, exactly when the load never gets past `request_irq`.  If it does, the
handlers are safe as long as no edge comes before everything is initialised. -/
theorem load_initialised_iff (path : (platform.machine Answer).Path (loading m) es u) :
    ((∀ e ∈ es, RegisteredInitialised e.target ∧ UsesInitialised m e) ↔
        ∀ e ∈ es, ¬ RegistersIrq e) ∧
      ((∀ e ∈ es, EdgeWhenReady m e) → ∀ e ∈ es, UsesInitialised m e) := by
  refine ⟨⟨?_, ?_⟩, uses_initialised path⟩
  · rintro initialised e member ⟨act, next⟩
    obtain ⟨moves, within⟩ :=
      Platform.within path (Platform.State.within_self platform (loading m)) e member
    have held := (moves.of_proceed act next).1
    -- the tasklet is not initialised yet, and the interrupt is registered now
    have uninitialised := (load_places m _ within .requestIrq next).1 rfl
    have registered := (initialised e member).1
    rw [RegisteredInitialised, held] at registered
    have tasklet : e.source.held.tasklet = true := (registered rfl).1
    cases tasklet.symm.trans uninitialised
  · intro unregistered e member
    obtain ⟨free, alone⟩ := idle_until_registered path unregistered e member
    refine ⟨?_, ?_⟩
    · intro registered
      rw [free] at registered
      cases registered
    · unfold UsesInitialised
      cases act : e.act with
      | proceed | fail => trivial
      | occur x => exact absurd act (alone x)

end Runs

/-- A load of `16_fasync`, and an edge right after `request_irq`. -/
def edgeAfterRequestIrq : List (Platform.Act Occurrence) :=
  [.proceed, .proceed, .proceed, .proceed, .proceed, .proceed, .occur .edge]

theorem load_initialised_iff_edgeAfterRequestIrq :
    let es := (platform.machine Answer).trace (loading (.chrdev .fasync)) edgeAfterRequestIrq
    ((∀ e ∈ es, RegisteredInitialised e.target ∧ UsesInitialised (.chrdev .fasync) e) ↔
        ∀ e ∈ es, ¬ RegistersIrq e) ∧
      ((∀ e ∈ es, EdgeWhenReady (.chrdev .fasync) e) →
        ∀ e ∈ es, UsesInitialised (.chrdev .fasync) e) :=
  load_initialised_iff (Machine.path_trace _ _ _)

/-- `key_interrupt_handler` schedules a tasklet that nobody has initialised. -/
theorem edge_schedules_uninitialised_tasklet :
    ∃ (es : List LifeEvent) (e : LifeEvent) (u : LifeState),
      (platform.machine Answer).Path (loading (.chrdev .fasync)) es u ∧ e ∈ es ∧
        e.act = .occur .edge ∧ e.source.held.irq = true ∧ e.source.held.tasklet = false ∧
        ¬ RegisteredInitialised e.target ∧ ¬ UsesInitialised (.chrdev .fasync) e := by
  let es := (platform.machine Answer).trace (loading (.chrdev .fasync)) edgeAfterRequestIrq
  refine ⟨es, es[6], _, Machine.path_trace _ _ edgeAfterRequestIrq, List.getElem_mem _, rfl, rfl,
    rfl, ?_, ?_⟩
  · intro initialised
    cases (initialised rfl).1
  · intro initialised
    cases initialised

end LearningKernel.Key
