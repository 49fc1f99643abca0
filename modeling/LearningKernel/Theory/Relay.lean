/-
# Theory.Relay -- a value sampled behind stages that coalesce

A source changes at any time, and each change raises the first of some stages.  A
stage is raised or not, however often it has been raised: when it is entered the
mark goes, and later in its run it raises the next stage or, if it has none,
samples the source; the sample is stored later still.  Each stage runs once at a
time, any number of stages at once.

`sink_knows`: once something has been stored, the store knows the present value of
the source whenever no stage is raised or entered, and no sample waits.  The
invariant is that a difference is always still on its way: a stage is raised or
has not passed on (`State.Live`), or the sample is the present value.
-/
import LearningKernel.Theory.Machine
import Mathlib.Logic.Function.Basic

namespace LearningKernel.Theory

set_option autoImplicit false

universe u v w x

/-- Stages `ι` between a source of values `V` and a store `δ`, which also others use. -/
structure Relay (ι : Type u) (V : Type v) (δ : Type w) (ε : Type x) where
  first : ι
  /-- what a stage raises; the last stage samples -/
  next : ι → Option ι
  put : δ → V → δ
  use : ε → δ → δ

namespace Relay

variable {ι : Type u} {V : Type v} {δ : Type w} {ε : Type x}

inductive Phase where
  | idle
  | entered
  | passed
  deriving DecidableEq

structure State (ι : Type u) (V : Type v) (δ : Type w) where
  source : V
  raised : ι → Bool
  phase : ι → Phase
  sample : Option V
  store : δ

/-- Nothing on its way. -/
def State.still (ι : Type u) (source : V) (store : δ) : State ι V δ :=
  { source := source, raised := fun _ => false, phase := fun _ => .idle, sample := none,
    store := store }

inductive Act (ι : Type u) (V : Type v) (ε : Type x) where
  | change (v : V)
  | enter (i : ι)
  | pass (i : ι)
  | store
  | leave (i : ι)
  | use (x : ε)
  deriving DecidableEq

variable [DecidableEq ι]

def step (R : Relay ι V δ ε) (s : State ι V δ) : Act ι V ε → Option (Unit × State ι V δ)
  | .change v => some ((), { s with source := v, raised := Function.update s.raised R.first true })
  | .enter i =>
      if s.raised i ∧ s.phase i = .idle then
        some ((), { s with
          raised := Function.update s.raised i false
          phase := Function.update s.phase i .entered })
      else none
  | .pass i =>
      if s.phase i = .entered then
        let s := { s with phase := Function.update s.phase i .passed }
        match R.next i with
        | some j => some ((), { s with raised := Function.update s.raised j true })
        | none => some ((), { s with sample := some s.source })
      else none
  | .store =>
      match s.sample with
      | some v => some ((), { s with sample := none, store := R.put s.store v })
      | none => none
  | .leave i =>
      -- the last stage stores its sample first
      if s.phase i = .passed ∧ ((R.next i).isSome ∨ s.sample.isNone) then
        some ((), { s with phase := Function.update s.phase i .idle })
      else none
  | .use x => some ((), { s with store := R.use x s.store })

def machine (R : Relay ι V δ ε) : Machine (State ι V δ) (Act ι V ε) Unit := ⟨R.step⟩

abbrev RelayEvent (ι : Type u) (V : Type v) (δ : Type w) (ε : Type x) :=
  Event (State ι V δ) (Act ι V ε) Unit

/-- A stage is raised, or entered and has not passed on. -/
def State.Live (s : State ι V δ) : Prop := ∃ i, s.raised i = true ∨ s.phase i = .entered

/-- No stage is live, and no sample waits to be stored. -/
def State.Still (s : State ι V δ) : Prop :=
  (∀ i, s.raised i = false ∧ s.phase i ≠ .entered) ∧ s.sample = none

variable {R : Relay ι V δ ε}

/-- The cases of one step, for what is on its way. -/
inductive Turns (R : Relay ι V δ ε) (e : RelayEvent ι V δ ε) : Prop where
  | raised (other : e.act ≠ .store) (live : e.target.Live)
  | sampled (other : e.act ≠ .store) (sample : e.target.sample = some e.target.source)
  | stored (v : V) (waiting : e.source.sample = some v) (sample : e.target.sample = none)
      (source : e.target.source = e.source.source) (live : e.source.Live → e.target.Live)
      (store : e.target.store = R.put e.source.store v)
  | kept (other : e.act ≠ .store) (sample : e.target.sample = e.source.sample)
      (source : e.target.source = e.source.source) (live : e.source.Live → e.target.Live)
      (store : e.target.store = e.source.store ∨ ∃ x, e.target.store = R.use x e.source.store)

/-- Leaving a stage takes nothing from what is on its way. -/
theorem State.Live.leave {s : State ι V δ} (live : s.Live) {i : ι} (passed : s.phase i = .passed) :
    State.Live { s with phase := Function.update s.phase i .idle } := by
  obtain ⟨j, raised | entered⟩ := live
  · exact ⟨j, Or.inl raised⟩
  · have other : j ≠ i := by
      rintro rfl
      rw [entered] at passed
      cases passed
    refine ⟨j, Or.inr ?_⟩
    show Function.update s.phase i .idle j = .entered
    rw [Function.update_of_ne other]
    exact entered

theorem turns_of_takes {e : RelayEvent ι V δ ε} (taken : R.machine.Takes e) : R.Turns e := by
  obtain ⟨s, act, ⟨⟩, t⟩ := e
  simp only [Machine.Takes, machine] at taken
  cases act with
  | change v =>
      cases taken
      exact .raised nofun ⟨R.first, Or.inl (Function.update_self _ _ _)⟩
  | enter i =>
      simp only [step] at taken
      split at taken
      · cases taken
        exact .raised nofun ⟨i, Or.inr (Function.update_self _ _ _)⟩
      · cases taken
  | pass i =>
      simp only [step] at taken
      split at taken
      · split at taken
        · rename_i j next
          cases taken
          exact .raised nofun ⟨j, Or.inl (Function.update_self _ _ _)⟩
        · cases taken
          exact .sampled nofun rfl
      · cases taken
  | store =>
      simp only [step] at taken
      split at taken
      · rename_i v waiting
        cases taken
        exact .stored v waiting rfl rfl id rfl
      · cases taken
  | leave i =>
      simp only [step] at taken
      split at taken
      · rename_i here
        cases taken
        exact .kept nofun rfl rfl (fun live => live.leave here.1) (Or.inl rfl)
      · cases taken
  | use x =>
      cases taken
      exact .kept nofun rfl rfl id (Or.inr ⟨x, rfl⟩)

/-- A sample that waits is the present value, or a difference is on its way. -/
def State.Sampled (s : State ι V δ) : Prop := s.Live ∨ ∀ v, s.sample = some v → v = s.source

/-- What is stored is the present value, or a sample or a difference is on its way. -/
def State.Known (K : δ → V → Prop) (s : State ι V δ) : Prop :=
  s.Live ∨ s.sample ≠ none ∨ K s.store s.source

omit [DecidableEq ι] in
theorem Turns.sampled_target {e : RelayEvent ι V δ ε} (turns : R.Turns e)
    (before : e.source.Sampled) : e.target.Sampled := by
  cases turns with
  | raised other live => exact Or.inl live
  | sampled other sample =>
      right
      intro v waiting
      rw [sample] at waiting
      exact (Option.some.inj waiting).symm
  | stored v waiting sample source live store =>
      right
      intro v' waiting'
      rw [sample] at waiting'
      cases waiting'
  | kept other sample source live store =>
      rcases before with was | present
      · exact Or.inl (live was)
      · right
        rw [sample, source]
        exact present

section Knowing

variable {K : δ → V → Prop}

omit [DecidableEq ι] in
/-- A store makes it known, whatever was known before. -/
theorem Turns.known_of_store {e : RelayEvent ι V δ ε} (turns : R.Turns e)
    (stores : ∀ store v, K (R.put store v) v) (act : e.act = .store)
    (before : e.source.Sampled) : e.target.Known K := by
  cases turns with
  | stored v waiting sample source live store =>
      rcases before with was | present
      · exact Or.inl (live was)
      · right
        right
        rw [store, source, ← present v waiting]
        exact stores _ _
  | raised other | sampled other | kept other => exact absurd act other

omit [DecidableEq ι] in
theorem Turns.known {e : RelayEvent ι V δ ε} (turns : R.Turns e)
    (stores : ∀ store v, K (R.put store v) v)
    (uses : ∀ x store v, K store v → K (R.use x store) v)
    (sampled : e.source.Sampled) (before : e.source.Known K) : e.target.Known K := by
  cases turns with
  | raised other live => exact Or.inl live
  | sampled other sample =>
      right
      left
      rw [sample]
      exact Option.some_ne_none _
  | stored v waiting sample source live store =>
      rcases sampled with was | present
      · exact Or.inl (live was)
      · right
        right
        rw [store, source, ← present v waiting]
        exact stores _ _
  | kept other sample source live store =>
      rcases before with was | waiting | known
      · exact Or.inl (live was)
      · right
        left
        rw [sample]
        exact waiting
      · right
        right
        rw [source]
        rcases store with same | ⟨x, used⟩
        · rw [same]
          exact known
        · rw [used]
          exact uses x _ _ known

variable {s u : State ι V δ} {es : List (RelayEvent ι V δ ε)}

/-- **The store knows the source.**  Once something has been stored, it does so
whenever nothing is on its way. -/
theorem sink_knows (stores : ∀ store v, K (R.put store v) v)
    (uses : ∀ x store v, K store v → K (R.use x store) v)
    (path : R.machine.Path s es u) (start : s.Sampled) (stored : ∃ e ∈ es, e.act = .store)
    (still : u.Still) : K u.store u.source := by
  obtain ⟨e, member, act⟩ := stored
  obtain ⟨before, after, rfl⟩ := List.append_of_mem member
  obtain ⟨front, taken, rest⟩ := path.split
  have turns : R.Turns e := turns_of_takes taken
  have sampled : e.source.Sampled :=
    (front.invariant (fun d step held => (turns_of_takes step).sampled_target held) start).1
  have held : e.target.Sampled ∧ e.target.Known K :=
    ⟨turns.sampled_target sampled, turns.known_of_store stores act sampled⟩
  have final := (rest.invariant (I := fun s => s.Sampled ∧ s.Known K) (fun d step held =>
    ⟨(turns_of_takes step).sampled_target held.1,
      (turns_of_takes step).known stores uses held.1 held.2⟩) held).1
  rcases final.2 with ⟨i, raised | entered⟩ | waiting | known
  · rw [(still.1 i).1] at raised
    cases raised
  · exact absurd entered (still.1 i).2
  · exact absurd still.2 waiting
  · exact known

end Knowing

end Relay

end LearningKernel.Theory
