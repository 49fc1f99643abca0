/-
# Theory.Loads -- a driver loaded and unloaded again and again

Each load is one execution of a script, any of whose fallible calls may fail; what
its answer leaves loaded is served until it is unloaded.  A state is the list of
all calls so far and what is loaded.

`balanced`: if the calls of each load of a good kind acquire exactly what is then
loaded, those that serve keep it and those that unload release it, then the whole
list of calls is grounded and holds exactly what is loaded.
-/
import LearningKernel.Theory.Ledger
import LearningKernel.Theory.Outcome

namespace LearningKernel.Theory

set_option autoImplicit false

universe u

/-- A driver with calls `κ`: what the environment gives a load (`π`), what a load
answers (`α`), what it leaves loaded (`ℓ`), and what is asked of it then (`ε`). -/
structure Loadable (κ π α ℓ ε : Type u) where
  load : π → Script κ α
  loaded : π → α → Option ℓ
  serve : ℓ → ε → List κ
  unload : ℓ → List κ

namespace Loadable

variable {κ π α ℓ ε : Type u}

structure State (κ ℓ : Type u) where
  log : List κ
  loaded : Option ℓ

/-- Nothing called yet. -/
def fresh : State κ ℓ := { log := [], loaded := none }

inductive Act (π ε : Type u) where
  /-- `fails n` if the `n`-th fallible call made fails -/
  | load (p : π) (fails : Nat → Bool)
  | serve (x : ε)
  | unload

/-- The observation is what a load answers. -/
def step (D : Loadable κ π α ℓ ε) (s : State κ ℓ) : Act π ε → Option (Option α × State κ ℓ)
  | .load p fails =>
      match s.loaded with
      | some _ => none
      | none =>
          let result := (D.load p).exec fails
          some (some result.2, { log := s.log ++ result.1, loaded := D.loaded p result.2 })
  | .serve x =>
      match s.loaded with
      | some l => some (none, { s with log := s.log ++ D.serve l x })
      | none => none
  | .unload =>
      match s.loaded with
      | some l => some (none, { log := s.log ++ D.unload l, loaded := none })
      | none => none

def machine (D : Loadable κ π α ℓ ε) : Machine (State κ ℓ) (Act π ε) (Option α) := ⟨D.step⟩

abbrev LoadEvent (κ π α ℓ ε : Type u) := Event (State κ ℓ) (Act π ε) (Option α)

variable {D : Loadable κ π α ℓ ε}

/-- The cases of one step. -/
inductive Turns (D : Loadable κ π α ℓ ε) (e : LoadEvent κ π α ℓ ε) : Prop where
  | loads (p : π) (fails : Nat → Bool) (act : e.act = .load p fails) (free : e.source.loaded = none)
      (out : e.out = some ((D.load p).exec fails).2)
      (log : e.target.log = e.source.log ++ ((D.load p).exec fails).1)
      (loaded : e.target.loaded = D.loaded p ((D.load p).exec fails).2)
  | serves (x : ε) (l : ℓ) (act : e.act = .serve x) (here : e.source.loaded = some l)
      (log : e.target.log = e.source.log ++ D.serve l x) (loaded : e.target.loaded = some l)
  | unloads (l : ℓ) (act : e.act = .unload) (here : e.source.loaded = some l)
      (log : e.target.log = e.source.log ++ D.unload l) (loaded : e.target.loaded = none)

theorem turns_of_takes {e : LoadEvent κ π α ℓ ε} (taken : D.machine.Takes e) : D.Turns e := by
  obtain ⟨s, act, out, t⟩ := e
  simp only [Machine.Takes, machine] at taken
  cases act with
  | load p fails =>
      simp only [step] at taken
      split at taken
      · cases taken
      · rename_i free
        cases taken
        exact .loads p fails rfl free rfl rfl rfl
  | serve x =>
      simp only [step] at taken
      split at taken
      · rename_i l here
        cases taken
        exact .serves x l rfl here rfl here
      · cases taken
  | unload =>
      simp only [step] at taken
      split at taken
      · rename_i l here
        cases taken
        exact .unloads l rfl here rfl rfl
      · cases taken

/-- What a load does. -/
theorem Turns.of_load {e : LoadEvent κ π α ℓ ε} (turns : D.Turns e) {p : π} {fails : Nat → Bool}
    (act : e.act = .load p fails) :
    e.source.loaded = none ∧ e.out = some ((D.load p).exec fails).2 ∧
      e.target.log = e.source.log ++ ((D.load p).exec fails).1 ∧
        e.target.loaded = D.loaded p ((D.load p).exec fails).2 := by
  cases turns with
  | loads p' fails' act' free out log loaded =>
      rw [act] at act'
      cases act'
      exact ⟨free, out, log, loaded⟩
  | serves x l act' | unloads l act' =>
      rw [act] at act'
      cases act'

section Balance

variable {ρ : Type u} [DecidableEq ρ]

/-- What the loaded driver is to hold. -/
def due (full : ℓ → List ρ) : Option ℓ → List ρ
  | some l => full l
  | none => []

/-- All calls so far are grounded, and hold exactly what is loaded. -/
structure Balanced (effect : κ → Effect ρ) (full : ℓ → List ρ) (s : State κ ℓ) : Prop where
  grounded : Effect.Grounded effect [] s.log
  holds : Effect.held effect [] s.log = due full s.loaded

variable {effect : κ → Effect ρ} {full : ℓ → List ρ}

/-- A balanced state after grounded calls that acquire what is then loaded. -/
theorem Balanced.after {s t : State κ ℓ} (balanced : Balanced effect full s) {ks : List κ}
    (log : t.log = s.log ++ ks) (grounded : Effect.Grounded effect (due full s.loaded) ks)
    (holds : Effect.held effect (due full s.loaded) ks = due full t.loaded) :
    Balanced effect full t where
  grounded := by
    rw [log, Effect.grounded_append, balanced.holds]
    exact ⟨balanced.grounded, grounded⟩
  holds := by
    rw [log, Effect.held_append, balanced.holds]
    exact holds

/-- How a driver has to deal with what it holds. -/
structure Keeps (D : Loadable κ π α ℓ ε) (effect : κ → Effect ρ) (full : ℓ → List ρ)
    (good : π → (Nat → Bool) → Prop) : Prop where
  load : ∀ p fails, good p fails →
    Effect.Grounded effect [] ((D.load p).exec fails).1 ∧
      Effect.held effect [] ((D.load p).exec fails).1 =
        due full (D.loaded p ((D.load p).exec fails).2)
  serve : ∀ l x, Effect.Grounded effect (full l) (D.serve l x) ∧
    Effect.held effect (full l) (D.serve l x) = full l
  unload : ∀ l, Effect.Grounded effect (full l) (D.unload l) ∧
    Effect.held effect (full l) (D.unload l) = []

/-- Each load of the event is of the good kind. -/
def Loads (good : π → (Nat → Bool) → Prop) (e : LoadEvent κ π α ℓ ε) : Prop :=
  ∀ p fails, e.act = .load p fails → good p fails

variable {good : π → (Nat → Bool) → Prop}

theorem Turns.balanced {e : LoadEvent κ π α ℓ ε} (turns : D.Turns e)
    (keeps : D.Keeps effect full good) (loads : Loads good e)
    (before : Balanced effect full e.source) : Balanced effect full e.target := by
  cases turns with
  | loads p fails act free out log loaded =>
      have kept := keeps.load p fails (loads p fails act)
      refine before.after log ?_ ?_
      · rw [free]
        exact kept.1
      · rw [free, loaded]
        exact kept.2
  | serves x l act here log loaded =>
      have kept := keeps.serve l x
      refine before.after log ?_ ?_
      · rw [here]
        exact kept.1
      · rw [here, loaded]
        exact kept.2
  | unloads l act here log loaded =>
      have kept := keeps.unload l
      refine before.after log ?_ ?_
      · rw [here]
        exact kept.1
      · rw [here, loaded]
        exact kept.2

/-- The fresh driver. -/
theorem balanced_fresh : Balanced effect full (fresh : State κ ℓ) := ⟨trivial, rfl⟩

/-- **The run rule of loads.** -/
theorem balanced {es : List (LoadEvent κ π α ℓ ε)} {u : State κ ℓ}
    (path : D.machine.Path fresh es u) (keeps : D.Keeps effect full good)
    (loads : ∀ e ∈ es, Loads good e) :
    Balanced effect full u ∧ ∀ e ∈ es, D.Turns e ∧
      Balanced effect full e.source ∧ Balanced effect full e.target := by
  have run := path.keeps (C := Loads good) (I := Balanced effect full)
    (fun e taken good before => (turns_of_takes taken).balanced keeps good before) loads balanced_fresh
  refine ⟨run.1, ?_⟩
  intro e member
  obtain ⟨taken, before, after⟩ := run.2 e member
  exact ⟨turns_of_takes taken, before, after⟩

end Balance

end Loadable

end LearningKernel.Theory
