/-
# Theory.Machine -- labelled machines, their paths, and what holds along them

A `Machine` is a partial step function: an action is refused in a state, or it
yields an observation and the next state.  Every choice that is not the
program's own (who moves next, which fault the environment picks) is part of the
action, so a machine is deterministic and can be evaluated.

A `Path` records each step it takes as an `Event` with both end states.  A law
about a run is then a law about the members of a list, and a law about "what
happened so far" is a law about the part of the list before an event.

* `Path.keeps`: an invariant of the steps that meet `C` holds at the end of a
  path whose events all meet `C`, and on both sides of each of its events;
* `Path.forces`: where the invariant and another condition on an event give `C`, so
  does that condition on all events of a path;
* `Path.history`: the same for an invariant that also reads the past events;
* `Path.along`: the same where the condition on an event reads the past events too;
* `Path.refine`: a path of a machine whose steps are steps of another, as a path of that one;
  `Path.project` where this needs no invariant;
* `StaysUntil`: `p` holds until an event of kind `q`; `Path.staysUntil` gets it
  from single steps, `StaysUntil.at_event` reads it at a later event.
-/
import Mathlib.Data.List.Induction
import Mathlib.Tactic.Common

namespace LearningKernel.Theory

set_option autoImplicit false

universe u v w

/-- One step as it was taken: the state it left, the action, what could be
observed, and the state it reached. -/
structure Event (σ : Type u) (α : Type v) (β : Type w) where
  source : σ
  act : α
  out : β
  target : σ

/-- A deterministic machine whose actions may be disabled. -/
structure Machine (σ : Type u) (α : Type v) (β : Type w) where
  step : σ → α → Option (β × σ)

namespace Machine

variable {σ : Type u} {α : Type v} {β : Type w} (M : Machine σ α β)

/-- The event is a step of the machine. -/
def Takes (e : Event σ α β) : Prop :=
  M.step e.source e.act = some (e.out, e.target)

/-- The events lead from one state to another, each starting where the last ended. -/
inductive Path : σ → List (Event σ α β) → σ → Prop
  | nil (s : σ) : Path s [] s
  | cons {s u : σ} {e : Event σ α β} {es : List (Event σ α β)}
      (here : e.source = s) (taken : M.Takes e) (rest : Path e.target es u) :
      Path s (e :: es) u

variable {M}

theorem path_cons_iff {s u : σ} {e : Event σ α β} {es : List (Event σ α β)} :
    M.Path s (e :: es) u ↔ e.source = s ∧ M.Takes e ∧ M.Path e.target es u := by
  constructor
  · intro path
    cases path with
    | cons here taken rest => exact ⟨here, taken, rest⟩
  · rintro ⟨here, taken, rest⟩
    exact .cons here taken rest

@[simp] theorem path_nil_iff {s u : σ} : M.Path s [] u ↔ s = u := by
  constructor
  · intro path
    cases path
    rfl
  · rintro rfl
    exact .nil s

theorem path_append_iff {s u : σ} {es fs : List (Event σ α β)} :
    M.Path s (es ++ fs) u ↔ ∃ m, M.Path s es m ∧ M.Path m fs u := by
  induction es generalizing s with
  | nil => simp
  | cons e es ih =>
      simp only [List.cons_append, path_cons_iff, ih]
      constructor
      · rintro ⟨here, taken, m, front, back⟩
        exact ⟨m, ⟨here, taken, front⟩, back⟩
      · rintro ⟨m, ⟨here, taken, front⟩, back⟩
        exact ⟨here, taken, m, front, back⟩

theorem path_concat_iff {s u : σ} {es : List (Event σ α β)} {e : Event σ α β} :
    M.Path s (es ++ [e]) u ↔ M.Path s es e.source ∧ M.Takes e ∧ e.target = u := by
  simp only [path_append_iff, path_cons_iff, path_nil_iff]
  constructor
  · rintro ⟨m, front, rfl, taken, done⟩
    exact ⟨front, taken, done⟩
  · rintro ⟨front, taken, done⟩
    exact ⟨e.source, front, rfl, taken, done⟩

/-- A path through a given event, cut at that event. -/
theorem Path.split {s u : σ} {es fs : List (Event σ α β)} {e : Event σ α β}
    (path : M.Path s (es ++ e :: fs) u) :
    M.Path s es e.source ∧ M.Takes e ∧ M.Path e.target fs u := by
  obtain ⟨m, front, back⟩ := path_append_iff.1 path
  obtain ⟨rfl, taken, rest⟩ := path_cons_iff.1 back
  exact ⟨front, taken, rest⟩

/-- The events of executing `as`, up to the first refused action. -/
def trace (M : Machine σ α β) : σ → List α → List (Event σ α β)
  | _, [] => []
  | s, a :: as =>
      match M.step s a with
      | none => []
      | some (b, t) => ⟨s, a, b, t⟩ :: trace M t as

/-- The state that execution ends in. -/
def final (M : Machine σ α β) : σ → List α → σ
  | s, [] => s
  | s, a :: as =>
      match M.step s a with
      | none => s
      | some (_, t) => final M t as

theorem path_trace (M : Machine σ α β) (s : σ) (as : List α) :
    M.Path s (M.trace s as) (M.final s as) := by
  induction as generalizing s with
  | nil => exact .nil s
  | cons a as ih =>
      unfold trace final
      split
      · exact .nil s
      · rename_i b t taken
        exact .cons rfl taken (ih t)

section Invariants

variable {C : Event σ α β → Prop} {s u : σ} {es : List (Event σ α β)}

/-- **The run rule.**  What single steps of kind `C` keep holds at the end of a
path made of such steps, and on both sides of every event of it. -/
theorem Path.keeps {I : σ → Prop}
    (step : ∀ e, M.Takes e → C e → I e.source → I e.target)
    (path : M.Path s es u) (within : ∀ e ∈ es, C e) (start : I s) :
    I u ∧ ∀ e ∈ es, M.Takes e ∧ I e.source ∧ I e.target := by
  induction path with
  | nil s => exact ⟨start, by simp⟩
  | @cons s u e es here taken rest ih =>
      subst here
      have after : I e.target := step e taken (within e (by simp)) start
      obtain ⟨final, along⟩ := ih (fun d member => within d (by simp [member])) after
      refine ⟨final, ?_⟩
      intro d member
      rcases List.mem_cons.1 member with rfl | member
      · exact ⟨taken, start, after⟩
      · exact along d member

/-- The run rule for an invariant of every step. -/
theorem Path.invariant {I : σ → Prop} (step : ∀ e, M.Takes e → I e.source → I e.target)
    (path : M.Path s es u) (start : I s) :
    I u ∧ ∀ e ∈ es, M.Takes e ∧ I e.source ∧ I e.target :=
  path.keeps (C := fun _ => True) (fun e taken _ => step e taken) (fun _ _ => trivial) start

theorem Path.takes (path : M.Path s es u) : ∀ e ∈ es, M.Takes e := fun e member =>
  ((path.invariant (I := fun _ => True) (fun _ _ _ => trivial) trivial).2 e member).1

/-- If steps of kind `C` keep an invariant, and from it each step of kind `P` has to be of
kind `C`, then a path of steps of kind `P` is one of steps of kind `C`. -/
theorem Path.forces {P : Event σ α β → Prop} {I : σ → Prop}
    (step : ∀ e, M.Takes e → C e → I e.source → I e.target)
    (forced : ∀ e, M.Takes e → I e.source → P e → C e)
    (path : M.Path s es u) (start : I s) (holds : ∀ e ∈ es, P e) : ∀ e ∈ es, C e := by
  induction path with
  | nil s => nofun
  | @cons s u e es here taken rest ih =>
      subst here
      have first : C e := forced e taken start (holds e (by simp))
      have later := ih (step e taken first start) fun d member => holds d (by simp [member])
      intro d member
      rcases List.mem_cons.1 member with rfl | member
      · exact first
      · exact later d member

/-- The run rule for an invariant that reads the events so far: the induction is
on the path's length, from its last event. -/
theorem Path.history {J : List (Event σ α β) → σ → Prop} (start : J [] s)
    (step : ∀ es e, M.Path s es e.source → M.Takes e → C e → J es e.source → J (es ++ [e]) e.target)
    (path : M.Path s es u) (within : ∀ e ∈ es, C e) : J es u := by
  induction es using List.reverseRecOn generalizing u with
  | nil =>
      obtain rfl := path_nil_iff.1 path
      exact start
  | append_singleton es e ih =>
      obtain ⟨front, taken, rfl⟩ := path_concat_iff.1 path
      have before := ih front (fun d member => within d (by simp [member]))
      exact step es e front taken (within e (by simp)) before

/-- The run rule for an invariant that reads the events so far, of steps that meet a
condition on their past. -/
theorem Path.along {D : List (Event σ α β) → Event σ α β → Prop}
    {J : List (Event σ α β) → σ → Prop} (start : J [] s)
    (step : ∀ es e, M.Takes e → D es e → J es e.source → J (es ++ [e]) e.target)
    (path : M.Path s es u) (within : ∀ before e after, es = before ++ e :: after → D before e) :
    J es u ∧ ∀ before e after, es = before ++ e :: after →
      M.Takes e ∧ J before e.source ∧ J (before ++ [e]) e.target := by
  have final : ∀ {fs gs v}, M.Path s fs v → es = fs ++ gs → J fs v := by
    intro fs gs v front
    induction fs using List.reverseRecOn generalizing gs v with
    | nil =>
        intro _
        obtain rfl := path_nil_iff.1 front
        exact start
    | append_singleton fs e ih =>
        intro cut
        obtain ⟨earlier, taken, rfl⟩ := path_concat_iff.1 front
        have here : es = fs ++ e :: gs := by rw [cut, List.append_assoc, List.singleton_append]
        exact step fs e taken (within fs e gs here) (ih earlier here)
  refine ⟨final path (List.append_nil es).symm, ?_⟩
  intro before e after cut
  obtain ⟨front, taken, -⟩ := Path.split (cut ▸ path)
  have source := final front cut
  exact ⟨taken, source, step before e taken (within before e after cut) source⟩

end Invariants

section Projection

universe u' v' w'

variable {σ' : Type u'} {α' : Type v'} {β' : Type w'} {N : Machine σ' α' β'}
  {π : σ → σ'} {f : Event σ α β → Option (Event σ' α' β')}

/-- If each step from a state that meets the invariant is a step of `N`, seen through `π` and
`f`, or none at all, then the path is a path of `N`. -/
theorem Path.refine {I : σ → Prop} (keeps : ∀ e, M.Takes e → I e.source → I e.target)
    (step : ∀ e, M.Takes e → I e.source → (f e = none ∧ π e.target = π e.source) ∨
      ∃ d, f e = some d ∧ N.Takes d ∧ d.source = π e.source ∧ d.target = π e.target)
    {s u : σ} {es : List (Event σ α β)} (path : M.Path s es u) (start : I s) :
    N.Path (π s) (es.filterMap f) (π u) := by
  induction path with
  | nil s => exact .nil (π s)
  | @cons s u e es here taken rest ih =>
      subst here
      have later := ih (keeps e taken start)
      rcases step e taken start with ⟨nothing, same⟩ | ⟨d, seen, taken', source, target⟩
      · rw [List.filterMap_cons, nothing, ← same]
        exact later
      · rw [List.filterMap_cons, seen]
        exact .cons source taken' (target ▸ later)

/-- The same for steps from any state. -/
theorem Path.project
    (step : ∀ e, M.Takes e → (f e = none ∧ π e.target = π e.source) ∨
      ∃ d, f e = some d ∧ N.Takes d ∧ d.source = π e.source ∧ d.target = π e.target)
    {s u : σ} {es : List (Event σ α β)} (path : M.Path s es u) :
    N.Path (π s) (es.filterMap f) (π u) :=
  path.refine (I := fun _ => True) (fun _ _ _ => trivial) (fun e taken _ => step e taken) trivial

end Projection

end Machine

/-! ## Until -/

section Until

variable {σ : Type u} {α : Type v} {β : Type w}

/-- Reading the events from a state where `p` holds: each event leaves `p`
holding, up to the first event of kind `q`, if there is one. -/
def StaysUntil (p : σ → Prop) (q : Event σ α β → Prop) : List (Event σ α β) → Prop
  | [] => True
  | e :: es => q e ∨ (p e.target ∧ StaysUntil p q es)

variable {M : Machine σ α β} {p : σ → Prop} {q : Event σ α β → Prop}
  {s u : σ} {es : List (Event σ α β)}

theorem Machine.Path.staysUntil {C : Event σ α β → Prop}
    (step : ∀ e, M.Takes e → C e → p e.source → q e ∨ p e.target)
    (path : M.Path s es u) (within : ∀ e ∈ es, C e) (start : p s) : StaysUntil p q es := by
  induction path with
  | nil s => trivial
  | @cons s u e es here taken rest ih =>
      subst here
      rcases step e taken (within e (by simp)) start with discharged | stays
      · exact Or.inl discharged
      · exact Or.inr ⟨stays, ih (fun d member => within d (by simp [member])) stays⟩

/-- Until, read at the first event that could be a discharge. -/
theorem StaysUntil.at_event {fs : List (Event σ α β)} {e : Event σ α β}
    (stays : StaysUntil p q (es ++ e :: fs)) (quiet : ∀ d ∈ es, ¬ q d) : q e ∨ p e.target := by
  induction es with
  | nil =>
      rcases stays with discharged | ⟨still, -⟩
      · exact Or.inl discharged
      · exact Or.inr still
  | cons d es ih =>
      rcases stays with discharged | ⟨-, rest⟩
      · exact absurd discharged (quiet d (by simp))
      · exact ih rest (fun d' member => quiet d' (by simp [member]))

end Until

end LearningKernel.Theory
