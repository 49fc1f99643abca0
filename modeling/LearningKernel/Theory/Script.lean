/-
# Theory.Script -- set-up and tear-down code among asynchronous agents

A `Script` is code as drivers write it for loading and unloading: calls in a row,
some of which may fail and then continue elsewhere.  A `Platform` says what each
call does to the objects the code holds, what it does to the activity in flight
(or that it has to wait for it), and what may happen by itself.

What is held depends on the script's own calls alone.  So the places of a run, a
place being what is held and what is left of the script, are among the finitely
many `places` of the script, whatever happens in between (`mem_places`).  A fact
about all places is decided once; an invariant of the activity then only has to
be kept by each call at its places and by each occurrence (`keeps`).
-/
import LearningKernel.Theory.Machine

namespace LearningKernel.Theory

set_option autoImplicit false

universe u v w

/-- Straight-line code over calls `κ`, answering in `ρ`. -/
inductive Script (κ : Type u) (ρ : Type v) where
  | ret (answer : ρ)
  /-- a call that cannot fail -/
  | call (k : κ) (next : Script κ ρ)
  /-- a call that may fail -/
  | attempt (k : κ) (next fail : Script κ ρ)
  deriving DecidableEq

namespace Script

variable {κ : Type u} {ρ : Type v} {σ : Type w}

/-- The call that the script makes next. -/
def next? : Script κ ρ → Option κ
  | ret _ => none
  | call k _ | attempt k _ _ => some k

/-- Where the script continues if its next call fails. -/
def fail? : Script κ ρ → Option (Script κ ρ)
  | attempt _ _ fail => some fail
  | ret _ | call _ _ => none

/-- What the script has answered. -/
def answer? : Script κ ρ → Option ρ
  | ret answer => some answer
  | call _ _ | attempt _ _ _ => none

/-- The script after its next call. -/
def proceed : Script κ ρ → Script κ ρ
  | ret answer => ret answer
  | call _ next | attempt _ next _ => next

/-- Calls that cannot fail, one after the other. -/
def calls (ks : List κ) (script : Script κ ρ) : Script κ ρ :=
  ks.foldr call script

/-- What may be held at each point of the script, with what is left of it there. -/
def places (own : κ → σ → σ) : Script κ ρ → σ → List (σ × Script κ ρ)
  | ret answer, held => [(held, ret answer)]
  | call k next, held => (held, call k next) :: places own next (own k held)
  | attempt k next fail, held =>
      (held, attempt k next fail) :: (places own next (own k held) ++ places own fail held)

variable {own : κ → σ → σ}

theorem start_mem_places (script : Script κ ρ) (held : σ) :
    (held, script) ∈ places own script held := by
  cases script <;> simp [places]

/-- The places after a place are places. -/
theorem places_trans {script : Script κ ρ} {held : σ} {p : σ × Script κ ρ}
    (member : p ∈ places own script held) :
    ∀ q ∈ places own p.2 p.1, q ∈ places own script held := by
  induction script generalizing held with
  | ret answer =>
      simp only [places, List.mem_singleton] at member
      subst member
      simp [places]
  | call k next ih =>
      intro q after
      rcases List.mem_cons.1 member with rfl | later
      · exact after
      · exact List.mem_cons_of_mem _ (ih later q after)
  | attempt k next fail ihNext ihFail =>
      intro q after
      rcases List.mem_cons.1 member with rfl | later
      · exact after
      · refine List.mem_cons_of_mem _ (List.mem_append.2 ?_)
        rcases List.mem_append.1 later with proceeds | fails
        · exact Or.inl (ihNext proceeds q after)
        · exact Or.inr (ihFail fails q after)

theorem proceed_mem_places {script : Script κ ρ} {k : κ} (next : script.next? = some k)
    (held : σ) : (own k held, script.proceed) ∈ places own script held := by
  cases script with
  | ret answer => cases next
  | call k' rest =>
      cases next
      exact List.mem_cons_of_mem _ (start_mem_places rest _)
  | attempt k' rest fail =>
      cases next
      exact List.mem_cons_of_mem _ (List.mem_append_left _ (start_mem_places rest _))

theorem fail_mem_places (k : κ) (rest fail : Script κ ρ) (held : σ) :
    (held, fail) ∈ places own (attempt k rest fail) held :=
  List.mem_cons_of_mem _ (List.mem_append_right _ (start_mem_places fail held))

end Script

/-- What calls and occurrences `ε` do to what is held, `σ`, and what is in
flight, `δ`. -/
structure Platform (κ ε σ δ : Type) where
  /-- what a call does to what is held -/
  own : κ → σ → σ
  /-- what it does to what is in flight; `none` while it waits -/
  settle : κ → δ → Option δ
  /-- what happens by itself, where it can -/
  occur : ε → σ → δ → Option δ

namespace Platform

variable {κ ε σ δ ρ : Type}

structure State (κ σ δ ρ : Type) where
  held : σ
  flight : δ
  rest : Script κ ρ

inductive Act (ε : Type) where
  | proceed
  | fail
  | occur (x : ε)
  deriving DecidableEq

def step (P : Platform κ ε σ δ) (s : State κ σ δ ρ) : Act ε → Option (Unit × State κ σ δ ρ)
  | .proceed =>
      match s.rest.next? with
      | none => none
      | some k =>
          (P.settle k s.flight).map fun flight =>
            ((), { held := P.own k s.held, flight := flight, rest := s.rest.proceed })
  | .fail =>
      match s.rest with
      | .attempt _ _ fail => some ((), { s with rest := fail })
      | _ => none
  | .occur x =>
      (P.occur x s.held s.flight).map fun flight => ((), { s with flight := flight })

/-- The script, its calls failing at will, among all that may happen. -/
def machine (P : Platform κ ε σ δ) (ρ : Type) : Machine (State κ σ δ ρ) (Act ε) Unit := ⟨P.step⟩

abbrev RunEvent (κ ε σ δ ρ : Type) := Event (State κ σ δ ρ) (Act ε) Unit

variable {P : Platform κ ε σ δ}

/-- The cases of one step. -/
inductive Moves (P : Platform κ ε σ δ) (e : RunEvent κ ε σ δ ρ) : Prop where
  | proceeded (k : κ) (act : e.act = .proceed) (next : e.source.rest.next? = some k)
      (held : e.target.held = P.own k e.source.held)
      (flight : P.settle k e.source.flight = some e.target.flight)
      (rest : e.target.rest = e.source.rest.proceed)
  | failed (k : κ) (next fail : Script κ ρ) (act : e.act = .fail)
      (here : e.source.rest = .attempt k next fail) (held : e.target.held = e.source.held)
      (flight : e.target.flight = e.source.flight) (rest : e.target.rest = fail)
  | occurred (x : ε) (act : e.act = .occur x) (held : e.target.held = e.source.held)
      (flight : P.occur x e.source.held e.source.flight = some e.target.flight)
      (rest : e.target.rest = e.source.rest)

theorem moves_of_takes {e : RunEvent κ ε σ δ ρ} (taken : (P.machine ρ).Takes e) : P.Moves e := by
  obtain ⟨s, act, ⟨⟩, t⟩ := e
  simp only [Machine.Takes, machine] at taken
  cases act with
  | proceed =>
      simp only [step] at taken
      split at taken
      · cases taken
      · rename_i k next
        obtain ⟨flight, settled, same⟩ := Option.map_eq_some_iff.1 taken
        cases same
        exact .proceeded k rfl next rfl settled rfl
  | fail =>
      simp only [step] at taken
      split at taken
      · rename_i k next fail here
        cases taken
        exact .failed k next fail rfl here rfl rfl rfl
      · cases taken
  | occur x =>
      simp only [step] at taken
      obtain ⟨flight, happened, same⟩ := Option.map_eq_some_iff.1 taken
      cases same
      exact .occurred x rfl rfl happened rfl

theorem Moves.of_proceed {e : RunEvent κ ε σ δ ρ} (moves : P.Moves e) (proceeds : e.act = .proceed)
    {k : κ} (next : e.source.rest.next? = some k) :
    e.target.held = P.own k e.source.held ∧ P.settle k e.source.flight = some e.target.flight := by
  cases moves with
  | proceeded k' act next' held flight rest =>
      rw [next] at next'
      cases next'
      exact ⟨held, flight⟩
  | failed k' next fail act | occurred x act =>
      rw [act] at proceeds
      cases proceeds

theorem Moves.of_occur {e : RunEvent κ ε σ δ ρ} (moves : P.Moves e) {x : ε}
    (occurs : e.act = .occur x) :
    e.target.held = e.source.held ∧
      P.occur x e.source.held e.source.flight = some e.target.flight := by
  cases moves with
  | occurred x' act held flight rest =>
      rw [act] at occurs
      cases occurs
      exact ⟨held, flight⟩
  | proceeded k act | failed k next fail act =>
      rw [act] at occurs
      cases occurs

def State.place (s : State κ σ δ ρ) : σ × Script κ ρ := (s.held, s.rest)

/-- A step leads from a place to a place of what is left. -/
theorem Moves.place {e : RunEvent κ ε σ δ ρ} (moves : P.Moves e) :
    e.target.place ∈ e.source.rest.places P.own e.source.held := by
  cases moves with
  | proceeded k act next held flight rest =>
      rw [State.place, held, rest]
      exact Script.proceed_mem_places next _
  | failed k next fail act here held flight rest =>
      rw [State.place, held, rest, here]
      exact Script.fail_mem_places k next fail _
  | occurred x act held flight rest =>
      rw [State.place, held, rest]
      exact Script.start_mem_places _ _

variable {C : RunEvent κ ε σ δ ρ → Prop} {script : Script κ ρ} {held : σ}
  {es : List (RunEvent κ ε σ δ ρ)} {s u : State κ σ δ ρ}

/-- The state is at one of the places of the script. -/
def State.Within (P : Platform κ ε σ δ) (script : Script κ ρ) (held : σ) (s : State κ σ δ ρ) :
    Prop :=
  s.place ∈ script.places P.own held

theorem State.within_self (P : Platform κ ε σ δ) (s : State κ σ δ ρ) : s.Within P s.rest s.held :=
  Script.start_mem_places s.rest s.held

theorem Moves.within {e : RunEvent κ ε σ δ ρ} (moves : P.Moves e)
    (before : e.source.Within P script held) : e.target.Within P script held :=
  Script.places_trans before _ moves.place

/-- **The run rule of scripts.**  An invariant that every step of kind `C` keeps,
where it starts at a place of the script, holds throughout a run of such steps;
and the run keeps to the places. -/
theorem keeps {I : State κ σ δ ρ → Prop}
    (step : ∀ e : RunEvent κ ε σ δ ρ, P.Moves e → C e → e.source.Within P script held →
      I e.source → I e.target)
    (path : (P.machine ρ).Path s es u) (along : ∀ e ∈ es, C e)
    (place : s.Within P script held) (start : I s) :
    I u ∧ ∀ e ∈ es, P.Moves e ∧ e.source.Within P script held ∧ I e.source ∧ I e.target := by
  have run := path.keeps (C := C) (I := fun s => s.Within P script held ∧ I s) ?_ along
    ⟨place, start⟩
  · refine ⟨run.1.2, ?_⟩
    intro e member
    obtain ⟨taken, before, after⟩ := run.2 e member
    exact ⟨moves_of_takes taken, before.1, before.2, after.2⟩
  · rintro e taken here ⟨within, holds⟩
    have moves := moves_of_takes taken
    exact ⟨moves.within within, step e moves here within holds⟩

/-- Every event of a run is a move from a place. -/
theorem within (path : (P.machine ρ).Path s es u) (place : s.Within P script held) :
    ∀ e ∈ es, P.Moves e ∧ e.source.Within P script held := by
  have run := (keeps (C := fun _ => True) (I := fun _ => True) (fun _ _ _ _ _ => trivial) path
    (fun _ _ => trivial) place trivial).2
  intro e member
  obtain ⟨moves, before, -⟩ := run e member
  exact ⟨moves, before⟩

end Platform

end LearningKernel.Theory
