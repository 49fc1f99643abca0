/-
# Theory.Cycle -- scripts that follow one another

A driver is bound and unbound again and again: when a script has answered, the
answer says which script may be entered next.  `cycle` is a `Platform` with that
one action more.

`reach` are the places of a script if only some calls fail, and `Among` says that
a state is at a place reached from one of finitely many entries.  The run rule
`cycle_keeps` needs that those entries are all: that every answer among the
places leads to an entry again.
-/
import LearningKernel.Theory.Script

namespace LearningKernel.Theory

set_option autoImplicit false

universe u v w

namespace Script

variable {κ : Type u} {ρ : Type v} {σ : Type w}

/-- The places of a script, where only the calls of `mayFail` fail. -/
def reach (mayFail : κ → Bool) (own : κ → σ → σ) : Script κ ρ → σ → List (σ × Script κ ρ)
  | ret answer, held => [(held, ret answer)]
  | call k next, held => (held, call k next) :: reach mayFail own next (own k held)
  | attempt k next fail, held =>
      (held, attempt k next fail) :: (reach mayFail own next (own k held) ++
        if mayFail k then reach mayFail own fail held else [])

/-- The calls ahead if none of them fails. -/
def ahead : Script κ ρ → List κ
  | ret _ => []
  | call k next | attempt k next _ => k :: ahead next

variable {mayFail : κ → Bool} {own : κ → σ → σ}

theorem start_mem_reach (script : Script κ ρ) (held : σ) :
    (held, script) ∈ reach mayFail own script held := by
  cases script <;> simp [reach]

theorem proceed_mem_reach {script : Script κ ρ} {held : σ} {p : σ × Script κ ρ}
    (member : p ∈ reach mayFail own script held) {k : κ} (next : p.2.next? = some k) :
    (own k p.1, p.2.proceed) ∈ reach mayFail own script held := by
  induction script generalizing held with
  | ret answer =>
      rw [reach, List.mem_singleton] at member
      subst member
      cases next
  | call k' rest ih =>
      rcases List.mem_cons.1 member with rfl | later
      · cases next
        exact List.mem_cons_of_mem _ (start_mem_reach rest _)
      · exact List.mem_cons_of_mem _ (ih later)
  | attempt k' rest fail ihRest ihFail =>
      rcases List.mem_cons.1 member with rfl | later
      · cases next
        exact List.mem_cons_of_mem _ (List.mem_append_left _ (start_mem_reach rest _))
      · refine List.mem_cons_of_mem _ (List.mem_append.2 ?_)
        rcases List.mem_append.1 later with proceeds | fails
        · exact Or.inl (ihRest proceeds)
        · apply Or.inr
          split at fails
          · rename_i may
            rw [if_pos may]
            exact ihFail fails
          · cases fails

theorem fail_mem_reach {script : Script κ ρ} {held : σ} {p : σ × Script κ ρ}
    (member : p ∈ reach mayFail own script held) {k : κ} (next : p.2.next? = some k)
    (may : mayFail k = true) {fail : Script κ ρ} (fails : p.2.fail? = some fail) :
    (p.1, fail) ∈ reach mayFail own script held := by
  induction script generalizing held with
  | ret answer =>
      rw [reach, List.mem_singleton] at member
      subst member
      cases next
  | call k' rest ih =>
      rcases List.mem_cons.1 member with rfl | later
      · cases fails
      · exact List.mem_cons_of_mem _ (ih later)
  | attempt k' rest other ihRest ihFail =>
      rcases List.mem_cons.1 member with rfl | later
      · cases next
        cases fails
        refine List.mem_cons_of_mem _ (List.mem_append_right _ ?_)
        rw [if_pos may]
        exact start_mem_reach fail held
      · refine List.mem_cons_of_mem _ (List.mem_append.2 ?_)
        rcases List.mem_append.1 later with proceeds | failed
        · exact Or.inl (ihRest proceeds)
        · apply Or.inr
          split at failed
          · rename_i may'
            rw [if_pos may']
            exact ihFail failed
          · cases failed

end Script

namespace Platform

variable {κ ε σ δ ρ : Type}

def cycleStep (P : Platform κ ε σ δ) (again : ρ → Script κ ρ) (s : State κ σ δ ρ) :
    Option (Act ε) → Option (Unit × State κ σ δ ρ)
  | some act => P.step s act
  | none =>
      match s.rest with
      | .ret answer => some ((), { s with rest := again answer })
      | _ => none

/-- The platform with an action, `none`, that enters the script after an answer. -/
def cycle (P : Platform κ ε σ δ) (again : ρ → Script κ ρ) :
    Machine (State κ σ δ ρ) (Option (Act ε)) Unit := ⟨P.cycleStep again⟩

abbrev CycleEvent (κ ε σ δ ρ : Type) := Event (State κ σ δ ρ) (Option (Act ε)) Unit

variable {P : Platform κ ε σ δ} {again : ρ → Script κ ρ}

/-- The cases of one step. -/
inductive Turns (P : Platform κ ε σ δ) (again : ρ → Script κ ρ) (e : CycleEvent κ ε σ δ ρ) :
    Prop where
  | proceeded (k : κ) (act : e.act = some .proceed) (next : e.source.rest.next? = some k)
      (held : e.target.held = P.own k e.source.held)
      (flight : P.settle k e.source.flight = some e.target.flight)
      (rest : e.target.rest = e.source.rest.proceed)
  | failed (k : κ) (fail : Script κ ρ) (act : e.act = some .fail)
      (next : e.source.rest.next? = some k) (fails : e.source.rest.fail? = some fail)
      (held : e.target.held = e.source.held) (flight : e.target.flight = e.source.flight)
      (rest : e.target.rest = fail)
  | occurred (x : ε) (act : e.act = some (.occur x)) (held : e.target.held = e.source.held)
      (flight : P.occur x e.source.held e.source.flight = some e.target.flight)
      (rest : e.target.rest = e.source.rest)
  | entered (answer : ρ) (act : e.act = none) (here : e.source.rest = .ret answer)
      (held : e.target.held = e.source.held) (flight : e.target.flight = e.source.flight)
      (rest : e.target.rest = again answer)

theorem turns_of_takes {e : CycleEvent κ ε σ δ ρ} (taken : (P.cycle again).Takes e) :
    P.Turns again e := by
  obtain ⟨s, act, ⟨⟩, t⟩ := e
  cases act with
  | none =>
      simp only [Machine.Takes, cycle, cycleStep] at taken
      split at taken
      · rename_i answer here
        cases taken
        exact .entered answer rfl here rfl rfl rfl
      · cases taken
  | some act =>
      have moves : P.Moves (⟨s, act, (), t⟩ : RunEvent κ ε σ δ ρ) := moves_of_takes taken
      cases moves with
      | proceeded k same next held flight rest =>
          cases same
          exact .proceeded k rfl next held flight rest
      | failed k next fail same here held flight rest =>
          cases same
          dsimp only at here
          refine .failed k fail rfl ?_ ?_ held flight rest
          · show s.rest.next? = some k
            rw [here]
            rfl
          · show s.rest.fail? = some fail
            rw [here]
            rfl
      | occurred x same held flight rest =>
          cases same
          exact .occurred x rfl held flight rest

section Inversion

variable {e : CycleEvent κ ε σ δ ρ}

theorem Turns.of_proceed (turns : P.Turns again e) (proceeds : e.act = some .proceed) :
    ∃ k, e.source.rest.next? = some k ∧ e.target.held = P.own k e.source.held ∧
      P.settle k e.source.flight = some e.target.flight := by
  cases turns with
  | proceeded k act next held flight rest => exact ⟨k, next, held, flight⟩
  | failed k fail act | occurred x act | entered answer act =>
      rw [act] at proceeds
      cases proceeds

theorem Turns.of_fail (turns : P.Turns again e) (fails : e.act = some .fail) :
    e.target.held = e.source.held ∧ e.source.rest.fail? = some e.target.rest := by
  cases turns with
  | failed k fail act next here held flight rest =>
      refine ⟨held, ?_⟩
      rw [rest]
      exact here
  | proceeded k act | occurred x act | entered answer act =>
      rw [act] at fails
      cases fails

theorem Turns.of_occur (turns : P.Turns again e) {x : ε} (occurs : e.act = some (.occur x)) :
    e.target.held = e.source.held ∧
      P.occur x e.source.held e.source.flight = some e.target.flight := by
  cases turns with
  | occurred x' act held flight rest =>
      rw [act] at occurs
      cases occurs
      exact ⟨held, flight⟩
  | proceeded k act | failed k fail act | entered answer act =>
      rw [act] at occurs
      cases occurs

end Inversion

/-- The state is at a place reached from one of the entries. -/
def State.Among (P : Platform κ ε σ δ) (mayFail : κ → Bool) (entries : List (σ × Script κ ρ))
    (s : State κ σ δ ρ) : Prop :=
  s.place ∈ entries.flatMap fun entry => entry.2.reach mayFail P.own entry.1

variable {mayFail : κ → Bool} {entries : List (σ × Script κ ρ)} {C : CycleEvent κ ε σ δ ρ → Prop}
  {es : List (CycleEvent κ ε σ δ ρ)} {s u : State κ σ δ ρ}

theorem State.among_entry {s : State κ σ δ ρ} (entry : s.place ∈ entries) :
    s.Among P mayFail entries :=
  List.mem_flatMap.2 ⟨s.place, entry, Script.start_mem_reach s.rest s.held⟩

/-- One step keeps to the places, if a call that fails may, and an answer leads to an
entry. -/
theorem Turns.among {e : CycleEvent κ ε σ δ ρ} (turns : P.Turns again e)
    (fails : e.act = some .fail → ∀ k, e.source.rest.next? = some k → mayFail k = true)
    (enters : ∀ answer, e.source.rest = .ret answer → (e.source.held, again answer) ∈ entries)
    (before : e.source.Among P mayFail entries) : e.target.Among P mayFail entries := by
  obtain ⟨entry, member, reached⟩ := List.mem_flatMap.1 before
  cases turns with
  | proceeded k act next held flight rest =>
      refine List.mem_flatMap.2 ⟨entry, member, ?_⟩
      rw [State.place, held, rest]
      exact Script.proceed_mem_reach reached next
  | failed k fail act next fails' held flight rest =>
      refine List.mem_flatMap.2 ⟨entry, member, ?_⟩
      rw [State.place, held, rest]
      exact Script.fail_mem_reach reached next (fails act k next) fails'
  | occurred x act held flight rest =>
      rw [State.Among, State.place, held, rest]
      exact before
  | entered answer act here held flight rest =>
      apply State.among_entry
      rw [State.place, held, rest]
      exact enters answer here

/-- **The run rule of cycles.**  In a run of steps of kind `C`, in which only calls of
`mayFail` fail, the state is among the places of the entries, and what the steps
keep there holds. -/
theorem cycle_keeps {I : State κ σ δ ρ → Prop}
    (enters : ∀ p ∈ entries.flatMap fun entry => entry.2.reach mayFail P.own entry.1,
      ∀ answer ∈ p.2.answer?, (p.1, again answer) ∈ entries)
    (fails : ∀ e : CycleEvent κ ε σ δ ρ, P.Turns again e → C e →
      e.source.Among P mayFail entries → e.act = some .fail →
        ∀ k, e.source.rest.next? = some k → mayFail k = true)
    (step : ∀ e : CycleEvent κ ε σ δ ρ, P.Turns again e → C e →
      e.source.Among P mayFail entries → I e.source → I e.target)
    (path : (P.cycle again).Path s es u) (along : ∀ e ∈ es, C e)
    (entry : s.place ∈ entries) (start : I s) :
    (u.Among P mayFail entries ∧ I u) ∧
      ∀ e ∈ es, P.Turns again e ∧
        (e.source.Among P mayFail entries ∧ I e.source) ∧
          (e.target.Among P mayFail entries ∧ I e.target) := by
  have kept : ∀ e : CycleEvent κ ε σ δ ρ, (P.cycle again).Takes e → C e →
      e.source.Among P mayFail entries ∧ I e.source →
        e.target.Among P mayFail entries ∧ I e.target := by
    rintro e taken here ⟨among, holds⟩
    have turns := turns_of_takes taken
    refine ⟨turns.among (fails e turns here among) ?_ among, step e turns here among holds⟩
    intro answer answered
    apply enters _ among answer
    show e.source.rest.answer? = some answer
    rw [answered]
    rfl
  have run := path.keeps (I := fun s => s.Among P mayFail entries ∧ I s) kept along
    ⟨State.among_entry entry, start⟩
  refine ⟨run.1, ?_⟩
  intro e member
  obtain ⟨taken, before, after⟩ := run.2 e member
  exact ⟨turns_of_takes taken, before, after⟩

end Platform

end LearningKernel.Theory
