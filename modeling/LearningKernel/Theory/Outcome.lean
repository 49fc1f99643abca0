/-
# Theory.Outcome -- whole executions of a script

Where nothing happens in between, a script is one step: `exec` runs it to its
answer, the environment saying which of its fallible calls fail, and yields the
calls that took effect.  `outcomes` are all that can come of it, and `courses` the
same beside the call that failed first, so that a fact about every execution is
decided once (`exec_mem_outcomes`, `exec_mem_courses`).  `bind` goes on with the
answer of a script, and what comes of it is what comes of the two (`exec_bind`).
-/
import LearningKernel.Theory.Script

namespace LearningKernel.Theory.Script

set_option autoImplicit false

universe u v

variable {κ : Type u} {ρ : Type v}

/-- The calls that take effect and the answer, where the `n`-th fallible call that is
made fails if `fails n`. -/
def exec (fails : Nat → Bool) : Script κ ρ → List κ × ρ
  | ret answer => ([], answer)
  | call k next =>
      let rest := exec fails next
      (k :: rest.1, rest.2)
  | attempt k next fail =>
      if fails 0 then exec (fun n => fails (n + 1)) fail
      else
        let rest := exec (fun n => fails (n + 1)) next
        (k :: rest.1, rest.2)

/-- All that can come of a script. -/
def outcomes : Script κ ρ → List (List κ × ρ)
  | ret answer => [([], answer)]
  | call k next => (outcomes next).map fun o => (k :: o.1, o.2)
  | attempt k next fail => ((outcomes next).map fun o => (k :: o.1, o.2)) ++ outcomes fail

theorem exec_mem_outcomes (fails : Nat → Bool) (script : Script κ ρ) :
    script.exec fails ∈ script.outcomes := by
  induction script generalizing fails with
  | ret answer => exact List.mem_singleton_self _
  | call k next ih =>
      have later := ih fails
      exact List.mem_map_of_mem (f := fun o => (k :: o.1, o.2)) later
  | attempt k next fail ihNext ihFail =>
      rw [exec, outcomes]
      split
      · exact List.mem_append_right _ (ihFail _)
      · have later := ihNext fun n => fails (n + 1)
        exact List.mem_append_left _ (List.mem_map_of_mem (f := fun o => (k :: o.1, o.2)) later)

/-- The first call that fails. -/
def firstFailure (fails : Nat → Bool) : Script κ ρ → Option κ
  | ret _ => none
  | call _ next => firstFailure fails next
  | attempt k next _ => if fails 0 then some k else firstFailure (fun n => fails (n + 1)) next

/-- What fails first, and all that can come of it. -/
def courses : Script κ ρ → List (Option κ × List κ × ρ)
  | ret answer => [(none, [], answer)]
  | call k next => (courses next).map fun c => (c.1, k :: c.2.1, c.2.2)
  | attempt k next fail =>
      ((courses next).map fun c => (c.1, k :: c.2.1, c.2.2)) ++
        (outcomes fail).map fun o => (some k, o)

theorem exec_mem_courses (fails : Nat → Bool) (script : Script κ ρ) :
    (script.firstFailure fails, script.exec fails) ∈ script.courses := by
  induction script generalizing fails with
  | ret answer => exact List.mem_singleton_self _
  | call k next ih =>
      have later := ih fails
      exact List.mem_map_of_mem (f := fun c => (c.1, k :: c.2.1, c.2.2)) later
  | attempt k next fail ih _ =>
      rw [firstFailure, exec, courses]
      split
      · have after := exec_mem_outcomes (fun n => fails (n + 1)) fail
        exact List.mem_append_right _ (List.mem_map_of_mem (f := fun o => (some k, o)) after)
      · have later := ih fun n => fails (n + 1)
        exact List.mem_append_left _
          (List.mem_map_of_mem (f := fun c => (c.1, k :: c.2.1, c.2.2)) later)

variable {τ : Type v}

/-- The script, and what `next` makes of its answer. -/
def bind (next : ρ → Script κ τ) : Script κ ρ → Script κ τ
  | ret answer => next answer
  | call k rest => call k (bind next rest)
  | attempt k rest fail => attempt k (bind next rest) (bind next fail)

/-- The second script meets failures of its own. -/
theorem exec_bind (next : ρ → Script κ τ) (fails : Nat → Bool) (script : Script κ ρ) :
    ∃ later : Nat → Bool,
      (script.bind next).exec fails =
          ((script.exec fails).1 ++ ((next (script.exec fails).2).exec later).1,
            ((next (script.exec fails).2).exec later).2) ∧
        (script.bind next).firstFailure fails =
          (script.firstFailure fails).or ((next (script.exec fails).2).firstFailure later) := by
  induction script generalizing fails with
  | ret answer => exact ⟨fails, rfl, rfl⟩
  | call k rest ih =>
      obtain ⟨later, same, first⟩ := ih fails
      refine ⟨later, ?_, first⟩
      simp only [bind, exec, same, List.cons_append]
  | attempt k rest fail ihRest ihFail =>
      by_cases failed : fails 0 = true
      · obtain ⟨later, same, -⟩ := ihFail fun n => fails (n + 1)
        refine ⟨later, ?_, ?_⟩
        · simp only [bind, exec, failed, if_true, same]
        · simp only [bind, firstFailure, failed, if_true, Option.some_or]
      · obtain ⟨later, same, first⟩ := ihRest fun n => fails (n + 1)
        refine ⟨later, ?_, ?_⟩
        · simp only [bind, exec, failed, same]
          rfl
        · simp only [bind, exec, firstFailure, failed, first]
          rfl

end LearningKernel.Theory.Script
