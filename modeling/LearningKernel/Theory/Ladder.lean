/-
# Theory.Ladder -- set-up code with a ladder of labels

Set-up code in C acquires one resource after the other; where an acquisition fails it jumps
to the label that undoes those before it, the last first.  A `Rung` is one acquisition with
what is called right after it and what undoes it; `ladder` climbs the rungs and goes on with
`top`, or undoes them and goes on with `bottom`.

`ladder_exec`: whichever call fails, the rungs are all held when `top` goes on, and none is
when `bottom` does; every call on the way finds what it needs, and each release is of what
was acquired last.

`tries` is set-up code that goes on whatever its calls answer (`tries_exec`).
-/
import LearningKernel.Theory.Ledger
import LearningKernel.Theory.Outcome

namespace LearningKernel.Theory

set_option autoImplicit false

universe u v w

variable {κ : Type u} {α : Type v} {ρ : Type w}

namespace Script

/-- Calls that cannot fail come before everything else. -/
theorem exec_calls (fails : Nat → Bool) (ks : List κ) (script : Script κ α) :
    (script.calls ks).exec fails = (ks ++ (script.exec fails).1, (script.exec fails).2) := by
  induction ks with
  | nil => rfl
  | cons k ks ih =>
      show (k :: ((script.calls ks).exec fails).1, ((script.calls ks).exec fails).2) = _
      rw [ih, List.cons_append]

theorem firstFailure_calls (fails : Nat → Bool) (ks : List κ) (script : Script κ α) :
    (script.calls ks).firstFailure fails = script.firstFailure fails := by
  induction ks with
  | nil => rfl
  | cons k ks ih => exact ih

theorem exec_of_fails {fails : Nat → Bool} (failed : fails 0 = true) (k : κ)
    (next fail : Script κ α) :
    (attempt k next fail).exec fails = fail.exec (fun n => fails (n + 1)) ∧
      (attempt k next fail).firstFailure fails = some k :=
  ⟨if_pos failed, if_pos failed⟩

theorem exec_of_succeeds {fails : Nat → Bool} (failed : ¬ fails 0 = true) (k : κ)
    (next fail : Script κ α) :
    (attempt k next fail).exec fails =
        (k :: (next.exec fun n => fails (n + 1)).1, (next.exec fun n => fails (n + 1)).2) ∧
      (attempt k next fail).firstFailure fails = next.firstFailure (fun n => fails (n + 1)) :=
  ⟨if_neg failed, if_neg failed⟩

end Script

/-- One acquisition, what is called right after it, and what undoes it. -/
structure Rung (κ : Type u) (ρ : Type w) where
  up : κ
  after : List κ
  down : κ
  res : ρ

/-- The rungs still to climb, with the calls that undo those climbed. -/
def climb (bottom top : Script κ α) : List (Rung κ ρ) → List κ → Script κ α
  | [], _ => top
  | r :: rs, undo =>
      .attempt r.up (.calls r.after (climb bottom top rs (r.down :: undo))) (.calls undo bottom)

def ladder (rungs : List (Rung κ ρ)) (bottom top : Script κ α) : Script κ α :=
  climb bottom top rungs []

variable (effect : κ → Effect ρ)

/-- The calls of a rung do what it says, and use nothing but its own resource. -/
structure Rung.Sound (r : Rung κ ρ) : Prop where
  up : effect r.up = .acquire r.res
  after : ∀ k ∈ r.after, effect k = .neither ∨ effect k = .use r.res
  down : effect r.down = .release r.res

variable {effect} [DecidableEq ρ]

/-- Calls that use what is held. -/
theorem grounded_uses {rs : List ρ} {ks : List κ}
    (uses : ∀ k ∈ ks, effect k = .neither ∨ ∃ r ∈ rs, effect k = .use r) :
    Effect.Grounded effect rs ks ∧ Effect.LastFirst effect rs ks ∧
      Effect.held effect rs ks = rs := by
  induction ks with
  | nil => exact ⟨trivial, trivial, rfl⟩
  | cons k ks ih =>
      obtain ⟨grounded, lastFirst, held⟩ := ih fun k' member => uses k' (List.mem_cons_of_mem k member)
      have same : (effect k).apply rs = rs ∧ (effect k).releases = none ∧
          ∀ r ∈ (effect k).needs, r ∈ rs := by
        rcases uses k List.mem_cons_self with neither | ⟨r, member, use⟩
        · rw [neither]
          exact ⟨rfl, rfl, nofun⟩
        · rw [use]
          refine ⟨rfl, rfl, ?_⟩
          rintro _ ⟨⟩
          exact member
      obtain ⟨stays, releases, needs⟩ := same
      refine ⟨⟨needs, ?_⟩, ⟨?_, ?_⟩, ?_⟩
      · rw [stays]
        exact grounded
      · rw [releases]
        nofun
      · rw [stays]
        exact lastFirst
      · show Effect.held effect ((effect k).apply rs) ks = rs
        rw [stays, held]

/-- Climbed rungs undone, the last first. -/
theorem grounded_undo {climbed : List (Rung κ ρ)} (sound : ∀ r ∈ climbed, r.Sound effect)
    (base : List ρ) :
    Effect.Grounded effect (climbed.map Rung.res ++ base) (climbed.map Rung.down) ∧
      Effect.LastFirst effect (climbed.map Rung.res ++ base) (climbed.map Rung.down) ∧
      Effect.held effect (climbed.map Rung.res ++ base) (climbed.map Rung.down) = base := by
  induction climbed with
  | nil => exact ⟨trivial, trivial, rfl⟩
  | cons r climbed ih =>
      obtain ⟨grounded, lastFirst, held⟩ :=
        ih fun r' member => sound r' (List.mem_cons_of_mem r member)
      have down := (sound r List.mem_cons_self).down
      have left : (effect r.down).apply (r.res :: (climbed.map Rung.res ++ base)) =
          climbed.map Rung.res ++ base := by
        rw [down, Effect.apply, List.erase_cons_head]
      simp only [List.map_cons, List.cons_append]
      refine ⟨⟨?_, ?_⟩, ⟨?_, ?_⟩, ?_⟩
      · rw [down]
        rintro _ ⟨⟩
        exact List.mem_cons_self
      · rw [left]
        exact grounded
      · rw [down]
        rintro _ ⟨⟩
        rfl
      · rw [left]
        exact lastFirst
      · show Effect.held effect ((effect r.down).apply _) (climbed.map Rung.down) = base
        rw [left, held]

/-- What comes of climbing: `ks` are the calls on the way, from what was `held` before. -/
inductive Climbed (effect : κ → Effect ρ) (bottom top : Script κ α) (rungs : List (Rung κ ρ))
    (held base : List ρ) (failed : Option κ) (calls : List κ × α) : Prop
  | topped (ks : List κ) (later : Nat → Bool)
      (exec : calls = (ks ++ (top.exec later).1, (top.exec later).2))
      (failed : failed = top.firstFailure later)
      (grounded : Effect.Grounded effect held ks) (lastFirst : Effect.LastFirst effect held ks)
      (holds : Effect.held effect held ks = (rungs.map Rung.res).reverse ++ held)
  | fell (ks : List κ) (later : Nat → Bool) (k : κ) (rung : k ∈ rungs.map Rung.up)
      (exec : calls = (ks ++ (bottom.exec later).1, (bottom.exec later).2))
      (failed : failed = some k)
      (grounded : Effect.Grounded effect held ks) (lastFirst : Effect.LastFirst effect held ks)
      (holds : Effect.held effect held ks = base)

/-- A rung climbed before other calls. -/
theorem Rung.Sound.before {r : Rung κ ρ} (sound : r.Sound effect) {rs : List ρ} {ks : List κ}
    (grounded : Effect.Grounded effect (r.res :: rs) ks)
    (lastFirst : Effect.LastFirst effect (r.res :: rs) ks) :
    Effect.Grounded effect rs (r.up :: (r.after ++ ks)) ∧
      Effect.LastFirst effect rs (r.up :: (r.after ++ ks)) ∧
      Effect.held effect rs (r.up :: (r.after ++ ks)) = Effect.held effect (r.res :: rs) ks := by
  have up : (effect r.up).apply rs = r.res :: rs := by
    rw [sound.up]
    rfl
  have uses : ∀ k ∈ r.after, effect k = .neither ∨ ∃ r' ∈ r.res :: rs, effect k = .use r' := by
    intro k member
    rcases sound.after k member with neither | use
    · exact Or.inl neither
    · exact Or.inr ⟨r.res, List.mem_cons_self, use⟩
  obtain ⟨firmly, inOrder, stays⟩ := grounded_uses uses
  refine ⟨⟨?_, ?_⟩, ⟨?_, ?_⟩, ?_⟩
  · rw [sound.up]
    nofun
  · rw [up, Effect.grounded_append, stays]
    exact ⟨firmly, grounded⟩
  · rw [sound.up]
    nofun
  · rw [up, Effect.lastFirst_append, stays]
    exact ⟨inOrder, lastFirst⟩
  · show Effect.held effect ((effect r.up).apply rs) (r.after ++ ks) = _
    rw [up, Effect.held_append, stays]

theorem climb_exec (bottom top : Script κ α) {rungs : List (Rung κ ρ)}
    (sound : ∀ r ∈ rungs, r.Sound effect) {climbed : List (Rung κ ρ)}
    (below : ∀ r ∈ climbed, r.Sound effect) (base : List ρ) (fails : Nat → Bool) :
    Climbed effect bottom top rungs (climbed.map Rung.res ++ base) base
      ((climb bottom top rungs (climbed.map Rung.down)).firstFailure fails)
      ((climb bottom top rungs (climbed.map Rung.down)).exec fails) := by
  induction rungs generalizing climbed fails with
  | nil => exact .topped [] fails rfl rfl trivial trivial rfl
  | cons r rs ih =>
      have here : r.Sound effect := sound r List.mem_cons_self
      by_cases failed : fails 0 = true
      · obtain ⟨grounded, lastFirst, holds⟩ := grounded_undo below base
        refine .fell (climbed.map Rung.down) (fun n => fails (n + 1)) r.up List.mem_cons_self ?_ ?_
          grounded lastFirst holds
        · rw [climb, (Script.exec_of_fails failed _ _ _).1, Script.exec_calls]
        · rw [climb, (Script.exec_of_fails failed _ _ _).2]
      · have above := ih (fun r' member => sound r' (List.mem_cons_of_mem r member))
          (List.forall_mem_cons.2 ⟨here, below⟩ : ∀ r' ∈ r :: climbed, r'.Sound effect) fun n => fails (n + 1)
        have exec : (climb bottom top (r :: rs) (climbed.map Rung.down)).exec fails =
            (r.up :: (r.after ++ ((climb bottom top rs ((r :: climbed).map Rung.down)).exec
              fun n => fails (n + 1)).1),
              ((climb bottom top rs ((r :: climbed).map Rung.down)).exec fun n => fails (n + 1)).2) := by
          rw [climb, (Script.exec_of_succeeds failed _ _ _).1, Script.exec_calls, List.map_cons]
        have first : (climb bottom top (r :: rs) (climbed.map Rung.down)).firstFailure fails =
            (climb bottom top rs ((r :: climbed).map Rung.down)).firstFailure
              fun n => fails (n + 1) := by
          rw [climb, (Script.exec_of_succeeds failed _ _ _).2, Script.firstFailure_calls,
            List.map_cons]
        rw [exec, first]
        cases above with
        | topped ks later exec failed grounded lastFirst holds =>
            obtain ⟨grounded, lastFirst, same⟩ := here.before grounded lastFirst
            refine .topped (r.up :: (r.after ++ ks)) later ?_ failed grounded lastFirst ?_
            · simp only [exec, List.cons_append, List.append_assoc]
            · refine same.trans (holds.trans ?_)
              simp
        | fell ks later k rung exec failed grounded lastFirst holds =>
            obtain ⟨grounded, lastFirst, same⟩ := here.before grounded lastFirst
            refine .fell (r.up :: (r.after ++ ks)) later k (List.mem_cons_of_mem _ rung) ?_ failed
              grounded lastFirst ?_
            · simp only [exec, List.cons_append, List.append_assoc]
            · exact same.trans holds

/-- **A ladder is all or nothing**, whichever of its calls fails. -/
theorem ladder_exec (bottom top : Script κ α) {rungs : List (Rung κ ρ)}
    (sound : ∀ r ∈ rungs, r.Sound effect) (base : List ρ) (fails : Nat → Bool) :
    Climbed effect bottom top rungs base base ((ladder rungs bottom top).firstFailure fails)
      ((ladder rungs bottom top).exec fails) :=
  @climb_exec κ α ρ effect _ bottom top rungs sound [] (List.forall_mem_nil _) base fails

/-! ## Without labels -/

/-- Calls whose answers are not looked at. -/
def tries (mayFail : κ → Bool) (rest : Script κ α) : List κ → Script κ α
  | [] => rest
  | k :: ks =>
      if mayFail k then .attempt k (tries mayFail rest ks) (tries mayFail rest ks)
      else .call k (tries mayFail rest ks)

/-- What comes of them: `got` took effect. -/
inductive Tried (mayFail : κ → Bool) (rest : Script κ α) (ks : List κ) (failed : Option κ)
    (calls : List κ × α) : Prop
  | all (later : Nat → Bool) (exec : calls = (ks ++ (rest.exec later).1, (rest.exec later).2))
      (failed : failed = rest.firstFailure later)
  | some (got : List κ) (later : Nat → Bool) (k : κ) (member : k ∈ ks) (may : mayFail k = true)
      (exec : calls = (got ++ (rest.exec later).1, (rest.exec later).2))
      (failed : failed = some k) (within : got.Sublist ks)
      (fewer : got.countP mayFail < ks.countP mayFail)

theorem tries_within (mayFail : κ → Bool) (rest : Script κ α) (ks : List κ) (fails : Nat → Bool) :
    ∃ got later, (tries mayFail rest ks).exec fails =
        (got ++ (rest.exec later).1, (rest.exec later).2) ∧ got.Sublist ks := by
  induction ks generalizing fails with
  | nil => exact ⟨[], fails, rfl, .slnil⟩
  | cons k ks ih =>
      by_cases may : mayFail k = true
      · by_cases failed : fails 0 = true
        · obtain ⟨got, later, exec, within⟩ := ih fun n => fails (n + 1)
          refine ⟨got, later, ?_, within.cons k⟩
          rw [tries, if_pos may, (Script.exec_of_fails failed _ _ _).1, exec]
        · obtain ⟨got, later, exec, within⟩ := ih fun n => fails (n + 1)
          refine ⟨k :: got, later, ?_, within.cons_cons k⟩
          rw [tries, if_pos may, (Script.exec_of_succeeds failed _ _ _).1, exec, List.cons_append]
      · obtain ⟨got, later, exec, within⟩ := ih fails
        refine ⟨k :: got, later, ?_, within.cons_cons k⟩
        rw [tries, if_neg may, Script.exec, exec, List.cons_append]

/-- A call that takes effect, and what comes of those after it. -/
theorem Tried.cons {mayFail : κ → Bool} {rest : Script κ α} {ks : List κ} {failed : Option κ}
    {calls : List κ × α} (tried : Tried mayFail rest ks failed calls) (k : κ) :
    Tried mayFail rest (k :: ks) failed (k :: calls.1, calls.2) := by
  cases tried with
  | all later exec failed =>
      rw [exec]
      exact .all later rfl failed
  | some got later k' member may exec failed within fewer =>
      rw [exec]
      refine .some (k :: got) later k' (List.mem_cons_of_mem k member) may rfl failed
        (within.cons_cons k) ?_
      rw [List.countP_cons, List.countP_cons]
      omega

theorem tries_exec (mayFail : κ → Bool) (rest : Script κ α) (ks : List κ) (fails : Nat → Bool) :
    Tried mayFail rest ks ((tries mayFail rest ks).firstFailure fails)
      ((tries mayFail rest ks).exec fails) := by
  induction ks generalizing fails with
  | nil => exact .all fails rfl rfl
  | cons k ks ih =>
      by_cases may : mayFail k = true
      · by_cases failed : fails 0 = true
        · obtain ⟨got, later, exec, within⟩ := tries_within mayFail rest ks fun n => fails (n + 1)
          have fewer := within.countP_le (p := mayFail)
          refine .some got later k List.mem_cons_self may ?_ ?_ (within.cons k) ?_
          · rw [tries, if_pos may, (Script.exec_of_fails failed _ _ _).1, exec]
          · rw [tries, if_pos may, (Script.exec_of_fails failed _ _ _).2]
          · rw [List.countP_cons, if_pos may]
            omega
        · have after := (ih fun n => fails (n + 1)).cons k
          rw [tries, if_pos may, (Script.exec_of_succeeds failed _ _ _).1,
            (Script.exec_of_succeeds failed _ _ _).2]
          exact after
      · have after := (ih fails).cons k
        rw [tries, if_neg may]
        exact after

/-- Calls that only acquire: all is grounded, and there is no more than they got. -/
theorem held_acquires {mayFail : κ → Bool} {ks : List κ}
    (acquires : ∀ k ∈ ks, effect k = .neither ∨ mayFail k = true ∧ ∃ r, effect k = .acquire r)
    (rs : List ρ) :
    Effect.Grounded effect rs ks ∧
      (Effect.held effect rs ks).length ≤ rs.length + ks.countP mayFail := by
  refine ⟨?_, Effect.length_held_le ?_ rs⟩
  · induction ks generalizing rs with
    | nil => trivial
    | cons k ks ih =>
        have later := ih (fun k' member => acquires k' (List.mem_cons_of_mem k member))
        rcases acquires k List.mem_cons_self with neither | ⟨-, r, acquire⟩
        · simp only [Effect.Grounded, neither]
          exact ⟨fun _ need => absurd need (Option.not_mem_none _), later rs⟩
        · simp only [Effect.Grounded, acquire]
          exact ⟨fun _ need => absurd need (Option.not_mem_none _), later (r :: rs)⟩
  · intro k member r acquire
    rcases acquires k member with neither | ⟨may, -⟩
    · rw [neither] at acquire
      cases acquire
    · exact may

end LearningKernel.Theory
