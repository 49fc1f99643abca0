/-
# Theory.Guarded -- operations that hold one lock while they run

An operation takes the lock, works on the shared state step by step, and gives the lock up with
its answer; before and after it touches nothing shared.  Any number of clients call operations,
and between any two steps of one the others may take theirs.  A client that waits for the lock
may be refused instead.

`atomic` is the object whose operations are one step each.  The point of a call is where it
takes the lock or is refused.

* `atomic_path`: the points of a run, in their order, are a run of the atomic object;
* `returned_point`: a call that returns has had one point since it was called, and returns
  what the operation answers there.
-/
import LearningKernel.Theory.Machine
import Mathlib.Logic.Function.Basic

namespace LearningKernel.Theory

set_option autoImplicit false

/-- What operations do while they hold the lock: a step, or the answer with which they give it
up; and what a client that is refused answers, if it can be. -/
structure Guarded (σ α φ β : Type) where
  enter : α → φ
  next : φ → σ → (φ × σ) ⊕ β
  /-- how many steps there are still, at most -/
  left : φ → Nat
  left_lt : ∀ {f g : φ} {s t : σ}, next f s = .inl (g, t) → left g < left f
  refused : Option β

namespace Guarded

/-! ## The atomic object -/

/-- One operation: carried out, or refused. -/
inductive Turn (α : Type) where
  | run (a : α)
  | refuse (a : α)

def Turn.op {α : Type} : Turn α → α
  | run a | refuse a => a

section Alone

variable {σ α φ β : Type} (G : Guarded σ α φ β) {f g : φ} {s t : σ} {b : β}

/-- The rest of an operation, with nobody else about. -/
def finish (f : φ) (s : σ) : β × σ :=
  match _here : G.next f s with
  | .inl (g, t) => finish g t
  | .inr b => (b, s)
termination_by G.left f
decreasing_by exact G.left_lt _here

theorem finish_inl (here : G.next f s = .inl (g, t)) : G.finish f s = G.finish g t := by
  rw [finish]
  split
  · rename_i here'
    rw [here] at here'
    cases here'
    rfl
  · rename_i here'
    rw [here] at here'
    cases here'

theorem finish_inr (here : G.next f s = .inr b) : G.finish f s = (b, s) := by
  rw [finish]
  split
  · rename_i here'
    rw [here] at here'
    cases here'
  · rename_i here'
    rw [here] at here'
    cases here'
    rfl

def apply (s : σ) : Turn α → Option (β × σ)
  | .run a => some (G.finish (G.enter a) s)
  | .refuse _ => G.refused.map (·, s)

def atomic : Machine σ (Turn α) β := ⟨G.apply⟩

end Alone

/-! ## Clients -/

/-- Where a client is. -/
inductive Stage (α φ β : Type) where
  | idle
  /-- before it has the lock -/
  | waiting (a : α)
  /-- holding it -/
  | inside (f : φ)
  /-- having given it up, or been refused -/
  | leaving (b : β)

structure State (σ α φ β C : Type) where
  shared : σ
  holder : Option C
  stages : C → Stage α φ β

inductive Act (α C : Type) where
  | call (c : C) (a : α)
  | lock (c : C)
  | refuse (c : C)
  | step (c : C)
  | ret (c : C)

inductive Out (β C : Type) where
  | silent
  | returned (c : C) (b : β)

section Machine

variable {σ α φ β C : Type} [DecidableEq C] (G : Guarded σ α φ β)

/-- Nobody is in an operation. -/
def State.start (s : σ) : State σ α φ β C :=
  { shared := s, holder := none, stages := fun _ => .idle }

def State.setStage (s : State σ α φ β C) (c : C) (stage : Stage α φ β) : State σ α φ β C :=
  { s with stages := Function.update s.stages c stage }

def step (s : State σ α φ β C) : Act α C → Option (Out β C × State σ α φ β C)
  | .call c a =>
      match s.stages c with
      | .idle => some (.silent, s.setStage c (.waiting a))
      | _ => none
  | .lock c =>
      match s.stages c, s.holder with
      | .waiting a, none =>
          some (.silent, { s.setStage c (.inside (G.enter a)) with holder := some c })
      | _, _ => none
  | .refuse c =>
      match s.stages c with
      | .waiting _ => G.refused.map fun b => (.silent, s.setStage c (.leaving b))
      | _ => none
  | .step c =>
      match s.stages c with
      | .inside f =>
          match G.next f s.shared with
          | .inl (g, t) => some (.silent, { s.setStage c (.inside g) with shared := t })
          | .inr b => some (.silent, { s.setStage c (.leaving b) with holder := none })
      | _ => none
  | .ret c =>
      match s.stages c with
      | .leaving b => some (.returned c b, s.setStage c .idle)
      | _ => none

/-- Any clients, in any order. -/
def machine (C : Type) [DecidableEq C] : Machine (State σ α φ β C) (Act α C) (Out β C) := ⟨G.step⟩

end Machine

abbrev GuardedEvent (σ α φ β C : Type) := Event (State σ α φ β C) (Act α C) (Out β C)

/-! ## The cases of a step -/

section Steps

variable {σ α φ β C : Type} {G : Guarded σ α φ β}

@[simp] theorem setStage_self [DecidableEq C] (s : State σ α φ β C) (c : C)
    (stage : Stage α φ β) : (s.setStage c stage).stages c = stage := Function.update_self _ _ _

theorem setStage_of_ne [DecidableEq C] (s : State σ α φ β C) {c d : C} (other : d ≠ c)
    (stage : Stage α φ β) : (s.setStage c stage).stages d = s.stages d :=
  Function.update_of_ne other _ _

/-- **The specification of a step.** -/
inductive Moves [DecidableEq C] (G : Guarded σ α φ β) (e : GuardedEvent σ α φ β C) : Prop where
  | calls (c : C) (a : α) (act : e.act = .call c a) (before : e.source.stages c = .idle)
      (out : e.out = .silent) (target : e.target = e.source.setStage c (.waiting a))
  | locks (c : C) (a : α) (act : e.act = .lock c) (before : e.source.stages c = .waiting a)
      (free : e.source.holder = none) (out : e.out = .silent)
      (target : e.target = { e.source.setStage c (.inside (G.enter a)) with holder := some c })
  | refuses (c : C) (a : α) (b : β) (act : e.act = .refuse c)
      (before : e.source.stages c = .waiting a) (refused : G.refused = some b)
      (out : e.out = .silent) (target : e.target = e.source.setStage c (.leaving b))
  | works (c : C) (f g : φ) (t : σ) (act : e.act = .step c) (before : e.source.stages c = .inside f)
      (next : G.next f e.source.shared = .inl (g, t)) (out : e.out = .silent)
      (target : e.target = { e.source.setStage c (.inside g) with shared := t })
  | leaves (c : C) (f : φ) (b : β) (act : e.act = .step c) (before : e.source.stages c = .inside f)
      (next : G.next f e.source.shared = .inr b) (out : e.out = .silent)
      (target : e.target = { e.source.setStage c (.leaving b) with holder := none })
  | returns (c : C) (b : β) (act : e.act = .ret c) (before : e.source.stages c = .leaving b)
      (out : e.out = .returned c b) (target : e.target = e.source.setStage c .idle)

variable [DecidableEq C]

theorem moves_of_takes {e : GuardedEvent σ α φ β C} (taken : (G.machine C).Takes e) :
    Moves G e := by
  obtain ⟨s, act, out, t⟩ := e
  simp only [Machine.Takes, machine] at taken
  cases act with
  | call c a =>
      simp only [step] at taken
      split at taken
      · rename_i before
        cases taken
        exact .calls c a rfl before rfl rfl
      · cases taken
  | lock c =>
      simp only [step] at taken
      split at taken
      · rename_i a before free
        cases taken
        exact .locks c a rfl before free rfl rfl
      · cases taken
  | refuse c =>
      simp only [step] at taken
      split at taken
      · rename_i a before
        obtain ⟨b, refused, same⟩ := Option.map_eq_some_iff.1 taken
        cases same
        exact .refuses c a b rfl before refused rfl rfl
      · cases taken
  | step c =>
      simp only [step] at taken
      split at taken
      · rename_i f before
        split at taken
        · rename_i g t next
          cases taken
          exact .works c f g t rfl before next rfl rfl
        · rename_i b next
          cases taken
          exact .leaves c f b rfl before next rfl rfl
      · cases taken
  | ret c =>
      simp only [step] at taken
      split at taken
      · rename_i b before
        cases taken
        exact .returns c b rfl before rfl rfl
      · cases taken

/-! ## Mutual exclusion -/

/-- Who is inside holds the lock, and the other way round. -/
structure Exclusive (s : State σ α φ β C) : Prop where
  holds : ∀ c f, s.stages c = .inside f → s.holder = some c
  held : ∀ c, s.holder = some c → ∃ f, s.stages c = .inside f

omit [DecidableEq C] in
theorem exclusive_start (s : σ) : Exclusive (State.start s : State σ α φ β C) where
  holds c f inside := by cases inside
  held c held := by cases held

/-- A client that is outside before and after leaves the lock as it is. -/
theorem Exclusive.outside {s : State σ α φ β C} (exclusive : Exclusive s) {c : C}
    {stage : Stage α φ β} (before : ∀ f, s.stages c ≠ .inside f) (after : ∀ f, stage ≠ .inside f) :
    Exclusive (s.setStage c stage) where
  holds d f inside := by
    by_cases same : d = c
    · subst same
      rw [setStage_self] at inside
      exact absurd inside (after f)
    · rw [setStage_of_ne s same] at inside
      exact exclusive.holds d f inside
  held d held := by
    obtain ⟨f, inside⟩ := exclusive.held d held
    have other : d ≠ c := by
      rintro rfl
      exact before f inside
    exact ⟨f, (setStage_of_ne s other stage).trans inside⟩

theorem Exclusive.step {e : GuardedEvent σ α φ β C} (moves : Moves G e)
    (exclusive : Exclusive e.source) : Exclusive e.target := by
  cases moves with
  | calls c a act before out target | refuses c a b act before refused out target
  | returns c b act before out target =>
      rw [target]
      refine exclusive.outside ?_ ?_
      · rw [before]
        intro f same
        cases same
      · intro f same
        cases same
  | locks c a act before free out target =>
      rw [target]
      constructor
      · intro d f inside
        by_cases same : d = c
        · rw [same]
        · have already := exclusive.holds d f ((setStage_of_ne _ same _).symm.trans inside)
          rw [free] at already
          cases already
      · intro d held
        obtain rfl := Option.some.inj held
        exact ⟨_, setStage_self _ _ _⟩
  | works c f g t act before next out target =>
      rw [target]
      have mine := exclusive.holds c f before
      constructor
      · intro d f' inside
        by_cases same : d = c
        · rw [same]
          exact mine
        · exact exclusive.holds d f' ((setStage_of_ne _ same _).symm.trans inside)
      · intro d held
        obtain rfl := Option.some.inj (mine.symm.trans held)
        exact ⟨g, setStage_self _ _ _⟩
  | leaves c f b act before next out target =>
      rw [target]
      have mine := exclusive.holds c f before
      constructor
      · intro d f' inside
        by_cases same : d = c
        · rw [same] at inside
          cases (setStage_self _ _ _).symm.trans inside
        · have theirs := exclusive.holds d f' ((setStage_of_ne _ same _).symm.trans inside)
          exact absurd (Option.some.inj (theirs.symm.trans mine)) same
      · intro d held
        cases held

end Steps

/-! ## Points -/

section Points

variable {σ α φ β C : Type} [DecidableEq C] (G : Guarded σ α φ β)

/-- The shared state as the client inside will leave it. -/
def settled (s : State σ α φ β C) : σ :=
  match s.holder.map s.stages with
  | some (.inside f) => (G.finish f s.shared).2
  | _ => s.shared

/-- The step of the atomic object that falls on this step, and whose it is. -/
def point? (e : GuardedEvent σ α φ β C) : Option (C × Event σ (Turn α) β) :=
  match e.act with
  | .lock c =>
      match e.source.stages c with
      | .waiting a =>
          let r := G.finish (G.enter a) e.source.shared
          some (c, ⟨e.source.shared, .run a, r.1, r.2⟩)
      | _ => none
  | .refuse c =>
      match e.source.stages c, G.refused with
      | .waiting a, some b => some (c, ⟨G.settled e.source, .refuse a, b, G.settled e.source⟩)
      | _, _ => none
  | _ => none

/-- The points of one client. -/
def pointOf? (c : C) (e : GuardedEvent σ α φ β C) : Option (Event σ (Turn α) β) :=
  (G.point? e).bind fun p => if p.1 = c then some p.2 else none

variable {G}

omit [DecidableEq C] in
theorem settled_inside {s : State σ α φ β C} {c : C} {f : φ} (held : s.holder = some c)
    (inside : s.stages c = .inside f) : G.settled s = (G.finish f s.shared).2 := by
  rw [settled, held, Option.map_some, inside]

omit [DecidableEq C] in
theorem settled_free {s : State σ α φ β C} (free : s.holder = none) :
    G.settled s = s.shared := by
  rw [settled, free, Option.map_none]

/-- What a client outside does leaves the shared state to the one inside. -/
theorem settled_outside {s : State σ α φ β C} (exclusive : Exclusive s) {c : C}
    {stage : Stage α φ β} (outside : ∀ f, s.stages c ≠ .inside f) :
    G.settled (s.setStage c stage) = G.settled s := by
  cases holder : s.holder with
  | none =>
      have free : (s.setStage c stage).holder = none := holder
      rw [settled_free holder, settled_free free]
      rfl
  | some d =>
      obtain ⟨f, inside⟩ := exclusive.held d holder
      have other : d ≠ c := by
        rintro rfl
        exact outside f inside
      have held : (s.setStage c stage).holder = some d := holder
      rw [settled_inside holder inside,
        settled_inside held ((setStage_of_ne s other stage).trans inside)]
      rfl

omit [DecidableEq C] in
theorem point_of_lock {e : GuardedEvent σ α φ β C} {c : C} {a : α} (act : e.act = .lock c)
    (before : e.source.stages c = .waiting a) :
    G.point? e = some (c, ⟨e.source.shared, .run a, (G.finish (G.enter a) e.source.shared).1,
      (G.finish (G.enter a) e.source.shared).2⟩) := by
  rw [point?, act]
  dsimp only
  rw [before]

omit [DecidableEq C] in
theorem point_of_refuse {e : GuardedEvent σ α φ β C} {c : C} {a : α} {b : β}
    (act : e.act = .refuse c) (before : e.source.stages c = .waiting a)
    (refused : G.refused = some b) :
    G.point? e = some (c, ⟨G.settled e.source, .refuse a, b, G.settled e.source⟩) := by
  rw [point?, act]
  dsimp only
  rw [before, refused]

/-- A step is no step of the atomic object and leaves the settled state, or it is one of its
steps. -/
theorem point_of_takes {e : GuardedEvent σ α φ β C} (moves : Moves G e)
    (exclusive : Exclusive e.source) :
    (G.point? e = none ∧ G.settled e.target = G.settled e.source) ∨
      ∃ p, G.point? e = some p ∧ G.atomic.Takes p.2 ∧ p.2.source = G.settled e.source ∧
        p.2.target = G.settled e.target := by
  cases moves with
  | calls c a act before out target =>
      left
      refine ⟨by rw [point?, act], ?_⟩
      rw [target]
      exact settled_outside exclusive (by rw [before]; intro f same; cases same)
  | locks c a act before free out target =>
      right
      refine ⟨_, point_of_lock act before, rfl, (settled_free free).symm, ?_⟩
      have held : e.target.holder = some c := by rw [target]
      have inside : e.target.stages c = .inside (G.enter a) := by
        rw [target]
        exact setStage_self _ _ _
      rw [settled_inside held inside, target]
      rfl
  | refuses c a b act before refused out target =>
      right
      refine ⟨_, point_of_refuse act before refused, ?_, rfl, ?_⟩
      · show G.refused.map (·, G.settled e.source) = _
        rw [refused]
        rfl
      · rw [target]
        exact (settled_outside exclusive (by rw [before]; intro f same; cases same)).symm
  | works c f g t act before next out target =>
      left
      have mine := exclusive.holds c f before
      refine ⟨by rw [point?, act], ?_⟩
      have held : e.target.holder = some c := by
        rw [target]
        exact mine
      have inside : e.target.stages c = .inside g := by
        rw [target]
        exact setStage_self _ _ _
      rw [settled_inside mine before, settled_inside held inside, finish_inl G next, target]
  | leaves c f b act before next out target =>
      left
      refine ⟨by rw [point?, act], ?_⟩
      have free : e.target.holder = none := by rw [target]
      rw [settled_inside (exclusive.holds c f before) before, settled_free free, finish_inr G next,
        target]
      rfl
  | returns c b act before out target =>
      left
      refine ⟨by rw [point?, act], ?_⟩
      rw [target]
      exact settled_outside exclusive (by rw [before]; intro f same; cases same)

/-- **The points of a run are a run of the atomic object.** -/
theorem atomic_path {s : σ} {es : List (GuardedEvent σ α φ β C)} {u : State σ α φ β C}
    (path : (G.machine C).Path (.start s) es u) :
    G.atomic.Path s (es.filterMap fun e => (G.point? e).map Prod.snd) (G.settled u) := by
  have whole := path.refine (N := G.atomic) (π := G.settled)
    (f := fun e => (G.point? e).map Prod.snd) (I := Exclusive)
    (fun e taken exclusive => exclusive.step (moves_of_takes taken)) ?_ (exclusive_start s)
  · exact whole
  · intro e taken exclusive
    rcases point_of_takes (moves_of_takes taken) exclusive with
      ⟨nothing, same⟩ | ⟨p, here, steps, source, target⟩
    · exact Or.inl ⟨by rw [nothing]; rfl, same⟩
    · exact Or.inr ⟨p.2, by rw [here]; rfl, steps, source, target⟩

end Points

/-! ## Calls and their points -/

section Calls

variable {σ α φ β C : Type} [DecidableEq C] {G : Guarded σ α φ β}
  {es : List (GuardedEvent σ α φ β C)}

/-- Whose step it is. -/
def Act.client : Act α C → C
  | call c _ | lock c | refuse c | step c | ret c => c

/-- Others stay where they are, and see no more than a change by the one inside. -/
theorem Moves.frame {e : GuardedEvent σ α φ β C} (moves : Moves G e) :
    (∀ d, d ≠ e.act.client →
      e.target.stages d = e.source.stages d ∧ ∀ b, e.out ≠ .returned d b) ∧
    (e.target.shared = e.source.shared ∨ ∃ f, e.source.stages e.act.client = .inside f) := by
  cases moves with
  | calls c a act before out target | locks c a act before free out target
  | refuses c a b act before refused out target =>
      rw [act, out, target]
      refine ⟨?_, Or.inl rfl⟩
      intro d other
      exact ⟨setStage_of_ne _ other _, by intro b same; cases same⟩
  | works c f g t act before next out target | leaves c f b act before next out target =>
      rw [act, out, target]
      refine ⟨?_, Or.inr ⟨f, before⟩⟩
      intro d other
      exact ⟨setStage_of_ne _ other _, by intro b same; cases same⟩
  | returns c b act before out target =>
      rw [act, out, target]
      refine ⟨?_, Or.inl rfl⟩
      intro d other
      refine ⟨setStage_of_ne _ other _, ?_⟩
      intro b' same
      cases same
      exact other rfl

omit [DecidableEq C] in
theorem point_client {e : GuardedEvent σ α φ β C} {p : C × Event σ (Turn α) β}
    (here : G.point? e = some p) : p.1 = e.act.client := by
  unfold point? at here
  split at here
  · rename_i c act
    split at here <;> cases here
    rw [act]
    rfl
  · rename_i c act
    split at here <;> cases here
    rw [act]
    rfl
  · cases here

theorem pointOf_other {e : GuardedEvent σ α φ β C} {d : C} (other : d ≠ e.act.client) :
    G.pointOf? d e = none := by
  unfold pointOf?
  cases here : G.point? e with
  | none => rfl
  | some p =>
      rw [Option.bind_some]
      refine if_neg ?_
      rw [point_client here]
      exact Ne.symm other

theorem pointOf_of_point {e : GuardedEvent σ α φ β C} {c : C} {d : Event σ (Turn α) β}
    (here : G.point? e = some (c, d)) : G.pointOf? c e = some d := by
  rw [pointOf?, here, Option.bind_some, if_pos rfl]

theorem pointOf_of_none {e : GuardedEvent σ α φ β C} (c : C) (here : G.point? e = none) :
    G.pointOf? c e = none := by
  rw [pointOf?, here, Option.bind_none]

/-- The client has called this, has not returned since, and has had these points since. -/
def Called (G : Guarded σ α φ β) (c : C) (a : α) (ds : List (Event σ (Turn α) β))
    (es : List (GuardedEvent σ α φ β C)) : Prop :=
  ∃ front call mid, es = front ++ call :: mid ∧ call.act = .call c a ∧
    (∀ e ∈ mid, ∀ b, e.out ≠ .returned c b) ∧ mid.filterMap (G.pointOf? c) = ds

theorem Called.concat {c : C} {a : α} {ds : List (Event σ (Turn α) β)}
    {e : GuardedEvent σ α φ β C} (called : Called G c a ds es)
    (stays : ∀ b, e.out ≠ .returned c b) :
    Called G c a (ds ++ (G.pointOf? c e).toList) (es ++ [e]) := by
  obtain ⟨front, call, mid, rfl, act, quiet, points⟩ := called
  refine ⟨front, call, mid ++ [e], by simp, act, ?_, ?_⟩
  · intro d member
    rcases List.mem_append.1 member with earlier | last
    · exact quiet d earlier
    · rw [List.mem_singleton.1 last]
      exact stays
  · rw [List.filterMap_append, points]
    cases here : G.pointOf? c e <;> simp [here]

/-- What a client at this stage has behind it. -/
def Pending (G : Guarded σ α φ β) (es : List (GuardedEvent σ α φ β C)) (s : State σ α φ β C)
    (c : C) : Prop :=
  match s.stages c with
  | .idle => True
  | .waiting a => Called G c a [] es
  | .inside f => ∃ d, Called G c d.act.op [d] es ∧ d.out = (G.finish f s.shared).1
  | .leaving b => ∃ d, Called G c d.act.op [d] es ∧ d.out = b

/-- The step of another client changes nothing of this. -/
theorem Pending.other {e : GuardedEvent σ α φ β C} (moves : Moves G e)
    (exclusive : Exclusive e.source) {d : C} (other : d ≠ e.act.client)
    (before : Pending G es e.source d) : Pending G (es ++ [e]) e.target d := by
  obtain ⟨frame, shared⟩ := moves.frame
  obtain ⟨stage, quiet⟩ := frame d other
  have kept : ∀ {a ds}, Called G d a ds es → Called G d a ds (es ++ [e]) := by
    intro a ds called
    have later := called.concat quiet
    rwa [pointOf_other other, Option.toList_none, List.append_nil] at later
  unfold Pending at before ⊢
  rw [stage]
  cases here : e.source.stages d with
  | idle => trivial
  | waiting a =>
      rw [here] at before
      exact kept before
  | inside f =>
      rw [here] at before
      obtain ⟨x, called, answer⟩ := before
      refine ⟨x, kept called, ?_⟩
      rcases shared with same | ⟨f', inside⟩
      · rw [same]
        exact answer
      · -- nobody else is inside
        have mine := exclusive.holds _ _ inside
        exact absurd (Option.some.inj ((exclusive.holds d f here).symm.trans mine)) other
  | leaving b =>
      rw [here] at before
      obtain ⟨x, called, answer⟩ := before
      exact ⟨x, kept called, answer⟩

theorem Pending.step {e : GuardedEvent σ α φ β C} (moves : Moves G e)
    (exclusive : Exclusive e.source) (before : ∀ c, Pending G es e.source c) (d : C) :
    Pending G (es ++ [e]) e.target d := by
  by_cases own : d = e.act.client
  case neg => exact (before d).other moves exclusive own
  have mine := before d
  unfold Pending at mine ⊢
  cases moves with
  | calls c a act source out target =>
      obtain rfl : d = c := by rw [own, act]; rfl
      rw [target, setStage_self]
      exact ⟨es, e, [], rfl, act, fun _ member => absurd member List.not_mem_nil, rfl⟩
  | locks c a act source free out target =>
      obtain rfl : d = c := by rw [own, act]; rfl
      rw [source] at mine
      have stage : e.target.stages d = .inside (G.enter a) := by
        rw [target]
        exact setStage_self _ _ _
      rw [stage]
      have later := mine.concat (e := e) (by rw [out]; intro b same; cases same)
      rw [pointOf_of_point (point_of_lock act source)] at later
      refine ⟨⟨e.source.shared, .run a, _, _⟩, later, ?_⟩
      rw [target]
      rfl
  | refuses c a b act source refused out target =>
      obtain rfl : d = c := by rw [own, act]; rfl
      rw [source] at mine
      rw [target, setStage_self]
      have later := mine.concat (e := e) (by rw [out]; intro b same; cases same)
      rw [pointOf_of_point (point_of_refuse act source refused)] at later
      exact ⟨⟨G.settled e.source, .refuse a, b, _⟩, later, rfl⟩
  | works c f g t act source next out target =>
      obtain rfl : d = c := by rw [own, act]; rfl
      rw [source] at mine
      obtain ⟨x, called, answer⟩ := mine
      have stage : e.target.stages d = .inside g := by
        rw [target]
        exact setStage_self _ _ _
      rw [stage]
      have later := called.concat (e := e) (by rw [out]; intro b same; cases same)
      rw [pointOf_of_none d (by rw [point?, act])] at later
      refine ⟨x, later, ?_⟩
      rw [answer, finish_inl G next, target]
  | leaves c f b act source next out target =>
      obtain rfl : d = c := by rw [own, act]; rfl
      rw [source] at mine
      obtain ⟨x, called, answer⟩ := mine
      have stage : e.target.stages d = .leaving b := by
        rw [target]
        exact setStage_self _ _ _
      rw [stage]
      have later := called.concat (e := e) (by rw [out]; intro b same; cases same)
      rw [pointOf_of_none d (by rw [point?, act])] at later
      refine ⟨x, later, ?_⟩
      rw [answer, finish_inr G next]
  | returns c b act source out target =>
      obtain rfl : d = c := by rw [own, act]; rfl
      rw [target, setStage_self]
      trivial

/-- **What a call returns is the answer of its one point.** -/
theorem returned_point {s : σ} {u : State σ α φ β C} (path : (G.machine C).Path (.start s) es u) :
    ∀ before e after c b, es = before ++ e :: after → e.out = .returned c b →
      ∃ d, Called G c d.act.op [d] before ∧ d.out = b := by
  rintro before e after c b rfl out
  obtain ⟨front, taken, -⟩ := path.split
  have known : Exclusive e.source ∧ ∀ c, Pending G before e.source c := by
    refine front.history (C := fun _ => True)
      (J := fun es s => Exclusive s ∧ ∀ c, Pending G es s c) ⟨exclusive_start s, fun _ => trivial⟩
      ?_ (fun _ _ => trivial)
    intro es e _ steps _ earlier
    have moves := moves_of_takes steps
    exact ⟨earlier.1.step moves, Pending.step moves earlier.1 earlier.2⟩
  cases moves_of_takes taken with
  | returns c' b' act source out' target =>
      rw [out] at out'
      cases out'
      have mine := known.2 c
      unfold Pending at mine
      rw [source] at mine
      exact mine
  | calls c' a act source out' target | locks c' a act source free out' target
  | refuses c' a b' act source refused out' target | works c' f g t act source next out' target
  | leaves c' f b' act source next out' target =>
      rw [out] at out'
      cases out'

end Calls

end Guarded

end LearningKernel.Theory
