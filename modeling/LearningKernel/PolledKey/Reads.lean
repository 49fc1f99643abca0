/-
# PolledKey.Reads -- reading the polled key by several callers

`key_read` of `11_key` samples the GPIO, waits while it is 0, and passes what it found
through `keydev.keyvalue` into the user's buffer: one `atomic_set`, and then one
`atomic_read`, of a cell that all callers share.  The machine runs any number of calls,
whose steps come in any order.

* `answers_of_undisturbed`: in a run in which each `atomic_read` follows, as the last
  `atomic_set` before it, one of a call whose first sample was like its own, every
  successful call answers by its own first sample;
* `misread_of_disturbed`: a call whose `atomic_read` does not, and whose copy is
  complete, answers by another's.
-/
import LearningKernel.Kernel.Abi
import LearningKernel.Theory.Latest
import LearningKernel.Theory.Machine
import Mathlib.Logic.Function.Basic

namespace LearningKernel.PolledKey.Reads

open LearningKernel.Theory LearningKernel.Kernel

set_option autoImplicit false

/-- `KEY0_VALUE` and `INVALKEY`. -/
def key0Value : Int := 0xF0
def invalkey : Int := 0x00

/-- Where a call of `key_read` is.  `pressed` is that its first sample was 0. -/
inductive Phase where
  | idle
  /-- in the loop: the key is held -/
  | waiting
  /-- before `atomic_set` -/
  | setting (pressed : Bool)
  /-- before `atomic_read` -/
  | reading (pressed : Bool)
  /-- before `copy_to_user` -/
  | copying (pressed : Bool) (value : Int)
  /-- returned `-EFAULT` -/
  | failed
  /-- returned `sizeof(value)`, with the value in the user's buffer -/
  | returned (pressed : Bool) (value : Int)
  deriving DecidableEq

structure State (Call : Type) where
  keyvalue : Int
  phase : Call → Phase

/-- No call has begun. -/
def State.fresh (Call : Type) (keyvalue : Int) : State Call :=
  { keyvalue := keyvalue, phase := fun _ => .idle }

inductive Act (Call : Type) where
  /-- `gpio_get_value` gives the level -/
  | sample (c : Call) (level : Bool)
  | atomicSet (c : Call)
  | atomicRead (c : Call)
  | copyToUser (c : Call) (complete : Bool)
  deriving DecidableEq

/-- What a call stores in the cell. -/
def keyCode (pressed : Bool) : Int := if pressed then key0Value else invalkey

variable {Call : Type} [DecidableEq Call]

def State.enter (s : State Call) (c : Call) (phase : Phase) : State Call :=
  { s with phase := Function.update s.phase c phase }

/-- `key_read`, step by step. -/
def step (s : State Call) : Act Call → Option (State Call)
  | .sample c level =>
      match s.phase c with
      | .idle => some (s.enter c (if level then .setting false else .waiting))
      | .waiting => some (s.enter c (if level then .setting true else .waiting))
      | _ => none
  | .atomicSet c =>
      match s.phase c with
      | .setting pressed => some { s.enter c (.reading pressed) with keyvalue := keyCode pressed }
      | _ => none
  | .atomicRead c =>
      match s.phase c with
      | .reading pressed => some (s.enter c (.copying pressed s.keyvalue))
      | _ => none
  | .copyToUser c complete =>
      match s.phase c with
      | .copying pressed value =>
          some (s.enter c (if complete then .returned pressed value else .failed))
      | _ => none

/-- Any calls on one open file, in any order. -/
def machine (Call : Type) [DecidableEq Call] : Machine (State Call) (Act Call) Unit :=
  ⟨fun s x => (step s x).map fun t => ((), t)⟩

abbrev ReadEvent (Call : Type) := Event (State Call) (Act Call) Unit

/-- Every successful call has answered by its own first sample. -/
def Answers (s : State Call) : Prop :=
  ∀ c pressed value, s.phase c = .returned pressed value → value = keyCode pressed

/-- The first sample of the call that stores by this step. -/
def stores? (e : ReadEvent Call) : Option Bool :=
  match e.act with
  | .atomicSet c =>
      match e.source.phase c with
      | .setting pressed => some pressed
      | _ => none
  | _ => none

/-- An `atomic_read` follows, as the last `atomic_set`, one of a call whose first sample
was the same. -/
def Undisturbed (past : List (ReadEvent Call)) (e : ReadEvent Call) : Prop :=
  match e.act with
  | .atomicRead c =>
      match e.source.phase c with
      | .reading pressed => latest stores? past = some pressed
      | _ => True
  | _ => True

instance (past : List (ReadEvent Call)) (e : ReadEvent Call) : Decidable (Undisturbed past e) :=
  match act : e.act with
  | .sample .. | .atomicSet .. | .copyToUser .. =>
      decidable_of_iff True (by simp only [Undisturbed, act])
  | .atomicRead c =>
      match here : e.source.phase c with
      | .reading pressed =>
          decidable_of_iff (latest stores? past = some pressed)
            (by simp only [Undisturbed, act, here])
      | .idle | .waiting | .setting _ | .copying .. | .failed | .returned .. =>
          decidable_of_iff True (by simp only [Undisturbed, act, here])

/-! ## One step -/

/-- What a call has read, with its first sample. -/
def Phase.taken? : Phase → Option (Bool × Int)
  | copying pressed value | returned pressed value => some (pressed, value)
  | _ => none

/-- The cases of one step. -/
inductive Turns (e : ReadEvent Call) : Prop where
  | samples (c : Call) (phase : Phase) (act : ∃ level, e.act = .sample c level)
      (sampled : phase = .waiting ∨ ∃ pressed, phase = .setting pressed)
      (keyvalue : e.target.keyvalue = e.source.keyvalue)
      (moves : e.target.phase = Function.update e.source.phase c phase)
  | stores (c : Call) (pressed : Bool) (act : e.act = .atomicSet c)
      (here : e.source.phase c = .setting pressed) (keyvalue : e.target.keyvalue = keyCode pressed)
      (moves : e.target.phase = Function.update e.source.phase c (.reading pressed))
  | reads (c : Call) (pressed : Bool) (act : e.act = .atomicRead c)
      (here : e.source.phase c = .reading pressed)
      (keyvalue : e.target.keyvalue = e.source.keyvalue)
      (moves : e.target.phase =
        Function.update e.source.phase c (.copying pressed e.source.keyvalue))
  | copies (c : Call) (pressed : Bool) (value : Int) (complete : Bool)
      (act : e.act = .copyToUser c complete) (here : e.source.phase c = .copying pressed value)
      (keyvalue : e.target.keyvalue = e.source.keyvalue)
      (moves : e.target.phase =
        Function.update e.source.phase c (if complete then .returned pressed value else .failed))

theorem turns_of_takes {e : ReadEvent Call} (taken : (machine Call).Takes e) : Turns e := by
  obtain ⟨s, act, ⟨⟩, t⟩ := e
  obtain ⟨t', stepped, same⟩ := Option.map_eq_some_iff.1 taken
  cases same
  cases act with
  | sample c level =>
      simp only [step] at stepped
      split at stepped <;> cases stepped
      · refine .samples c _ ⟨level, rfl⟩ ?_ rfl rfl
        cases level <;> simp
      · refine .samples c _ ⟨level, rfl⟩ ?_ rfl rfl
        cases level <;> simp
  | atomicSet c =>
      simp only [step] at stepped
      split at stepped <;> cases stepped
      rename_i pressed here
      exact .stores c pressed rfl here rfl rfl
  | atomicRead c =>
      simp only [step] at stepped
      split at stepped <;> cases stepped
      rename_i pressed here
      exact .reads c pressed rfl here rfl rfl
  | copyToUser c complete =>
      simp only [step] at stepped
      split at stepped <;> cases stepped
      rename_i pressed value here
      exact .copies c pressed value complete rfl here rfl rfl

/-! ## Runs -/

/-- The cell holds what was stored last, and a call stores before it reads. -/
structure Stored (past : List (ReadEvent Call)) (s : State Call) : Prop where
  cell : ∀ pressed, latest stores? past = some pressed → s.keyvalue = keyCode pressed
  reads : ∀ c pressed, s.phase c = .reading pressed → latest stores? past ≠ none

/-- What every call has read is its own. -/
def Own (s : State Call) : Prop :=
  ∀ c pressed value, (s.phase c).taken? = some (pressed, value) → value = keyCode pressed

section Steps

variable {past : List (ReadEvent Call)} {e : ReadEvent Call}

omit [DecidableEq Call] in
theorem stored_fresh (keyvalue : Int) : Stored [] (State.fresh Call keyvalue) where
  cell := nofun
  reads _ _ reading := nomatch reading

theorem Stored.kept (stored : Stored past e.source) (quiet : stores? e = none) {c : Call}
    {phase : Phase} (keyvalue : e.target.keyvalue = e.source.keyvalue)
    (moves : e.target.phase = Function.update e.source.phase c phase)
    (new : ∀ pressed, phase ≠ .reading pressed) : Stored (past ++ [e]) e.target := by
  have same : latest stores? (past ++ [e]) = latest stores? past := by
    rw [latest_concat, quiet, Option.none_or]
  refine ⟨?_, ?_⟩
  · intro pressed last
    rw [same] at last
    rw [keyvalue]
    exact stored.cell pressed last
  · rw [same, moves]
    apply (Function.forall_update_iff e.source.phase
      (p := fun _ phase => ∀ pressed, phase = .reading pressed → latest stores? past ≠ none)).2
    refine ⟨?_, fun c' _ => stored.reads c'⟩
    intro pressed reading
    exact absurd reading (new pressed)

theorem Stored.step (stored : Stored past e.source) (turns : Turns e) :
    Stored (past ++ [e]) e.target := by
  cases turns with
  | samples c phase act sampled keyvalue moves =>
      obtain ⟨level, act⟩ := act
      refine stored.kept (by simp [stores?, act]) keyvalue moves ?_
      rcases sampled with rfl | ⟨pressed, rfl⟩ <;> nofun
  | stores c pressed act here keyvalue moves =>
      have last : latest stores? (past ++ [e]) = some pressed := by
        have now : stores? e = some pressed := by simp [stores?, act, here]
        rw [latest_concat, now, Option.some_or]
      refine ⟨?_, ?_⟩
      · intro pressed' last'
        rw [keyvalue, Option.some.inj (last.symm.trans last')]
      · intro c' pressed' _
        rw [last]
        nofun
  | reads c pressed act here keyvalue moves =>
      exact stored.kept (by simp [stores?, act]) keyvalue moves nofun
  | copies c pressed value complete act here keyvalue moves =>
      refine stored.kept (by simp [stores?, act]) keyvalue moves ?_
      cases complete <;> nofun

/-- A call that moves keeps them, if what it has read is its own. -/
theorem Own.moved (own : Own e.source) {c : Call} {phase : Phase}
    (moves : e.target.phase = Function.update e.source.phase c phase)
    (new : ∀ pressed value, phase.taken? = some (pressed, value) → value = keyCode pressed) :
    Own e.target := by
  rw [Own, moves]
  exact (Function.forall_update_iff e.source.phase (p := fun _ phase => ∀ pressed value,
    phase.taken? = some (pressed, value) → value = keyCode pressed)).2 ⟨new, fun c' _ => own c'⟩

theorem Own.step (own : Own e.source) (stored : Stored past e.source) (turns : Turns e)
    (undisturbed : Undisturbed past e) : Own e.target := by
  cases turns with
  | samples c phase act sampled keyvalue moves =>
      refine own.moved moves ?_
      rcases sampled with rfl | ⟨pressed, rfl⟩ <;> nofun
  | stores c pressed act here keyvalue moves => exact own.moved moves nofun
  | reads c pressed act here keyvalue moves =>
      refine own.moved moves ?_
      intro pressed' value taken
      have last : latest stores? past = some pressed := by
        simpa only [Undisturbed, act, here] using undisturbed
      cases taken
      exact stored.cell pressed last
  | copies c pressed value complete act here keyvalue moves =>
      refine own.moved moves ?_
      intro pressed' value' taken
      cases complete with
      | true =>
          cases taken
          exact own c pressed value (by rw [here]; rfl)
      | false => cases taken

end Steps

omit [DecidableEq Call] in
theorem Own.answers {s : State Call} (own : Own s) : Answers s := by
  intro c pressed value returned
  exact own c pressed value (by rw [returned]; rfl)

theorem keyCode_inj {pressed pressed' : Bool} (same : keyCode pressed = keyCode pressed') :
    pressed = pressed' := by
  cases pressed <;> cases pressed' <;> first | rfl | exact absurd same (by decide)

/-- A call whose read of the cell is disturbed has another's value: if its copy is
complete, it answers by the first sample of the other. -/
theorem misread_of_disturbed {keyvalue : Int} {past : List (ReadEvent Call)}
    {e : ReadEvent Call}
    (path : (machine Call).Path (State.fresh Call keyvalue) (past ++ [e]) e.target)
    (disturbed : ¬ Undisturbed past e) :
    ∃ c t, e.act = .atomicRead c ∧ step e.target (.copyToUser c true) = some t ∧
      ¬ Answers t := by
  obtain ⟨front, taken, -⟩ := Machine.path_concat_iff.1 path
  have stored : Stored past e.source := front.history (C := fun _ => True) (J := Stored)
    (stored_fresh keyvalue)
    (fun _ _ _ taken _ stored => stored.step (turns_of_takes taken)) fun _ _ => trivial
  cases turns_of_takes taken with
  | samples c phase act sampled keyvalue moves =>
      obtain ⟨level, act⟩ := act
      exact absurd (by simp only [Undisturbed, act]) disturbed
  | stores c pressed act here keyvalue moves =>
      exact absurd (by simp only [Undisturbed, act]) disturbed
  | copies c pressed value complete act here keyvalue moves =>
      exact absurd (by simp only [Undisturbed, act]) disturbed
  | reads c pressed act here same moves =>
      obtain ⟨other, last⟩ := Option.ne_none_iff_exists'.1 (stored.reads c pressed here)
      have differs : other ≠ pressed := by
        rintro rfl
        exact disturbed (by simpa only [Undisturbed, act, here] using last)
      have copying : e.target.phase c = .copying pressed (keyCode other) := by
        rw [moves, Function.update_self, stored.cell other last]
      refine ⟨c, e.target.enter c (.returned pressed (keyCode other)), act, ?_, ?_⟩
      · simp [step, copying]
      · intro answers
        have own := answers c pressed (keyCode other) (by simp [State.enter])
        exact differs (keyCode_inj own)

/-- **No press is lost**, nor found, in a run whose reads of the cell are undisturbed:
in every state reached, every successful call has answered by its own first sample. -/
theorem answers_of_undisturbed {keyvalue : Int} {es : List (ReadEvent Call)} {u : State Call}
    (path : (machine Call).Path (State.fresh Call keyvalue) es u)
    (undisturbed : ∀ before e after, es = before ++ e :: after → Undisturbed before e) :
    Answers u ∧ ∀ e ∈ es, Answers e.source ∧ Answers e.target := by
  obtain ⟨final, along⟩ := path.along (D := Undisturbed)
    (J := fun past s => Stored past s ∧ Own s) ⟨stored_fresh keyvalue, nofun⟩
    (fun past e taken quiet before =>
      ⟨before.1.step (turns_of_takes taken), before.2.step before.1 (turns_of_takes taken) quiet⟩)
    undisturbed
  refine ⟨final.2.answers, ?_⟩
  intro e member
  obtain ⟨before, after, cut⟩ := List.append_of_mem member
  obtain ⟨-, source, target⟩ := along before e after cut
  exact ⟨source.2.answers, target.2.answers⟩

/-- One call after the other, of which the first finds the key pressed. -/
def inTurn : List (Act Bool) :=
  [.sample false false, .sample false true, .atomicSet false, .atomicRead false,
    .copyToUser false true, .sample true true, .atomicSet true, .atomicRead true,
    .copyToUser true true]

theorem answers_inTurn :
    let es := (machine Bool).trace (State.fresh Bool 0) inTurn
    es.length = 9 ∧ (Answers ((machine Bool).final (State.fresh Bool 0) inTurn) ∧
      ∀ e ∈ es, Answers e.source ∧ Answers e.target) :=
  ⟨rfl, answers_of_undisturbed (Machine.path_trace _ _ _) (forall_of_pasts (by decide))⟩

/-- The second call stores between the two accesses of the first. -/
def overtaken : List (Act Bool) :=
  [.sample false false, .sample false true, .sample true true, .atomicSet false,
    .atomicSet true, .atomicRead false, .copyToUser false true]

/-- The first call found the key pressed, and answers that it was not. -/
theorem press_lost :
    let u := (machine Bool).final (State.fresh Bool 0) overtaken
    ((machine Bool).trace (State.fresh Bool 0) overtaken).length = 7 ∧
      u.phase false = .returned true invalkey ∧ ¬ Answers u := by
  refine ⟨rfl, rfl, ?_⟩
  intro answers
  exact absurd (answers false true invalkey rfl) (by decide)

end LearningKernel.PolledKey.Reads
