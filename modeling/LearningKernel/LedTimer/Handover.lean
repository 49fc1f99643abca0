/-
# LedTimer.Handover -- from one session of the LED timer to the next

`led_release` gives the GPIO back before it deletes the timer, and the GPIO is all that
keeps the next session out.  So the next session may be open, and have armed the timer,
while the `del_timer_sync` of an earlier release is still to come, which then stops what
is not its own; and what an earlier session armed may be stopped by a later one.

Here the sessions are numbered in the order of their opens, and the device of
`LedTimer.Sessions` is seen with the number of each release and of each command.
`undisturbed_of_waits`: in a run in which no session arms the timer, or stops it, before
every earlier release has deleted it, a timer is stopped by its own session only.
`disturbed_of_early`: a run that goes on in the other way once can be continued to one
in which it is not.
-/
import LearningKernel.LedTimer.Sessions

namespace LearningKernel.LedTimer.Handover

open LearningKernel.Theory
open LearningKernel.LedTimer.Sessions (Stage Cmd Handler Tick TimerEvent Counted)

set_option autoImplicit false

variable {T : Type}

/-! ## The timer -/

/-- Pending, or in `timer_function` before it arms it again. -/
def Live (s : Sessions.State T) : Prop :=
  s.pending ≠ none ∨ (s.handler ≠ .idle ∧ s.handler ≠ .armed)

instance (s : Sessions.State T) : Decidable (Live s) := inferInstanceAs (Decidable (_ ∨ _))

/-- Before the `mod_timer` of a command. -/
def arming : Stage → Bool
  | .opened _ | .reread .. => true
  | _ => false

theorem busy_of_arming {stage : Stage} (here : arming stage = true) : stage ≠ .idle := by
  rintro rfl
  cases here

/-- What a step does to the timer. -/
inductive Runs (e : TimerEvent T) : Prop where
  | arms (t : T) (act : e.act = .proceed t) (here : arming (e.source.threads t) = true)
      (live : Live e.target)
  | closes (t : T) (act : e.act = .proceed t) (here : e.source.threads t = .closing)
      (dead : ¬ Live e.target)
  | deletes (act : e.act = .delTimerSync) (dead : ¬ Live e.target)
  | keeps (same : Live e.target ↔ Live e.source)
      (proceeds : ∀ t, e.act = .proceed t →
        arming (e.source.threads t) = false ∧ e.source.threads t ≠ .closing)
      (other : e.act ≠ .delTimerSync)

theorem live_congr {s u : Sessions.State T} (pending : u.pending = s.pending)
    (handler : u.handler = s.handler) : Live u ↔ Live s := by
  unfold Live
  rw [pending, handler]

theorem not_live {s : Sessions.State T} (pending : s.pending = none) (idle : s.handler = .idle) :
    ¬ Live s := by
  rintro (due | ⟨running, -⟩)
  · exact due pending
  · exact running idle

variable [DecidableEq T]

theorem runs_of_turns {e : TimerEvent T} (turns : Sessions.Turns e) : Runs e := by
  cases turns with
  | file move handler sta threads =>
      cases move with
      | stores act timeperiod pending =>
          exact .keeps (live_congr pending handler) (by rw [act]; nofun) (by rw [act]; nofun)
      | drives act driven timeperiod pending =>
          refine .keeps (live_congr pending handler) ?_ ?_ <;>
            rcases act with ⟨_, _, act⟩ | act <;> rw [act] <;> nofun
      | passes act driven timeperiod pending =>
          refine .keeps (live_congr pending handler) ?_ ?_ <;>
            rcases act with ⟨_, _, act⟩ | act | act <;> rw [act] <;> nofun
      | deletes act idle timeperiod pending =>
          exact .deletes act (not_live pending (handler.trans idle))
  | thread t stage threads move handler sta level =>
      generalize here : e.source.threads t = stage' at move
      have only : ∀ t', e.act = .proceed t → e.act = .proceed t' →
          e.source.threads t' = stage' := by
        intro t' act act'
        rw [act] at act'
        cases act'
        exact here
      cases move with
      | starts cmd stage act first timeperiod pending | returns cmd act timeperiod pending =>
          exact .keeps (live_congr pending handler) (by rw [act]; nofun) (by rw [act]; nofun)
      | deletes act idle timeperiod pending =>
          exact .closes t act here (not_live pending (handler.trans idle))
      | reads act timeperiod pending | stores p act timeperiod pending
      | rereads p act timeperiod pending =>
          refine .keeps (live_congr pending handler) ?_ (by rw [act]; nofun)
          intro t' act'
          rw [only t' act act']
          exact ⟨rfl, nofun⟩
      | arms q act timeperiod pending | rearms p q act timeperiod pending =>
          refine .arms t act (by rw [here]; rfl) (Or.inl ?_)
          rw [pending]
          nofun
  | handler move threads timeperiod =>
      obtain ⟨x, ticks⟩ := move.ticks
      refine .keeps ?_ (by rw [ticks]; nofun) (by rw [ticks]; nofun)
      unfold Live
      generalize e.source.handler = h at move ⊢
      generalize e.target.handler = h' at move ⊢
      cases move with
      | expires act due pending => simp [due]
      | toggles act pending | drives act pending | reads act pending => simp
      | arms q act pending => simp [pending]
      | leaves act pending => simp [pending]

omit [DecidableEq T] in
/-- The step of a command. -/
theorem Runs.of_proceed {e : TimerEvent T} (runs : Runs e) {t : T} (act : e.act = .proceed t) :
    (arming (e.source.threads t) = true → Live e.target) ∧
      (e.source.threads t = .closing → ¬ Live e.target) := by
  cases runs with
  | arms t' act' here live =>
      rw [act] at act'
      cases act'
      refine ⟨fun _ => live, ?_⟩
      intro closing
      rw [closing] at here
      cases here
  | closes t' act' here dead =>
      rw [act] at act'
      cases act'
      refine ⟨?_, fun _ => dead⟩
      intro arms
      rw [here] at arms
      cases arms
  | deletes act' =>
      rw [act] at act'
      cases act'
  | keeps same proceeds other =>
      obtain ⟨quiet, others⟩ := proceeds t act
      refine ⟨?_, fun closing => absurd closing others⟩
      intro arms
      rw [quiet] at arms
      cases arms

omit [DecidableEq T] in
/-- The `del_timer_sync` of a release. -/
theorem Runs.of_delTimerSync {e : TimerEvent T} (runs : Runs e) (act : e.act = .delTimerSync) :
    ¬ Live e.target := by
  cases runs with
  | arms t act' | closes t act' =>
      rw [act] at act'
      cases act'
  | deletes act' dead => exact dead
  | keeps same proceeds other => exact absurd act other

/-! ## Numbered sessions -/

/-- The device; how many sessions there have been, the last being the open one; those
whose release is before `del_timer_sync`; the session whose file a command of each
thread is on; and the one whose command armed the timer last. -/
structure State (T : Type) where
  dev : Sessions.State T
  number : Nat
  ending : List Nat
  file : T → Nat
  armedBy : Option Nat

/-- The module loaded. -/
def State.loaded (T : Type) : State T :=
  { dev := .loaded T, number := 0, ending := [], file := fun _ => 0, armedBy := none }

inductive Act (T : Type) where
  /-- a step of the device other than `delTimerSync` -/
  | dev (x : Sessions.Act T)
  /-- the `del_timer_sync` of the release of a session -/
  | delTimerSync (k : Nat)

/-- The session whose command arms the timer by a step. -/
def State.arms? (s : State T) : Sessions.Act T → Option Nat
  | .proceed t => if arming (s.dev.threads t) then some (s.file t) else none
  | _ => none

/-- The session whose `CLOSE_CMD` deletes it. -/
def State.closes? (s : State T) : Sessions.Act T → Option Nat
  | .proceed t => if s.dev.threads t = .closing then some (s.file t) else none
  | _ => none

/-- The numbers after a step of the device. -/
def State.after (s : State T) (x : Sessions.Act T) (dev : Sessions.State T) : State T :=
  { dev := dev
    number := if s.dev.session = .closed ∧ dev.session = .open then s.number + 1 else s.number
    ending :=
      if s.dev.session = .freeing ∧ dev.session = .closed then s.number :: s.ending else s.ending
    file :=
      match x with
      | .start t _ => Function.update s.file t s.number
      | _ => s.file
    armedBy := (s.arms? x).or s.armedBy }

def step (s : State T) : Act T → Option (State T)
  | .dev .delTimerSync => none
  | .dev x => (Sessions.step s.dev x).map (s.after x)
  | .delTimerSync k =>
      if k ∈ s.ending then
        (Sessions.step s.dev .delTimerSync).map fun dev =>
          { s with dev := dev, ending := s.ending.erase k }
      else none

/-- The device with its sessions told apart. -/
def machine (T : Type) [DecidableEq T] : Machine (State T) (Act T) Unit :=
  ⟨fun s x => (step s x).map fun t => ((), t)⟩

abbrev HandEvent (T : Type) := Event (State T) (Act T) Unit

/-- The step of the device. -/
def Act.base : Act T → Sessions.Act T
  | .dev x => x
  | .delTimerSync _ => .delTimerSync

/-- The event of the device. -/
def base (e : HandEvent T) : TimerEvent T := ⟨e.source.dev, e.act.base, (), e.target.dev⟩

/-- The session that deletes the timer by this step. -/
def deletes? (e : HandEvent T) : Option Nat :=
  match e.act with
  | .dev x => e.source.closes? x
  | .delTimerSync k => some k

omit [DecidableEq T] in
theorem deletes?_proceed {e : HandEvent T} {t : T} (act : e.act.base = .proceed t)
    (closing : e.source.dev.threads t = .closing) : deletes? e = some (e.source.file t) := by
  cases kind : e.act with
  | dev x =>
      rw [kind] at act
      obtain rfl : x = .proceed t := act
      simp only [deletes?, kind]
      exact if_pos closing
  | delTimerSync k =>
      rw [kind] at act
      cases act

/-- A timer that is stopped is stopped by the session that armed it, by its `CLOSE_CMD` or
its release. -/
def StopsOwn (e : HandEvent T) : Prop :=
  Live e.source.dev → ¬ Live e.target.dev →
    ∃ k, e.source.armedBy = some k ∧ deletes? e = some k

/-- Every release of a session before `j` has deleted the timer. -/
def State.Over (s : State T) (j : Nat) : Prop := ∀ i ∈ s.ending, j ≤ i

instance (s : State T) (j : Nat) : Decidable (s.Over j) :=
  inferInstanceAs (Decidable (∀ i ∈ s.ending, j ≤ i))

/-- A session that arms the timer, or deletes it while it is live, does so after every
earlier release has deleted it. -/
structure Waits (e : HandEvent T) : Prop where
  arms : ∀ j ∈ e.source.arms? e.act.base, e.source.Over j
  deletes : Live e.source.dev → ∀ j ∈ deletes? e, e.source.Over j

instance (e : HandEvent T) : Decidable (Waits e) :=
  decidable_of_iff
    ((∀ j ∈ e.source.arms? e.act.base, e.source.Over j) ∧
      (Live e.source.dev → ∀ j ∈ deletes? e, e.source.Over j))
    ⟨fun waits => ⟨waits.1, waits.2⟩, fun waits => ⟨waits.arms, waits.deletes⟩⟩

/-! ## The cases of one step -/

/-- A step of the device, or the `del_timer_sync` of a release. -/
inductive Hands (e : HandEvent T) : Prop where
  | steps (x : Sessions.Act T) (act : e.act = .dev x) (other : x ≠ .delTimerSync)
      (target : e.target = e.source.after x e.target.dev)
  | deletes (k : Nat) (act : e.act = .delTimerSync k) (member : k ∈ e.source.ending)
      (target : e.target =
        { e.source with dev := e.target.dev, ending := e.source.ending.erase k })

theorem hands_of_takes {e : HandEvent T} (taken : (machine T).Takes e) :
    Hands e ∧ (Sessions.machine T).Takes (base e) := by
  obtain ⟨s, act, ⟨⟩, u⟩ := e
  obtain ⟨v, stepped, same⟩ := Option.map_eq_some_iff.1 taken
  cases same
  dsimp only at stepped
  unfold step at stepped
  split at stepped
  · cases stepped
  · rename_i x other
    obtain ⟨dev, moved, same⟩ := Option.map_eq_some_iff.1 stepped
    cases same
    refine ⟨.steps x rfl other rfl, ?_⟩
    exact Option.map_eq_some_iff.2 ⟨dev, moved, rfl⟩
  · rename_i k
    split at stepped
    · rename_i member
      obtain ⟨dev, moved, same⟩ := Option.map_eq_some_iff.1 stepped
      cases same
      refine ⟨.deletes k rfl member rfl, ?_⟩
      exact Option.map_eq_some_iff.2 ⟨dev, moved, rfl⟩
    · cases stepped

theorem runs_of_takes {e : HandEvent T} (taken : (machine T).Takes e) : Runs (base e) :=
  runs_of_turns (Sessions.turns_of_takes (hands_of_takes taken).2)

/-- Told apart or not, the sessions are those of the device. -/
theorem path_dev {s u : State T} {es : List (HandEvent T)} (path : (machine T).Path s es u) :
    (Sessions.machine T).Path s.dev (es.map base) u.dev := by
  rw [← List.filterMap_eq_map]
  refine path.project (π := State.dev) ?_
  intro e taken
  exact Or.inr ⟨base e, rfl, (hands_of_takes taken).2, rfl, rfl⟩

/-- The command of a thread is on the file of the session before, or on that of the
latest session. -/
theorem Hands.file {e : HandEvent T} (hands : Hands e) (t : T) :
    e.target.file t = e.source.file t ∨ e.target.file t = e.source.number := by
  cases hands with
  | steps x act other target =>
      rw [target]
      cases x with
      | start t' cmd =>
          by_cases same : t = t'
          · subst same
            exact Or.inr (Function.update_self ..)
          · exact Or.inl (Function.update_of_ne same ..)
      | openStore | openParse | proceed | ret | release | releaseStep | delTimerSync | tick =>
          exact Or.inl rfl
  | deletes k act member target =>
      rw [target]
      exact Or.inl rfl

theorem Hands.started {e : HandEvent T} (hands : Hands e) {t : T} {cmd : Cmd}
    (act : e.act.base = .start t cmd) : e.target.file t = e.source.number := by
  cases hands with
  | steps x act' other target =>
      rw [act'] at act
      obtain rfl : x = .start t cmd := act
      rw [target]
      exact Function.update_self ..
  | deletes k act' =>
      rw [act'] at act
      cases act

/-- What a step does to the numbers. -/
inductive Numbers (e : HandEvent T) : Prop where
  | opens (closed : e.source.dev.session = .closed) (session : e.target.dev.session = .open)
      (number : e.target.number = e.source.number + 1)
      (ending : e.target.ending = e.source.ending)
      (deletions : e.target.dev.deletions = e.source.dev.deletions)
  | frees (here : e.source.dev.session = .freeing) (session : e.target.dev.session = .closed)
      (number : e.target.number = e.source.number)
      (ending : e.target.ending = e.source.number :: e.source.ending)
      (deletions : e.target.dev.deletions = e.source.dev.deletions + 1)
  | deletes (k : Nat) (act : e.act = .delTimerSync k) (member : k ∈ e.source.ending)
      (session : e.target.dev.session = e.source.dev.session)
      (number : e.target.number = e.source.number)
      (ending : e.target.ending = e.source.ending.erase k)
      (deletions : e.target.dev.deletions = e.source.dev.deletions - 1)
  | keeps (shut : e.target.dev.session = .closed ↔ e.source.dev.session = .closed)
      (number : e.target.number = e.source.number)
      (ending : e.target.ending = e.source.ending)
      (deletions : e.target.dev.deletions = e.source.dev.deletions)

theorem numbers_of_takes {e : HandEvent T} (taken : (machine T).Takes e) : Numbers e := by
  obtain ⟨hands, moved⟩ := hands_of_takes taken
  cases hands with
  | deletes k act member target =>
      obtain ⟨-, same⟩ := Sessions.delTimerSync_event moved (congrArg Act.base act)
      have dev : e.target.dev = { e.source.dev with
        deletions := e.source.dev.deletions - 1, pending := none } := same
      refine .deletes k act member ?_ ?_ ?_ ?_
      · rw [dev]
      · rw [target]
      · rw [target]
      · rw [dev]
  | steps x act other target =>
      have number : e.target.number =
          if e.source.dev.session = .closed ∧ e.target.dev.session = .open
          then e.source.number + 1 else e.source.number := congrArg State.number target
      have ending : e.target.ending =
          if e.source.dev.session = .freeing ∧ e.target.dev.session = .closed
          then e.source.number :: e.source.ending else e.source.ending :=
        congrArg State.ending target
      have keeps : (e.source.dev.session = .closed → e.target.dev.session = .closed) →
          (e.target.dev.session = .closed → e.source.dev.session = .closed) →
            e.target.dev.deletions = e.source.dev.deletions → Numbers e := by
        intro shut open' deletions
        refine .keeps ⟨open', shut⟩ (number.trans (if_neg ?_)) (ending.trans (if_neg ?_)) deletions
        · rintro ⟨closed, opened⟩
          cases (shut closed).symm.trans opened
        · rintro ⟨freeing, closed⟩
          cases (open' closed).symm.trans freeing
      cases Sessions.uses_of_takes moved with
      | opens closed session deletions =>
          refine .opens closed session (number.trans (if_pos ⟨closed, session⟩))
            (ending.trans (if_neg ?_)) deletions
          rintro ⟨freeing, -⟩
          cases closed.symm.trans freeing
      | frees here session deletions =>
          refine .frees here session (number.trans (if_neg ?_))
            (ending.trans (if_pos ⟨here, session⟩)) deletions
          rintro ⟨closed, -⟩
          cases here.symm.trans closed
      | deletes act' => exact absurd ((congrArg Act.base act).symm.trans act') other
      | starts t cmd act' here session deletions | releases here unused session deletions
      | drivesOff here session deletions =>
          refine keeps ?_ ?_ deletions
          · intro closed
            cases here.symm.trans closed
          · intro closed
            cases session.symm.trans closed
      | proceeds t stage session deletions | returns t session deletions
      | passes session deletions =>
          exact keeps (fun closed => session.trans closed) (fun closed => session.symm.trans closed)
            deletions

/-! ## Who armed the timer -/

/-- The session has not deleted the timer by its release. -/
def State.Unfinished (s : State T) (j : Nat) : Prop :=
  j ∈ s.ending ∨ (j = s.number ∧ s.dev.session ≠ .closed)

/-- The invariant: a live timer was armed by the first session that is unfinished. -/
structure Handed (s : State T) : Prop where
  counted : Counted s.dev
  owed : s.dev.deletions = s.ending.length
  past : ∀ i ∈ s.ending, i ≤ s.number
  files : ∀ t, s.dev.threads t ≠ .idle → s.file t = s.number
  armed : Live s.dev → ∃ k, s.armedBy = some k ∧ s.Unfinished k ∧ ∀ j, s.Unfinished j → k ≤ j

omit [DecidableEq T] in
theorem handed_loaded : Handed (State.loaded T) where
  counted := Sessions.counted_loaded
  owed := rfl
  past := nofun
  files _ busy := absurd rfl busy
  armed live := absurd live (not_live rfl rfl)

section Step

variable {e : HandEvent T}

omit [DecidableEq T] in
/-- What is unfinished stays so, and only an open adds to it. -/
theorem Numbers.unfinished (numbers : Numbers e) (other : ∀ k, e.act ≠ .delTimerSync k) :
    (∀ j, e.source.Unfinished j → e.target.Unfinished j) ∧
      ∀ j, e.target.Unfinished j → e.source.Unfinished j ∨ j = e.source.number + 1 := by
  cases numbers with
  | opens closed session number ending =>
      unfold State.Unfinished
      rw [number, ending, closed]
      refine ⟨?_, ?_⟩
      · rintro j (member | ⟨-, opened⟩)
        · exact Or.inl member
        · exact absurd rfl opened
      · rintro j (member | ⟨latest, -⟩)
        · exact Or.inl (Or.inl member)
        · exact Or.inr latest
  | frees here session number ending =>
      unfold State.Unfinished
      rw [number, ending, here]
      refine ⟨?_, ?_⟩
      · rintro j (member | ⟨rfl, -⟩)
        · exact Or.inl (List.mem_cons_of_mem _ member)
        · exact Or.inl List.mem_cons_self
      · rintro j (member | ⟨-, opened⟩)
        · rcases List.mem_cons.1 member with latest | before
          · exact Or.inl (Or.inr ⟨latest, nofun⟩)
          · exact Or.inl (Or.inl before)
        · exact absurd session opened
  | deletes k act => exact absurd act (other k)
  | keeps shut number ending =>
      simp only [State.Unfinished, number, ending, ne_eq, shut]
      exact ⟨fun j unfinished => unfinished, fun j unfinished => Or.inl unfinished⟩

omit [DecidableEq T] in
theorem past_step (numbers : Numbers e) (past : ∀ i ∈ e.source.ending, i ≤ e.source.number) :
    ∀ i ∈ e.target.ending, i ≤ e.target.number := by
  intro i member
  cases numbers with
  | opens closed session number ending =>
      rw [ending] at member
      rw [number]
      exact Nat.le_succ_of_le (past i member)
  | frees here session number ending =>
      rw [ending] at member
      rw [number]
      rcases List.mem_cons.1 member with latest | before
      · exact latest.le
      · exact past i before
  | deletes k act here session number ending =>
      rw [ending] at member
      rw [number]
      exact past i (List.mem_of_mem_erase member)
  | keeps shut number ending =>
      rw [ending] at member
      rw [number]
      exact past i member

omit [DecidableEq T] in
theorem owed_step (numbers : Numbers e)
    (owed : e.source.dev.deletions = e.source.ending.length) :
    e.target.dev.deletions = e.target.ending.length := by
  cases numbers with
  | opens closed session number ending deletions | keeps shut number ending deletions =>
      rw [ending, deletions, owed]
  | frees here session number ending deletions =>
      rw [ending, deletions, owed, List.length_cons]
  | deletes k act member session number ending deletions =>
      rw [ending, deletions, owed, List.length_erase_of_mem member]

omit [DecidableEq T] in
/-- An open session is the latest. -/
theorem number_of_open (numbers : Numbers e) (opened : e.source.dev.session = .open) :
    e.target.number = e.source.number := by
  cases numbers with
  | opens closed =>
      rw [opened] at closed
      cases closed
  | frees here session number | deletes k act member session number | keeps shut number =>
      exact number

theorem files_step (taken : (machine T).Takes e) (handed : Handed e.source) :
    ∀ t, e.target.dev.threads t ≠ .idle → e.target.file t = e.target.number := by
  intro t busy
  obtain ⟨hands, moved⟩ := hands_of_takes taken
  rcases (Sessions.uses_of_takes moved).busy busy with before | ⟨⟨cmd, act⟩, opened⟩
  · have same := handed.files t before
    rw [number_of_open (numbers_of_takes taken) (handed.counted.session before)]
    rcases hands.file t with kept | latest
    · rw [kept, same]
    · exact latest
  · rw [number_of_open (numbers_of_takes taken) opened]
    exact hands.started act

/-- Who armed the timer stays, unless a command arms it. -/
theorem Hands.armedBy (hands : Hands e) :
    e.target.armedBy = (e.source.arms? e.act.base).or e.source.armedBy := by
  cases hands with
  | steps x act other target =>
      rw [target, act]
      rfl
  | deletes k act member target =>
      rw [target, act]
      rfl

omit [DecidableEq T] in
/-- A command is one of the open session, which is the latest. -/
theorem Handed.command {s : State T} (handed : Handed s) {t : T}
    (busy : s.dev.threads t ≠ .idle) : s.file t = s.number ∧ s.Unfinished s.number := by
  refine ⟨handed.files t busy, Or.inr ⟨rfl, ?_⟩⟩
  rw [handed.counted.session busy]
  nofun

/-- What keeps the timer live keeps the session that armed it unfinished. -/
theorem armed_keeps (taken : (machine T).Takes e) (handed : Handed e.source)
    (live : Live e.source.dev)
    (proceeds : ∀ t, (base e).act = .proceed t →
      arming (e.source.dev.threads t) = false ∧ e.source.dev.threads t ≠ .closing)
    (other : (base e).act ≠ .delTimerSync) :
    ∃ k, e.target.armedBy = some k ∧ e.target.Unfinished k ∧
      ∀ j, e.target.Unfinished j → k ≤ j := by
  obtain ⟨k, armed, unfinished, first⟩ := handed.armed live
  have goesOn : ∀ k, e.act ≠ .delTimerSync k := by
    intro k act
    exact other (congrArg Act.base act)
  obtain ⟨stays, adds⟩ := (numbers_of_takes taken).unfinished goesOn
  have nobody : e.source.arms? e.act.base = none := by
    cases act : e.act.base with
    | proceed t =>
        obtain ⟨quiet, -⟩ := proceeds t act
        simp only [State.arms?, quiet]
        rfl
    | openStore | openParse | start | ret | release | releaseStep | delTimerSync | tick => rfl
  have below : k ≤ e.source.number := by
    rcases unfinished with member | ⟨latest, -⟩
    · exact handed.past k member
    · exact latest.le
  refine ⟨k, ?_, stays k unfinished, ?_⟩
  · rw [(hands_of_takes taken).1.armedBy, nobody, armed]
    rfl
  · intro j later
    rcases adds j later with before | new
    · exact first j before
    · omega

/-- A session that arms the timer after every earlier release is the first unfinished. -/
theorem armed_anew (taken : (machine T).Takes e) (handed : Handed e.source) {t : T}
    (act : e.act.base = .proceed t) (here : arming (e.source.dev.threads t) = true)
    (settled : ∀ j ∈ e.source.arms? e.act.base, e.source.Over j) :
    ∃ k, e.target.armedBy = some k ∧ e.target.Unfinished k ∧
      ∀ j, e.target.Unfinished j → k ≤ j := by
  have arms : e.source.arms? e.act.base = some (e.source.file t) := by
    rw [act]
    exact if_pos here
  obtain ⟨mine, unfinished⟩ := handed.command (busy_of_arming here)
  have goesOn : ∀ k, e.act ≠ .delTimerSync k := by
    intro k deletes
    cases (congrArg Act.base deletes).symm.trans act
  obtain ⟨stays, adds⟩ := (numbers_of_takes taken).unfinished goesOn
  refine ⟨e.source.number, ?_, stays _ unfinished, ?_⟩
  · rw [(hands_of_takes taken).1.armedBy, arms, mine]
    rfl
  · intro j later
    rcases adds j later with (member | ⟨latest, -⟩) | new
    · have after := settled _ arms j member
      omega
    · exact latest.ge
    · omega

theorem Handed.step (taken : (machine T).Takes e) (waits : Waits e) (handed : Handed e.source) :
    Handed e.target where
  counted := handed.counted.step (hands_of_takes taken).2
  owed := owed_step (numbers_of_takes taken) handed.owed
  past := past_step (numbers_of_takes taken) handed.past
  files := files_step taken handed
  armed live := by
    cases runs_of_takes taken with
    | arms t act here => exact armed_anew taken handed act here waits.arms
    | closes t act here dead | deletes act dead => exact absurd live dead
    | keeps same proceeds other =>
        exact armed_keeps taken handed (same.1 live) proceeds other

omit [DecidableEq T] in
/-- Who may delete a live timer is who armed it. -/
theorem Handed.owner {s : State T} (handed : Handed s) (live : Live s.dev) {j : Nat}
    (unfinished : s.Unfinished j) (settled : s.Over j) : s.armedBy = some j := by
  obtain ⟨k, armed, owes, first⟩ := handed.armed live
  have below := first j unfinished
  have latest : j ≤ s.number := by
    rcases unfinished with member | ⟨same, -⟩
    · exact handed.past j member
    · exact same.le
  have same : k = j := by
    rcases owes with member | ⟨number, -⟩
    · have after := settled k member
      omega
    · omega
  rw [armed, same]

theorem stopsOwn_of_waits (taken : (machine T).Takes e) (waits : Waits e)
    (handed : Handed e.source) : StopsOwn e := by
  intro live dead
  cases runs_of_takes taken with
  | arms t act here lives => exact absurd lives dead
  | keeps same => exact absurd (same.2 live) dead
  | closes t act here =>
      have closing : e.source.dev.threads t = .closing := here
      have busy : e.source.dev.threads t ≠ .idle := by
        rw [closing]
        nofun
      obtain ⟨mine, unfinished⟩ := handed.command busy
      have deletes : deletes? e = some e.source.number := by
        rw [deletes?_proceed act closing, mine]
      exact ⟨_, handed.owner live unfinished (waits.deletes live _ deletes), deletes⟩
  | deletes act =>
      cases (hands_of_takes taken).1 with
      | steps x kind other => exact absurd ((congrArg Act.base kind).symm.trans act) other
      | deletes k kind member =>
          have deletes : deletes? e = some k := by simp only [deletes?, kind]
          exact ⟨k, handed.owner live (Or.inl member) (waits.deletes live k deletes), deletes⟩

end Step

/-! ## Runs -/

/-- **Closing one session does not disturb the next**, in any run of any threads in which
no session arms the timer, or stops it, before every earlier release has deleted it. -/
theorem undisturbed_of_waits {es : List (HandEvent T)} {u : State T}
    (path : (machine T).Path (State.loaded T) es u) (waits : ∀ e ∈ es, Waits e) :
    ∀ e ∈ es, StopsOwn e := by
  obtain ⟨-, along⟩ := path.keeps (C := Waits) (I := Handed)
    (fun e taken waits handed => handed.step taken waits) waits handed_loaded
  intro e member
  obtain ⟨taken, before, -⟩ := along e member
  exact stopsOwn_of_waits taken (waits e member) before

/-- A session up to the `gpio_free` of its release, in which the timer is armed if `arm`. -/
def session (arm : Bool) : List (Act Unit) :=
  [.dev .openStore, .dev (.openParse true true)] ++
    (if arm then
      [.dev (.start () .open), .dev (.proceed ()), .dev (.proceed ()), .dev (.ret ())]
    else []) ++
      [.dev .release, .dev .releaseStep, .dev .releaseStep]

/-- Two sessions one after the other, each with its timer armed and deleted. -/
def turns : List (Act Unit) :=
  session true ++ [.delTimerSync 1] ++ session true ++ [.delTimerSync 2]

theorem undisturbed_of_waits_turns :
    let es := (machine Unit).trace (State.loaded Unit) turns
    es.length = 20 ∧ (∃ e ∈ es, Live e.source.dev ∧ ¬ Live e.target.dev ∧ deletes? e = some 2) ∧
      ∀ e ∈ es, StopsOwn e := by
  refine ⟨by decide, by decide, ?_⟩
  exact undisturbed_of_waits (Machine.path_trace _ _ turns) (by decide)

/-- The first release has freed the GPIO, the second session opens and arms the timer, and
then the release goes on and deletes it. -/
def overlap : List (Act Unit) :=
  session false ++
    [.dev .openStore, .dev (.openParse true true), .dev (.start () .open), .dev (.proceed ()),
      .dev (.proceed ()), .dev (.ret ()), .delTimerSync 1]

theorem release_stops_next_session :
    let es := (machine Unit).trace (State.loaded Unit) overlap
    ∃ e ∈ es, ¬ StopsOwn e ∧ e.source.dev.session = .open ∧ e.source.number = 2 ∧
      e.source.armedBy = some 2 ∧ Live e.source.dev ∧ ¬ Live e.target.dev ∧
        deletes? e = some 1 := by
  have stops : ∃ e ∈ (machine Unit).trace (State.loaded Unit) overlap,
      e.source.dev.session = .open ∧ e.source.number = 2 ∧ e.source.armedBy = some 2 ∧
        Live e.source.dev ∧ ¬ Live e.target.dev ∧ deletes? e = some 1 := by
    decide
  obtain ⟨e, member, opened, number, armed, live, dead, deletes⟩ := stops
  refine ⟨e, member, ?_, opened, number, armed, live, dead, deletes⟩
  intro own
  obtain ⟨k, armed', deletes'⟩ := own live dead
  rw [armed] at armed'
  rw [deletes] at deletes'
  rw [← Option.some.inj armed'] at deletes'
  cases deletes'

/-! ## Runs that do not wait -/

/-- The steps that `timer_function` has still to make. -/
def left : Handler → Nat
  | .idle => 0
  | .armed => 1
  | .read _ => 2
  | .driven => 3
  | .toggled => 4
  | .entered => 5

omit [DecidableEq T] in
/-- It can make the next, whatever else is going on. -/
theorem ticks_on {s : Sessions.State T} {n : Nat} (more : left s.handler = n + 1) :
    ∃ x u, Sessions.tick s x = some u ∧ left u.handler = n ∧ (Live s → Live u) ∧
      u.session = s.session ∧ u.deletions = s.deletions := by
  cases here : s.handler with
  | idle =>
      rw [here] at more
      cases more
  | entered =>
      rw [here] at more
      cases more
      exact ⟨.toggle, _, if_pos here, rfl, fun _ => by simp [Live], rfl, rfl⟩
  | toggled =>
      rw [here] at more
      cases more
      exact ⟨.drive, _, if_pos here, rfl, fun _ => by simp [Live], rfl, rfl⟩
  | driven =>
      rw [here] at more
      cases more
      exact ⟨.read, _, if_pos here, rfl, fun _ => by simp [Live], rfl, rfl⟩
  | read q =>
      rw [here] at more
      cases more
      refine ⟨.modTimer, { s with pending := some q, handler := .armed }, ?_, rfl,
        fun _ => by simp [Live], rfl, rfl⟩
      simp only [Sessions.tick, here]
  | armed =>
      rw [here] at more
      cases more
      exact ⟨.leave, _, if_pos here, rfl, fun live => by simpa [Live, here] using live, rfl, rfl⟩

/-- `timer_function` has returned, and nothing else has happened since `s`. -/
structure Rests (s v : State T) : Prop where
  idle : v.dev.handler = .idle
  live : Live s.dev → Live v.dev
  armedBy : v.armedBy = s.armedBy
  ending : v.ending = s.ending
  deletions : v.dev.deletions = s.dev.deletions

/-- From every state `timer_function` can return. -/
theorem exists_rests (s : State T) : ∃ fs v, (machine T).Path s fs v ∧ Rests s v := by
  generalize steps : left s.dev.handler = n
  induction n generalizing s with
  | zero =>
      refine ⟨[], s, .nil s, ?_, id, rfl, rfl, rfl⟩
      cases here : s.dev.handler with
      | idle => rfl
      | entered | toggled | driven | read q | armed =>
          rw [here] at steps
          cases steps
  | succ n ih =>
      obtain ⟨x, dev, ticks, fewer, live, session, deletions⟩ := ticks_on steps
      have same : s.after (.tick x) dev = { s with dev := dev } := by
        simp only [State.after, session]
        cases s.dev.session <;> rfl
      have taken : (machine T).Takes ⟨s, .dev (.tick x), (), { s with dev := dev }⟩ := by
        rw [← same]
        refine Option.map_eq_some_iff.2 ⟨s.after (.tick x) dev, ?_, rfl⟩
        exact Option.map_eq_some_iff.2 ⟨dev, ticks, rfl⟩
      obtain ⟨fs, v, path, rests⟩ := ih { s with dev := dev } fewer
      refine ⟨_, v, .cons rfl taken path, rests.idle, fun lives => rests.live (live lives),
        rests.armedBy, rests.ending, rests.deletions.trans deletions⟩

/-- The `del_timer_sync` of an earlier release stops what another session has armed. -/
theorem disturbed {s : State T} (owed : s.dev.deletions = s.ending.length) (live : Live s.dev)
    {i j : Nat} (earlier : i ∈ s.ending) (armed : s.armedBy = some j) (other : i ≠ j) :
    ∃ fs v, (machine T).Path s fs v ∧ ∃ d ∈ fs, ¬ StopsOwn d := by
  obtain ⟨fs, v, path, rests⟩ := exists_rests s
  have member : i ∈ v.ending := by
    rw [rests.ending]
    exact earlier
  have due : v.dev.deletions ≠ 0 := by
    rw [rests.deletions, owed]
    exact (List.length_pos_of_mem earlier).ne'
  let dev : Sessions.State T := { v.dev with deletions := v.dev.deletions - 1, pending := none }
  let d : HandEvent T :=
    ⟨v, .delTimerSync i, (), { v with dev := dev, ending := v.ending.erase i }⟩
  have deletes : Sessions.step v.dev .delTimerSync = some dev := if_pos ⟨due, rests.idle⟩
  have taken : (machine T).Takes d := by
    refine Option.map_eq_some_iff.2 ⟨d.target, ?_, rfl⟩
    show step v (.delTimerSync i) = _
    rw [step, if_pos member, deletes]
    rfl
  refine ⟨fs ++ [d], d.target, Machine.path_concat_iff.2 ⟨path, taken, rfl⟩, d,
    List.mem_append_right _ (List.mem_singleton_self d), ?_⟩
  intro own
  obtain ⟨k, armed', deletes'⟩ := own (rests.live live) (not_live rfl rests.idle)
  have mine : v.armedBy = some j := rests.armedBy.trans armed
  have first : k = j := Option.some.inj (armed'.symm.trans mine)
  have second : i = k := Option.some.inj deletes'
  exact other (second.trans first)

omit [DecidableEq T] in
theorem arms?_eq {s : State T} {x : Sessions.Act T} {j : Nat} (arms : s.arms? x = some j) :
    ∃ t, x = .proceed t ∧ arming (s.dev.threads t) = true := by
  cases x with
  | proceed t =>
      simp only [State.arms?] at arms
      split at arms
      · rename_i here
        exact ⟨t, rfl, here⟩
      · cases arms
  | openStore | openParse | start | ret | release | releaseStep | delTimerSync | tick => cases arms

/-- Who deletes the timer leaves it dead. -/
theorem dead_of_deletes {e : HandEvent T} (taken : (machine T).Takes e) {j : Nat}
    (deletes : deletes? e = some j) : ¬ Live e.target.dev := by
  have runs := runs_of_takes taken
  cases kind : e.act with
  | delTimerSync k => exact runs.of_delTimerSync (congrArg Act.base kind)
  | dev x =>
      simp only [deletes?, kind, State.closes?] at deletes
      split at deletes
      · rename_i t
        split at deletes
        · rename_i closing
          exact (runs.of_proceed (congrArg Act.base kind)).2 closing
        · cases deletes
      · cases deletes

/-- A command that arms the timer. -/
theorem arms_event {e : HandEvent T} (taken : (machine T).Takes e) (handed : Handed e.source)
    {j : Nat} (arms : e.source.arms? e.act.base = some j) :
    Live e.target.dev ∧ e.target.armedBy = some j ∧ e.target.ending = e.source.ending := by
  obtain ⟨t, act, here⟩ := arms?_eq arms
  have opened := handed.counted.session (busy_of_arming here)
  refine ⟨((runs_of_takes taken).of_proceed act).1 here, ?_, ?_⟩
  · rw [(hands_of_takes taken).1.armedBy, arms]
    rfl
  · cases numbers_of_takes taken with
    | opens closed session number ending | keeps shut number ending => exact ending
    | frees freeing => cases opened.symm.trans freeing
    | deletes k deletes => cases (congrArg Act.base deletes).symm.trans act

/-- **The condition is sharp.**  A run that waits until a step of some session does not can
be continued until a timer is stopped by another session than its own. -/
theorem disturbed_of_early {es : List (HandEvent T)} {e : HandEvent T}
    (path : (machine T).Path (State.loaded T) (es ++ [e]) e.target) (waits : ∀ d ∈ es, Waits d)
    (early : ¬ Waits e) :
    ∃ fs v, (machine T).Path (State.loaded T) (es ++ [e] ++ fs) v ∧
      ∃ d ∈ es ++ [e] ++ fs, ¬ StopsOwn d := by
  obtain ⟨front, taken, -⟩ := Machine.path_concat_iff.1 path
  have handed : Handed e.source := (front.keeps (C := Waits) (I := Handed)
    (fun d taken waits handed => handed.step taken waits) waits handed_loaded).1
  by_cases own : StopsOwn e
  · have arms : ∃ j ∈ e.source.arms? e.act.base, ¬ e.source.Over j := by
      by_contra none
      push Not at none
      refine early ⟨none, ?_⟩
      -- a session that deletes its own timer is the first unfinished
      intro live j deletes i member
      obtain ⟨k, armed, mine⟩ := own live (dead_of_deletes taken deletes)
      obtain ⟨k', armed', -, first⟩ := handed.armed live
      have same : k' = j := by
        rw [armed] at armed'
        rw [Option.mem_def.1 deletes] at mine
        exact (Option.some.inj armed').symm.trans (Option.some.inj mine).symm
      rw [← same]
      exact first i (Or.inl member)
    obtain ⟨j, armed, notOver⟩ := arms
    have behind : ∃ i ∈ e.source.ending, i < j := by
      unfold State.Over at notOver
      push Not at notOver
      exact notOver
    obtain ⟨i, earlier, before⟩ := behind
    obtain ⟨live, armedBy, ending⟩ := arms_event taken handed armed
    obtain ⟨fs, v, rest, d, member, disturbs⟩ := disturbed
      (owed_step (numbers_of_takes taken) handed.owed) live (ending ▸ earlier) armedBy before.ne
    exact ⟨fs, v, Machine.path_append_iff.2 ⟨_, path, rest⟩, d, List.mem_append_right _ member,
      disturbs⟩
  · refine ⟨[], e.target, ?_, e, ?_, own⟩
    · rw [List.append_nil]
      exact path
    · simp

end LearningKernel.LedTimer.Handover
