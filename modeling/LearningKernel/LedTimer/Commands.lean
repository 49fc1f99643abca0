/-
# LedTimer.Commands -- CLOSE_CMD and SETPERIOD_CMD among other threads

`CLOSE_CMD` deletes the timer once its handler has returned, so after it the timer is
quiet until it is started again (`close_stops`).

`SETPERIOD_CMD` stores the period under the lock, while the handler and `OPEN_CMD` read
it and arm the timer without it: one that has read the old period may arm the timer
after the command has.  `new_period_in_force` says what is enough for the new period to
take effect.
-/
import LearningKernel.LedTimer.Sessions
import Mathlib.Data.Fintype.Basic

namespace LearningKernel.LedTimer.Sessions

open LearningKernel.Theory

set_option autoImplicit false

/-- The command that the thread is in, up to its return. -/
def Stage.cmd? : Stage → Option Cmd
  | idle => none
  | closing => some .close
  | opening | opened _ => some .open
  | setting p | stored p | reread p _ => some (.setPeriod p)
  | done cmd => some cmd

theorem cmd?_stage (cmd : Cmd) : cmd.stage.cmd? = some cmd := by
  cases cmd <;> rfl

variable {T : Type} [DecidableEq T] {e : TimerEvent T}

omit [DecidableEq T] in
/-- A thread stays in its command until it returns. -/
theorem StageMoves.cmd? {t : T} {stage stage' : Stage} (move : StageMoves e t stage stage') :
    stage'.cmd? = stage.cmd? ∨
      (stage.cmd? = none ∧ ∃ cmd, e.act = .start t cmd ∧ stage'.cmd? = some cmd) ∨
        (stage' = .idle ∧ ∃ cmd, stage = .done cmd ∧ e.act = .ret t) := by
  cases move with
  | starts cmd stage act first =>
      right
      left
      rw [first]
      exact ⟨rfl, cmd, act, cmd?_stage cmd⟩
  | returns cmd act => exact Or.inr (Or.inr ⟨rfl, cmd, rfl, act⟩)
  | deletes act | reads act | arms q act | stores p act | rereads p act | rearms p q act =>
      exact Or.inl rfl

/-! ## CLOSE_CMD -/

/-- Neither pending nor running. -/
def State.Quiet (s : State T) : Prop := s.pending = none ∧ s.handler = .idle

/-- No command but `CLOSE_CMD` is in progress. -/
def State.OnlyCloses (s : State T) : Prop :=
  ∀ t, ∀ cmd ∈ (s.threads t).cmd?, cmd = .close

/-- The command that is called by this step. -/
def started? (e : TimerEvent T) : Option Cmd :=
  match e.act with
  | .start _ cmd => some cmd
  | _ => none

/-- If a command is called, it is `CLOSE_CMD`. -/
def StartsClose (e : TimerEvent T) : Prop := ∀ cmd ∈ started? e, cmd = .close

instance [Fintype T] (s : State T) : Decidable s.OnlyCloses :=
  inferInstanceAs (Decidable (∀ t, ∀ cmd ∈ (s.threads t).cmd?, cmd = .close))

instance (e : TimerEvent T) : Decidable (StartsClose e) :=
  inferInstanceAs (Decidable (∀ cmd ∈ started? e, cmd = .close))

theorem onlyCloses_step (turns : Turns e) (starts : StartsClose e)
    (closes : e.source.OnlyCloses) : e.target.OnlyCloses := by
  intro t cmd inCmd
  rcases turns.stage t with same | move
  · rw [same] at inCmd
    exact closes t cmd inCmd
  · rcases move.cmd? with same | ⟨-, cmd', act, now⟩ | ⟨idle, -⟩
    · rw [same] at inCmd
      exact closes t cmd inCmd
    · rw [now] at inCmd
      cases inCmd
      exact starts cmd (by simp [started?, act])
    · rw [idle] at inCmd
      cases inCmd

theorem quiet_step (turns : Turns e) (closes : e.source.OnlyCloses) (quiet : e.source.Quiet) :
    e.target.Quiet := by
  obtain ⟨pending, idle⟩ := quiet
  cases turns with
  | file move handler sta threads =>
      cases move with
      | stores act timeperiod pending' | drives act driven timeperiod pending'
      | passes act driven timeperiod pending' =>
          exact ⟨pending'.trans pending, handler.trans idle⟩
      | deletes act idle' timeperiod pending' => exact ⟨pending', handler.trans idle⟩
  | handler move threads timeperiod =>
      rw [idle] at move
      generalize e.target.handler = h at move
      cases move with
      | expires act due => exact absurd pending due
  | thread t stage threads move handler sta level =>
      have only := closes t
      generalize e.source.threads t = stage' at move only
      cases move with
      | starts cmd stage act first timeperiod pending' | returns cmd act timeperiod pending' =>
          exact ⟨pending'.trans pending, handler.trans idle⟩
      | deletes act idle' timeperiod pending' => exact ⟨pending', handler.trans idle⟩
      | reads act | arms q act => cases only .open rfl
      | stores p act | rereads p act | rearms p q act => cases only (.setPeriod p) rfl

/-- The thread `t` has its `del_timer_sync` still to come, or the timer is quiet. -/
def State.Closing (s : State T) (t : T) : Prop := s.threads t = .closing ∨ s.Quiet

/-- The timer runs only while `t` has its `del_timer_sync` still to come. -/
theorem closing_step {t : T} (turns : Turns e) (closes : e.source.OnlyCloses)
    (closing : e.source.Closing t) : e.target.Closing t := by
  rcases closing with here | quiet
  · cases turns with
    | file move handler sta threads | handler move threads timeperiod =>
        left
        rw [threads]
        exact here
    | thread t' stage threads move handler sta level =>
        by_cases same : t = t'
        · subst same
          rw [here] at move
          cases move with
          | deletes act idle timeperiod pending => exact Or.inr ⟨pending, handler.trans idle⟩
        · left
          rw [threads, Function.update_of_ne same]
          exact here
  · exact Or.inr (quiet_step turns closes quiet)

theorem start_event {t : T} {cmd : Cmd} (taken : (machine T).Takes e) (act : e.act = .start t cmd) :
    e.target.threads t = cmd.stage := by
  obtain ⟨s, x, ⟨⟩, u⟩ := e
  cases act
  obtain ⟨v, stepped, same⟩ := Option.map_eq_some_iff.1 taken
  cases same
  simp only [step] at stepped
  split at stepped <;> cases stepped
  exact Function.update_self _ _ _

theorem ret_event {t : T} (taken : (machine T).Takes e) (act : e.act = .ret t) :
    ∃ cmd, e.source.threads t = .done cmd := by
  obtain ⟨s, x, ⟨⟩, u⟩ := e
  cases act
  obtain ⟨v, stepped, same⟩ := Option.map_eq_some_iff.1 taken
  cases same
  simp only [step] at stepped
  split at stepped
  · rename_i cmd done
    exact ⟨cmd, done⟩
  · cases stepped

/-- **CLOSE_CMD stops the blinking.**  After its return the timer is neither pending nor
running and drives nothing, if the `OPEN_CMD`s and `SETPERIOD_CMD`s called before it had
returned when it was called, and none has been called since. -/
theorem close_stops {before mid after : List (TimerEvent T)} {s r : TimerEvent T} {u : State T}
    {t : T} (path : (machine T).Path (State.loaded T) (before ++ s :: (mid ++ r :: after)) u)
    (start : s.act = .start t .close) (ret : r.act = .ret t) (returned : s.source.OnlyCloses)
    (none_since : ∀ e ∈ mid ++ after, StartsClose e) :
    u.pending = none ∧ u.handler = .idle ∧ ∀ e ∈ after, e.act ≠ .tick .drive := by
  obtain ⟨-, calls, rest⟩ := path.split
  obtain ⟨during, returns, later⟩ := rest.split
  have called : s.target.OnlyCloses ∧ s.target.Closing t := by
    refine ⟨onlyCloses_step (turns_of_takes calls) ?_ returned, Or.inl (start_event calls start)⟩
    intro cmd starts
    simp only [started?, start, Option.mem_some_iff] at starts
    exact starts.symm
  -- from its call to its return, it is before its `del_timer_sync` or the timer is quiet
  have returning := (during.keeps (C := StartsClose) (I := fun s => s.OnlyCloses ∧ s.Closing t)
    (fun e taken starts held =>
      ⟨onlyCloses_step (turns_of_takes taken) starts held.1,
        closing_step (turns_of_takes taken) held.1 held.2⟩)
    (fun e member => none_since e (List.mem_append_left _ member)) called).1
  have quiet : r.source.Quiet := by
    obtain ⟨cmd, done⟩ := ret_event returns ret
    apply returning.2.resolve_left
    rw [done]
    nofun
  have stopped : r.target.OnlyCloses ∧ r.target.Quiet := by
    refine ⟨onlyCloses_step (turns_of_takes returns) ?_ returning.1,
      quiet_step (turns_of_takes returns) returning.1 quiet⟩
    intro cmd starts
    simp [started?, ret] at starts
  have stays := later.keeps (C := StartsClose) (I := fun s => s.OnlyCloses ∧ s.Quiet)
    (fun e taken starts held =>
      ⟨onlyCloses_step (turns_of_takes taken) starts held.1,
        quiet_step (turns_of_takes taken) held.1 held.2⟩)
    (fun e member => none_since e (List.mem_append_right _ member)) stopped
  refine ⟨stays.1.2.1, stays.1.2.2, ?_⟩
  intro e member drives
  obtain ⟨taken, before, -⟩ := stays.2 e member
  have toggled := (drive_event (turns_of_takes taken) drives).1
  rw [before.2.2] at toggled
  cases toggled

/-- Thread `true` starts the blinking, and `timer_function` arms the timer again while
thread `false` is in its `CLOSE_CMD`; then somebody else tries to open the device. -/
def closeWhileRunning : List (Act Bool) :=
  [.openStore, .openParse true true, .start true .open, .proceed true, .proceed true, .ret true,
    .tick .expiry, .tick .toggle, .start false .close, .tick .drive, .tick .read, .tick .modTimer,
    .tick .leave, .proceed false, .ret false, .openStore]

theorem close_stops_closeWhileRunning :
    let es := (machine Bool).trace (State.loaded Bool) closeWhileRunning
    let u := (machine Bool).final (State.loaded Bool) closeWhileRunning
    u.pending = none ∧ u.handler = .idle ∧ ∀ e ∈ es.drop 15, e.act ≠ .tick .drive := by
  let es := (machine Bool).trace (State.loaded Bool) closeWhileRunning
  have path : (machine Bool).Path (State.loaded Bool)
      (es.take 8 ++ es[8] :: ((es.drop 9).take 5 ++ es[14] :: es.drop 15))
      ((machine Bool).final (State.loaded Bool) closeWhileRunning) :=
    Machine.path_trace _ _ closeWhileRunning
  exact close_stops path rfl rfl (by decide) (by decide)

/-! ## SETPERIOD_CMD -/

/-- What a step does to the period in force: a `SETPERIOD_CMD` that returns puts its
own in force, a call of another and an open leave none. -/
def window? (e : TimerEvent T) : Option (Option Period) :=
  match e.act with
  | .ret t =>
      match e.source.threads t with
      | .done (.setPeriod p) => some (some p)
      | _ => none
  | .start _ (.setPeriod _) | .openStore => some none
  | _ => none

/-- The period whose `SETPERIOD_CMD` has returned, with no other called and no file
opened since. -/
def inForce (es : List (TimerEvent T)) : Option Period := (latest window? es).join

/-- The pending expiry was computed with the period in force. -/
def PeriodInForce (es : List (TimerEvent T)) (s : State T) : Prop :=
  ∀ p, inForce es = some p → ∀ q, s.pending = some q → q = p

/-- The period of a `SETPERIOD_CMD`. -/
def Cmd.period? : Cmd → Option Period
  | setPeriod p => some p
  | close | «open» => none

/-- The period of the `SETPERIOD_CMD` that is about to arm the timer. -/
def Stage.rearms? : Stage → Option Period
  | reread p _ => some p
  | _ => none

/-- The period that `OPEN_CMD` has read to arm the timer with. -/
def Stage.holds? : Stage → Option Period
  | opened q => some q
  | _ => none

/-- And the one that `timer_function` has. -/
def Handler.holds? : Handler → Option Period
  | read q => some q
  | _ => none

/-- No file is opened and no `SETPERIOD_CMD` called during another; and when it arms the
timer, nobody has read another period to arm the timer with. -/
structure Undisturbed (e : TimerEvent T) : Prop where
  alone : window? e = some none → ∀ t, (e.source.threads t).cmd?.bind Cmd.period? = none
  fresh : ∀ t, e.act = .proceed t → ∀ p ∈ (e.source.threads t).rearms?,
    (∀ q ∈ e.source.handler.holds?, q = p) ∧ ∀ t', ∀ q ∈ (e.source.threads t').holds?, q = p

/-- By looking at the one period there may be, not at every `BitVec`. -/
instance (o : Option Period) (P : Period → Prop) [DecidablePred P] : Decidable (∀ p ∈ o, P p) :=
  Option.decidableForallMem o

instance [Fintype T] (e : TimerEvent T) : Decidable (Undisturbed e) :=
  decidable_of_iff
    ((window? e = some none → ∀ t, (e.source.threads t).cmd?.bind Cmd.period? = none) ∧
      ∀ t, e.act = .proceed t → ∀ p ∈ (e.source.threads t).rearms?,
        (∀ q ∈ e.source.handler.holds?, q = p) ∧ ∀ t', ∀ q ∈ (e.source.threads t').holds?, q = p)
    ⟨fun both => ⟨both.1, both.2⟩, fun undisturbed => ⟨undisturbed.alone, undisturbed.fresh⟩⟩

/-- The thread is in a `SETPERIOD_CMD` of this period. -/
def State.Sets (s : State T) (t : T) (p : Period) : Prop :=
  (s.threads t).cmd? = some (.setPeriod p)

omit [DecidableEq T] in
theorem sets_of_stage {s : State T} {t : T} {p : Period} {stage : Stage}
    (here : s.threads t = stage) (cmd : stage.cmd? = some (.setPeriod p)) : s.Sets t p := by
  rw [State.Sets, here]
  exact cmd

omit [DecidableEq T] in
theorem Undisturbed.not_sets (undisturbed : Undisturbed e) (clears : window? e = some none) (t : T)
    (p : Period) : ¬ e.source.Sets t p := by
  intro sets
  have none := undisturbed.alone clears t
  rw [show (e.source.threads t).cmd? = some (.setPeriod p) from sets] at none
  cases none

omit [DecidableEq T] in
theorem Undisturbed.holders {t : T} {p q : Period} (undisturbed : Undisturbed e)
    (act : e.act = .proceed t) (here : e.source.threads t = .reread p q) :
    (∀ q', e.source.handler = .read q' → q' = p) ∧
      ∀ t' q', e.source.threads t' = .opened q' → q' = p := by
  obtain ⟨read, opened⟩ := undisturbed.fresh t act p (by rw [here]; rfl)
  refine ⟨?_, ?_⟩
  · intro q' reads
    exact read q' (by rw [reads]; rfl)
  · intro t' q' holds
    exact opened t' q' (by rw [holds]; rfl)

/-! ### How a thread gets to a stage of its command -/

section Stages

variable {t : T} {stage : Stage} {p q : Period}

omit [DecidableEq T] in
theorem StageMoves.to_opened (move : StageMoves e t stage (.opened q)) :
    q = e.source.timeperiod := by
  cases move with
  | starts cmd stage act first => cases cmd <;> cases first
  | reads act => rfl

omit [DecidableEq T] in
theorem StageMoves.to_stored (move : StageMoves e t stage (.stored p)) :
    e.target.timeperiod = p := by
  cases move with
  | starts cmd stage act first => cases cmd <;> cases first
  | stores p act timeperiod => exact timeperiod

omit [DecidableEq T] in
theorem StageMoves.to_reread (move : StageMoves e t stage (.reread p q)) :
    stage = .stored p ∧ q = e.source.timeperiod ∧
      e.target.timeperiod = e.source.timeperiod := by
  cases move with
  | starts cmd stage act first => cases cmd <;> cases first
  | rereads p act timeperiod => exact ⟨rfl, rfl, timeperiod⟩

omit [DecidableEq T] in
theorem StageMoves.to_done (move : StageMoves e t stage (.done (.setPeriod p))) :
    ∃ q, stage = .reread p q ∧ e.act = .proceed t ∧
      e.target.timeperiod = e.source.timeperiod ∧ e.target.pending = some q := by
  cases move with
  | starts cmd stage act first => cases cmd <;> cases first
  | rearms p q act timeperiod pending => exact ⟨q, rfl, act, timeperiod, pending⟩

omit [DecidableEq T] in
/-- From its end a command goes nowhere but back. -/
theorem StageMoves.from_done {cmd : Cmd} (move : StageMoves e t (.done cmd) stage) :
    stage = .idle ∧ e.act = .ret t := by
  cases move with
  | returns cmd act => exact ⟨rfl, act⟩

end Stages

/-- Everything about the timer is as of the period `p`. -/
structure State.Settled (s : State T) (p : Period) : Prop where
  timeperiod : s.timeperiod = p
  pending : ∀ q, s.pending = some q → q = p
  handler : ∀ q, s.handler = .read q → q = p
  opened : ∀ t q, s.threads t = .opened q → q = p

/-- It stays so, unless a file is opened or a `SETPERIOD_CMD` makes a step. -/
theorem settled_step {p : Period} (turns : Turns e) (settled : e.source.Settled p)
    (opens : e.act ≠ .openStore)
    (sets : ∀ t p', e.act = .proceed t → ¬ e.source.Sets t p') : e.target.Settled p := by
  have opened : ∀ t q, e.target.threads t = .opened q → q = p := by
    intro t q here
    rcases turns.stage t with same | move
    · rw [same] at here
      exact settled.opened t q here
    · rw [here] at move
      exact move.to_opened.trans settled.timeperiod
  cases turns with
  | file move handler sta threads =>
      have read : ∀ q, e.target.handler = .read q → q = p := by
        rw [handler]
        exact settled.handler
      cases move with
      | stores act => exact absurd act opens
      | drives act driven timeperiod pending | passes act driven timeperiod pending =>
          refine ⟨timeperiod.trans settled.timeperiod, ?_, read, opened⟩
          rw [pending]
          exact settled.pending
      | deletes act idle timeperiod pending =>
          refine ⟨timeperiod.trans settled.timeperiod, ?_, read, opened⟩
          rw [pending]
          nofun
  | handler move threads timeperiod =>
      have known := settled.handler
      generalize e.source.handler = h at move known
      generalize is : e.target.handler = h' at move
      refine ⟨timeperiod.trans settled.timeperiod, ?_, ?_, opened⟩
      · cases move with
        | expires act due pending =>
            rw [pending]
            nofun
        | toggles act pending | drives act pending | reads act pending | leaves act pending =>
            rw [pending]
            exact settled.pending
        | arms q act pending =>
            rw [pending]
            intro q' same
            cases same
            exact known q rfl
      · rw [is]
        cases move with
        | reads act =>
            intro q same
            cases same
            exact settled.timeperiod
        | expires act | toggles act | drives act | arms q act | leaves act => nofun
  | thread t stage threads move handler sta level =>
      have read : ∀ q, e.target.handler = .read q → q = p := by
        rw [handler]
        exact settled.handler
      have others := settled.opened t
      have quiet := sets t
      unfold State.Sets at quiet
      generalize e.source.threads t = stage' at move others quiet
      cases move with
      | starts cmd stage act first timeperiod pending | reads act timeperiod pending
      | returns cmd act timeperiod pending =>
          refine ⟨timeperiod.trans settled.timeperiod, ?_, read, opened⟩
          rw [pending]
          exact settled.pending
      | deletes act idle timeperiod pending =>
          refine ⟨timeperiod.trans settled.timeperiod, ?_, read, opened⟩
          rw [pending]
          nofun
      | arms q act timeperiod pending =>
          refine ⟨timeperiod.trans settled.timeperiod, ?_, read, opened⟩
          rw [pending]
          intro q' same
          cases same
          exact others q rfl
      | stores p' act | rereads p' act | rearms p' q act => exact absurd rfl (quiet p' act)

theorem sets_step {t : T} {p : Period} (turns : Turns e) (sets : e.target.Sets t p) :
    e.source.Sets t p ∨ e.act = .start t (.setPeriod p) := by
  unfold State.Sets at sets ⊢
  rcases turns.stage t with same | move
  · rw [same] at sets
    exact Or.inl sets
  · rcases move.cmd? with same | ⟨-, cmd, act, now⟩ | ⟨idle, -⟩
    · rw [same] at sets
      exact Or.inl sets
    · rw [now] at sets
      cases sets
      exact Or.inr act
    · rw [idle] at sets
      cases sets

/-- The invariant of a run in which nothing disturbs a `SETPERIOD_CMD`: what holds from
its store on, step by step. -/
structure Orderly (es : List (TimerEvent T)) (s : State T) : Prop where
  one : ∀ t t' p p', s.Sets t p → s.Sets t' p' → t = t'
  stored : ∀ t p, s.threads t = .stored p → s.timeperiod = p
  reread : ∀ t p q, s.threads t = .reread p q → q = p ∧ s.timeperiod = p
  done : ∀ t p, s.threads t = .done (.setPeriod p) → s.Settled p
  window : ∀ p, inForce es = some p → s.Settled p ∧ ∀ t p', ¬ s.Sets t p'

theorem orderly_loaded (T : Type) [DecidableEq T] : Orderly [] (State.loaded T) where
  one := by
    intro t t' p p' sets
    cases sets
  stored := nofun
  reread := nofun
  done := nofun
  window := nofun

omit [DecidableEq T] in
theorem returned_of_window {p : Period} (now : window? e = some (some p)) :
    ∃ t, e.act = .ret t ∧ e.source.threads t = .done (.setPeriod p) := by
  unfold window? at now
  split at now
  · rename_i t act
    split at now
    · rename_i p' here
      cases now
      exact ⟨t, act, here⟩
    · cases now
  · cases now
  · cases now
  · cases now

section Steps

variable {es : List (TimerEvent T)}

/-- While a thread is in a `SETPERIOD_CMD`, only its own store changes the period. -/
theorem Orderly.timeperiod {t : T} {p : Period} (orderly : Orderly es e.source) (turns : Turns e)
    (undisturbed : Undisturbed e) (sets : e.source.Sets t p)
    (past : ∀ p', e.source.threads t ≠ .setting p') :
    e.target.timeperiod = e.source.timeperiod := by
  rcases turns.timeperiod with same | opens | ⟨t', p', setting⟩
  · exact same
  · exact absurd sets (undisturbed.not_sets (by simp [window?, opens]) t p)
  · have sets' : e.source.Sets t' p' := sets_of_stage setting rfl
    rw [← orderly.one t t' p p' sets sets'] at setting
    exact absurd setting (past p')

/-- A `SETPERIOD_CMD` arms the timer with its own period, and nobody has another. -/
theorem Orderly.settles {t : T} {p q : Period} (orderly : Orderly es e.source) (turns : Turns e)
    (undisturbed : Undisturbed e) (act : e.act = .proceed t)
    (here : e.source.threads t = .reread p q)
    (timeperiod : e.target.timeperiod = e.source.timeperiod)
    (pending : e.target.pending = some q) : e.target.Settled p := by
  obtain ⟨rfl, period⟩ := orderly.reread t p q here
  obtain ⟨read, opened⟩ := undisturbed.holders act here
  obtain ⟨move, others, handler⟩ := turns.moves (t := t) (by rw [act]; rfl)
  refine ⟨timeperiod.trans period, ?_, ?_, ?_⟩
  · rw [pending]
    intro q' same
    exact (Option.some.inj same).symm
  · rw [handler]
    exact read
  · intro t' q' waits
    by_cases same : t' = t
    · subst same
      rw [here, waits] at move
      cases move
    · rw [others t' same] at waits
      exact opened t' q' waits

/-- No two threads are in a `SETPERIOD_CMD`. -/
theorem Orderly.one_step (orderly : Orderly es e.source) (turns : Turns e)
    (undisturbed : Undisturbed e) {t t' : T} {p p' : Period} (sets : e.target.Sets t p)
    (sets' : e.target.Sets t' p') : t = t' := by
  rcases sets_step turns sets with before | starts
  · rcases sets_step turns sets' with before' | starts'
    · exact orderly.one t t' p p' before before'
    · exact absurd before (undisturbed.not_sets (by simp [window?, starts']) t p)
  · rcases sets_step turns sets' with before' | starts'
    · exact absurd before' (undisturbed.not_sets (by simp [window?, starts]) t' p')
    · rw [starts] at starts'
      cases starts'
      rfl

/-- What a returning `SETPERIOD_CMD` has settled stays so. -/
theorem Orderly.done_step (orderly : Orderly es e.source) (turns : Turns e)
    (undisturbed : Undisturbed e) {t : T} {p : Period}
    (here : e.source.threads t = .done (.setPeriod p)) : e.target.Settled p := by
  have sets : e.source.Sets t p := sets_of_stage here rfl
  refine settled_step turns (orderly.done t p here) ?_ ?_
  · intro opens
    exact undisturbed.not_sets (by simp [window?, opens]) t p sets
  · intro t' p' act sets'
    have same := orderly.one t t' p p' sets sets'
    subst same
    have move := (turns.moves (t := t) (by rw [act]; rfl)).1
    rw [here] at move
    have back := move.from_done.2
    rw [act] at back
    cases back

/-- After its return nobody is in a `SETPERIOD_CMD`. -/
theorem Orderly.none_set (orderly : Orderly es e.source) (turns : Turns e) {t : T} {p : Period}
    (here : e.source.threads t = .done (.setPeriod p)) (returns : e.act = .ret t) (t' : T)
    (p' : Period) : ¬ e.target.Sets t' p' := by
  intro sets
  rcases sets_step turns sets with before | starts
  · have same := orderly.one t t' p p' (sets_of_stage here rfl) before
    subst same
    have move := (turns.moves (t := t) (by rw [returns]; rfl)).1
    rw [here] at move
    rw [State.Sets, move.from_done.1] at sets
    cases sets
  · rw [starts] at returns
    cases returns

/-- The period in force is settled. -/
theorem Orderly.window_step (orderly : Orderly es e.source) (turns : Turns e)
    (undisturbed : Undisturbed e) {p : Period} (forced : inForce (es ++ [e]) = some p) :
    e.target.Settled p ∧ ∀ t p', ¬ e.target.Sets t p' := by
  rw [inForce, latest_concat] at forced
  cases now : window? e with
  | none =>
      rw [now, Option.none_or] at forced
      obtain ⟨settled, alone⟩ := orderly.window p forced
      refine ⟨settled_step turns settled ?_ fun t p' _ => alone t p', ?_⟩
      · intro opens
        simp [window?, opens] at now
      · intro t p' sets
        rcases sets_step turns sets with before | starts
        · exact alone t p' before
        · simp [window?, starts] at now
  | some opened =>
      rw [now, Option.some_or, Option.join_some] at forced
      rw [forced] at now
      obtain ⟨t, returns, here⟩ := returned_of_window now
      exact ⟨orderly.done_step turns undisturbed here, orderly.none_set turns here returns⟩

theorem Orderly.step (orderly : Orderly es e.source) (turns : Turns e)
    (undisturbed : Undisturbed e) : Orderly (es ++ [e]) e.target where
  one _ _ _ _ := orderly.one_step turns undisturbed
  stored := by
    intro t p here
    rcases turns.stage t with same | move
    · rw [same] at here
      rw [orderly.timeperiod turns undisturbed (sets_of_stage here rfl) (by rw [here]; nofun)]
      exact orderly.stored t p here
    · rw [here] at move
      exact move.to_stored
  reread := by
    intro t p q here
    rcases turns.stage t with same | move
    · rw [same] at here
      rw [orderly.timeperiod turns undisturbed (sets_of_stage here rfl) (by rw [here]; nofun)]
      exact orderly.reread t p q here
    · rw [here] at move
      obtain ⟨stored, read, kept⟩ := move.to_reread
      have period := orderly.stored t p stored
      exact ⟨read.trans period, kept.trans period⟩
  done := by
    intro t p here
    rcases turns.stage t with same | move
    · rw [same] at here
      exact orderly.done_step turns undisturbed here
    · rw [here] at move
      obtain ⟨q, was, act, timeperiod, pending⟩ := move.to_done
      exact orderly.settles turns undisturbed act was timeperiod pending
  window _ := orderly.window_step turns undisturbed

/-- **A new period takes effect** in every run in which nothing disturbs a
`SETPERIOD_CMD`: the pending expiry was always computed with the period in force. -/
theorem new_period_in_force {u : State T} (path : (machine T).Path (State.loaded T) es u)
    (undisturbed : ∀ e ∈ es, Undisturbed e) : PeriodInForce es u := by
  have orderly : Orderly es u := path.history (C := Undisturbed) (J := Orderly) (orderly_loaded T)
    (fun es e _ taken undisturbed before => before.step (turns_of_takes taken) undisturbed)
    undisturbed
  intro p forced
  exact (orderly.window p forced).1.pending

end Steps

/-- Thread `true` starts the blinking, and thread `false` sets the period 50 between two
expiries. -/
def setBetweenExpiries : List (Act Bool) :=
  [.openStore, .openParse true true, .start true .open, .proceed true, .proceed true, .ret true,
    .start false (.setPeriod 50), .proceed false, .proceed false, .proceed false, .ret false,
    .tick .expiry, .tick .toggle, .tick .drive, .tick .read, .tick .modTimer]

theorem new_period_in_force_setBetweenExpiries :
    PeriodInForce ((machine Bool).trace (State.loaded Bool) setBetweenExpiries)
      ((machine Bool).final (State.loaded Bool) setBetweenExpiries) :=
  new_period_in_force (Machine.path_trace _ _ _) (by decide)

/-- The same, with an expiry that has read the old period when the new one is set. -/
def setDuringExpiry : List (Act Bool) :=
  [.openStore, .openParse true true, .start true .open, .proceed true, .proceed true, .ret true,
    .tick .expiry, .tick .toggle, .tick .drive, .tick .read, .start false (.setPeriod 50),
    .proceed false, .proceed false, .proceed false, .ret false, .tick .modTimer]

theorem old_period_armed :
    ∃ (es : List (TimerEvent Bool)) (u : State Bool),
      (machine Bool).Path (State.loaded Bool) es u ∧ inForce es = some 50 ∧
        u.pending = some 1000 ∧ ¬ PeriodInForce es u := by
  refine ⟨_, _, Machine.path_trace _ _ setDuringExpiry, by decide, by decide, ?_⟩
  intro period
  exact absurd (period 50 (by decide) 1000 (by decide)) (by decide)

end LearningKernel.LedTimer.Sessions
