/-
# LedTimer.Sessions -- the LED timer device in use

`timer.c` over any number of sessions: `timer_open`, `timer_unlocked_ioctl` called by
any threads that share the open file, `led_release`, and `timer_function`, which toggles
its own `sta`, drives the LED with it and arms the timer again.  Each access to
`timeperiod` and each call on the timer or the GPIO is a step of its own.

The GPIO is held from the request of an open to the `gpio_free` of its release, so at
most one file is open; the `del_timer_sync` of a release may come after the next open.
The device tree names the same GPIO each time.
-/
import LearningKernel.Theory.Latest
import LearningKernel.Theory.Machine
import Mathlib.Data.Finset.Card
import Mathlib.Logic.Function.Basic

namespace LearningKernel.LedTimer.Sessions

open LearningKernel.Theory

set_option autoImplicit false

/-- `timeperiod`, an `int`; the argument of `SETPERIOD_CMD` has as many bits. -/
abbrev Period := BitVec 32

/-- The command of an `ioctl`. -/
inductive Cmd where
  | close
  | «open»
  | setPeriod (p : Period)
  deriving DecidableEq

/-- Where a thread is in `timer_unlocked_ioctl`. -/
inductive Stage where
  | idle
  /-- before `del_timer_sync` -/
  | closing
  /-- before `OPEN_CMD` reads the period -/
  | opening
  /-- with the period it has read, before `mod_timer` -/
  | opened (q : Period)
  /-- before `SETPERIOD_CMD` stores the period -/
  | setting (p : Period)
  /-- before it reads it back -/
  | stored (p : Period)
  /-- with the period it has read, before `mod_timer` -/
  | reread (p q : Period)
  /-- before it returns -/
  | done (cmd : Cmd)
  deriving DecidableEq

/-- Where `timer_function` is. -/
inductive Handler where
  | idle
  /-- before `sta = !sta` -/
  | entered
  /-- before `gpio_set_value` -/
  | toggled
  /-- before it reads the period -/
  | driven
  /-- with the period it has read, before `mod_timer` -/
  | read (q : Period)
  /-- before it returns -/
  | armed
  deriving DecidableEq

/-- The session, up to the `gpio_free` of its release. -/
inductive Session where
  | closed
  | open
  /-- `led_release` before `gpio_set_value` -/
  | releasing
  /-- and before `gpio_free` -/
  | freeing
  deriving DecidableEq

/-- The device.  `opens` and `deletions` count the opens before `led_parse` and the
releases before `del_timer_sync`, `users` the calls that hold the open file; `pending`
is the period that the pending expiry was computed with, and `level` the one driven. -/
structure State (T : Type) where
  session : Session
  opens : Nat
  deletions : Nat
  users : Nat
  timeperiod : Period
  pending : Option Period
  handler : Handler
  sta : Bool
  level : Option Bool
  threads : T → Stage

/-- The module loaded. -/
def State.loaded (T : Type) : State T :=
  { session := .closed, opens := 0, deletions := 0, users := 0, timeperiod := 0, pending := none,
    handler := .idle, sta := true, level := none, threads := fun _ => .idle }

/-- The steps of `timer_function`. -/
inductive Tick where
  | expiry
  | toggle
  | drive
  | read
  | modTimer
  | leave
  deriving DecidableEq

inductive Act (T : Type) where
  /-- `timer_open` up to `led_parse` -/
  | openStore
  /-- `led_parse`: whether the GPIO can be got, if it is free, and its direction set -/
  | openParse (requested directed : Bool)
  /-- an `ioctl` is called -/
  | start (t : T) (cmd : Cmd)
  /-- and makes its next step -/
  | proceed (t : T)
  | ret (t : T)
  /-- the file is closed for the last time -/
  | release
  /-- `gpio_set_value` or `gpio_free` of `led_release` -/
  | releaseStep
  | delTimerSync
  | tick (x : Tick)
  deriving DecidableEq

variable {T : Type} [DecidableEq T]

def State.setThread (s : State T) (t : T) (stage : Stage) : State T :=
  { s with threads := Function.update s.threads t stage }

/-- Where an `ioctl` starts. -/
def Cmd.stage : Cmd → Stage
  | close => .closing
  | «open» => .opening
  | setPeriod p => .setting p

/-- The next step of the `ioctl` of `t`.  `del_timer_sync` waits for the handler. -/
def proceed (s : State T) (t : T) : Option (State T) :=
  match s.threads t with
  | .closing =>
      if s.handler = .idle then some { s.setThread t (.done .close) with pending := none } else none
  | .opening => some (s.setThread t (.opened s.timeperiod))
  | .opened q => some { s.setThread t (.done .open) with pending := some q }
  | .setting p => some { s.setThread t (.stored p) with timeperiod := p }
  | .stored p => some (s.setThread t (.reread p s.timeperiod))
  | .reread p q => some { s.setThread t (.done (.setPeriod p)) with pending := some q }
  | .idle | .done _ => none

/-- `timer_function`, step by step. -/
def tick (s : State T) : Tick → Option (State T)
  | .expiry =>
      if s.handler = .idle ∧ s.pending ≠ none then
        some { s with pending := none, handler := .entered }
      else none
  | .toggle =>
      if s.handler = .entered then some { s with sta := !s.sta, handler := .toggled } else none
  | .drive =>
      if s.handler = .toggled then some { s with level := some s.sta, handler := .driven } else none
  | .read =>
      if s.handler = .driven then some { s with handler := .read s.timeperiod } else none
  | .modTimer =>
      match s.handler with
      | .read q => some { s with pending := some q, handler := .armed }
      | _ => none
  | .leave => if s.handler = .armed then some { s with handler := .idle } else none

def step (s : State T) : Act T → Option (State T)
  | .openStore => some { s with timeperiod := 1000, opens := s.opens + 1 }
  | .openParse requested directed =>
      if s.opens = 0 then none
      else if requested = true ∧ s.session = .closed then
        some { s with
          opens := s.opens - 1
          session := .open
          level := if directed then some true else s.level }
      else some { s with opens := s.opens - 1 }
  | .start t cmd =>
      if s.session = .open ∧ s.threads t = .idle then
        some { s.setThread t cmd.stage with users := s.users + 1 }
      else none
  | .proceed t => proceed s t
  | .ret t =>
      match s.threads t with
      | .done _ => some { s.setThread t .idle with users := s.users - 1 }
      | _ => none
  | .release =>
      if s.session = .open ∧ s.users = 0 then some { s with session := .releasing } else none
  | .releaseStep =>
      match s.session with
      | .releasing => some { s with level := some true, session := .freeing }
      | .freeing => some { s with session := .closed, deletions := s.deletions + 1 }
      | _ => none
  | .delTimerSync =>
      if s.deletions ≠ 0 ∧ s.handler = .idle then
        some { s with deletions := s.deletions - 1, pending := none }
      else none
  | .tick x => tick s x

/-- The device in use by any threads, in any order. -/
def machine (T : Type) [DecidableEq T] : Machine (State T) (Act T) Unit :=
  ⟨fun s x => (step s x).map fun t => ((), t)⟩

abbrev TimerEvent (T : Type) := Event (State T) (Act T) Unit

/-- Who drives the LED by this step, if it is driven: whether `timer_function` does. -/
def drivenBy? (e : TimerEvent T) : Option Bool :=
  match e.act with
  | .tick .drive => some true
  | .openParse true true => if e.source.session = .closed then some false else none
  | .releaseStep => if e.source.session = .releasing then some false else none
  | _ => none

/-! ## The cases of one step -/

/-- What opening and closing do to the timer and the level. -/
inductive FileMoves (e : TimerEvent T) : Prop where
  | stores (act : e.act = .openStore) (timeperiod : e.target.timeperiod = 1000)
      (pending : e.target.pending = e.source.pending) (level : e.target.level = e.source.level)
  | drives (act : (∃ requested directed, e.act = .openParse requested directed) ∨
        e.act = .releaseStep)
      (driven : drivenBy? e = some false)
      (timeperiod : e.target.timeperiod = e.source.timeperiod)
      (pending : e.target.pending = e.source.pending) (level : e.target.level = some true)
  | passes (act : (∃ requested directed, e.act = .openParse requested directed) ∨
        e.act = .release ∨ e.act = .releaseStep)
      (driven : drivenBy? e = none)
      (timeperiod : e.target.timeperiod = e.source.timeperiod)
      (pending : e.target.pending = e.source.pending) (level : e.target.level = e.source.level)
  | deletes (act : e.act = .delTimerSync) (idle : e.source.handler = .idle)
      (timeperiod : e.target.timeperiod = e.source.timeperiod) (pending : e.target.pending = none)
      (level : e.target.level = e.source.level)

/-- How the stage of the thread `t` can change, and what that does to the timer. -/
inductive StageMoves (e : TimerEvent T) (t : T) : Stage → Stage → Prop where
  | starts (cmd : Cmd) (stage : Stage) (act : e.act = .start t cmd) (first : stage = cmd.stage)
      (timeperiod : e.target.timeperiod = e.source.timeperiod)
      (pending : e.target.pending = e.source.pending) : StageMoves e t .idle stage
  | deletes (act : e.act = .proceed t) (idle : e.source.handler = .idle)
      (timeperiod : e.target.timeperiod = e.source.timeperiod)
      (pending : e.target.pending = none) : StageMoves e t .closing (.done .close)
  | reads (act : e.act = .proceed t) (timeperiod : e.target.timeperiod = e.source.timeperiod)
      (pending : e.target.pending = e.source.pending) :
      StageMoves e t .opening (.opened e.source.timeperiod)
  | arms (q : Period) (act : e.act = .proceed t)
      (timeperiod : e.target.timeperiod = e.source.timeperiod)
      (pending : e.target.pending = some q) : StageMoves e t (.opened q) (.done .open)
  | stores (p : Period) (act : e.act = .proceed t) (timeperiod : e.target.timeperiod = p)
      (pending : e.target.pending = e.source.pending) : StageMoves e t (.setting p) (.stored p)
  | rereads (p : Period) (act : e.act = .proceed t)
      (timeperiod : e.target.timeperiod = e.source.timeperiod)
      (pending : e.target.pending = e.source.pending) :
      StageMoves e t (.stored p) (.reread p e.source.timeperiod)
  | rearms (p q : Period) (act : e.act = .proceed t)
      (timeperiod : e.target.timeperiod = e.source.timeperiod)
      (pending : e.target.pending = some q) :
      StageMoves e t (.reread p q) (.done (.setPeriod p))
  | returns (cmd : Cmd) (act : e.act = .ret t)
      (timeperiod : e.target.timeperiod = e.source.timeperiod)
      (pending : e.target.pending = e.source.pending) : StageMoves e t (.done cmd) .idle

/-- How `timer_function` can move on. -/
inductive HandlerMoves (e : TimerEvent T) : Handler → Handler → Prop where
  | expires (act : e.act = .tick .expiry) (due : e.source.pending ≠ none)
      (pending : e.target.pending = none) (sta : e.target.sta = e.source.sta)
      (level : e.target.level = e.source.level) : HandlerMoves e .idle .entered
  | toggles (act : e.act = .tick .toggle) (pending : e.target.pending = e.source.pending)
      (sta : e.target.sta = !e.source.sta) (level : e.target.level = e.source.level) :
      HandlerMoves e .entered .toggled
  | drives (act : e.act = .tick .drive) (pending : e.target.pending = e.source.pending)
      (sta : e.target.sta = e.source.sta) (level : e.target.level = some e.source.sta) :
      HandlerMoves e .toggled .driven
  | reads (act : e.act = .tick .read) (pending : e.target.pending = e.source.pending)
      (sta : e.target.sta = e.source.sta) (level : e.target.level = e.source.level) :
      HandlerMoves e .driven (.read e.source.timeperiod)
  | arms (q : Period) (act : e.act = .tick .modTimer) (pending : e.target.pending = some q)
      (sta : e.target.sta = e.source.sta) (level : e.target.level = e.source.level) :
      HandlerMoves e (.read q) .armed
  | leaves (act : e.act = .tick .leave) (pending : e.target.pending = e.source.pending)
      (sta : e.target.sta = e.source.sta) (level : e.target.level = e.source.level) :
      HandlerMoves e .armed .idle

/-- A step is one of opening and closing, of a thread, or of `timer_function`. -/
inductive Turns (e : TimerEvent T) : Prop where
  | file (move : FileMoves e) (handler : e.target.handler = e.source.handler)
      (sta : e.target.sta = e.source.sta) (threads : e.target.threads = e.source.threads)
  | thread (t : T) (stage : Stage)
      (threads : e.target.threads = Function.update e.source.threads t stage)
      (move : StageMoves e t (e.source.threads t) stage)
      (handler : e.target.handler = e.source.handler) (sta : e.target.sta = e.source.sta)
      (level : e.target.level = e.source.level)
  | handler (move : HandlerMoves e e.source.handler e.target.handler)
      (threads : e.target.threads = e.source.threads)
      (timeperiod : e.target.timeperiod = e.source.timeperiod)

theorem turns_proceed {s u : State T} {t : T} (taken : proceed s t = some u) :
    Turns ⟨s, .proceed t, (), u⟩ := by
  unfold proceed at taken
  split at taken
  · rename_i closing
    split at taken
    · rename_i idle
      cases taken
      exact .thread t _ rfl (closing ▸ .deletes rfl idle rfl rfl) rfl rfl rfl
    · cases taken
  · rename_i opening
    cases taken
    exact .thread t _ rfl (opening ▸ .reads rfl rfl rfl) rfl rfl rfl
  · rename_i q opened
    cases taken
    exact .thread t _ rfl (opened ▸ .arms q rfl rfl rfl) rfl rfl rfl
  · rename_i p setting
    cases taken
    exact .thread t _ rfl (setting ▸ .stores p rfl rfl rfl) rfl rfl rfl
  · rename_i p stored
    cases taken
    exact .thread t _ rfl (stored ▸ .rereads p rfl rfl rfl) rfl rfl rfl
  · rename_i p q reread
    cases taken
    exact .thread t _ rfl (reread ▸ .rearms p q rfl rfl rfl) rfl rfl rfl
  · cases taken
  · cases taken

theorem turns_tick {s u : State T} {x : Tick} (taken : tick s x = some u) :
    Turns ⟨s, .tick x, (), u⟩ := by
  cases x with
  | expiry =>
      simp only [tick] at taken
      split at taken
      · rename_i ready
        cases taken
        exact .handler (ready.1 ▸ .expires rfl ready.2 rfl rfl rfl) rfl rfl
      · cases taken
  | toggle =>
      simp only [tick] at taken
      split at taken
      · rename_i entered
        cases taken
        exact .handler (entered ▸ .toggles rfl rfl rfl rfl) rfl rfl
      · cases taken
  | drive =>
      simp only [tick] at taken
      split at taken
      · rename_i toggled
        cases taken
        exact .handler (toggled ▸ .drives rfl rfl rfl rfl) rfl rfl
      · cases taken
  | read =>
      simp only [tick] at taken
      split at taken
      · rename_i driven
        cases taken
        exact .handler (driven ▸ .reads rfl rfl rfl rfl) rfl rfl
      · cases taken
  | modTimer =>
      simp only [tick] at taken
      split at taken
      · rename_i q read
        cases taken
        exact .handler (read ▸ .arms q rfl rfl rfl rfl) rfl rfl
      · cases taken
  | leave =>
      simp only [tick] at taken
      split at taken
      · rename_i armed
        cases taken
        exact .handler (armed ▸ .leaves rfl rfl rfl rfl) rfl rfl
      · cases taken

/-- **The specification of a step.** -/
theorem turns_of_takes {e : TimerEvent T} (taken : (machine T).Takes e) : Turns e := by
  obtain ⟨s, act, ⟨⟩, u⟩ := e
  obtain ⟨v, stepped, same⟩ := Option.map_eq_some_iff.1 taken
  cases same
  dsimp only at stepped
  cases act with
  | openStore =>
      cases stepped
      exact .file (.stores rfl rfl rfl rfl) rfl rfl rfl
  | openParse requested directed =>
      simp only [step] at stepped
      split at stepped
      · cases stepped
      · split at stepped
        · rename_i gets
          obtain ⟨rfl, closed⟩ := gets
          cases stepped
          cases directed with
          | true =>
              exact .file (.drives (Or.inl ⟨_, _, rfl⟩) (if_pos closed) rfl rfl rfl) rfl rfl rfl
          | false => exact .file (.passes (Or.inl ⟨_, _, rfl⟩) rfl rfl rfl rfl) rfl rfl rfl
        · rename_i misses
          cases stepped
          refine .file (.passes (Or.inl ⟨_, _, rfl⟩) ?_ rfl rfl rfl) rfl rfl rfl
          cases requested with
          | false => rfl
          | true =>
              cases directed with
              | false => rfl
              | true => exact if_neg fun closed => misses ⟨rfl, closed⟩
  | start t cmd =>
      simp only [step] at stepped
      split at stepped
      · rename_i ready
        cases stepped
        exact .thread t _ rfl (ready.2 ▸ .starts cmd _ rfl rfl rfl rfl) rfl rfl rfl
      · cases stepped
  | proceed t => exact turns_proceed stepped
  | ret t =>
      simp only [step] at stepped
      split at stepped
      · rename_i cmd done
        cases stepped
        exact .thread t _ rfl (done ▸ .returns cmd rfl rfl rfl) rfl rfl rfl
      · cases stepped
  | release =>
      simp only [step] at stepped
      split at stepped <;> cases stepped
      exact .file (.passes (Or.inr (Or.inl rfl)) rfl rfl rfl rfl) rfl rfl rfl
  | releaseStep =>
      simp only [step] at stepped
      split at stepped
      · rename_i releasing
        cases stepped
        exact .file (.drives (Or.inr rfl) (if_pos releasing) rfl rfl rfl) rfl rfl rfl
      · rename_i freeing
        cases stepped
        have other : s.session ≠ .releasing := by
          rw [freeing]
          nofun
        exact .file (.passes (Or.inr (Or.inr rfl)) (if_neg other) rfl rfl rfl) rfl rfl rfl
      · cases stepped
  | delTimerSync =>
      simp only [step] at stepped
      split at stepped
      · rename_i ready
        cases stepped
        exact .file (.deletes rfl ready.2 rfl rfl rfl) rfl rfl rfl
      · cases stepped
  | tick x => exact turns_tick stepped

/-- The thread whose step this is. -/
def Act.thread? : Act T → Option T
  | start t _ | proceed t | ret t => some t
  | _ => none

omit [DecidableEq T] in
theorem StageMoves.thread? {e : TimerEvent T} {t : T} {stage stage' : Stage}
    (move : StageMoves e t stage stage') : e.act.thread? = some t := by
  cases move with
  | starts cmd stage act | deletes act | reads act | arms q act | stores p act | rereads p act
  | rearms p q act | returns cmd act =>
      rw [act]
      rfl

omit [DecidableEq T] in
theorem HandlerMoves.ticks {e : TimerEvent T} {h h' : Handler} (move : HandlerMoves e h h') :
    ∃ x, e.act = .tick x := by
  cases move with
  | expires act | toggles act | drives act | reads act | arms q act | leaves act => exact ⟨_, act⟩

omit [DecidableEq T] in
/-- Opening and closing the file is no step of a thread or of `timer_function`. -/
theorem FileMoves.other {e : TimerEvent T} (move : FileMoves e) :
    e.act.thread? = none ∧ ∀ x, e.act ≠ .tick x := by
  cases move with
  | stores act | deletes act =>
      rw [act]
      exact ⟨rfl, nofun⟩
  | drives act =>
      rcases act with ⟨_, _, act⟩ | act <;> simp [act, Act.thread?]
  | passes act =>
      rcases act with ⟨_, _, act⟩ | act | act <;> simp [act, Act.thread?]

/-- What `timer_function` drives. -/
theorem drive_event {e : TimerEvent T} (turns : Turns e) (act : e.act = .tick .drive) :
    e.source.handler = .toggled ∧ e.target.level = some e.source.sta := by
  cases turns with
  | file move handler sta threads => exact absurd act (move.other.2 .drive)
  | thread t stage threads move handler sta level =>
      have mine := move.thread?
      rw [act] at mine
      cases mine
  | handler move threads timeperiod =>
      generalize e.source.handler = h at move ⊢
      generalize e.target.handler = h' at move
      cases move with
      | drives act' pending sta level => exact ⟨rfl, level⟩
      | expires act' | toggles act' | reads act' | arms q act' | leaves act' =>
          rw [act] at act'
          cases act'

/-- A thread stays where it is, or moves. -/
theorem Turns.stage {e : TimerEvent T} (turns : Turns e) (t : T) :
    e.target.threads t = e.source.threads t ∨
      StageMoves e t (e.source.threads t) (e.target.threads t) := by
  cases turns with
  | file move handler sta threads | handler move threads timeperiod =>
      left
      rw [threads]
  | thread t' stage threads move handler sta level =>
      by_cases same : t = t'
      · subst same
        right
        rw [threads, Function.update_self]
        exact move
      · left
        rw [threads, Function.update_of_ne same]

/-- The step of a thread moves it, and neither the others nor the handler. -/
theorem Turns.moves {e : TimerEvent T} (turns : Turns e) {t : T} (act : e.act.thread? = some t) :
    StageMoves e t (e.source.threads t) (e.target.threads t) ∧
      (∀ t', t' ≠ t → e.target.threads t' = e.source.threads t') ∧
        e.target.handler = e.source.handler := by
  cases turns with
  | file move handler sta threads =>
      rw [move.other.1] at act
      cases act
  | handler move threads timeperiod =>
      obtain ⟨x, ticks⟩ := move.ticks
      rw [ticks] at act
      cases act
  | thread t' stage threads move handler sta level =>
      have same : t = t' := Option.some.inj (act.symm.trans move.thread?)
      subst same
      refine ⟨?_, ?_, handler⟩
      · rw [threads, Function.update_self]
        exact move
      · intro t' other
        rw [threads, Function.update_of_ne other]

/-- The period changes when a file is opened or a `SETPERIOD_CMD` stores its own. -/
theorem Turns.timeperiod {e : TimerEvent T} (turns : Turns e) :
    e.target.timeperiod = e.source.timeperiod ∨ e.act = .openStore ∨
      ∃ t p, e.source.threads t = .setting p := by
  cases turns with
  | file move handler sta threads =>
      cases move with
      | stores act => exact Or.inr (Or.inl act)
      | drives act driven timeperiod | passes act driven timeperiod
      | deletes act idle timeperiod => exact Or.inl timeperiod
  | handler move threads timeperiod => exact Or.inl timeperiod
  | thread t stage threads move handler sta level =>
      generalize here : e.source.threads t = stage' at move
      cases move with
      | stores p act => exact Or.inr (Or.inr ⟨t, p, here⟩)
      | starts cmd stage act first timeperiod | deletes act idle timeperiod
      | reads act timeperiod | arms q act timeperiod | rereads p act timeperiod
      | rearms p q act timeperiod | returns cmd act timeperiod => exact Or.inl timeperiod

/-! ## Who uses the open file -/

/-- What a step does to the session, to the calls that hold the file and to the
releases before `del_timer_sync`. -/
inductive Uses (e : TimerEvent T) : Prop where
  | opens (closed : e.source.session = .closed) (session : e.target.session = .open)
      (deletions : e.target.deletions = e.source.deletions)
      (users : e.target.users = e.source.users) (threads : e.target.threads = e.source.threads)
  | starts (t : T) (cmd : Cmd) (act : e.act = .start t cmd) (here : e.source.session = .open)
      (session : e.target.session = .open) (deletions : e.target.deletions = e.source.deletions)
      (idle : e.source.threads t = .idle) (users : e.target.users = e.source.users + 1)
      (threads : e.target.threads = Function.update e.source.threads t cmd.stage)
  | proceeds (t : T) (stage : Stage) (session : e.target.session = e.source.session)
      (deletions : e.target.deletions = e.source.deletions)
      (busy : e.source.threads t ≠ .idle) (still : stage ≠ .idle)
      (users : e.target.users = e.source.users)
      (threads : e.target.threads = Function.update e.source.threads t stage)
  | returns (t : T) (session : e.target.session = e.source.session)
      (deletions : e.target.deletions = e.source.deletions)
      (busy : e.source.threads t ≠ .idle) (users : e.target.users = e.source.users - 1)
      (threads : e.target.threads = Function.update e.source.threads t .idle)
  | releases (here : e.source.session = .open) (unused : e.source.users = 0)
      (session : e.target.session = .releasing) (deletions : e.target.deletions = e.source.deletions)
      (users : e.target.users = e.source.users) (threads : e.target.threads = e.source.threads)
  | drivesOff (here : e.source.session = .releasing) (session : e.target.session = .freeing)
      (deletions : e.target.deletions = e.source.deletions)
      (users : e.target.users = e.source.users) (threads : e.target.threads = e.source.threads)
  | frees (here : e.source.session = .freeing) (session : e.target.session = .closed)
      (deletions : e.target.deletions = e.source.deletions + 1)
      (users : e.target.users = e.source.users) (threads : e.target.threads = e.source.threads)
  | deletes (act : e.act = .delTimerSync) (due : e.source.deletions ≠ 0)
      (session : e.target.session = e.source.session)
      (deletions : e.target.deletions = e.source.deletions - 1)
      (users : e.target.users = e.source.users) (threads : e.target.threads = e.source.threads)
  | passes (session : e.target.session = e.source.session)
      (deletions : e.target.deletions = e.source.deletions)
      (users : e.target.users = e.source.users) (threads : e.target.threads = e.source.threads)

theorem uses_proceed {s u : State T} {t : T} (taken : proceed s t = some u) :
    Uses ⟨s, .proceed t, (), u⟩ := by
  unfold proceed at taken
  split at taken
  · rename_i closing
    split at taken
    · cases taken
      exact .proceeds t (.done .close) rfl rfl (by rw [closing]; nofun) nofun rfl rfl
    · cases taken
  · rename_i opening
    cases taken
    exact .proceeds t (.opened s.timeperiod) rfl rfl (by rw [opening]; nofun) nofun rfl rfl
  · rename_i q opened
    cases taken
    exact .proceeds t (.done .open) rfl rfl (by rw [opened]; nofun) nofun rfl rfl
  · rename_i p setting
    cases taken
    exact .proceeds t (.stored p) rfl rfl (by rw [setting]; nofun) nofun rfl rfl
  · rename_i p stored
    cases taken
    exact .proceeds t (.reread p s.timeperiod) rfl rfl (by rw [stored]; nofun) nofun rfl rfl
  · rename_i p q reread
    cases taken
    exact .proceeds t (.done (.setPeriod p)) rfl rfl (by rw [reread]; nofun) nofun rfl rfl
  · cases taken
  · cases taken

theorem uses_tick {s u : State T} {x : Tick} (taken : tick s x = some u) :
    Uses ⟨s, .tick x, (), u⟩ := by
  cases x
  all_goals
    simp only [tick] at taken
    split at taken <;> cases taken
    exact .passes rfl rfl rfl rfl

theorem uses_of_takes {e : TimerEvent T} (taken : (machine T).Takes e) : Uses e := by
  obtain ⟨s, act, ⟨⟩, u⟩ := e
  obtain ⟨v, stepped, same⟩ := Option.map_eq_some_iff.1 taken
  cases same
  dsimp only at stepped
  cases act with
  | openStore =>
      cases stepped
      exact .passes rfl rfl rfl rfl
  | openParse requested directed =>
      simp only [step] at stepped
      split at stepped
      · cases stepped
      · split at stepped
        · rename_i gets
          cases stepped
          exact .opens gets.2 rfl rfl rfl rfl
        · cases stepped
          exact .passes rfl rfl rfl rfl
  | start t cmd =>
      simp only [step] at stepped
      split at stepped
      · rename_i ready
        cases stepped
        exact .starts t cmd rfl ready.1 ready.1 rfl ready.2 rfl rfl
      · cases stepped
  | proceed t => exact uses_proceed stepped
  | ret t =>
      simp only [step] at stepped
      split at stepped
      · rename_i cmd done
        cases stepped
        exact .returns t rfl rfl (by rw [done]; nofun) rfl rfl
      · cases stepped
  | release =>
      simp only [step] at stepped
      split at stepped
      · rename_i ready
        cases stepped
        exact .releases ready.1 ready.2 rfl rfl rfl rfl
      · cases stepped
  | releaseStep =>
      simp only [step] at stepped
      split at stepped
      · rename_i releasing
        cases stepped
        exact .drivesOff releasing rfl rfl rfl rfl
      · rename_i freeing
        cases stepped
        exact .frees freeing rfl rfl rfl rfl
      · cases stepped
  | delTimerSync =>
      simp only [step] at stepped
      split at stepped
      · rename_i ready
        cases stepped
        exact .deletes rfl ready.1 rfl rfl rfl rfl
      · cases stepped
  | tick x => exact uses_tick stepped

/-- The `del_timer_sync` of a release. -/
theorem delTimerSync_event {e : TimerEvent T} (taken : (machine T).Takes e)
    (act : e.act = .delTimerSync) :
    e.source.deletions ≠ 0 ∧
      e.target = { e.source with deletions := e.source.deletions - 1, pending := none } := by
  obtain ⟨s, x, ⟨⟩, u⟩ := e
  cases act
  obtain ⟨v, stepped, same⟩ := Option.map_eq_some_iff.1 taken
  cases same
  simp only [step] at stepped
  split at stepped
  · rename_i ready
    cases stepped
    exact ⟨ready.1, rfl⟩
  · cases stepped

/-- A thread in a command was in it before, or the command is called by this step. -/
theorem Uses.busy {e : TimerEvent T} (uses : Uses e) {t : T} (busy : e.target.threads t ≠ .idle) :
    e.source.threads t ≠ .idle ∨ (∃ cmd, e.act = .start t cmd) ∧ e.source.session = .open := by
  cases uses with
  | starts t' cmd act here session deletions idle users threads =>
      by_cases same : t = t'
      · subst same
        exact Or.inr ⟨⟨cmd, act⟩, here⟩
      · left
        rwa [threads, Function.update_of_ne same] at busy
  | proceeds t' stage session deletions before still users threads =>
      left
      by_cases same : t = t'
      · subst same
        exact before
      · rwa [threads, Function.update_of_ne same] at busy
  | returns t' session deletions before users threads =>
      left
      by_cases same : t = t'
      · subst same
        exact before
      · rwa [threads, Function.update_of_ne same] at busy
  | opens closed session deletions users threads | releases here unused session deletions users threads
  | drivesOff here session deletions users threads | frees here session deletions users threads
  | deletes act due session deletions users threads | passes session deletions users threads =>
      left
      rwa [threads] at busy

/-- The calls in progress are counted, and there are none without the open file. -/
def Counted (s : State T) : Prop :=
  ∃ A : Finset T, (∀ t, t ∈ A ↔ s.threads t ≠ .idle) ∧ A.card = s.users ∧
    (s.session ≠ .open → A = ∅)

omit [DecidableEq T] in
theorem counted_loaded : Counted (State.loaded T) :=
  ⟨∅, by simp [State.loaded], rfl, fun _ => rfl⟩

omit [DecidableEq T] in
/-- A call in progress holds the file open. -/
theorem Counted.session {s : State T} (counted : Counted s) {t : T} (busy : s.threads t ≠ .idle) :
    s.session = .open := by
  obtain ⟨A, members, -, closed⟩ := counted
  by_contra other
  have member := (members t).2 busy
  rw [closed other] at member
  exact absurd member (Finset.notMem_empty t)

omit [DecidableEq T] in
theorem Counted.keeps {s u : State T} (counted : Counted s) (threads : u.threads = s.threads)
    (users : u.users = s.users) (session : s.session ≠ .open ∨ u.session = s.session) :
    Counted u := by
  obtain ⟨A, members, card, closed⟩ := counted
  refine ⟨A, ?_, card.trans users.symm, ?_⟩
  · rw [threads]
    exact members
  · intro other
    rcases session with shut | same
    · exact closed shut
    · rw [same] at other
      exact closed other

theorem Counted.step {e : TimerEvent T} (taken : (machine T).Takes e) (counted : Counted e.source) :
    Counted e.target := by
  cases uses_of_takes taken with
  | opens closed session deletions users threads =>
      exact counted.keeps threads users (Or.inl (by rw [closed]; nofun))
  | starts t cmd act here session deletions idle users threads =>
      obtain ⟨A, members, card, closed⟩ := counted
      have fresh : t ∉ A := fun member => (members t).1 member idle
      refine ⟨insert t A, ?_, ?_, fun other => absurd session other⟩
      · intro t'
        rw [threads, Finset.mem_insert]
        by_cases same : t' = t
        · subst same
          have busy : cmd.stage ≠ .idle := by cases cmd <;> nofun
          simp [busy]
        · rw [Function.update_of_ne same, members]
          simp [same]
      · rw [Finset.card_insert_of_notMem fresh, card, users]
  | proceeds t stage session deletions busy still users threads =>
      obtain ⟨A, members, card, closed⟩ := counted
      refine ⟨A, ?_, card.trans users.symm, ?_⟩
      · intro t'
        rw [threads]
        by_cases same : t' = t
        · subst same
          simp [members, busy, still]
        · rw [Function.update_of_ne same, members]
      · rw [session]
        exact closed
  | returns t session deletions busy users threads =>
      obtain ⟨A, members, card, closed⟩ := counted
      refine ⟨A.erase t, ?_, ?_, ?_⟩
      · intro t'
        rw [threads, Finset.mem_erase]
        by_cases same : t' = t
        · subst same
          simp
        · rw [Function.update_of_ne same, members]
          simp [same]
      · rw [Finset.card_erase_of_mem ((members t).2 busy), card, users]
      · intro other
        rw [session] at other
        rw [closed other]
        rfl
  | releases here unused session deletions users threads =>
      obtain ⟨A, members, card, closed⟩ := counted
      refine ⟨A, ?_, card.trans users.symm, fun _ => Finset.card_eq_zero.1 (card.trans unused)⟩
      rw [threads]
      exact members
  | drivesOff here session deletions users threads | frees here session deletions users threads =>
      exact counted.keeps threads users (Or.inl (by rw [here]; nofun))
  | deletes act due session deletions users threads | passes session deletions users threads =>
      exact counted.keeps threads users (Or.inr session)

end LearningKernel.LedTimer.Sessions
