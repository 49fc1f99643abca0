/-
# Key.FasyncApp -- fasyncApp and the reads of its signal handler

`fasyncApp` opens the device with `O_NONBLOCK`, then asks for the flags of the
descriptor (`F_GETFD`) where it needs those of the file, and sets `FASYNC` alone: from
then on the reads of `sigio_signal_func` block.  So whether one waits depends on what
`timer_function` has stored and on the handler's own earlier reads, as `SIGIO` comes
after every expiry and coalesces (`handler_never_waits_iff`).

Seen through the driver's state, a run of the two is a run of the driver alone
(`keyPath`).
-/
import LearningKernel.Key.Notify

namespace LearningKernel.Key

open LearningKernel.Theory LearningKernel.Kernel

set_option autoImplicit false

/-! ## File and descriptor flags -/

abbrev Flags := BitVec 32

def oRdonly : Flags := 0
def oNonblock : Flags := 0x800
def fasyncFlag : Flags := 0x2000

/-- `F_SETFL`: of the flags that the two sides use it sets these two. -/
def setfl (fFlags arg : Flags) : Flags :=
  let mask := oNonblock ||| fasyncFlag
  (fFlags &&& ~~~mask) ||| (arg &&& mask)

/-! ## The application -/

/-- Where `main` is. -/
inductive MainStage where
  | start
  | opened
  /-- `signal` has been called -/
  | handling
  /-- `F_SETOWN` -/
  | owned
  /-- `F_GETFD` -/
  | asked
  /-- `F_SETFL`: in the loop -/
  | looping
  | exited
  deriving DecidableEq

/-- Where `sigio_signal_func` is. -/
inductive HandlerStage where
  | idle
  | entered
  /-- in its `read` -/
  | reading
  | returned
  deriving DecidableEq

/-- The driver with the application's read as its reader, the flags of the open file and
of its descriptor, the variable `flags`, and whether `SIGIO` is pending. -/
structure AppState where
  key : State Unit
  main : MainStage
  fFlags : Flags
  fdFlags : Flags
  flags : Flags
  pending : Bool
  handler : HandlerStage

def AppState.start : AppState :=
  { key := .loaded Unit, main := .start, fFlags := 0, fdFlags := 0, flags := 0, pending := false,
    handler := .idle }

inductive AppAct where
  /-- `timer_function` up to its unlock -/
  | expire (level : Level)
  /-- and its `kill_fasync` -/
  | notify
  /-- the next statement of `main` -/
  | main
  /-- its `open` fails -/
  | openFails
  /-- `SIGIO` is delivered, which stays blocked until the handler returns -/
  | deliver
  /-- the handler calls `read` -/
  | read
  | wake
  /-- another signal breaks the wait -/
  | interrupt
  | locked (uncopied : Nat)
  | leave
  deriving DecidableEq

def AppState.nonblock (s : AppState) : Bool := s.fFlags &&& oNonblock ≠ 0

/-- `main`, statement by statement. -/
def AppState.mainStep (s : AppState) : AppState :=
  match s.main with
  | .start => { s with main := .opened, fFlags := oRdonly ||| oNonblock, fdFlags := 0 }
  | .opened => { s with main := .handling }
  | .handling => { s with main := .owned }
  | .owned => { s with main := .asked, flags := s.fdFlags }
  | .asked => { s with main := .looping, fFlags := setfl s.fFlags (s.flags ||| fasyncFlag) }
  | .looping | .exited => s

/-- What may happen when. -/
def AppState.enabled (s : AppState) : AppAct → Bool
  | .expire _ | .notify => true
  | .main => s.main ≠ .exited
  | .openFails => s.main = .start
  | .deliver => s.pending ∧ s.handler = .idle
  | .read => s.handler = .entered
  | .wake | .interrupt | .locked _ => s.handler = .reading
  | .leave => s.handler = .returned

/-- The step of the driver that this is. -/
def AppState.keyAct? (s : AppState) : AppAct → Option (Act Unit)
  | .expire level => some (.expire level)
  | .notify => some .notify
  | .read => some (.call () s.nonblock)
  | .wake => some (.wake ())
  | .interrupt => some (.interrupt ())
  | .locked uncopied => some (.locked () uncopied)
  | .main | .openFails | .deliver | .leave => none

/-- The application after the act; `key` is the driver after it.  `kill_fasync` raises
`SIGIO` for a file with `FASYNC`. -/
def AppState.after (s : AppState) (key : State Unit) : AppAct → AppState
  | .expire _ => s
  | .notify => { s with pending := s.pending || s.fFlags &&& fasyncFlag ≠ 0 }
  | .main => s.mainStep
  | .openFails => { s with main := .exited }
  | .deliver => { s with pending := false, handler := .entered }
  | .read => { s with handler := if key.readers () = .idle then .returned else .reading }
  | .wake | .interrupt => s
  | .locked _ => { s with handler := .returned }
  | .leave => { s with handler := .idle }

def appStep (s : AppState) (x : AppAct) : Option (Option (Out Unit) × AppState) :=
  if s.enabled x then
    match s.keyAct? x with
    | none => some (none, s.after s.key x)
    | some a =>
        (step .fasync s.key a).map fun result =>
          (some result.1, { s.after result.2 x with key := result.2 })
  else none

def appMachine : Machine AppState AppAct (Option (Out Unit)) := ⟨appStep⟩

abbrev AppEvent := Event AppState AppAct (Option (Out Unit))

/-- The driver's part of an event. -/
def keyEvent? (e : AppEvent) : Option (KeyEvent Unit) :=
  match e.source.keyAct? e.act, e.out with
  | some a, some out => some ⟨e.source.key, a, out, e.target.key⟩
  | _, _ => none

/-- A read of the handler returns without waiting. -/
def NeverWaits (e : AppEvent) : Prop :=
  e.act = .read → e.source.nonblock = true ∨ e.source.key.dev.status ≠ .keyNone

/-! ## The driver in it -/

theorem key_after (s : AppState) (key : State Unit) (x : AppAct) : (s.after key x).key = s.key := by
  cases x with
  | main =>
      show s.mainStep.key = s.key
      unfold AppState.mainStep
      split <;> rfl
  | _ => rfl

/-- The cases of one step. -/
theorem appStep_cases {e : AppEvent} (taken : appMachine.Takes e) :
    e.source.enabled e.act = true ∧
      ((e.source.keyAct? e.act = none ∧ e.out = none ∧
          e.target = e.source.after e.source.key e.act) ∨
        ∃ a out key, e.source.keyAct? e.act = some a ∧
          step .fasync e.source.key a = some (out, key) ∧ e.out = some out ∧
            e.target = { e.source.after key e.act with key := key }) := by
  obtain ⟨s, x, out, t⟩ := e
  simp only [Machine.Takes, appMachine, appStep] at taken
  split at taken
  · rename_i enabled
    refine ⟨enabled, ?_⟩
    split at taken
    · rename_i nothing
      cases taken
      exact Or.inl ⟨nothing, rfl, rfl⟩
    · rename_i a acts
      obtain ⟨result, stepped, same⟩ := Option.map_eq_some_iff.1 taken
      cases same
      exact Or.inr ⟨a, result.1, result.2, acts, stepped, rfl, rfl⟩
  · cases taken

section Runs

variable {es : List AppEvent} {u : AppState}

/-- A run of the application is a run of the driver. -/
theorem keyPath (path : appMachine.Path .start es u) :
    (machine .fasync).Path (State.loaded Unit) (es.filterMap keyEvent?) u.key := by
  refine path.project (π := AppState.key) ?_
  intro e taken
  obtain ⟨-, ⟨nothing, out, target⟩ | ⟨a, out, key, acts, stepped, outs, target⟩⟩ :=
    appStep_cases taken
  · left
    refine ⟨?_, ?_⟩
    · rw [keyEvent?, nothing]
    · rw [target, key_after]
  · right
    refine ⟨⟨e.source.key, a, out, e.target.key⟩, ?_, ?_, rfl, rfl⟩
    · rw [keyEvent?, acts, outs]
    · rw [target]
      exact stepped

/-! ## The flags -/

/-- The flags of the open file at each stage. -/
def MainStage.fFlags : MainStage → Flags
  | start | exited => 0
  | opened | handling | owned | asked => oNonblock
  | looping => fasyncFlag

/-- The flags follow `main`, and nothing is signalled before its loop. -/
structure Flagged (s : AppState) : Prop where
  fFlags : s.fFlags = s.main.fFlags
  fdFlags : s.fdFlags = 0
  flags : s.main = .asked → s.flags = 0
  signalled : s.pending = true ∨ s.handler ≠ .idle → s.main = .looping

theorem flagged_mainStep {s : AppState} (flagged : Flagged s) : Flagged s.mainStep := by
  obtain ⟨fFlags, fdFlags, flags, signalled⟩ := flagged
  unfold AppState.mainStep
  cases main : s.main with
  | looping | exited => exact ⟨fFlags, fdFlags, flags, signalled⟩
  | start =>
      refine ⟨?_, rfl, nofun, ?_⟩
      · show oRdonly ||| oNonblock = oNonblock
        decide
      · intro signals
        rw [main] at signalled
        cases signalled signals
  | opened | handling =>
      rw [main] at fFlags signalled
      refine ⟨fFlags, fdFlags, nofun, ?_⟩
      intro signals
      cases signalled signals
  | owned =>
      rw [main] at fFlags signalled
      refine ⟨fFlags, fdFlags, fun _ => fdFlags, ?_⟩
      intro signals
      cases signalled signals
  | asked =>
      rw [main] at fFlags
      refine ⟨?_, fdFlags, nofun, fun _ => rfl⟩
      show setfl s.fFlags (s.flags ||| fasyncFlag) = fasyncFlag
      rw [fFlags, flags main]
      decide

/-- `SIGIO` is raised only for a file with `FASYNC`. -/
theorem looping_of_fasync {main : MainStage} (registered : main.fFlags &&& fasyncFlag ≠ 0) :
    main = .looping := by
  cases main with
  | looping => rfl
  | start | opened | handling | owned | asked | exited => exact absurd (by decide) registered

theorem flagged_after {s : AppState} {x : AppAct} (key : State Unit) (flagged : Flagged s)
    (enabled : s.enabled x = true) : Flagged (s.after key x) := by
  obtain ⟨fFlags, fdFlags, flags, signalled⟩ := flagged
  cases x with
  | expire level | wake | interrupt => exact ⟨fFlags, fdFlags, flags, signalled⟩
  | main => exact flagged_mainStep ⟨fFlags, fdFlags, flags, signalled⟩
  | notify =>
      refine ⟨fFlags, fdFlags, flags, ?_⟩
      rintro (raised | handling)
      · simp only [AppState.after, Bool.or_eq_true, decide_eq_true_eq] at raised
        rcases raised with before | registered
        · exact signalled (Or.inl before)
        · rw [fFlags] at registered
          exact looping_of_fasync registered
      · exact signalled (Or.inr handling)
  | openFails =>
      have start : s.main = .start := by simpa [AppState.enabled] using enabled
      refine ⟨?_, fdFlags, nofun, ?_⟩
      · show s.fFlags = MainStage.exited.fFlags
        rw [fFlags, start]
        rfl
      · intro signals
        rw [start] at signalled
        cases signalled signals
  | deliver =>
      have pending : s.pending = true ∧ s.handler = .idle := by
        simpa [AppState.enabled] using enabled
      exact ⟨fFlags, fdFlags, flags, fun _ => signalled (Or.inl pending.1)⟩
  | read =>
      have entered : s.handler = .entered := by simpa [AppState.enabled] using enabled
      exact ⟨fFlags, fdFlags, flags, fun _ => signalled (Or.inr (by rw [entered]; nofun))⟩
  | locked uncopied =>
      have reading : s.handler = .reading := by simpa [AppState.enabled] using enabled
      exact ⟨fFlags, fdFlags, flags, fun _ => signalled (Or.inr (by rw [reading]; nofun))⟩
  | leave =>
      have returned : s.handler = .returned := by simpa [AppState.enabled] using enabled
      exact ⟨fFlags, fdFlags, flags, fun _ => signalled (Or.inr (by rw [returned]; nofun))⟩

theorem flagged_of_takes {e : AppEvent} (taken : appMachine.Takes e) (flagged : Flagged e.source) :
    Flagged e.target := by
  obtain ⟨enabled, ⟨-, -, target⟩ | ⟨a, out, key, -, -, -, target⟩⟩ := appStep_cases taken
  · rw [target]
    exact flagged_after _ flagged enabled
  · obtain ⟨fFlags, fdFlags, flags, signalled⟩ := flagged_after key flagged enabled
    rw [target]
    exact ⟨fFlags, fdFlags, flags, signalled⟩

/-- The handler's reads are blocking ones. -/
theorem blocking_read {e : AppEvent} (taken : appMachine.Takes e) (flagged : Flagged e.source)
    (reads : e.act = .read) : e.source.nonblock = false := by
  have enabled := (appStep_cases taken).1
  rw [reads] at enabled
  have entered : e.source.handler = .entered := by simpa [AppState.enabled] using enabled
  have looping := flagged.signalled (Or.inr (by rw [entered]; nofun))
  rw [AppState.nonblock, flagged.fFlags, looping]
  decide

/-- **The handler of fasyncApp never waits** exactly in the runs in which each of its
reads is called when, of the expiries and of its reads that copied, the latest was an
expiry that sampled another value than the one before it. -/
theorem handler_never_waits_iff (path : appMachine.Path .start es u) :
    (∀ e ∈ es, NeverWaits e) ↔
      ∀ before e after, es = before ++ e :: after → e.act = .read →
        latest leaves? (before.filterMap keyEvent?) = some true := by
  have start : Flagged .start := ⟨rfl, rfl, nofun, by rintro (raised | handling) <;> contradiction⟩
  have flagged := (path.invariant (fun e taken before => flagged_of_takes taken before) start).2
  have pending : ∀ before e after, es = before ++ e :: after →
      (e.source.key.dev.status ≠ .keyNone ↔
        latest leaves? (before.filterMap keyEvent?) = some true) := by
    rintro before e after rfl
    obtain ⟨front, -, -⟩ := path.split
    exact pending_iff_latest (keyPath front)
  constructor
  · intro waitless before e after cut reads
    have member : e ∈ es := by simp [cut]
    obtain ⟨taken, flags, -⟩ := flagged e member
    rw [← pending before e after cut]
    rcases waitless e member reads with nonblock | event
    · rw [blocking_read taken flags reads] at nonblock
      cases nonblock
    · exact event
  · intro fresh e member reads
    obtain ⟨before, after, cut⟩ := List.append_of_mem member
    exact Or.inr ((pending before e after cut).2 (fresh before e after cut reads))

end Runs

/-- `main` up to its loop, then a press and a sample of the same level, each of which
the handler answers with a read. -/
def pressThenSame : List AppAct :=
  List.replicate 5 .main ++
    [.expire .low, .notify, .deliver, .read, .wake, .locked 0, .leave, .expire .low, .notify,
      .deliver, .read]

theorem handler_never_waits_iff_pressThenSame :
    let es := appMachine.trace .start pressThenSame
    (∀ e ∈ es, NeverWaits e) ↔
      ∀ before e after, es = before ++ e :: after → e.act = .read →
        latest leaves? (before.filterMap keyEvent?) = some true :=
  handler_never_waits_iff (Machine.path_trace _ _ _)

/-- The second read of the handler waits for the next key event. -/
theorem handler_waits :
    ∃ (es : List AppEvent) (e : AppEvent) (u : AppState),
      appMachine.Path .start es u ∧ e ∈ es ∧ e.act = .read ∧ e.target.handler = .reading ∧
        e.target.key.readers () = .waiting ∧ ¬ NeverWaits e := by
  let es := appMachine.trace .start pressThenSame
  refine ⟨es, es[15], _, Machine.path_trace _ _ pressThenSame, List.getElem_mem _, rfl, rfl, rfl, ?_⟩
  intro waitless
  rcases waitless rfl with nonblock | event
  · exact absurd nonblock (by decide)
  · exact event rfl

end LearningKernel.Key
