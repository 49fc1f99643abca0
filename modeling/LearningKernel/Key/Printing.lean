/-
# Key.Printing -- what the key applications print

`keyirqApp` and `blockioApp` read in a loop and print the event they got.  `noblockioApp`
opens the device with `O_NONBLOCK` and lets `select` tell it when to read, and it does not
look at what `read` returns: a refused read leaves the last event in `key_val`, which is
printed again.

The applications run beside any other processes (`Key.Waiting`).

* `prints_delivered_iff`: an application prints what it was given, line by line, exactly
  if no refused read finds a press or a release in `key_val`;
* `refused_only_if_disturbed`: a read of `noblockioApp` is refused only if, since its last
  `select` told it of an event, a sample of the same level or another process has taken it away.
-/
import LearningKernel.Key.Waiting
import LearningKernel.Reading.Lengths

namespace LearningKernel.Key.Printing

open LearningKernel.Theory LearningKernel.Kernel LearningKernel.Key.Waiting LearningKernel.Reading

set_option autoImplicit false

/-- Where one of two observations only leaves out what the other has, they are the same list
exactly if it leaves out nothing. -/
theorem filterMap_eq_iff {α β : Type} {f g : α → Option β} {xs : List α}
    (within : ∀ x ∈ xs, g x = none ∨ g x = f x) :
    (xs.filterMap g).length ≤ (xs.filterMap f).length ∧
      (xs.filterMap f = xs.filterMap g ↔ ∀ x ∈ xs, f x = g x) := by
  induction xs with
  | nil => simp
  | cons x xs ih =>
      obtain ⟨shorter, same⟩ := ih fun y member => within y (List.mem_cons_of_mem x member)
      simp only [List.filterMap_cons, List.forall_mem_cons]
      rcases within x List.mem_cons_self with left | here
      · cases more : f x with
        | none => simp [left, shorter, same]
        | some y =>
            simp only [left]
            refine ⟨Nat.le_succ_of_le shorter, ?_, nofun⟩
            intro equal
            have longer := congrArg List.length equal
            rw [List.length_cons] at longer
            omega
      · rw [here]
        cases f x with
        | none => simp [shorter, same]
        | some y => simp [shorter, same]

/-! ## The applications -/

inductive App where
  | keyirqApp
  | blockioApp
  | noblockioApp
  deriving DecidableEq

/-- The driver it is written for. -/
def App.driver : App → Driver
  | .keyirqApp => .keyirq
  | .blockioApp => .blockio
  | .noblockioApp => .noblockio

/-- Whether it opens the device with `O_NONBLOCK`, and calls `select` before each read. -/
def App.nonblock : App → Bool
  | .keyirqApp | .blockioApp => false
  | .noblockioApp => true

/-- The driver and all its processes, whether `select` has told the application of an event
that it has not called `read` for, and its variable `key_val`. -/
structure AppState (R : Type) where
  system : Waiting.State R
  polled : Bool
  keyVal : Int

/-- The application has opened the device; `key_val` is not initialised. -/
def AppState.opened (R : Type) (keyVal : Int) : AppState R :=
  { system := .loaded R, polled := false, keyVal := keyVal }

/-- The end of the loop's body. -/
def printKey (keyVal : Int) : Option String :=
  if 0 = keyVal then some "Key Press\n"
  else if 1 = keyVal then some "Key Release\n"
  else none

/-- What one step of the driver shows, and what the application prints after it. -/
structure AppOut (R : Type) where
  out : Waiting.Out R
  printed : Option String

section Machine

variable {R : Type} [DecidableEq R] (app : App) (me : R)

/-- The loop decides what the application calls; `&key_val` can be written. -/
def App.permits (s : AppState R) : Waiting.Act R → Bool
  | .select r => r ≠ me || (app.nonblock && !s.polled)
  | .call r nonblock => r ≠ me || (nonblock == app.nonblock && (s.polled || !app.nonblock))
  | .locked r uncopied => r ≠ me || uncopied == 0
  | _ => true

def polledAfter (polled : Bool) : Waiting.Act R → Waiting.Out R → Bool
  | .call r _, _ => if r = me then false else polled
  | _, .selected r ready => if r = me then ready else polled
  | _, _ => polled

/-- What a return of the application's `read` hands to the rest of the body. -/
def returnsTo : Waiting.Out R → Option (Option KeyStatus)
  | .key (.returned r _ copied) => if r = me then some copied else none
  | _ => none

def keyValAfter (keyVal : Int) (out : Waiting.Out R) : Int :=
  match returnsTo me out with
  | some (some status) => code status
  | _ => keyVal

def appStep (s : AppState R) (act : Waiting.Act R) : Option (AppOut R × AppState R) :=
  if app.permits me s act then
    (Waiting.step app.driver s.system act).map fun (out, system) =>
      let keyVal := keyValAfter me s.keyVal out
      ({ out := out, printed := (returnsTo me out).bind fun _ => printKey keyVal },
        { system := system, polled := polledAfter me s.polled act out, keyVal := keyVal })
  else none

def machine : Machine (AppState R) (Waiting.Act R) (AppOut R) := ⟨appStep app me⟩

end Machine

abbrev AppEvent (R : Type) := Event (AppState R) (Waiting.Act R) (AppOut R)

/-- The process that a step is in a call of. -/
def stepOf? {R : Type} : Waiting.Act R → Option R
  | .expire _ | .notify => none
  | .call r _ | .select r | .advance r | .signal r | .locked r _ => some r

/-! ## Steps of the driver -/

section Steps

variable {R : Type} [DecidableEq R] {driver : Driver} {e : WaitEvent R}

omit [DecidableEq R] in
theorem act_of_readersAct {act : Key.Act R} (seen : readersAct? e = some act) :
    (∀ level, act = .expire level → e.act = .expire level) ∧
      (∀ r nonblock, act = .call r nonblock → e.act = .call r nonblock) ∧
      ∀ r uncopied, act = .locked r uncopied → e.act = .locked r uncopied := by
  obtain ⟨s, eAct, out, t⟩ := e
  cases eAct with
  | expire level | notify | call r nonblock | locked r uncopied =>
      cases seen
      simp
  | advance r =>
      simp only [readersAct?] at seen
      split at seen
      · rename_i interrupted _
        cases interrupted <;> cases seen <;> simp
      · cases seen
  | select r | signal r => cases seen

/-- The step of `Key.Readers` that a visible step is. -/
theorem readersEvent_of_visible (taken : (Waiting.machine driver).Takes e) {out : Key.Out R}
    (shows : e.out = .key out) (visible : out ≠ .silent) :
    ∃ act, readersAct? e = some act ∧
      (Key.machine driver).Takes ⟨e.source.key, act, out, e.target.key⟩ := by
  rcases readersEvent_of_takes taken with ⟨-, -, silent⟩ | ⟨d, seen, steps, -⟩
  · rw [shows] at silent
    cases out with
    | silent => exact absurd rfl visible
    | stored status | notified sigio | returned r ret copied => cases silent
  · unfold readersEvent? at seen
    rw [shows] at seen
    split at seen
    · rename_i act out' acts same
      cases same
      cases seen
      exact ⟨act, acts, steps⟩
    · cases seen

/-- A read that returns with nothing copied was refused for want of an event, or faulted. -/
theorem returned_nothing (taken : (Waiting.machine driver).Takes e) {r : R} {ret : Int}
    (returned : e.out = .key (.returned r ret none)) :
    (e.act = .call r true ∧ e.source.dev.status = .keyNone) ∨
      ∃ uncopied, e.act = .locked r uncopied ∧ uncopied ≠ 0 := by
  obtain ⟨act, seen, steps⟩ := readersEvent_of_visible taken returned nofun
  obtain ⟨-, calls, locks⟩ := act_of_readersAct seen
  cases effect_of_takes steps with
  | again r' acts empty out dev =>
      cases out
      exact Or.inl ⟨calls r true acts, empty⟩
  | faulted r' uncopied acts fails out dev =>
      cases out
      exact Or.inr ⟨uncopied, locks r uncopied acts, fails⟩
  | delivered r' interrupted acts ready out dev => cases out
  | expired level acts out dev => cases out
  | silent acts out dev => rcases out with out | ⟨sigio, out⟩ <;> cases out

/-- An event goes by a sample of the same level, or to a reader. -/
theorem status_lost (taken : (Waiting.machine driver).Takes e)
    (event : e.source.dev.status ≠ .keyNone) (lost : e.target.dev.status = .keyNone) :
    (∃ level : Level, e.act = .expire level ∧ level.value = e.source.dev.lastValue) ∨
      ∃ r, e.act = .locked r 0 := by
  rcases readersEvent_of_takes taken with ⟨-, same, -⟩ | ⟨d, seen, steps, source, target⟩
  · exact absurd ((congrArg (fun k => k.dev.status) same).symm.trans lost) event
  · have acts : readersAct? e = some d.act := by
      unfold readersEvent? at seen
      split at seen
      · rename_i act out here _
        cases seen
        exact here
      · cases seen
    obtain ⟨expires, -, locks⟩ := act_of_readersAct acts
    have before : d.source.dev = e.source.dev := congrArg Key.State.dev source
    have after : d.target.dev = e.target.dev := congrArg Key.State.dev target
    cases effect_of_takes steps with
    | expired level act out dev =>
        refine Or.inl ⟨level, expires level act, ?_⟩
        rw [← before, ← timerFunction_status_eq_keyNone_iff, ← dev, after, lost]
    | delivered r interrupted act ready out dev => exact Or.inr ⟨r, locks r 0 act⟩
    | faulted r uncopied act fails out dev | again r act empty out dev | silent act out dev =>
        rw [before, after] at dev
        exact absurd (dev ▸ lost) event

/-- `select` reports an event that is there, and its caller is out of it. -/
theorem selected_of_takes (polls : polls driver = true)
    (taken : (Waiting.machine driver).Takes e) {r : R} {ready : Bool}
    (returned : e.out = .selected r ready) :
    e.source.tasks r ≠ .idle ∧ e.target.tasks r = .idle ∧
      (ready = true → e.target.dev.status ≠ .keyNone) := by
  obtain ⟨s, act, out, t⟩ := e
  simp only at returned
  subst returned
  simp only [Machine.Takes, Waiting.machine] at taken
  change s.tasks r ≠ .idle ∧ t.tasks r = .idle ∧ (ready = true → t.dev.status ≠ .keyNone)
  cases act with
  | expire level | notify | signal r' | locked r' uncopied =>
      simp only [Waiting.step] at taken
      split at taken <;> cases taken
  | call r' nonblock =>
      simp only [Waiting.step] at taken
      split at taken
      · split at taken <;> cases taken
      · cases taken
  | select r' =>
      simp only [Waiting.step, polls, if_true] at taken
      split at taken <;> cases taken
  | advance r' =>
      simp only [Waiting.step] at taken
      split at taken
      · rename_i sleeper inside
        obtain ⟨sleeper', next, settled⟩ := Option.map_eq_some_iff.1 taken
        unfold State.settle at settled
        split at settled
        · cases settled
        · cases settled
        · rename_i seen p ended
          cases settled
          refine ⟨by rw [inside]; simp, setTask_tasks_self s r _, ?_⟩
          rintro rfl
          rw [finds_eq_event] at next
          exact State.event_eq_true_iff.1 (protocol.finished_saw next ended)
      · cases taken

/-- A process that calls nothing stays idle. -/
theorem idle_of_takes (taken : (Waiting.machine driver).Takes e) {r : R}
    (idle : e.source.tasks r = .idle) (noCall : ∀ nonblock, e.act ≠ .call r nonblock)
    (noSelect : e.act ≠ .select r) : e.target.tasks r = .idle ∧ stepOf? e.act ≠ some r := by
  obtain ⟨s, act, out, t⟩ := e
  simp only [Machine.Takes, Waiting.machine] at taken
  change s.tasks r = .idle at idle
  change t.tasks r = .idle ∧ stepOf? act ≠ some r
  have elsewhere : ∀ {r' task}, r' ≠ r → (s.setTask r' task).tasks r = .idle := by
    intro r' task other
    exact (Function.update_of_ne other.symm task s.tasks).trans idle
  have apart : ∀ {r'}, r' ≠ r → some r' ≠ some r := by
    intro r' other same
    exact other (Option.some.inj same)
  cases act with
  | expire level =>
      simp only [Waiting.step] at taken
      split at taken <;> cases taken
      exact ⟨idle, by intro same; cases same⟩
  | notify =>
      simp only [Waiting.step] at taken
      split at taken <;> cases taken
      refine ⟨?_, by intro same; cases same⟩
      show (s.tasks r).wake = .idle
      rw [idle]
      rfl
  | call r' nonblock =>
      have other : r' ≠ r := fun same => noCall nonblock (by rw [same])
      refine ⟨?_, apart other⟩
      simp only [Waiting.step] at taken
      split at taken
      · split at taken <;> cases taken
        · exact elsewhere other
        · exact idle
        · exact elsewhere other
      · cases taken
  | select r' =>
      have other : r' ≠ r := fun same => noSelect (by rw [same])
      refine ⟨?_, apart other⟩
      simp only [Waiting.step] at taken
      split at taken
      · split at taken <;> cases taken
        · exact elsewhere other
        · exact idle
      · cases taken
  | advance r' =>
      simp only [Waiting.step] at taken
      split at taken
      · rename_i sleeper inside
        have other : r' ≠ r := by
          rintro rfl
          rw [idle] at inside
          cases inside
        refine ⟨?_, apart other⟩
        obtain ⟨sleeper', -, settled⟩ := Option.map_eq_some_iff.1 taken
        unfold State.settle at settled
        split at settled <;> cases settled <;> exact elsewhere other
      · cases taken
  | signal r' =>
      simp only [Waiting.step] at taken
      split at taken
      · rename_i sleeper inside
        have other : r' ≠ r := by
          rintro rfl
          rw [idle] at inside
          cases inside
        cases taken
        exact ⟨elsewhere other, apart other⟩
      · cases taken
  | locked r' uncopied =>
      simp only [Waiting.step] at taken
      split at taken
      · rename_i interrupted ready
        have other : r' ≠ r := by
          rintro rfl
          rw [idle] at ready
          cases ready
        cases taken
        exact ⟨elsewhere other, apart other⟩
      · cases taken

end Steps

section Runs

variable {R : Type} [DecidableEq R] {app : App} {me : R} {es : List (AppEvent R)}
  {u : AppState R} {keyVal : Int}

/-- The line for the status that a read of the application has delivered by this step. -/
def deliveredLine? (me : R) (e : AppEvent R) : Option String :=
  (returnsTo me e.out.out).bind fun copied => copied.bind fun status => printKey (code status)

/-- A read of the application returns by this step with nothing copied. -/
def Refused (me : R) (e : AppEvent R) : Prop := returnsTo me e.out.out = some none

theorem appStep_cases {e : AppEvent R} (taken : (machine app me).Takes e) :
    app.permits me e.source e.act = true ∧
      (Waiting.machine app.driver).Takes
        ⟨e.source.system, e.act, e.out.out, e.target.system⟩ ∧
      e.out.printed = ((returnsTo me e.out.out).bind fun _ =>
        printKey (keyValAfter me e.source.keyVal e.out.out)) ∧
      e.target.polled = polledAfter me e.source.polled e.act e.out.out := by
  obtain ⟨s, act, out, t⟩ := e
  simp only [Machine.Takes, machine, appStep] at taken
  split at taken
  · rename_i permitted
    obtain ⟨⟨out', system⟩, stepped, same⟩ := Option.map_eq_some_iff.1 taken
    cases same
    exact ⟨permitted, stepped, rfl, rfl⟩
  · cases taken

/-! ## Lines and deliveries -/

/-- A returning read prints what it delivered; only a refused one may print more. -/
theorem printed_or_refused {e : AppEvent R} (taken : (machine app me).Takes e) :
    (e.out.printed = deliveredLine? me e ∧ ¬ Refused me e) ∨
      (Refused me e ∧ deliveredLine? me e = none ∧ e.out.printed = printKey e.source.keyVal) := by
  obtain ⟨-, -, printed, -⟩ := appStep_cases taken
  rw [printed]
  unfold deliveredLine? Refused keyValAfter
  cases returnsTo me e.out.out with
  | none => simp
  | some copied =>
      cases copied with
      | none => simp
      | some status => simp

/-- A refused read found no event. -/
theorem refused_cases {e : AppEvent R} (taken : (machine app me).Takes e)
    (refused : Refused me e) :
    e.act = .call me true ∧ app.nonblock = true ∧ e.source.system.dev.status = .keyNone := by
  obtain ⟨permitted, stepped, -, -⟩ := appStep_cases taken
  obtain ⟨s, act, ⟨out, printed⟩, t⟩ := e
  unfold Refused returnsTo at refused
  split at refused
  · rename_i r ret copied out
    split at refused
    · rename_i mine
      cases refused
      subst mine
      rcases returned_nothing stepped out with ⟨calls, empty⟩ | ⟨uncopied, locks, fails⟩
      · obtain rfl : act = _ := calls
        refine ⟨rfl, ?_, empty⟩
        have own : true = app.nonblock ∧ (s.polled = true ∨ app.nonblock = false) := by
          simpa [App.permits] using permitted
        exact own.1.symm
      · obtain rfl : act = _ := locks
        have whole : uncopied = 0 := by simpa [App.permits] using permitted
        exact absurd whole fails
    · cases refused
  · cases refused

/-- **The applications print what they are given**, exactly if no refused read finds the
last event still in `key_val`; an application that reads with waiting is never refused. -/
theorem prints_delivered_iff (path : (machine app me).Path (.opened R keyVal) es u) :
    (es.filterMap (fun e => e.out.printed) = es.filterMap (deliveredLine? me) ↔
      ∀ e ∈ es, Refused me e → printKey e.source.keyVal = none) ∧
    (app.nonblock = false → ∀ e ∈ es, ¬ Refused me e) := by
  constructor
  · have within : ∀ e ∈ es, deliveredLine? me e = none ∨ deliveredLine? me e = e.out.printed := by
      intro e member
      rcases printed_or_refused (path.takes e member) with ⟨same, -⟩ | ⟨-, nothing, -⟩
      · exact Or.inr same.symm
      · exact Or.inl nothing
    rw [(filterMap_eq_iff within).2]
    refine forall₂_congr fun e member => ?_
    rcases printed_or_refused (path.takes e member) with ⟨same, answered⟩ | ⟨refused, nothing, stale⟩
    · exact ⟨fun _ refused => absurd refused answered, fun _ => same⟩
    · rw [nothing, stale]
      exact ⟨fun none _ => none, fun none => none refused⟩
  · intro waits e member refused
    have nonblock := (refused_cases (path.takes e member) refused).2.1
    rw [waits] at nonblock
    cases nonblock

/-! ## Refused reads of `noblockioApp` -/

/-- The event that is there is taken by this step: by a sample of the same level, or by
another process. -/
def Disturbs (me : R) (e : AppEvent R) : Prop :=
  (∃ level : Level, e.act = .expire level ∧ level.value = e.source.system.dev.lastValue) ∨
    ∃ r, r ≠ me ∧ e.act = .locked r 0

/-- The application is in no call: this step is not one of its `select` or `read`, and no
`select` returns to it. -/
def Outside (me : R) (e : AppEvent R) : Prop :=
  stepOf? e.act ≠ some me ∧ ∀ ready, e.out.out ≠ .selected me ready

/-- Since the last `select` told of an event, whoever finds none has been disturbed. -/
structure Told (me : R) (past : List (AppEvent R)) (s : AppState R) : Prop where
  idle : s.system.tasks me = .idle
  told : ∃ front tell mid, past = front ++ tell :: mid ∧ tell.out.out = .selected me true ∧
    (∀ d ∈ mid, Outside me d) ∧ (s.system.dev.status = .keyNone → ∃ d ∈ mid, Disturbs me d)

theorem told_of_selected {e : AppEvent R} (taken : (machine .noblockioApp me).Takes e)
    (selected : e.out.out = .selected me true) (past : List (AppEvent R)) :
    Told me (past ++ [e]) e.target := by
  obtain ⟨-, stepped, -, -⟩ := appStep_cases taken
  obtain ⟨-, idle, event⟩ := selected_of_takes rfl stepped selected
  exact ⟨idle, past, e, [], rfl, selected, fun d none => absurd none List.not_mem_nil,
    fun empty => absurd empty (event rfl)⟩

theorem Told.next {e : AppEvent R} (taken : (machine .noblockioApp me).Takes e)
    {past : List (AppEvent R)} (told : Told me past e.source) (polled : e.source.polled = true)
    (noCall : ∀ nonblock, e.act ≠ .call me nonblock) : Told me (past ++ [e]) e.target := by
  obtain ⟨permitted, stepped, -, -⟩ := appStep_cases taken
  obtain ⟨idle, front, tell, mid, rfl, tells, apart, disturbed⟩ := told
  have noSelect : e.act ≠ .select me := by
    intro selects
    rw [selects] at permitted
    simp [App.permits, polled] at permitted
  obtain ⟨stays, notMine⟩ := idle_of_takes stepped idle noCall noSelect
  have outside : ∀ d ∈ mid ++ [e], Outside me d := by
    refine List.forall_mem_append.2 ⟨apart, List.forall_mem_singleton.2 ⟨notMine, ?_⟩⟩
    intro ready returned
    exact (selected_of_takes rfl stepped returned).1 idle
  refine ⟨stays, front, tell, mid ++ [e], by simp, tells, outside, ?_⟩
  intro empty
  by_cases before : e.source.system.dev.status = .keyNone
  · obtain ⟨d, member, disturbs⟩ := disturbed before
    exact ⟨d, by simp [member], disturbs⟩
  · refine ⟨e, by simp, ?_⟩
    rcases status_lost stepped before empty with settles | ⟨r, locks⟩
    · exact Or.inl settles
    · refine Or.inr ⟨r, ?_, locks⟩
      rintro rfl
      exact notMine (by rw [show e.act = .locked r 0 from locks, stepOf?])

theorem polledAfter_eq_true {polled : Bool} {act : Waiting.Act R}
    {out : Waiting.Out R} (after : polledAfter me polled act out = true) :
    (∀ nonblock, act ≠ .call me nonblock) ∧ (out = .selected me true ∨ polled = true) := by
  unfold polledAfter at after
  split at after
  · rename_i r nonblock
    split at after
    · cases after
    · rename_i other
      refine ⟨?_, Or.inr after⟩
      rintro _ same
      cases same
      exact other rfl
  · rename_i r ready noCall
    refine ⟨fun nonblock => noCall me nonblock, ?_⟩
    split at after
    · rename_i mine
      rw [mine, after]
      exact Or.inl rfl
    · exact Or.inr after
  · rename_i noCall _
    exact ⟨fun nonblock => noCall me nonblock, Or.inr after⟩

theorem told_of_takes {e : AppEvent R} (taken : (machine .noblockioApp me).Takes e)
    {past : List (AppEvent R)} (before : e.source.polled = true → Told me past e.source)
    (polled : e.target.polled = true) : Told me (past ++ [e]) e.target := by
  rw [(appStep_cases taken).2.2.2] at polled
  obtain ⟨noCall, selected | still⟩ := polledAfter_eq_true polled
  · exact told_of_selected taken selected past
  · exact (before still).next taken still noCall

/-- **A read of `noblockioApp` is refused only if it was disturbed**: since the `select` that it
follows, a sample of the same level or another process has taken the event away. -/
theorem refused_only_if_disturbed (path : (machine .noblockioApp me).Path (.opened R keyVal) es u) :
    ∀ before e after, es = before ++ e :: after → Refused me e →
      ∃ front tell mid, before = front ++ tell :: mid ∧ tell.out.out = .selected me true ∧
        (∀ d ∈ mid, Outside me d) ∧ ∃ d ∈ mid, Disturbs me d := by
  rintro before e after rfl refused
  obtain ⟨front, taken, -⟩ := path.split
  obtain ⟨calls, -, empty⟩ := refused_cases taken refused
  have told : e.source.polled = true → Told me before e.source := by
    refine front.history (C := fun _ => True)
      (J := fun past s => s.polled = true → Told me past s) ?_ ?_ (fun _ _ => trivial)
    · intro polled
      cases polled
    · intro past d _ steps _ earlier
      exact told_of_takes steps earlier
  have polled : e.source.polled = true := by
    have permitted := (appStep_cases taken).1
    rw [calls] at permitted
    simpa [App.permits, App.nonblock] using permitted
  obtain ⟨-, first, tell, mid, cut, tells, apart, disturbed⟩ := told polled
  exact ⟨first, tell, mid, cut, tells, apart, disturbed empty⟩

end Runs

/-- A press is read; a release is there when `select` looks, and is settled over before the
application reads. -/
def staleRelease : List (Waiting.Act Unit) :=
  [.expire .low, .notify, .select (), .advance (), .advance (), .call () true, .locked () 0,
    .expire .high, .notify, .select (), .advance (), .advance (), .expire .high, .notify,
    .call () true]

/-- The press is printed twice. -/
example :
    let es := (machine .noblockioApp ()).trace (.opened Unit 2) staleRelease
    es.filterMap (fun e => e.out.printed) = ["Key Press\n", "Key Press\n"] ∧
      es.filterMap (deliveredLine? ()) = ["Key Press\n"] := by decide

theorem prints_delivered_iff_staleRelease :
    let es := (machine .noblockioApp ()).trace (.opened Unit 2) staleRelease
    (es.filterMap (fun e => e.out.printed) = es.filterMap (deliveredLine? ()) ↔
      ∀ e ∈ es, Refused () e → printKey e.source.keyVal = none) ∧
    (App.noblockioApp.nonblock = false → ∀ e ∈ es, ¬ Refused () e) :=
  prints_delivered_iff (Machine.path_trace _ _ _)

theorem refused_only_if_disturbed_staleRelease :
    let es := (machine .noblockioApp ()).trace (.opened Unit 2) staleRelease
    (∃ e ∈ es, Refused () e) ∧ ∀ before e after, es = before ++ e :: after → Refused () e →
      ∃ front tell mid, before = front ++ tell :: mid ∧ tell.out.out = .selected () true ∧
        (∀ d ∈ mid, Outside () d) ∧ ∃ d ∈ mid, Disturbs () d :=
  ⟨⟨((machine .noblockioApp ()).trace (.opened Unit 2) staleRelease)[14], List.getElem_mem _, rfl⟩,
    refused_only_if_disturbed (Machine.path_trace _ _ _)⟩

end LearningKernel.Key.Printing
