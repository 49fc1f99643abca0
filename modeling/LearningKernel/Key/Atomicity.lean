/-
# Key.Atomicity -- the spinlock sections are atomic

A section of `Key.Sections` has one store to `status`, and it is there that `Key.Readers` has all
of it (`point?`); a section that faults is there where it leaves its copy.

`sections_refine`: every run is a run of `Key.Readers`, with the same notifications, and each
reader is returned the same, byte for byte.
-/
import LearningKernel.Key.Sections

namespace LearningKernel.Key.Sections

open LearningKernel.Theory LearningKernel.Kernel LearningKernel.Reading

set_option autoImplicit false

/-! ## As `Key.Readers` sees it -/

def Task.reader : Task → Reader
  | idle | leaving _ _ => .idle
  | waiting => .waiting
  | ready interrupted | copying interrupted _ _ => .ready interrupted

/-- `last_value` follows `status` in one step. -/
def TimerStage.lastValue (before : Int) : TimerStage → Int
  | stored level => level.value
  | _ => before

def TimerStage.notifies (driver : Driver) : TimerStage → Bool
  | stored _ | kept => driver.wakes
  | notifying => true
  | _ => false

def State.key {R : Type} (driver : Driver) (s : State R) : Key.State R :=
  { dev := { status := s.dev.status, lastValue := s.timer.lastValue s.dev.lastValue }
    readers := fun r => (s.tasks r).reader
    notifying := s.timer.notifies driver }

section Seen

variable {R : Type} (driver : Driver)

/-- What `Key.Readers` takes in this step. -/
def keyAct? (e : SectionEvent R) : Option (Key.Act R) :=
  match e.act with
  | .timer _ =>
      match e.source.timer with
      | .sampled level => some (.expire level)
      | .notifying => some .notify
      | _ => none
  | .call r nonblock => some (.call r nonblock)
  | .wake r => some (.wake r)
  | .interrupt r => some (.interrupt r)
  | .advance r =>
      match e.source.tasks r, e.target.tasks r with
      | .copying _ uncopied _, .leaving _ _ => some (.locked r uncopied)
      | _, _ => none
  | .lock _ _ | .unlock _ => none

/-- And what it shows. -/
def keyOut (e : SectionEvent R) : Key.Out R :=
  match e.act, e.out with
  | .timer _, .stored status => .stored status
  | .timer _, .notified sigio => .notified sigio
  | .call _ _, .returned r ret _ => .returned r ret none
  | .advance r, _ =>
      match e.target.tasks r with
      | .leaving ret _ =>
          .returned r ret (if ret = sizeofInt then some e.source.dev.status else none)
      | _ => .silent
  | _, _ => .silent

/-- The step of `Key.Readers` that falls on this step. -/
def point? (e : SectionEvent R) : Option (KeyEvent R) :=
  (keyAct? e).map fun act => ⟨e.source.key driver, act, keyOut e, e.target.key driver⟩

end Seen

/-! ## The steps of `Key.Readers` -/

section Steps

variable {R : Type} [DecidableEq R] {driver : Driver}

theorem key_setTask (s : State R) (r : R) (task : Task) :
    (s.setTask r task).key driver = (s.key driver).setReader r task.reader := by
  have readers : (fun r' => ((s.setTask r task).tasks r').reader) =
      Function.update (fun r' => (s.tasks r').reader) r task.reader := by
    funext r'
    by_cases same : r' = r
    · rw [same, setTask_self, Function.update_self]
    · rw [setTask_of_ne s same, Function.update_of_ne same]
  unfold State.key Key.State.setReader
  rw [readers]
  rfl

/-- A step that `Key.Readers` does not see. -/
theorem key_setTask_same {s : State R} {r : R} {task : Task}
    (same : task.reader = (s.tasks r).reader) : (s.setTask r task).key driver = s.key driver := by
  rw [key_setTask, same]
  unfold Key.State.setReader
  have nothing : Function.update (s.key driver).readers r (s.tasks r).reader =
      (s.key driver).readers := Function.update_eq_self r _
  rw [nothing]

omit [DecidableEq R] in
theorem point_eq_none {e : SectionEvent R} (unseen : keyAct? e = none) :
    point? driver e = none := by
  rw [point?, unseen, Option.map_none]

omit [DecidableEq R] in
theorem point_eq_some {e : SectionEvent R} {act : Key.Act R} (seen : keyAct? e = some act) :
    point? driver e = some ⟨e.source.key driver, act, keyOut e, e.target.key driver⟩ := by
  rw [point?, seen, Option.map_some]

/-- What `Key.Readers` takes, it shows as here. -/
theorem takes_of_moves {e : SectionEvent R} (moves : Moves driver e) :
    (keyAct? e = none ∧ e.target.key driver = e.source.key driver) ∨
      ∃ act, keyAct? e = some act ∧
        Key.step driver (e.source.key driver) act = some (keyOut e, e.target.key driver) := by
  cases moves with
  | timerLocks level act before free out target | samples level act before out target
  | keeps level curValue act before out target =>
      left
      refine ⟨by rw [keyAct?, act]; dsimp only; rw [before], ?_⟩
      rw [target]
      unfold State.key
      rw [before]
      rfl
  | stores level curValue act before out target =>
      right
      refine ⟨.expire curValue, by rw [keyAct?, act]; dsimp only; rw [before], ?_⟩
      rw [keyOut, act, out, target]
      unfold State.key
      rw [before]
      rfl
  | timerUnlocks level act before out target =>
      left
      refine ⟨by rw [keyAct?, act]; dsimp only; rw [before], ?_⟩
      rw [target]
      unfold State.key
      rw [before]
      cases wakes : driver.wakes <;> simp [TimerStage.lastValue, TimerStage.notifies, wakes]
  | notifies level act before out target =>
      right
      refine ⟨.notify, by rw [keyAct?, act]; dsimp only; rw [before], ?_⟩
      rw [keyOut, act, out, target]
      unfold State.key
      rw [before]
      rfl
  | enters r nonblock task act before gate out target =>
      right
      refine ⟨.call r nonblock, by rw [keyAct?, act], ?_⟩
      have idle : (e.source.key driver).readers r = .idle := congrArg Task.reader before
      rw [keyOut, act, out, target, key_setTask]
      simp only [Key.step, if_pos idle]
      rcases gate with ⟨gate, rfl⟩ | ⟨gate, rfl⟩
      · have gate' : keryReadGate driver nonblock (e.source.key driver).dev.status = .enter := gate
        rw [gate']
        rfl
      · have gate' : keryReadGate driver nonblock (e.source.key driver).dev.status = .wait := gate
        rw [gate']
        rfl
  | again r nonblock act before gate out target =>
      right
      refine ⟨.call r nonblock, by rw [keyAct?, act], ?_⟩
      have idle : (e.source.key driver).readers r = .idle := congrArg Task.reader before
      have gate' : keryReadGate driver nonblock (e.source.key driver).dev.status = .again := gate
      rw [keyOut, act, out, target]
      simp only [Key.step, if_pos idle, gate']
  | wakes r act before event out target =>
      right
      refine ⟨.wake r, by rw [keyAct?, act], ?_⟩
      have waits : (e.source.key driver).readers r = .waiting := congrArg Task.reader before
      have event' : (e.source.key driver).dev.status ≠ .keyNone := event
      rw [keyOut, act, out, target, key_setTask]
      simp only [Key.step, if_pos (And.intro waits event')]
      rfl
  | interrupts r act before out target =>
      right
      refine ⟨.interrupt r, by rw [keyAct?, act], ?_⟩
      have waits : (e.source.key driver).readers r = .waiting := congrArg Task.reader before
      rw [keyOut, act, out, target, key_setTask]
      simp only [Key.step, if_pos waits]
      rfl
  | locks r interrupted uncopied act before free out target =>
      left
      refine ⟨by rw [keyAct?, act], ?_⟩
      rw [target]
      show (e.source.setTask r (.copying interrupted uncopied [])).key driver = _
      exact key_setTask_same (by rw [before]; rfl)
  | copies r interrupted uncopied data act before more out target =>
      left
      refine ⟨by rw [keyAct?, act]; dsimp only; rw [before, target, setTask_self], ?_⟩
      rw [target]
      exact key_setTask_same (by rw [before]; rfl)
  | faults r interrupted uncopied data act before fails out target =>
      right
      refine ⟨.locked r uncopied,
        by rw [keyAct?, act]; dsimp only; rw [before, target, setTask_self], ?_⟩
      have ready : (e.source.key driver).readers r = .ready interrupted :=
        congrArg Task.reader before
      have left : e.target.tasks r = .leaving (-efault) data := by rw [target, setTask_self]
      rw [keyOut, act]
      dsimp only
      rw [left, target, key_setTask]
      simp only [Key.step, ready, keryReadLocked, if_pos fails]
      rfl
  | clears r interrupted data act before whole out target =>
      right
      have left : e.target.tasks r = .leaving sizeofInt data := by
        rw [target]
        exact setTask_self _ _ _
      refine ⟨.locked r 0, by rw [keyAct?, act]; dsimp only; rw [before, left], ?_⟩
      have ready : (e.source.key driver).readers r = .ready interrupted :=
        congrArg Task.reader before
      have after : e.target.key driver =
          { (e.source.key driver).setReader r .idle with
            dev := { (e.source.key driver).dev with status := .keyNone } } := by
        have moved : (e.source.setTask r (.leaving sizeofInt data)).key driver =
            (e.source.key driver).setReader r .idle := key_setTask e.source r _
        rw [target, ← moved]
        rfl
      rw [keyOut, act]
      dsimp only
      rw [left, after]
      simp only [Key.step, ready, keryReadLocked]
      rfl
  | unlocks r ret data act before out target =>
      left
      refine ⟨by rw [keyAct?, act], ?_⟩
      rw [target]
      show (e.source.setTask r .idle).key driver = _
      exact key_setTask_same (by rw [before]; rfl)

end Steps

/-! ## What readers and listeners are told -/

section Told

variable {R : Type} [DecidableEq R] {driver : Driver}

/-- What a call returns and, if it is a status, its bytes. -/
abbrev Reply := Int × Option (List UInt8)

def reply (ret : Int) (data : List UInt8) : Reply :=
  (ret, if ret = sizeofInt then some data else none)

/-- What this reader is returned. -/
def returned? (r : R) (e : SectionEvent R) : Option Reply :=
  match e.out with
  | .returned r' ret data => if r' = r then some (reply ret data) else none
  | _ => none

/-- And in `Key.Readers`. -/
def keyReturned? (r : R) (d : KeyEvent R) : Option Reply :=
  match d.out with
  | .returned r' ret copied => if r' = r then some (ret, copied.map statusBytes) else none
  | _ => none

/-- What is still to be returned. -/
def Task.pending : Task → List Reply
  | leaving ret data => [reply ret data]
  | _ => []

theorem setTask_pending (s : State R) {r : R} (r' : R) {task : Task}
    (same : task.pending = (s.tasks r).pending) :
    ((s.setTask r task).tasks r').pending = (s.tasks r').pending := by
  by_cases here : r' = r
  · rw [here, setTask_self, same]
  · rw [setTask_of_ne s here]

/-- A section that ends has something pending from there on. -/
theorem reply_pending {s : State R} {r : R} {ret : Int} (data : List UInt8) (r' : R)
    (before : (s.tasks r).pending = []) :
    (s.tasks r').pending ++ (if r = r' then some (reply ret data) else none).toList =
      ((s.setTask r (.leaving ret data)).tasks r').pending := by
  by_cases here : r = r'
  · subst here
    rw [before, if_pos rfl, setTask_self]
    rfl
  · rw [if_neg here, setTask_of_ne s (Ne.symm here), Option.toList_none, List.append_nil]

omit [DecidableEq R] in
/-- When `copy_to_user` has copied all bytes, they are those of the status. -/
theorem Locked.whole {s : State R} (locked : Locked s) {r : R} {interrupted : Bool}
    {data : List UInt8} (copying : s.tasks r = .copying interrupted 0 data)
    (whole : sizeofInt ≤ data.length) : data = statusBytes s.dev.status := by
  obtain ⟨-, same⟩ := locked.copied r interrupted 0 data copying
  rw [same]
  exact List.take_of_length_le ((length_statusBytes _).trans_le whole)

/-- Where nothing is returned in `Key.Readers` -/
theorem keyReturned_eq_none {e : SectionEvent R}
    (quiet : ∀ r ret copied, keyOut e ≠ .returned r ret copied) (r' : R) :
    (point? driver e).bind (keyReturned? r') = none := by
  unfold point?
  cases keyAct? e with
  | none => rfl
  | some act =>
      rw [Option.map_some, Option.bind_some]
      unfold keyReturned?
      dsimp only
      split
      · rename_i r ret copied out
        exact absurd out (quiet r ret copied)
      · rfl

/-- and where something is. -/
theorem keyReturned_eq {e : SectionEvent R} {act : Key.Act R} (seen : keyAct? e = some act) {r : R}
    {ret : Int} {copied : Option KeyStatus} (out : keyOut e = .returned r ret copied) (r' : R) :
    (point? driver e).bind (keyReturned? r') =
      if r = r' then some (ret, copied.map statusBytes) else none := by
  rw [point_eq_some seen, Option.bind_some]
  unfold keyReturned?
  dsimp only
  rw [out]

/-- The replies of one step: what was pending or is new is returned or pending now. -/
theorem flow_of_moves {e : SectionEvent R} (moves : Moves driver e) (locked : Locked e.source)
    (r' : R) :
    (e.source.tasks r').pending ++ ((point? driver e).bind (keyReturned? r')).toList =
      (returned? r' e).toList ++ (e.target.tasks r').pending := by
  have quiet : ∀ {d : SectionEvent R}, (∀ r ret copied, keyOut d ≠ .returned r ret copied) →
      d.out = .silent ∨ (∃ status, d.out = .stored status) ∨ (∃ sigio, d.out = .notified sigio) →
      (d.target.tasks r').pending = (d.source.tasks r').pending →
      (d.source.tasks r').pending ++ ((point? driver d).bind (keyReturned? r')).toList =
        (returned? r' d).toList ++ (d.target.tasks r').pending := by
    intro d nothing out same
    have silent : returned? r' d = none := by
      unfold returned?
      rcases out with out | ⟨status, out⟩ | ⟨sigio, out⟩ <;> rw [out]
    rw [keyReturned_eq_none nothing, silent, same, Option.toList_none, List.append_nil,
      List.nil_append]
  cases moves with
  | timerLocks level act before free out target | samples level act before out target
  | keeps level curValue act before out target | timerUnlocks level act before out target =>
      refine quiet ?_ (Or.inl out) (by rw [target])
      rw [keyOut, act, out]
      intro r ret copied same
      cases same
  | stores level curValue act before out target =>
      refine quiet ?_ (Or.inr (Or.inl ⟨_, out⟩)) (by rw [target])
      rw [keyOut, act, out]
      intro r ret copied same
      cases same
  | notifies level act before out target =>
      refine quiet ?_ (Or.inr (Or.inr ⟨_, out⟩)) (by rw [target])
      rw [keyOut, act, out]
      intro r ret copied same
      cases same
  | enters r nonblock task act before gate out target =>
      refine quiet ?_ (Or.inl out) ?_
      · rw [keyOut, act, out]
        intro r ret copied same
        cases same
      · rw [target]
        refine setTask_pending e.source r' ?_
        rw [before]
        rcases gate with ⟨-, rfl⟩ | ⟨-, rfl⟩ <;> rfl
  | again r nonblock act before gate out target =>
      have here : keyOut e = .returned r (-eagain) none := by rw [keyOut, act, out]
      rw [keyReturned_eq (by rw [keyAct?, act]) here, target]
      unfold returned?
      rw [out]
      dsimp only
      by_cases mine : r = r'
      · subst mine
        rw [if_pos rfl, if_pos rfl, before]
        rfl
      · rw [if_neg mine, if_neg mine, Option.toList_none, List.append_nil, List.nil_append]
  | wakes r act before event out target | interrupts r act before out target =>
      refine quiet ?_ (Or.inl out) ?_
      · rw [keyOut, act, out]
        intro r ret copied same
        cases same
      · rw [target]
        exact setTask_pending e.source r' (by rw [before]; rfl)
  | locks r interrupted uncopied act before free out target =>
      refine quiet ?_ (Or.inl out) ?_
      · rw [keyOut, act, out]
        intro r ret copied same
        cases same
      · rw [target]
        exact setTask_pending e.source r' (by rw [before]; rfl)
  | copies r interrupted uncopied data act before more out target =>
      refine quiet ?_ (Or.inl out) ?_
      · rw [keyOut, act]
        dsimp only
        rw [target, setTask_self]
        intro r ret copied same
        cases same
      · rw [target]
        exact setTask_pending e.source r' (by rw [before]; rfl)
  | faults r interrupted uncopied data act before fails out target =>
      have left : e.target.tasks r = .leaving (-efault) data := by rw [target, setTask_self]
      have here : keyOut e = .returned r (-efault) none := by
        rw [keyOut, act]
        dsimp only
        rw [left]
        rfl
      have silent : returned? r' e = none := by rw [returned?, out]
      rw [keyReturned_eq (by rw [keyAct?, act]; dsimp only; rw [before, left]) here, silent, target]
      exact reply_pending data r' (by rw [before]; rfl)
  | clears r interrupted data act before whole out target =>
      have left : e.target.tasks r = .leaving sizeofInt data := by
        rw [target]
        exact setTask_self _ _ _
      have here : keyOut e = .returned r sizeofInt (some e.source.dev.status) := by
        rw [keyOut, act]
        dsimp only
        rw [left]
        rfl
      have silent : returned? r' e = none := by rw [returned?, out]
      rw [keyReturned_eq (by rw [keyAct?, act]; dsimp only; rw [before, left]) here, silent, target,
        Option.map_some, ← locked.whole before whole]
      exact reply_pending data r' (by rw [before]; rfl)
  | unlocks r ret data act before out target =>
      have nothing : ∀ r ret copied, keyOut e ≠ .returned r ret copied := by
        rw [keyOut, act, out]
        intro r ret copied same
        cases same
      rw [keyReturned_eq_none nothing, Option.toList_none, List.append_nil, target]
      unfold returned?
      rw [out]
      dsimp only
      by_cases mine : r = r'
      · subst mine
        rw [if_pos rfl, before]
        show [reply ret data] = [reply ret data] ++ ((e.source.setTask r .idle).tasks r).pending
        rw [setTask_self]
        rfl
      · rw [if_neg mine]
        show _ = [] ++ ((e.source.setTask r .idle).tasks r').pending
        rw [setTask_of_ne e.source (Ne.symm mine)]
        rfl

/-- What `timer_function` stores, and whom it tells. -/
def announced? : Out R → Option (KeyStatus ⊕ Bool)
  | .stored status => some (.inl status)
  | .notified sigio => some (.inr sigio)
  | _ => none

def keyAnnounced? : Key.Out R → Option (KeyStatus ⊕ Bool)
  | .stored status => some (.inl status)
  | .notified sigio => some (.inr sigio)
  | _ => none

theorem keyAnnounced_of_moves {e : SectionEvent R} (moves : Moves driver e) :
    (point? driver e).bind (fun d => keyAnnounced? d.out) = announced? e.out := by
  have none_of : keyAnnounced? (keyOut e) = none → announced? e.out = none →
      (point? driver e).bind (fun d => keyAnnounced? d.out) = announced? e.out := by
    intro unseen silent
    rw [silent, point?]
    cases keyAct? e with
    | none => rfl
    | some act => exact unseen
  cases moves with
  | stores level curValue act before out target =>
      have seen : keyAct? e = some (.expire curValue) := by
        rw [keyAct?, act]
        dsimp only
        rw [before]
      rw [point_eq_some seen]
      show keyAnnounced? (keyOut e) = announced? e.out
      rw [keyOut, act, out]
      rfl
  | notifies level act before out target =>
      have seen : keyAct? e = some .notify := by
        rw [keyAct?, act]
        dsimp only
        rw [before]
      rw [point_eq_some seen]
      show keyAnnounced? (keyOut e) = announced? e.out
      rw [keyOut, act, out]
      rfl
  | timerLocks level act before free out target | samples level act before out target
  | keeps level curValue act before out target | timerUnlocks level act before out target
  | enters r nonblock task act before gate out target | again r nonblock act before gate out target
  | wakes r act before event out target | interrupts r act before out target
  | locks r interrupted uncopied act before free out target
  | unlocks r ret data act before out target =>
      exact none_of (by rw [keyOut, act, out]; rfl) (by rw [out]; rfl)
  | copies r interrupted uncopied data act before more out target
  | faults r interrupted uncopied data act before fails out target
  | clears r interrupted data act before whole out target =>
      refine none_of ?_ (by rw [out]; rfl)
      rw [keyOut, act]
      dsimp only
      split <;> rfl

end Told

section Runs

variable {R : Type} [DecidableEq R] {driver : Driver} {es : List (SectionEvent R)} {u : State R}

theorem locked_run (path : (machine driver).Path (.loaded R) es u) :
    Locked u ∧ ∀ e ∈ es, (machine driver).Takes e ∧ Locked e.source ∧ Locked e.target :=
  path.invariant (fun _ taken locked => locked.step (moves_of_takes taken)) locked_loaded

/-- **The spinlock sections are atomic**, also for the tests that are made without the lock.  In
every run the steps at which a section stores, faults or reads its test are a run of
`Key.Readers`; each reader is returned the same there and here, in the same order and byte for
byte, but for what it is still to return; and the same is stored and notified. -/
theorem sections_refine (path : (machine driver).Path (.loaded R) es u) :
    (Key.machine driver).Path (.loaded R) (es.filterMap (point? driver)) (u.key driver) ∧
    (∀ r, (es.filterMap (point? driver)).filterMap (keyReturned? r) =
      es.filterMap (returned? r) ++ (u.tasks r).pending) ∧
    (es.filterMap (point? driver)).filterMap (fun d => keyAnnounced? d.out) =
      es.filterMap fun e => announced? e.out := by
  refine ⟨?_, ?_, ?_⟩
  · refine path.project (N := Key.machine driver) (π := State.key driver) ?_
    intro e taken
    rcases takes_of_moves (moves_of_takes taken) with ⟨unseen, same⟩ | ⟨act, seen, steps⟩
    · exact Or.inl ⟨point_eq_none unseen, same⟩
    · exact Or.inr ⟨_, point_eq_some seen, steps, rfl, rfl⟩
  · intro r
    refine path.history (C := fun _ => True)
      (J := fun es s => (es.filterMap (point? driver)).filterMap (keyReturned? r) =
        es.filterMap (returned? r) ++ (s.tasks r).pending) rfl ?_ (fun _ _ => trivial)
    intro es e front taken _ before
    have flow := flow_of_moves (moves_of_takes taken) (locked_run front).1 r
    have sections : ([e].filterMap (point? driver)).filterMap (keyReturned? r) =
        ((point? driver e).bind (keyReturned? r)).toList := by
      cases here : point? driver e with
      | none => simp [here]
      | some d => cases got : keyReturned? r d <;> simp [here, got]
    have returns : [e].filterMap (returned? r) = (returned? r e).toList := by
      cases here : returned? r e <;> simp [here]
    rw [List.filterMap_append, List.filterMap_append, List.filterMap_append, before, sections,
      returns, List.append_assoc, flow, List.append_assoc]
  · rw [List.filterMap_filterMap]
    exact List.filterMap_congr fun e member =>
      keyAnnounced_of_moves (moves_of_takes (path.takes e member))

end Runs

/-- `timer_function` stores a press; one reader tests it before the unlock, another while the
first is copying. -/
def testsInside : List (Act Bool) :=
  List.replicate 3 (.timer .low) ++ .call true true :: List.replicate 3 (.timer .high) ++
    [.lock true 0, .advance true, .advance true, .call false true] ++
    List.replicate 3 (.advance true) ++ [.unlock true, .lock false 0] ++
    List.replicate 5 (.advance false) ++ [.unlock false]

/-- The first gets the press, the other no event. -/
example :
    let es := (machine .fasync).trace (.loaded Bool) testsInside
    es.filterMap (returned? true) = [(4, some (statusBytes .keyPress))] ∧
      es.filterMap (returned? false) = [(4, some (statusBytes .keyNone))] := by decide

theorem sections_refine_testsInside :
    let es := (machine .fasync).trace (.loaded Bool) testsInside
    let u := (machine .fasync).final (.loaded Bool) testsInside
    (Key.machine .fasync).Path (.loaded Bool) (es.filterMap (point? .fasync)) (u.key .fasync) ∧
    (∀ r, (es.filterMap (point? .fasync)).filterMap (keyReturned? r) =
      es.filterMap (returned? r) ++ (u.tasks r).pending) ∧
    (es.filterMap (point? .fasync)).filterMap (fun d => keyAnnounced? d.out) =
      es.filterMap fun e => announced? e.out :=
  sections_refine (Machine.path_trace _ _ _)

end LearningKernel.Key.Sections
