/-
# Key.Input -- the key as an input device

`20_input` reports each sample of its line to the input core, which passes on only what
changes, and while the key is down repeats it by a timer of its own.

`input_tells_events`: whatever the samples and whenever the timer runs, a reader of the input
device is told the presses and releases that `timer_function` of `13_irq` to `16_fasync` stores
on the same samples, in the same order, and a repetition only while the key is down.
-/
import LearningKernel.Key.Alternation

namespace LearningKernel.Key

open LearningKernel.Theory LearningKernel.Kernel

set_option autoImplicit false

/-! ## The device -/

/-- What happens to the input device. -/
inductive InputAct where
  /-- `timer_function` with this sample -/
  | timerFunction (level : Level)
  /-- `input_repeat_key`, the timer of the input core -/
  | repeatKey
  deriving DecidableEq

/-- `KEY_0` of the input device, and the values sent in packets. -/
structure InputDev where
  down : Bool
  pending : List Int
  packets : List (List Int)

/-- As `input_register_device` finds it. -/
def InputDev.registered : InputDev := { down := false, pending := [], packets := [] }

namespace InputDev

/-- `input_report_key` of `KEY_0`, which is passed on where it changes. -/
def reportKey (dev : InputDev) (value : Int) : InputDev :=
  let pressed : Bool := value ≠ 0
  if pressed = dev.down then dev
  else { dev with down := pressed, pending := dev.pending ++ [if pressed then 1 else 0] }

/-- `input_sync`. -/
def sync (dev : InputDev) : InputDev :=
  { dev with
    pending := []
    packets := if dev.pending = [] then dev.packets else dev.packets ++ [dev.pending] }

/-- `timer_function` of `20_input`, which reports `!value`. -/
def timerFunction (dev : InputDev) (level : Level) : InputDev :=
  (dev.reportKey (if level.value = 0 then 1 else 0)).sync

/-- `input_repeat_key`: the value 2, in a packet of its own, while the key is down. -/
def repeatKey (dev : InputDev) : InputDev :=
  if dev.down then { dev with packets := dev.packets ++ [[2]] } else dev

def step (dev : InputDev) : InputAct → InputDev
  | .timerFunction level => dev.timerFunction level
  | .repeatKey => dev.repeatKey

/-- What a reader is told. -/
def told (dev : InputDev) : List Int := dev.packets.flatten

end InputDev

/-- The sample of the act. -/
def InputAct.sample? : InputAct → Option Level
  | timerFunction level => some level
  | repeatKey => none

/-- A press or a release, as it is told. -/
def toldEvent? (value : Int) : Option KeyStatus :=
  if value = 1 then some .keyPress
  else if value = 0 then some .keyRelease
  else none

/-! ## The events of samples -/

/-- What samples say after `last`. -/
def eventsFrom : Level → List Level → List KeyStatus
  | _, [] => []
  | last, level :: levels =>
      (if level = last then [] else [level.event]) ++ eventsFrom level levels

/-- The last sample. -/
def lastFrom (last : Level) (levels : List Level) : Level := levels.getLast?.getD last

theorem eventsFrom_concat (last level : Level) (levels : List Level) :
    eventsFrom last (levels ++ [level]) =
      eventsFrom last levels ++ if level = lastFrom last levels then [] else [level.event] := by
  induction levels generalizing last with
  | nil =>
      show (if level = last then [] else [level.event]) ++ [] = _
      rw [List.append_nil]
      rfl
  | cons l levels ih =>
      have same : lastFrom last (l :: levels) = lastFrom l levels := by
        unfold lastFrom
        rw [List.getLast?_cons]
        rfl
      rw [List.cons_append, eventsFrom, eventsFrom, ih, same, List.append_assoc]

@[simp] theorem lastFrom_concat (last level : Level) (levels : List Level) :
    lastFrom last (levels ++ [level]) = level := by
  simp [lastFrom]

/-! ## The drivers with a status -/

variable {R : Type}

theorem lastSample_eq (es : List (KeyEvent R)) :
    lastSample es = lastFrom .high (es.filterMap sample?) := by
  unfold lastSample
  induction es using List.reverseRecOn with
  | nil => rfl
  | append_singleton es e ih =>
      rw [latest_concat, List.filterMap_append]
      cases sampled : sample? e with
      | none => simpa [sampled] using ih
      | some level => simp [sampled]

/-- The stored events are those of the samples. -/
theorem stored_eq [DecidableEq R] {driver : Driver} {es : List (KeyEvent R)} {u : State R}
    (path : (machine driver).Path (State.loaded R) es u) :
    es.filterMap storedEvent? = eventsFrom .high (es.filterMap sample?) := by
  induction es using List.reverseRecOn generalizing u with
  | nil => rfl
  | append_singleton es e ih =>
      obtain ⟨front, taken, -⟩ := Machine.path_concat_iff.1 path
      rw [List.filterMap_append, List.filterMap_append, ih front]
      cases act : sample? e with
      | none =>
          have silent := ((effect_of_takes taken).unsampled act).1
          simp [act, silent]
      | some level =>
          have expires : e.act = .expire level := by
            unfold sample? at act
            split at act
            · rename_i level' here
              cases act
              exact here
            · cases act
          have out := (Key.debounced front).expire taken expires
          have stored : [e].filterMap storedEvent? =
              if level = lastFrom .high (es.filterMap sample?) then [] else [level.event] := by
            rw [← lastSample_eq]
            by_cases same : level = lastSample es
            · rw [if_pos same] at out ⊢
              simp [storedEvent?, out, KeyStatus.event?]
            · rw [if_neg same] at out ⊢
              cases level <;> simp [storedEvent?, out, KeyStatus.event?, Level.event]
          have sampled : [e].filterMap sample? = [level] := by simp [act]
          rw [stored, sampled, eventsFrom_concat]

/-! ## The input device -/

namespace InputDev

def run (acts : List InputAct) : InputDev := acts.foldl InputDev.step .registered

/-- Between two acts: nothing is pending, each packet has an event, the key is as the samples say,
and so are the events told. -/
structure Tracks (acts : List InputAct) (dev : InputDev) : Prop where
  flushed : dev.pending = []
  spoken : [] ∉ dev.packets
  down : dev.down = decide (lastFrom .high (acts.filterMap InputAct.sample?) = .low)
  events : dev.told.filterMap toldEvent? = eventsFrom .high (acts.filterMap InputAct.sample?)
  repeats : ∀ front back, dev.told = front ++ 2 :: back →
    (front.filterMap toldEvent?).getLast? = some .keyPress

theorem tracks_registered : Tracks [] .registered where
  flushed := rfl
  spoken := List.not_mem_nil
  down := rfl
  events := rfl
  repeats := by
    intro front back told
    cases front <;> cases told

/-- A run so far, and one more act. -/
theorem samples_concat (acts : List InputAct) (act : InputAct) :
    (acts ++ [act]).filterMap InputAct.sample? =
      acts.filterMap InputAct.sample? ++ act.sample?.toList := by
  rw [List.filterMap_append]
  cases act <;> rfl

/-- The sample is passed on if the key changes. -/
theorem timerFunction_eq {dev : InputDev} (flushed : dev.pending = []) (level : Level) :
    dev.timerFunction level =
      if decide (level = .low) = dev.down then dev
      else { down := level = .low, pending := [],
             packets := dev.packets ++ [[if level = .low then 1 else 0]] } := by
  obtain ⟨down, pending, packets⟩ := dev
  subst flushed
  cases level <;> cases down <;> rfl

/-- Where one more value is told, a repetition is an earlier one or that value. -/
theorem repetition_concat {told front back : List Int} {value : Int}
    (here : told ++ [value] = front ++ 2 :: back) :
    (∃ back', told = front ++ 2 :: back') ∨ (value = 2 ∧ front = told) := by
  rcases List.eq_nil_or_concat back with rfl | ⟨back', last, rfl⟩
  · obtain ⟨same, last⟩ := List.append_inj' here rfl
    exact .inr ⟨List.singleton_inj.1 last, same.symm⟩
  · rw [List.concat_eq_append, ← List.cons_append, ← List.append_assoc] at here
    exact .inl ⟨back', (List.append_inj' here rfl).1⟩

theorem told_concat (packets : List (List Int)) (value : Int) (down : Bool) :
    (InputDev.mk down [] (packets ++ [[value]])).told = packets.flatten ++ [value] := by
  simp [told]

/-- While the line is low, the last event was a press. -/
theorem getLast?_eventsFrom {levels : List Level} (low : lastFrom .high levels = .low) :
    (eventsFrom .high levels).getLast? = some .keyPress := by
  induction levels using List.reverseRecOn with
  | nil => cases low
  | append_singleton levels level ih =>
      rw [lastFrom_concat] at low
      subst low
      rw [eventsFrom_concat]
      by_cases same : Level.low = lastFrom .high levels
      · rw [if_pos same, List.append_nil]
        exact ih same.symm
      · rw [if_neg same, List.getLast?_append]
        rfl

theorem Tracks.timerFunction {acts : List InputAct} {dev : InputDev} (tracks : Tracks acts dev)
    (level : Level) : Tracks (acts ++ [.timerFunction level]) (dev.timerFunction level) := by
  have samples : (acts ++ [InputAct.timerFunction level]).filterMap InputAct.sample? =
      acts.filterMap InputAct.sample? ++ [level] := samples_concat acts _
  have last := tracks.down
  rw [timerFunction_eq tracks.flushed]
  by_cases same : decide (level = .low) = dev.down
  · have unchanged : level = lastFrom .high (acts.filterMap InputAct.sample?) := by
      rw [last] at same
      cases level <;> cases known : lastFrom .high (acts.filterMap InputAct.sample?) <;>
        simp [known] at same ⊢
    rw [if_pos same]
    refine ⟨tracks.flushed, tracks.spoken, ?_, ?_, tracks.repeats⟩
    · rw [samples, lastFrom_concat]
      exact same.symm
    · rw [samples, eventsFrom_concat, if_pos unchanged, List.append_nil]
      exact tracks.events
  · have changed : level ≠ lastFrom .high (acts.filterMap InputAct.sample?) := by
      rintro rfl
      exact same last.symm
    rw [if_neg same]
    refine ⟨rfl, ?_, ?_, ?_, ?_⟩
    · simpa using tracks.spoken
    · rw [samples, lastFrom_concat]
    · have event : toldEvent? (if level = .low then 1 else 0) = some level.event := by
        cases level <;> rfl
      have earlier : dev.packets.flatten.filterMap toldEvent? = _ := tracks.events
      rw [told_concat, samples, eventsFrom_concat, if_neg changed, List.filterMap_append, earlier]
      simp [event]
    · intro front back here
      rw [told_concat] at here
      rcases repetition_concat here with ⟨back', earlier⟩ | ⟨two, -⟩
      · exact tracks.repeats front back' earlier
      · cases level <;> cases two

theorem Tracks.repeatKey {acts : List InputAct} {dev : InputDev} (tracks : Tracks acts dev) :
    Tracks (acts ++ [.repeatKey]) dev.repeatKey := by
  have samples : (acts ++ [InputAct.repeatKey]).filterMap InputAct.sample? =
      acts.filterMap InputAct.sample? := (samples_concat acts _).trans (List.append_nil _)
  unfold InputDev.repeatKey
  by_cases down : dev.down = true
  · rw [if_pos down]
    have low : lastFrom .high (acts.filterMap InputAct.sample?) = .low := by
      rw [tracks.down] at down
      exact of_decide_eq_true down
    have told : ({ dev with packets := dev.packets ++ [[2]] } : InputDev).told = dev.told ++ [2] := by
      simp [InputDev.told]
    refine ⟨tracks.flushed, ?_, ?_, ?_, ?_⟩
    · simpa using tracks.spoken
    · rw [samples]
      exact tracks.down
    · rw [told, samples, List.filterMap_append, tracks.events]
      exact List.append_nil _
    · intro front back here
      rw [told] at here
      rcases repetition_concat here with ⟨back', earlier⟩ | ⟨-, rfl⟩
      · exact tracks.repeats front back' earlier
      · rw [tracks.events]
        exact getLast?_eventsFrom low
  · rw [if_neg down]
    refine ⟨tracks.flushed, tracks.spoken, ?_, ?_, tracks.repeats⟩
    · rw [samples]
      exact tracks.down
    · rw [samples]
      exact tracks.events

theorem tracks_run (acts : List InputAct) : Tracks acts (run acts) := by
  induction acts using List.reverseRecOn with
  | nil => exact tracks_registered
  | append_singleton acts act ih =>
      rw [run, List.foldl_append]
      cases act with
      | timerFunction level => exact ih.timerFunction level
      | repeatKey => exact ih.repeatKey

end InputDev

/-- **The input device tells the same events** as the other drivers store, with any readers of
those, if both get the same samples; and what it repeats, it repeats after a press that is not
released. -/
theorem input_tells_events [DecidableEq R] {driver : Driver} {es : List (KeyEvent R)} {u : State R}
    (path : (machine driver).Path (State.loaded R) es u) {acts : List InputAct}
    (samples : acts.filterMap InputAct.sample? = es.filterMap sample?) :
    let told := (InputDev.run acts).told
    told.filterMap toldEvent? = es.filterMap storedEvent? ∧
      (∀ front back, told = front ++ 2 :: back →
        (front.filterMap toldEvent?).getLast? = some .keyPress) ∧
      [] ∉ (InputDev.run acts).packets := by
  have tracks := InputDev.tracks_run acts
  refine ⟨?_, tracks.repeats, tracks.spoken⟩
  rw [tracks.events, samples, stored_eq path]

/-- A press that bounces, held for two repetitions. -/
theorem input_tells_events_pressBounceRelease :
    let es := (machine .noblockio).trace (State.loaded Unit) pressBounceRelease
    let acts := [InputAct.timerFunction .low, .timerFunction .low, .timerFunction .high,
      .timerFunction .low, .repeatKey, .repeatKey]
    let told := (InputDev.run acts).told
    told = [1, 0, 1, 2, 2] ∧ told.filterMap toldEvent? = es.filterMap storedEvent? := by
  intro es acts told
  have samples : acts.filterMap InputAct.sample? = es.filterMap sample? := by decide
  exact ⟨rfl, (input_tells_events (Machine.path_trace _ _ _) samples).1⟩

end LearningKernel.Key
