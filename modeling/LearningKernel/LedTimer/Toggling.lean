/-
# LedTimer.Toggling -- the level that `timer_function` drives

`timer_function` drives the negation of what it last drove, while opening and closing
the device drive the LED off without telling it.  `expiries_invert_iff`: each expiry
inverts the LED exactly in the runs in which, at every expiry that is the first to drive
it after an open or a release has, an even number of expiries has driven it before.
-/
import LearningKernel.LedTimer.Sessions
import Mathlib.Algebra.Group.Nat.Even

namespace LearningKernel.LedTimer.Sessions

open LearningKernel.Theory

set_option autoImplicit false

variable {T : Type} [DecidableEq T]

/-- An expiry that drives the LED while the file is open changes its level. -/
def Inverts (e : TimerEvent T) : Prop :=
  e.act = .tick .drive → e.source.session = .open →
    ∀ level, e.source.level = some level → e.target.level = some (!level)

/-- The expiries that have driven the LED. -/
def drives (es : List (TimerEvent T)) : Nat := es.countP fun e => decide (e.act = .tick .drive)

/-- If an open or a release has driven the LED last, an even number of expiries has
driven it. -/
def EvenAfterOther (before : List (TimerEvent T)) (e : TimerEvent T) : Prop :=
  e.act = .tick .drive → e.source.session = .open → latest drivenBy? before = some false →
    Even (drives before)

theorem drives_concat_of_drive {es : List (TimerEvent T)} {e : TimerEvent T}
    (act : e.act = .tick .drive) : drives (es ++ [e]) = drives es + 1 := by
  simp [drives, act]

theorem drives_concat_of_other {es : List (TimerEvent T)} {e : TimerEvent T}
    (other : e.act ≠ .tick .drive) : drives (es ++ [e]) = drives es := by
  simp [drives, other]

theorem decide_even_succ (n : Nat) : decide (Even (n + 1)) = !decide (Even n) := by
  rw [← decide_not]
  exact decide_eq_decide.2 Nat.even_add_one

/-- `sta` counts the expiries that have toggled it, and the level is the last one driven. -/
structure Tracks (es : List (TimerEvent T)) (s : State T) : Prop where
  sta : s.sta = decide (Even (drives es + if s.handler = .toggled then 1 else 0))
  unknown : latest drivenBy? es = none → s.level = none
  timer : latest drivenBy? es = some true → s.level = some (decide (Even (drives es)))
  other : latest drivenBy? es = some false → s.level = some true

theorem tracks_loaded (T : Type) [DecidableEq T] : Tracks [] (State.loaded T) where
  sta := rfl
  unknown _ := rfl
  timer := nofun
  other := nofun

section Steps

variable {es : List (TimerEvent T)} {e : TimerEvent T}

/-- A step that neither toggles nor drives. -/
theorem Tracks.kept (tracks : Tracks es e.source) (quiet : e.act ≠ .tick .drive)
    (driven : drivenBy? e = none) (sta : e.target.sta = e.source.sta)
    (level : e.target.level = e.source.level)
    (toggled : e.target.handler = .toggled ↔ e.source.handler = .toggled) :
    Tracks (es ++ [e]) e.target where
  sta := by
    rw [sta, tracks.sta, drives_concat_of_other quiet]
    simp only [toggled]
  unknown := by
    rw [latest_concat, driven, Option.none_or, level]
    exact tracks.unknown
  timer := by
    rw [latest_concat, driven, Option.none_or, level, drives_concat_of_other quiet]
    exact tracks.timer
  other := by
    rw [latest_concat, driven, Option.none_or, level]
    exact tracks.other

theorem Tracks.file (tracks : Tracks es e.source) (move : FileMoves e)
    (handler : e.target.handler = e.source.handler) (sta : e.target.sta = e.source.sta) :
    Tracks (es ++ [e]) e.target := by
  have toggled : e.target.handler = .toggled ↔ e.source.handler = .toggled := by rw [handler]
  have quiet := move.other.2 .drive
  cases move with
  | stores act timeperiod pending level | deletes act idle timeperiod pending level =>
      exact tracks.kept quiet (by simp [drivenBy?, act]) sta level toggled
  | passes act driven timeperiod pending level =>
      exact tracks.kept quiet driven sta level toggled
  | drives act driven timeperiod pending level =>
      refine ⟨?_, ?_, ?_, fun _ => level⟩
      · rw [sta, tracks.sta, drives_concat_of_other quiet, handler]
      · rw [latest_concat, driven]
        nofun
      · rw [latest_concat, driven]
        nofun

theorem Tracks.handler (tracks : Tracks es e.source)
    (move : HandlerMoves e e.source.handler e.target.handler) : Tracks (es ++ [e]) e.target := by
  have known := tracks.sta
  generalize was : e.source.handler = h at move known
  generalize is : e.target.handler = h' at move
  cases move with
  | expires act due pending sta level | reads act pending sta level | arms q act pending sta level
  | leaves act pending sta level =>
      exact tracks.kept (by simp [act]) (by simp [drivenBy?, act]) sta level (by simp [was, is])
  | toggles act pending sta level =>
      have quiet : e.act ≠ .tick .drive := by simp [act]
      have driven : drivenBy? e = none := by simp [drivenBy?, act]
      refine ⟨?_, ?_, ?_, ?_⟩
      · have even : e.source.sta = decide (Even (drives es)) := known
        rw [sta, even, is, if_pos rfl, drives_concat_of_other quiet, decide_even_succ]
      · rw [latest_concat, driven, Option.none_or, level]
        exact tracks.unknown
      · rw [latest_concat, driven, Option.none_or, level, drives_concat_of_other quiet]
        exact tracks.timer
      · rw [latest_concat, driven, Option.none_or, level]
        exact tracks.other
  | drives act pending sta level =>
      have driven : drivenBy? e = some true := by simp [drivenBy?, act]
      have toggledSta : e.source.sta = decide (Even (drives es + 1)) := known
      refine ⟨?_, ?_, ?_, ?_⟩
      · rw [sta, toggledSta, is, drives_concat_of_drive act]
        rfl
      · rw [latest_concat, driven]
        nofun
      · intro _
        rw [level, toggledSta, drives_concat_of_drive act]
      · rw [latest_concat, driven]
        nofun

theorem Tracks.step (tracks : Tracks es e.source) (turns : Turns e) :
    Tracks (es ++ [e]) e.target := by
  cases turns with
  | file move handler sta threads => exact tracks.file move handler sta
  | handler move threads timeperiod => exact tracks.handler move
  | thread t stage threads move handler sta level =>
      have act : e.act ≠ .tick .drive ∧ drivenBy? e = none := by
        generalize e.source.threads t = stage' at move
        cases move with
        | starts cmd stage act | deletes act | reads act | arms q act | stores p act | rereads p act
        | rearms p q act | returns cmd act => simp [drivenBy?, act]
      exact tracks.kept act.1 act.2 sta level (by rw [handler])

/-- An expiry inverts the LED, unless the last to drive it was another and the count of
expiries is odd. -/
theorem Tracks.inverts_iff (tracks : Tracks es e.source) (turns : Turns e) :
    Inverts e ↔ EvenAfterOther es e := by
  by_cases act : e.act = .tick .drive
  · obtain ⟨toggled, level⟩ := drive_event turns act
    have sta : e.source.sta = !decide (Even (drives es)) := by
      rw [tracks.sta, if_pos toggled, decide_even_succ]
    cases last : latest drivenBy? es with
    | none =>
        have unknown := tracks.unknown last
        simp [Inverts, EvenAfterOther, unknown, last]
    | some timer =>
        cases timer with
        | true =>
            have before := tracks.timer last
            simp [Inverts, EvenAfterOther, before, last, level, sta]
        | false =>
            have before := tracks.other last
            simp [Inverts, EvenAfterOther, before, last, level, sta, act]
  · exact ⟨fun _ drive => absurd drive act, fun _ drive => absurd drive act⟩

end Steps

/-- **Each expiry inverts the LED** exactly in the runs in which every expiry that is
the first to drive it after an open or a release comes after an even number of others. -/
theorem expiries_invert_iff {es : List (TimerEvent T)} {u : State T}
    (path : (machine T).Path (State.loaded T) es u) :
    (∀ e ∈ es, Inverts e) ↔ ∀ before e after, es = before ++ e :: after →
      EvenAfterOther before e := by
  have run := (path.along (D := fun _ _ => True) (J := Tracks) (tracks_loaded T)
    (fun es e taken _ tracks => tracks.step (turns_of_takes taken)) fun _ _ _ _ => trivial).2
  constructor
  · intro inverts before e after cut
    obtain ⟨taken, tracks, -⟩ := run before e after cut
    exact (tracks.inverts_iff (turns_of_takes taken)).1 (inverts e (by simp [cut]))
  · intro even e member
    obtain ⟨before, after, cut⟩ := List.append_of_mem member
    obtain ⟨taken, tracks, -⟩ := run before e after cut
    exact (tracks.inverts_iff (turns_of_takes taken)).2 (even before e after cut)

/-- An `OPEN_CMD` of thread 0. -/
def blink : List (Act Nat) := [.start 0 .open, .proceed 0, .proceed 0, .ret 0]

/-- One run of `timer_function`. -/
def expiry : List (Act Nat) :=
  [.tick .expiry, .tick .toggle, .tick .drive, .tick .read, .tick .modTimer, .tick .leave]

def openFile : List (Act Nat) := [.openStore, .openParse true true]

def closeFile : List (Act Nat) := [.release, .releaseStep, .releaseStep, .delTimerSync]

/-- A session of two expiries, and one of one. -/
def twoThenOne : List (Act Nat) :=
  openFile ++ blink ++ expiry ++ expiry ++ closeFile ++ openFile ++ blink ++ expiry

theorem expiries_invert_iff_twoThenOne :
    let es := (machine Nat).trace (State.loaded Nat) twoThenOne
    (∀ e ∈ es, Inverts e) ↔ ∀ before e after, es = before ++ e :: after → EvenAfterOther before e :=
  expiries_invert_iff (Machine.path_trace _ _ _)

/-- After a session of one expiry the first expiry of the next drives the level that
opening the file has driven. -/
theorem expiry_keeps_level :
    ∃ (es : List (TimerEvent Nat)) (e : TimerEvent Nat) (u : State Nat),
      (machine Nat).Path (State.loaded Nat) es u ∧ e ∈ es ∧ e.act = .tick .drive ∧
        e.source.session = .open ∧ e.source.level = some true ∧ e.target.level = some true ∧
          ¬ Inverts e := by
  let as := openFile ++ blink ++ expiry ++ closeFile ++ openFile ++ blink ++ expiry
  let es := (machine Nat).trace (State.loaded Nat) as
  refine ⟨es, es[24], _, Machine.path_trace _ _ as, List.getElem_mem _, rfl, rfl, rfl, rfl, ?_⟩
  intro inverts
  cases inverts rfl rfl true rfl

end LearningKernel.LedTimer.Sessions
