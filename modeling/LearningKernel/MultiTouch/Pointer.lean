/-
# MultiTouch.Pointer -- which touch the emulated pointer follows

Readers that know one touch only are given `ABS_X` and `ABS_Y` by
`input_mt_report_pointer_emulation`, at the touch that began first.  It is told from the tracking
ids alone, and these count around.

`Touches` numbers the touches of a run as they begin, without an end.  `ids_run` says that a
tracking id is such a number modulo `TRKID_MAX + 1`; `pointer_follows_oldest` that the pointer
is at the oldest touch as long as no touch outlasts the begin of 32768 others.
-/
import LearningKernel.MultiTouch.Stream

namespace LearningKernel.MultiTouch.Stream

open LearningKernel.Theory LearningKernel.Theory.Changes LearningKernel.Kernel

set_option autoImplicit false

/-! ## The touches of a run -/

/-- The slot table, how many touches have begun, and which of them each slot has. -/
structure Touches where
  mt : InputMt maxSupportPoints
  begun : Nat
  number : Slot → Option Nat

namespace Touches

def none_ : Touches := { mt := probedSlots, begun := 0, number := fun _ => none }

/-- A slot that is active keeps its touch, or begins the next one. -/
def report (touches : Touches) (p : Point) : Touches :=
  let mt := MultiTouch.reportPoint touches.mt p
  { mt
    begun :=
      if ∃ s, (mt.slots s).active ∧ touches.number s = none then touches.begun + 1
      else touches.begun
    number := fun s =>
      if (mt.slots s).active then (touches.number s).or (some touches.begun) else none }

/-- The touches of a run of the handler. -/
def ofReads (reads : List (Option Report)) : Touches :=
  (reads.flatMap pointsOf).foldl report none_

end Touches

/-! ## One point -/

/-- The tracking id of a touch. -/
def trackingIdOf : Option Nat → Int
  | none => -1
  | some n => (n % trkids : Nat)

theorem trackingIdOf_neg_iff {number : Option Nat} : trackingIdOf number < 0 ↔ number = none := by
  cases number with
  | none => decide
  | some n =>
      have nonneg : 0 ≤ trackingIdOf (some n) := Int.natCast_nonneg _
      constructor
      · omega
      · intro none_
        cases none_

/-- The ids of the device are those of the touches. -/
structure Numbered (input : Input) (touches : Touches) : Prop where
  mt : input.mt = touches.mt
  begun : input.trkid = touches.begun
  ids : ∀ s, input.sender.view.table s .trackingId = trackingIdOf (touches.number s)

/-- The tracking id that a slot has after it is reported touched. -/
def Input.idFor (input : Input) (s : Slot) : Int :=
  if input.sender.view.table s .trackingId < 0 then (input.trkid % trkids : Nat)
  else input.sender.view.table s .trackingId

@[simp] theorem mtSlot_view (input : Input) (slot : Nat) :
    (input.mtSlot slot).sender.view = input.sender.view := by
  unfold Input.mtSlot
  split <;> rfl

@[simp] theorem mtSlot_trkid (input : Input) (slot : Nat) :
    (input.mtSlot slot).trkid = input.trkid := by
  unfold Input.mtSlot
  split <;> rfl

theorem trackingId_reportPoint {input : Input} {p : Point} (used : p.type ≠ touchEventReserved)
    (s : Slot) :
    (reportPoint input p).sender.view.table s .trackingId =
      if s = (input.mtSlot p.id).sender.staged then
        if p.type = touchEventUp then -1 else input.idFor s
      else input.sender.view.table s .trackingId := by
  by_cases up : p.type = touchEventUp
  · by_cases here : s = (input.mtSlot p.id).sender.staged
    · subst here
      simp [reportPoint, up, Input.mtReportSlotState, Input.emit]
    · simp [reportPoint, up, here, Input.mtReportSlotState, Input.emit]
  · by_cases new : input.sender.view.table (input.mtSlot p.id).sender.staged .trackingId < 0
    · by_cases here : s = (input.mtSlot p.id).sender.staged
      · subst here
        simp [reportPoint, used, up, new, Input.mtReportSlotState, Input.emit, Input.reportAbs,
          Input.value, Input.idFor]
      · simp [reportPoint, used, up, new, here, Input.mtReportSlotState, Input.emit,
          Input.reportAbs, Input.value]
    · by_cases here : s = (input.mtSlot p.id).sender.staged
      · subst here
        simp [reportPoint, used, up, new, Input.mtReportSlotState, Input.emit, Input.reportAbs,
          Input.value, Input.idFor]
      · simp [reportPoint, used, up, new, here, Input.mtReportSlotState, Input.emit,
          Input.reportAbs, Input.value]

theorem trkid_reportPoint {input : Input} {p : Point} (used : p.type ≠ touchEventReserved) :
    (reportPoint input p).trkid =
      if p.type ≠ touchEventUp ∧
          input.sender.view.table (input.mtSlot p.id).sender.staged .trackingId < 0 then
        input.trkid + 1
      else input.trkid := by
  by_cases up : p.type = touchEventUp
  · simp [reportPoint, up, Input.mtReportSlotState, Input.emit]
  · by_cases new : input.sender.view.table (input.mtSlot p.id).sender.staged .trackingId < 0
    · simp [reportPoint, used, up, new, Input.mtReportSlotState, Input.emit, Input.reportAbs,
        Input.value]
    · simp [reportPoint, used, up, new, Input.mtReportSlotState, Input.emit, Input.reportAbs,
        Input.value]

/-- Each touch has one slot, and has begun. -/
structure Touches.Counted (touches : Touches) : Prop where
  active_iff : ∀ s, (touches.mt.slots s).active ↔ touches.number s ≠ none
  given : ∀ s n, touches.number s = some n → n < touches.begun
  apart : ∀ s s' n, touches.number s = some n → touches.number s' = some n → s = s'

/-- A slot that stays as it is keeps its touch. -/
theorem Touches.Counted.kept {touches : Touches} (counted : touches.Counted) (s : Slot)
    (next : Option Nat) :
    (if (touches.mt.slots s).active then (touches.number s).or next else none) =
      touches.number s := by
  cases held : touches.number s with
  | none =>
      rw [if_neg]
      exact fun active => (counted.active_iff s).1 active held
  | some n =>
      rw [if_pos ((counted.active_iff s).2 (by rw [held]; exact Option.some_ne_none n))]
      rfl

theorem Touches.report_reserved {touches : Touches} {p : Point} (counted : touches.Counted)
    (reserved : p.type = touchEventReserved) : touches.report p = touches := by
  have noneBegins : ¬ ∃ s, (touches.mt.slots s).active ∧ touches.number s = none := by
    rintro ⟨s, active, none_⟩
    exact (counted.active_iff s).1 active none_
  unfold Touches.report
  simp only [reportPoint_reserved reserved, if_neg noneBegins, counted.kept]

/-- What a point does to the touch of a slot. -/
theorem Touches.number_report {touches : Touches} {p : Point} (counted : touches.Counted)
    (used : p.type ≠ touchEventReserved) (s : Slot) :
    (touches.report p).number s =
      if s = (touches.mt.selectSlot p.id).slot then
        if p.type = touchEventUp then none else (touches.number s).or (some touches.begun)
      else touches.number s := by
  have slots := InputMt.modifySelected_slots (touches.mt.selectSlot p.id) p.event s
  show (if ((MultiTouch.reportPoint touches.mt p).slots s).active then _ else none) = _
  rw [reportPoint_eq used, slots]
  by_cases here : s = (touches.mt.selectSlot p.id).slot
  · rw [if_pos here, if_pos here]
    by_cases up : p.type = touchEventUp
    · rw [if_pos up, Point.event, if_pos up]
      rfl
    · rw [if_neg up, Point.event, if_neg up]
      rfl
  · rw [if_neg here, if_neg here, InputMt.selectSlot_slots]
    exact counted.kept s _

theorem Touches.begun_report {touches : Touches} {p : Point} (counted : touches.Counted)
    (used : p.type ≠ touchEventReserved) :
    (touches.report p).begun =
      if p.type ≠ touchEventUp ∧ touches.number (touches.mt.selectSlot p.id).slot = none then
        touches.begun + 1
      else touches.begun := by
  have begins : (∃ s, ((MultiTouch.reportPoint touches.mt p).slots s).active ∧
        touches.number s = none) ↔
      p.type ≠ touchEventUp ∧ touches.number (touches.mt.selectSlot p.id).slot = none := by
    rw [reportPoint_eq used]
    constructor
    · rintro ⟨s, active, none_⟩
      rw [InputMt.modifySelected_slots, InputMt.selectSlot_slots] at active
      by_cases here : s = (touches.mt.selectSlot p.id).slot
      · rw [if_pos here, Point.event] at active
        refine ⟨?_, here ▸ none_⟩
        intro up
        rw [if_pos up] at active
        cases active
      · rw [if_neg here] at active
        exact absurd none_ ((counted.active_iff s).1 active)
    · rintro ⟨down, none_⟩
      refine ⟨_, ?_, none_⟩
      rw [InputMt.modifySelected_slots, if_pos rfl, Point.event, if_neg down]
  show (if _ then _ else _) = _
  simp only [begins]

/-- A touch that a slot has after a point, it had before or was given. -/
theorem Touches.held_report {touches : Touches} {p : Point} (counted : touches.Counted)
    (used : p.type ≠ touchEventReserved) {s : Slot} {n : Nat}
    (held : (touches.report p).number s = some n) :
    touches.number s = some n ∧ touches.begun ≤ (touches.report p).begun ∨
      s = (touches.mt.selectSlot p.id).slot ∧ n = touches.begun ∧
        (touches.report p).begun = touches.begun + 1 := by
  have begun := Touches.begun_report counted used
  have grows : touches.begun ≤ (touches.report p).begun := by
    rw [begun]
    split <;> omega
  rw [Touches.number_report counted used] at held
  by_cases here : s = (touches.mt.selectSlot p.id).slot
  · rw [if_pos here] at held
    by_cases up : p.type = touchEventUp
    · rw [if_pos up] at held
      cases held
    · rw [if_neg up] at held
      cases before : touches.number s with
      | some m =>
          rw [before] at held
          exact .inl ⟨held, grows⟩
      | none =>
          rw [before] at held
          refine .inr ⟨here, (Option.some.inj held).symm, ?_⟩
          rw [begun, if_pos ⟨up, here ▸ before⟩]
  · rw [if_neg here] at held
    exact .inl ⟨held, grows⟩

theorem Touches.Counted.report {touches : Touches} (counted : touches.Counted) (p : Point) :
    (touches.report p).Counted := by
  by_cases reserved : p.type = touchEventReserved
  · rw [Touches.report_reserved counted reserved]
    exact counted
  · refine ⟨?_, ?_, ?_⟩
    · intro s
      show _ ↔ (if ((touches.report p).mt.slots s).active then _ else none) ≠ none
      by_cases active : ((touches.report p).mt.slots s).active
      · rw [if_pos active]
        cases touches.number s <;> simp [active]
      · rw [if_neg active]
        simp [active]
    · intro s n held
      rcases Touches.held_report counted reserved held with ⟨before, grows⟩ | ⟨-, rfl, next⟩
      · exact Nat.lt_of_lt_of_le (counted.given s n before) grows
      · rw [next]
        exact Nat.lt_succ_self _
    · intro s s' n held held'
      rcases Touches.held_report counted reserved held with ⟨before, -⟩ | ⟨here, rfl, -⟩
      · rcases Touches.held_report counted reserved held' with ⟨before', -⟩ | ⟨-, rfl, -⟩
        · exact counted.apart s s' n before before'
        · exact absurd (counted.given s _ before) (Nat.lt_irrefl _)
      · rcases Touches.held_report counted reserved held' with ⟨before', -⟩ | ⟨here', -, -⟩
        · exact absurd (counted.given s' _ before') (Nat.lt_irrefl _)
        · exact here.trans here'.symm

theorem staged_mtSlot {input : Input} {touches : Touches} (same : input.mt = touches.mt)
    (slot : Nat) : (input.mtSlot slot).sender.staged = (touches.mt.selectSlot slot).slot := by
  rw [← same, ← mt_mtSlot]
  rfl

/-- The device gives the ids as the touches are counted. -/
theorem Numbered.report {input : Input} {touches : Touches} (numbered : Numbered input touches)
    (counted : touches.Counted) (p : Point) :
    Numbered (reportPoint input p) (touches.report p) := by
  have mt : (reportPoint input p).mt = (touches.report p).mt := by
    rw [mt_reportPoint, numbered.mt]
    rfl
  by_cases reserved : p.type = touchEventReserved
  · have input_ : reportPoint input p = input := if_pos reserved
    rw [input_, Touches.report_reserved counted reserved]
    exact numbered
  · have staged := staged_mtSlot numbered.mt p.id
    refine ⟨mt, ?_, ?_⟩
    · rw [trkid_reportPoint reserved, Touches.begun_report counted reserved, staged,
        numbered.ids]
      simp only [trackingIdOf_neg_iff, numbered.begun]
    · intro s
      rw [trackingId_reportPoint reserved, Touches.number_report counted reserved, staged]
      by_cases here : s = (touches.mt.selectSlot p.id).slot
      · rw [if_pos here, if_pos here]
        by_cases up : p.type = touchEventUp
        · rw [if_pos up, if_pos up]
          rfl
        · rw [if_neg up, if_neg up, Input.idFor, numbered.ids, numbered.begun]
          cases held : touches.number s with
          | none => rfl
          | some n => exact if_neg (Int.not_lt.2 (Int.natCast_nonneg _))
      · rw [if_neg here, if_neg here]
        exact numbered.ids s

/-! ## A run of the handler -/

theorem Touches.counted_none : Touches.none_.Counted where
  active_iff := by
    intro s
    simp [Touches.none_, probedSlots, InputMt.initSlots]
  given := by
    intro s n held
    cases held
  apart := by
    intro s s' n held
    cases held

theorem numbered_points {input : Input} {touches : Touches} (numbered : Numbered input touches)
    (counted : touches.Counted) (points : List Point) :
    Numbered (points.foldl reportPoint input) (points.foldl Touches.report touches) ∧
      (points.foldl Touches.report touches).Counted := by
  induction points generalizing input touches with
  | nil => exact ⟨numbered, counted⟩
  | cons p points ih => exact ih (numbered.report counted p) (counted.report p)

/-- The pointer emulation and the end of the packet leave the ids. -/
theorem Numbered.flush {input : Input} {touches : Touches} (numbered : Numbered input touches) :
    Numbered input.mtReportPointerEmulation.sync touches := by
  have mt : input.mtReportPointerEmulation.mt = touches.mt := by
    rw [mt_mtReportPointerEmulation, numbered.mt]
  refine ⟨mt, ?_, ?_⟩
  · unfold Input.mtReportPointerEmulation Input.sync
    cases input.oldest <;> exact numbered.begun
  · intro s
    rw [← numbered.ids s]
    unfold Input.mtReportPointerEmulation Input.sync
    cases input.oldest with
    | none => simp
    | some slot => simp

theorem ids_run (reads : List (Option Report)) :
    Numbered (reads.foldl edtFt5426TsIsr probed) (Touches.ofReads reads) ∧
      (Touches.ofReads reads).Counted := by
  induction reads using List.reverseRecOn with
  | nil => exact ⟨⟨rfl, rfl, fun _ => rfl⟩, Touches.counted_none⟩
  | append_singleton reads read ih =>
      obtain ⟨numbered, counted⟩ := ih
      have touches : Touches.ofReads (reads ++ [read]) =
          (pointsOf read).foldl Touches.report (Touches.ofReads reads) := by
        simp [Touches.ofReads]
      have points := numbered_points numbered counted (pointsOf read)
      rw [touches, List.foldl_append]
      refine ⟨?_, points.2⟩
      cases read with
      | none => exact numbered
      | some report =>
          rw [List.foldl_cons, List.foldl_nil, edtFt5426TsIsr_some]
          exact points.1.flush

theorem eq_of_residues {n m begun : Nat} (residues : n % trkids = m % trkids) (n_lt : n < begun)
    (m_lt : m < begun) (n_recent : begun ≤ n + 0x8000) (m_recent : begun ≤ m + 0x8000) :
    n = m := by
  unfold trkids at residues
  omega

/-- **The pointer follows the oldest touch.**  Over any reports and failed transfers: as long as
no touch that is still there began more than 32768 touches ago, no two touches have the same
tracking id, and a reader that knows one touch only is given the position of the one that
began first. -/
theorem pointer_follows_oldest (reads : List (Option Report))
    (recent : ∀ s n, (Touches.ofReads reads).number s = some n →
      (Touches.ofReads reads).begun ≤ n + 0x8000) :
    let reader := (reads.foldl edtFt5426TsIsr probed).reader
    let touches := Touches.ofReads reads
    (∀ s s', touches.number s ≠ none →
        reader.table s .trackingId = reader.table s' .trackingId → s = s') ∧
      ∀ s n, touches.number s = some n → (∀ s' m, touches.number s' = some m → n ≤ m) →
        reader.single .absX = reader.table s .positionX ∧
          reader.single .absY = reader.table s .positionY := by
  intro reader touches
  obtain ⟨numbered, counted⟩ := ids_run reads
  have settled := settled_run reads
  have known : reader = (reads.foldl edtFt5426TsIsr probed).sender.view := settled.received
  have inUse : Serial.Counted trkidSgn
      (fun s => (reads.foldl edtFt5426TsIsr probed).sender.view.table s .trackingId)
      touches.number touches.begun := by
    refine ⟨by decide, ?_, ?_, counted.given, ?_⟩
    · intro s none_
      rw [numbered.ids, trackingIdOf_neg_iff]
      exact none_
    · intro s n held
      rw [numbered.ids, held]
      rfl
    · intro s n held
      have := recent s n held
      show ((Touches.ofReads reads).begun : Int) ≤ n + 0x8000
      omega
  refine ⟨?_, ?_⟩
  · intro s s' held same
    rw [known, numbered.ids, numbered.ids] at same
    obtain ⟨n, held⟩ := Option.ne_none_iff_exists'.1 held
    cases held' : touches.number s' with
    | none =>
        rw [held, held'] at same
        exact absurd same (Int.ne_of_gt (Int.lt_of_lt_of_le (by decide) (Int.natCast_nonneg _)))
    | some m =>
        have equal : n = m := by
          rw [held, held'] at same
          have residues : n % trkids = m % trkids := Int.ofNat.inj same
          exact eq_of_residues residues (counted.given s n held) (counted.given s' m held')
            (recent s n held) (recent s' m held')
        exact counted.apart s s' n held (equal ▸ held')
  · intro s n held least
    have found := Serial.oldest_spec inUse (List.finRange maxSupportPoints)
    have oldest : (reads.foldl edtFt5426TsIsr probed).oldest =
        Serial.oldest trkidSgn
          (fun s => (reads.foldl edtFt5426TsIsr probed).sender.view.table s .trackingId)
          touches.begun (List.finRange maxSupportPoints) := by
      rw [Input.oldest, numbered.begun]
    rw [← oldest] at found
    rw [known]
    cases isOldest : (reads.foldl edtFt5426TsIsr probed).oldest with
    | none =>
        rw [isOldest] at found
        have none_ := found s (List.mem_finRange s)
        rw [held] at none_
        cases none_
    | some first =>
        rw [isOldest] at found
        obtain ⟨m, held', least'⟩ := found
        have same : m = n := Nat.le_antisymm (least' s (List.mem_finRange s) n held)
          (least first m held')
        subst same
        rw [counted.apart s first m held held']
        exact settled.pointer first isOldest

/-- Touch 1 at (10, 20), then touch 0 at (30, 40). -/
def twoTouches : Report :=
  ⟨#[2, 0x00, 20, 0x10, 10, 0, 0, 0x00, 40, 0x00, 30, 0, 0,
    0xc0, 0, 0, 0, 0, 0, 0xc0, 0, 0, 0, 0, 0, 0xc0, 0, 0, 0], rfl⟩

/-- The pointer is at slot 1. -/
theorem pointer_follows_oldest_twoTouches :
    let reader := ([some twoTouches].foldl edtFt5426TsIsr probed).reader
    reader.single .absX = 10 ∧ reader.single .absY = 20 := by
  have recent : ∀ s n, (Touches.ofReads [some twoTouches]).number s = some n →
      (Touches.ofReads [some twoTouches]).begun ≤ n + 0x8000 := by
    intro s n _
    have begun : (Touches.ofReads [some twoTouches]).begun = 2 := by decide
    omega
  have follows := (pointer_follows_oldest [some twoTouches] recent).2 ⟨1, by decide⟩ 0 (by decide)
    (fun _ _ _ => Nat.zero_le _)
  have position : ([some twoTouches].foldl edtFt5426TsIsr probed).reader.table ⟨1, by decide⟩
        .positionX = 10 ∧
      ([some twoTouches].foldl edtFt5426TsIsr probed).reader.table ⟨1, by decide⟩
        .positionY = 20 := by decide
  exact ⟨follows.1.trans position.1, follows.2.trans position.2⟩

end LearningKernel.MultiTouch.Stream
