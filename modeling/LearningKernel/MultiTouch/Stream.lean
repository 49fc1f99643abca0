/-
# MultiTouch.Stream -- what a reader of the touchscreen is told

`edt_ft5426_ts_isr` speaks to the input core, which passes on to whoever has the event
device open only what changes: no value twice, a slot only when one of its values
changes, and no packet without an event.  A touch gets a tracking id when it begins, and the
input core derives `BTN_TOUCH`, `ABS_X` and `ABS_Y` for readers that know one touch only.

* `Reported`: the driver's calls of the input core, one after the other, are one `Sent`;
* `stream_tracks`: after each report a reader that follows the protocol has the slot table
  of `MultiTouch.Slots`, and every event it was told changed what it knew.
-/
import LearningKernel.MultiTouch.Slots
import LearningKernel.Theory.Changes
import LearningKernel.Theory.Serial

namespace LearningKernel.MultiTouch.Stream

open LearningKernel.Theory LearningKernel.Theory.Changes LearningKernel.Kernel

set_option autoImplicit false

/-! ## The input core -/

/-- The `ABS_MT` codes that the driver declares, and the tracking id. -/
inductive MtCode where
  | trackingId
  | positionX
  | positionY
  deriving DecidableEq

/-- The codes that `INPUT_MT_DIRECT` adds. -/
inductive Code where
  | btnTouch
  | absX
  | absY
  deriving DecidableEq

abbrev Slot := Fin maxSupportPoints
abbrev Touch := View Slot MtCode Code Int
abbrev InputEvent := Msg Slot MtCode Code Int

/-- The input device: its values and the slot staged, the counter of tracking ids, the events
since the last packet, and the packets passed on. -/
structure Input where
  sender : Sender Slot MtCode Code Int
  trkid : Nat
  pending : List InputEvent
  packets : List (List InputEvent)

/-- No touch, as `input_mt_init_slots` leaves it. -/
def noTouch : Touch :=
  { table := fun _ code => match code with
      | .trackingId => -1
      | .positionX | .positionY => 0
    single := fun _ => 0
    row := ⟨0, Nat.zero_lt_succ _⟩ }

def probed : Input :=
  { sender := { view := noTouch, staged := noTouch.row }, trkid := 0, pending := [], packets := [] }

/-- `TRKID_MAX + 1`. -/
def trkids : Nat := 0x10000

/-- `TRKID_SGN`. -/
def trkidSgn : Int := 0x8000

namespace Input

/-- An operation of the sender, its events put behind those pending. -/
def emit (input : Input) (sent : List InputEvent × Sender Slot MtCode Code Int) : Input :=
  { input with sender := sent.2, pending := input.pending ++ sent.1 }

/-- `input_mt_slot`. -/
def mtSlot (input : Input) (slot : Nat) : Input :=
  if isSlot : slot < maxSupportPoints then
    { input with sender := input.sender.stage ⟨slot, isSlot⟩ }
  else input

/-- `input_mt_get_value` of the staged slot. -/
def value (input : Input) (code : MtCode) : Int := input.sender.view.table input.sender.staged code

/-- `input_mt_report_slot_state`; `ABS_MT_TOOL_TYPE` is not declared and not passed on. -/
def mtReportSlotState (input : Input) (active : Bool) : Input :=
  if active then
    if input.value .trackingId < 0 then
      { input with trkid := input.trkid + 1 }.emit
        (input.sender.put .trackingId (input.trkid % trkids : Nat))
    else input.emit (input.sender.put .trackingId (input.value .trackingId))
  else input.emit (input.sender.put .trackingId (-1))

/-- `input_report_abs`. -/
def reportAbs (input : Input) (code : MtCode) (v : Int) : Input :=
  input.emit (input.sender.put code v)

/-- A value that belongs to no slot. -/
def report (input : Input) (code : Code) (v : Int) : Input :=
  input.emit (input.sender.set code v)

/-- The slot whose touch began first: the last of those that a look through the slots finds
before the one found so far, by `TRKID_SGN`. -/
def oldest (input : Input) : Option Slot :=
  Serial.oldest trkidSgn (fun slot => input.sender.view.table slot .trackingId) input.trkid
    (List.finRange maxSupportPoints)

/-- The slots that have a touch. -/
def touched (input : Input) : List Slot :=
  (List.finRange maxSupportPoints).filter fun slot =>
    decide (0 ≤ input.sender.view.table slot .trackingId)

/-- `input_mt_report_pointer_emulation`. -/
def mtReportPointerEmulation (input : Input) : Input :=
  let oldest := input.oldest
  let input := input.report .btnTouch (if input.touched.length > 0 then 1 else 0)
  match oldest with
  | none => input
  | some slot =>
      (input.report .absX (input.sender.view.table slot .positionX)).report .absY
        (input.sender.view.table slot .positionY)

/-- `input_sync`: a packet with nothing in it is not passed on. -/
def sync (input : Input) : Input :=
  { input with
    pending := []
    packets := if input.pending = [] then input.packets else input.packets ++ [input.pending] }

end Input

/-! ## The driver -/

/-- The body of the loop of `edt_ft5426_ts_isr`. -/
def reportPoint (input : Input) (p : Point) : Input :=
  if p.type = touchEventReserved then input
  else
    let down : Bool := p.type ≠ touchEventUp
    let input := (input.mtSlot p.id).mtReportSlotState down
    if down then (input.reportAbs .positionX p.x.val).reportAbs .positionY p.y.val else input

/-- `edt_ft5426_ts_isr`. -/
def edtFt5426TsIsr (input : Input) (read : Option Report) : Input :=
  match read with
  | none => input
  | some report =>
      ((List.finRange maxSupportPoints).foldl
        (fun input i => reportPoint input (pointOf (report.push 0) i))
        input).mtReportPointerEmulation.sync

/-- What a reader that opened the device when it was probed knows. -/
def Input.reader (input : Input) : Touch := input.packets.flatten.foldl View.receive noTouch

/-- A slot as a reader sees it. -/
def slotOf (touch : Touch) (slot : Slot) : MtSlot :=
  { active := decide (0 ≤ touch.table slot .trackingId)
    x := (touch.table slot .positionX).toNat
    y := (touch.table slot .positionY).toNat }

/-- The slot table behind the values. -/
def Input.mt (input : Input) : InputMt maxSupportPoints :=
  { slots := slotOf input.sender.view, slot := input.sender.staged }

/-! ## The calls of the driver -/

/-- Between two calls of the input core the events put behind those pending take the sender
from its one state to the other. -/
def Reported (a b : Input) : Prop :=
  ∃ sent, b.pending = a.pending ++ sent ∧ b.packets = a.packets ∧ Sent a.sender sent b.sender

theorem Reported.refl (a : Input) : Reported a a := ⟨[], by simp, rfl, Sent.refl _⟩

theorem Reported.trans {a b c : Input} (first : Reported a b) (second : Reported b c) :
    Reported a c := by
  obtain ⟨ms, pending, packets, sent⟩ := first
  obtain ⟨ns, pending', packets', sent'⟩ := second
  refine ⟨ms ++ ns, ?_, packets'.trans packets, sent.append sent'⟩
  rw [pending', pending, List.append_assoc]

theorem reported_emit {a b : Input} {sent : List InputEvent × Sender Slot MtCode Code Int}
    (operation : Sent a.sender sent.1 sent.2) (pending : b.pending = a.pending)
    (packets : b.packets = a.packets) : Reported a (b.emit sent) :=
  ⟨sent.1, by rw [Input.emit, pending], packets, operation⟩

theorem reported_mtSlot (input : Input) (slot : Nat) : Reported input (input.mtSlot slot) := by
  unfold Input.mtSlot
  split
  · exact ⟨[], by simp, rfl, sent_stage _ _⟩
  · exact Reported.refl input

theorem reported_mtReportSlotState (input : Input) (active : Bool) :
    Reported input (input.mtReportSlotState active) := by
  unfold Input.mtReportSlotState
  split
  · split
    · exact reported_emit (sent_put _ _ _) rfl rfl
    · exact reported_emit (sent_put _ _ _) rfl rfl
  · exact reported_emit (sent_put _ _ _) rfl rfl

theorem reported_reportAbs (input : Input) (code : MtCode) (v : Int) :
    Reported input (input.reportAbs code v) :=
  reported_emit (sent_put _ _ _) rfl rfl

theorem reported_report (input : Input) (code : Code) (v : Int) :
    Reported input (input.report code v) :=
  reported_emit (sent_set _ _ _) rfl rfl

theorem reported_reportPoint (input : Input) (p : Point) :
    Reported input (reportPoint input p) := by
  unfold reportPoint
  split
  · exact Reported.refl input
  · have state : Reported input ((input.mtSlot p.id).mtReportSlotState (p.type ≠ touchEventUp)) :=
      (reported_mtSlot input p.id).trans (reported_mtReportSlotState _ _)
    by_cases up : p.type = touchEventUp
    · simpa [up] using state
    · have position := (state.trans (reported_reportAbs _ .positionX p.x.val)).trans
        (reported_reportAbs _ .positionY p.y.val)
      simpa [up] using position

theorem reported_points (input : Input) (points : List Point) :
    Reported input (points.foldl reportPoint input) := by
  induction points generalizing input with
  | nil => exact Reported.refl input
  | cons p points ih => exact (reported_reportPoint input p).trans (ih _)

theorem reported_mtReportPointerEmulation (input : Input) :
    Reported input input.mtReportPointerEmulation := by
  unfold Input.mtReportPointerEmulation
  cases input.oldest with
  | none => exact reported_report _ _ _
  | some slot =>
      exact ((reported_report _ _ _).trans (reported_report _ _ _)).trans (reported_report _ _ _)

/-! ## The slot table behind the values -/

/-- What a value of a slot is in the slot table. -/
def slotWith (code : MtCode) (v : Int) (slot : MtSlot) : MtSlot :=
  match code with
  | .trackingId => { slot with active := decide (0 ≤ v) }
  | .positionX => { slot with x := v.toNat }
  | .positionY => { slot with y := v.toNat }

theorem slotOf_put (s : Sender Slot MtCode Code Int) (code : MtCode) (v : Int) :
    slotOf (s.put code v).2.view =
      Function.update (slotOf s.view) s.staged (slotWith code v (slotOf s.view s.staged)) := by
  funext slot
  by_cases here : slot = s.staged
  · subst here
    cases code <;> simp [slotOf, slotWith]
  · simp [slotOf, here]

theorem mt_put (a b : Input) (code : MtCode) (v : Int) :
    (b.emit (a.sender.put code v)).mt = a.mt.modifySelected (slotWith code v) := by
  unfold Input.mt InputMt.modifySelected InputMt.selected
  rw [← slotOf_put]
  exact congrArg (InputMt.mk _) (put_staged _ _ _)

theorem mt_mtSlot (input : Input) (slot : Nat) :
    (input.mtSlot slot).mt = input.mt.selectSlot slot := by
  unfold Input.mtSlot InputMt.selectSlot
  split <;> rfl

theorem slotWith_trackingId {v : Int} {active : Bool} (means : decide (0 ≤ v) = active) :
    slotWith .trackingId v = fun slot => { slot with active := active } := by
  rw [← means]
  rfl

theorem mt_mtReportSlotState (input : Input) (active : Bool) :
    (input.mtReportSlotState active).mt = input.mt.reportSlotState active := by
  unfold Input.mtReportSlotState InputMt.reportSlotState
  cases active with
  | false =>
      have ended : decide (0 ≤ (-1 : Int)) = false := by decide
      rw [if_neg Bool.false_ne_true, mt_put, slotWith_trackingId ended]
  | true =>
      rw [if_pos rfl]
      split
      · rw [mt_put, slotWith_trackingId (decide_eq_true (Int.natCast_nonneg _))]
      · rename_i touched
        rw [mt_put, slotWith_trackingId (decide_eq_true (Int.not_lt.1 touched))]

theorem mt_reportPoint (input : Input) (p : Point) :
    (reportPoint input p).mt = MultiTouch.reportPoint input.mt p := by
  unfold reportPoint MultiTouch.reportPoint
  by_cases reserved : p.type = touchEventReserved
  · rw [if_pos reserved, if_pos reserved]
  · rw [if_neg reserved, if_neg reserved]
    by_cases up : p.type = touchEventUp
    · simp [up, mt_mtReportSlotState, mt_mtSlot]
    · simp only [ne_eq, up, not_false_eq_true, decide_true, if_true, Input.reportAbs, mt_put,
        mt_mtReportSlotState, mt_mtSlot]
      rfl

theorem mt_points (input : Input) (points : List Point) :
    (points.foldl reportPoint input).mt = points.foldl MultiTouch.reportPoint input.mt := by
  induction points generalizing input with
  | nil => rfl
  | cons p points ih =>
      rw [List.foldl_cons, List.foldl_cons, ih, mt_reportPoint]

/-! ## The emulated pointer -/

/-- The pointer emulation does not touch the slots. -/
theorem mt_report (input : Input) (code : Code) (v : Int) :
    (input.report code v).mt = input.mt := by
  unfold Input.report Input.emit Input.mt slotOf
  rw [set_table, set_staged]

theorem mt_mtReportPointerEmulation (input : Input) :
    input.mtReportPointerEmulation.mt = input.mt := by
  unfold Input.mtReportPointerEmulation
  cases input.oldest with
  | none => exact mt_report _ _ _
  | some slot => rw [mt_report, mt_report, mt_report]

@[simp] theorem report_table (input : Input) (code : Code) (v : Int) :
    (input.report code v).sender.view.table = input.sender.view.table := set_table _ _ _

@[simp] theorem report_trkid (input : Input) (code : Code) (v : Int) :
    (input.report code v).trkid = input.trkid := rfl

@[simp] theorem report_single (input : Input) (code : Code) (v : Int) :
    (input.report code v).sender.view.single =
      Function.update input.sender.view.single code v := set_single _ _ _

@[simp] theorem report_touched (input : Input) (code : Code) (v : Int) :
    (input.report code v).touched = input.touched := by
  unfold Input.touched
  rw [report_table]

@[simp] theorem report_oldest (input : Input) (code : Code) (v : Int) :
    (input.report code v).oldest = input.oldest := by
  unfold Input.oldest
  rw [report_table, report_trkid]

/-- `BTN_TOUCH` says whether there is a touch, and the pointer is at the oldest. -/
structure Pointed (input : Input) : Prop where
  touch : input.sender.view.single .btnTouch = if input.touched.length > 0 then 1 else 0
  pointer : ∀ slot, input.oldest = some slot →
    input.sender.view.single .absX = input.sender.view.table slot .positionX ∧
      input.sender.view.single .absY = input.sender.view.table slot .positionY

theorem pointed_mtReportPointerEmulation (input : Input) :
    Pointed input.mtReportPointerEmulation := by
  unfold Input.mtReportPointerEmulation
  cases found : input.oldest with
  | none =>
      refine ⟨by simp, ?_⟩
      intro slot isOldest
      rw [report_oldest, found] at isOldest
      cases isOldest
  | some slot =>
      refine ⟨by simp, ?_⟩
      intro other isOldest
      simp only [report_oldest, found, Option.some.injEq] at isOldest
      subst isOldest
      simp

/-! ## A run of the handler -/

/-- Between two interrupts. -/
structure Settled (input : Input) : Prop extends Pointed input where
  received : input.reader = input.sender.view
  effective : Effective noTouch input.packets.flatten
  flushed : input.pending = []
  spoken : [] ∉ input.packets

theorem settled_probed : Settled probed where
  touch := by decide
  pointer := by
    intro slot isOldest
    exact absurd isOldest (by decide +revert)
  received := rfl
  effective := trivial
  flushed := rfl
  spoken := List.not_mem_nil

/-- A packet that is passed on takes the reader to the values of the device. -/
theorem Settled.sync {a b : Input} (settled : Settled a) (reported : Reported a b)
    (pointed : Pointed b) : Settled b.sync := by
  obtain ⟨sent, pending, packets, received, effective⟩ := reported
  rw [settled.flushed, List.nil_append] at pending
  have passed : b.sync.packets.flatten = a.packets.flatten ++ sent := by
    unfold Input.sync
    by_cases empty : b.pending = []
    · rw [if_pos empty, packets, ← pending, empty, List.append_nil]
    · rw [if_neg empty, packets, List.flatten_append, pending, List.flatten_singleton]
  refine ⟨⟨pointed.touch, pointed.pointer⟩, ?_, ?_, rfl, ?_⟩
  · show b.sync.packets.flatten.foldl View.receive noTouch = b.sender.view
    rw [passed, List.foldl_append, ← received, ← settled.received]
    rfl
  · rw [passed, effective_append]
    refine ⟨settled.effective, ?_⟩
    have known : a.packets.flatten.foldl View.receive noTouch = a.sender.view := settled.received
    rw [known]
    exact effective
  · unfold Input.sync
    split
    · rw [packets]
      exact settled.spoken
    · rename_i some_
      intro empty
      rcases List.mem_append.1 empty with before | now
      · exact settled.spoken (packets ▸ before)
      · exact some_ (List.mem_singleton.1 now).symm

theorem edtFt5426TsIsr_some (input : Input) (report : Report) :
    edtFt5426TsIsr input (some report) =
      ((pointsOf (some report)).foldl reportPoint input).mtReportPointerEmulation.sync := by
  simp [edtFt5426TsIsr, pointsOf, List.foldl_map]

theorem settled_edtFt5426TsIsr {input : Input} (settled : Settled input) (read : Option Report) :
    Settled (edtFt5426TsIsr input read) := by
  cases read with
  | none => exact settled
  | some report =>
      rw [edtFt5426TsIsr_some]
      exact settled.sync
        ((reported_points input _).trans (reported_mtReportPointerEmulation _))
        (pointed_mtReportPointerEmulation _)

theorem settled_run (reads : List (Option Report)) :
    Settled (reads.foldl edtFt5426TsIsr probed) := by
  induction reads using List.reverseRecOn with
  | nil => exact settled_probed
  | append_singleton reads read ih =>
      rw [List.foldl_append]
      exact settled_edtFt5426TsIsr ih read

theorem mt_edtFt5426TsIsr (input : Input) (read : Option Report) :
    (edtFt5426TsIsr input read).mt = MultiTouch.edtFt5426TsIsr input.mt read := by
  rw [MultiTouch.edtFt5426TsIsr_eq]
  cases read with
  | none => rfl
  | some report =>
      rw [edtFt5426TsIsr_some, ← mt_points]
      exact mt_mtReportPointerEmulation _

/-- The values of the device are the slot table of the handler. -/
theorem mt_run (reads : List (Option Report)) :
    (reads.foldl edtFt5426TsIsr probed).mt = reads.foldl MultiTouch.edtFt5426TsIsr probedSlots := by
  induction reads using List.reverseRecOn with
  | nil => rfl
  | append_singleton reads read ih =>
      simp only [List.foldl_append, List.foldl_cons, List.foldl_nil, mt_edtFt5426TsIsr, ih]

theorem touched_length_pos_iff (input : Input) :
    input.touched.length > 0 ↔ ∃ s, (input.mt.slots s).active := by
  unfold Input.touched
  rw [gt_iff_lt, List.length_pos_iff_exists_mem]
  simp [Input.mt, slotOf]

/-- **A reader knows the slot table.**  Over any reports and failed transfers, a reader that
has had the device open since it was probed, and applies what it is told, has the slot table of
the handler and knows by `BTN_TOUCH` whether there is a touch.  Every event it was told changed
what it knew, and it was never sent an empty packet. -/
theorem stream_tracks (reads : List (Option Report)) :
    let input := reads.foldl edtFt5426TsIsr probed
    let mt := reads.foldl MultiTouch.edtFt5426TsIsr probedSlots
    (∀ s, slotOf input.reader s = mt.slots s) ∧
      (input.reader.single .btnTouch = if ∃ s, (mt.slots s).active then 1 else 0) ∧
      Effective noTouch input.packets.flatten ∧
      [] ∉ input.packets := by
  intro input mt
  have settled : Settled input := settled_run reads
  have same : input.mt = mt := mt_run reads
  refine ⟨?_, ?_, settled.effective, settled.spoken⟩
  · intro s
    rw [settled.received, ← same]
    rfl
  · rw [settled.received, settled.touch, ← same]
    simp only [touched_length_pos_iff]

end LearningKernel.MultiTouch.Stream
