/-
# MultiTouch.Slots -- the FT5426 reports and the slot table

`edt_ft5426_ts_isr` reads a report of 29 bytes and feeds its five points to the
slot table.  The touch id of a point selects the slot; nothing checks that it is
one, and the input core ignores it if it is not.  The state and the position of
such a stray point then land in the slot that was selected before it.

`slots_track` is the law of a run: as long as stray points change nothing, every
slot shows the points that are its own.  `slots_track_packets_iff` says that this
is exactly when it does, and that a controller which numbers its touches below
`MAX_SUPPORT_POINTS` is always tracked.
-/
import LearningKernel.Kernel.InputMt
import LearningKernel.Theory.Latest

namespace LearningKernel.MultiTouch

open LearningKernel.Theory LearningKernel.Kernel

set_option autoImplicit false

/-- `MAX_SUPPORT_POINTS`: the points of a report, and the slots of the device. -/
def maxSupportPoints : Nat := 5

/-- `TOUCH_EVENT_UP`. -/
def touchEventUp : Fin 4 := 1

/-- `TOUCH_EVENT_RESERVED`. -/
def touchEventReserved : Fin 4 := 3

@[simp] theorem touchEventUp_ne_reserved : touchEventUp ≠ touchEventReserved := by decide

/-- What `edt_ft5426_ts_read` transfers, from `FT5426_TD_STATUS_REG` on. -/
abbrev Report := Vector UInt8 29

/-- One point of a report, with the widths of its fields. -/
structure Point where
  type : Fin 4
  x : Fin 0x1000
  y : Fin 0x1000
  id : Fin 16
  deriving DecidableEq

/-! ## The interrupt handler -/

theorem shiftRight_six_lt (b : UInt8) : b.toNat >>> 6 < 4 := by
  have := b.toNat_lt
  rw [Nat.shiftRight_eq_div_pow]
  omega

theorem masked_lt {n mask bound : Nat} (fits : mask < bound) : n &&& mask < bound :=
  Nat.lt_of_le_of_lt Nat.and_le_right fits

/-- The fields of `buf = &rdbuf[i * 6 + 1]`. -/
def pointOf (rdbuf : Vector UInt8 30) (i : Fin maxSupportPoints) : Point :=
  have bound : i.val < 5 := i.isLt
  let buf := fun k : Fin 4 => (rdbuf.get ⟨i * 6 + 1 + k, by omega⟩)
  { type := ⟨(buf 0).toNat >>> 6, shiftRight_six_lt _⟩
    x := ⟨((buf 2).toNat <<< 8 ||| (buf 3).toNat) &&& 0x0fff, masked_lt (by decide)⟩
    y := ⟨((buf 0).toNat <<< 8 ||| (buf 1).toNat) &&& 0x0fff, masked_lt (by decide)⟩
    id := ⟨(buf 2).toNat >>> 4 &&& 0x0f, masked_lt (by decide)⟩ }

/-- The body of the loop of `edt_ft5426_ts_isr`. -/
def reportPoint (input : InputMt maxSupportPoints) (p : Point) : InputMt maxSupportPoints :=
  if p.type = touchEventReserved then input
  else
    let down : Bool := p.type ≠ touchEventUp
    let input := (input.selectSlot p.id).reportSlotState down
    if down then (input.reportX p.x).reportY p.y else input

/-- `edt_ft5426_ts_isr`: the report, if the transfer succeeds, is read into the
zeroed `rdbuf`. -/
def edtFt5426TsIsr (input : InputMt maxSupportPoints) (read : Option Report) :
    InputMt maxSupportPoints :=
  match read with
  | none => input
  | some report =>
      (List.finRange maxSupportPoints).foldl
        (fun input i => reportPoint input (pointOf (report.push 0) i)) input

/-- The slot table that `edt_ft5426_ts_probe` sets up. -/
def probedSlots : InputMt maxSupportPoints :=
  .initSlots maxSupportPoints (by decide)

/-! ## What a slot should show -/

/-- The points that a call of the handler gets to see. -/
def pointsOf : Option Report → List Point
  | none => []
  | some report => (List.finRange maxSupportPoints).map (pointOf (report.push 0))

/-- Whether a point says that slot `s` is touched. -/
def touches (s : Fin maxSupportPoints) (p : Point) : Option Bool :=
  if p.type ≠ touchEventReserved ∧ p.id.val = s then some (p.type ≠ touchEventUp) else none

/-- Where a point says that slot `s` is. -/
def places (s : Fin maxSupportPoints) (p : Point) : Option (Nat × Nat) :=
  if p.type ≠ touchEventReserved ∧ p.type ≠ touchEventUp ∧ p.id.val = s then some (p.x, p.y)
  else none

/-- Slot `s` after the points: active if the last word on it is not `UP`, at the
last position given for it. -/
def slotAfter (s : Fin maxSupportPoints) (points : List Point) : MtSlot :=
  { active := (latest (touches s) points).getD false
    x := ((latest (places s) points).getD (0, 0)).1
    y := ((latest (places s) points).getD (0, 0)).2 }

/-- A point that selects no slot changes nothing in the one that stays selected. -/
def StrayHarmless (input : InputMt maxSupportPoints) (p : Point) : Prop :=
  p.type ≠ touchEventReserved → maxSupportPoints ≤ p.id →
    if p.type = touchEventUp then input.selected.active = false
    else input.selected = { active := true, x := p.x, y := p.y }

/-! ## One point -/

/-- What a point that is not reserved does to the slot it is reported to. -/
def Point.event (p : Point) (slot : MtSlot) : MtSlot :=
  if p.type = touchEventUp then { slot with active := false }
  else { active := true, x := p.x, y := p.y }

theorem reportPoint_reserved {input : InputMt maxSupportPoints} {p : Point}
    (reserved : p.type = touchEventReserved) : reportPoint input p = input := by
  simp [reportPoint, reserved]

theorem reportPoint_eq {input : InputMt maxSupportPoints} {p : Point}
    (used : p.type ≠ touchEventReserved) :
    reportPoint input p = (input.selectSlot p.id).modifySelected p.event := by
  by_cases up : p.type = touchEventUp
  · have event : p.event = fun slot => { slot with active := false } := by
      funext slot
      exact if_pos up
    simp [reportPoint, up, InputMt.reportSlotState, event]
  · have event : p.event = fun _ => { active := true, x := p.x, y := p.y } := by
      funext slot
      exact if_neg up
    simp [reportPoint, used, up, InputMt.reportSlotState, InputMt.reportX, InputMt.reportY, event]

theorem Point.event_eq_self_iff {p : Point} {slot : MtSlot} :
    p.event slot = slot ↔ if p.type = touchEventUp then slot.active = false
      else slot = { active := true, x := p.x, y := p.y } := by
  obtain ⟨active, x, y⟩ := slot
  by_cases up : p.type = touchEventUp
  · simp [event, up, eq_comm]
  · rw [event, if_neg up, if_neg up, eq_comm]

/-- A point that selects no slot changes no slot exactly when it is harmless. -/
theorem stray_slots_eq_iff {input : InputMt maxSupportPoints} {p : Point}
    (stray : maxSupportPoints ≤ p.id) :
    (reportPoint input p).slots = input.slots ↔ StrayHarmless input p := by
  unfold StrayHarmless
  by_cases reserved : p.type = touchEventReserved
  · simp [reserved, reportPoint_reserved]
  · rw [reportPoint_eq reserved, InputMt.selectSlot_ignored stray,
      InputMt.modifySelected_slots_eq_iff, Point.event_eq_self_iff]
    simp [reserved, stray]

/-- The points that are about slot `s`. -/
def Point.IsAbout (p : Point) (s : Fin maxSupportPoints) : Prop :=
  p.type ≠ touchEventReserved ∧ p.id.val = s

instance (p : Point) (s : Fin maxSupportPoints) : Decidable (p.IsAbout s) :=
  inferInstanceAs (Decidable (_ ∧ _))

/-- A harmless point acts on the slot it is about, and on no other. -/
theorem reportPoint_slots {input : InputMt maxSupportPoints} {p : Point}
    (harmless : StrayHarmless input p) (s : Fin maxSupportPoints) :
    (reportPoint input p).slots s =
      if p.IsAbout s then p.event (input.slots s) else input.slots s := by
  by_cases reserved : p.type = touchEventReserved
  · rw [reportPoint_reserved reserved, if_neg (fun about => about.1 reserved)]
  · by_cases isSlot : p.id < maxSupportPoints
    · rw [reportPoint_eq reserved, InputMt.modifySelected_slots, InputMt.selectSlot_slot isSlot,
        InputMt.selected, InputMt.selectSlot_slot isSlot, InputMt.selectSlot_slots]
      by_cases same : s = ⟨p.id, isSlot⟩
      · subst same
        rw [if_pos rfl, if_pos ⟨reserved, rfl⟩]
      · rw [if_neg same, if_neg]
        rintro ⟨-, same'⟩
        exact same (Fin.ext same'.symm)
    · have stray := Nat.le_of_not_lt isSlot
      rw [(stray_slots_eq_iff stray).2 harmless, if_neg]
      rintro ⟨-, same⟩
      exact absurd s.isLt (same ▸ isSlot)

/-- The next point is the last word on the slot it is about. -/
theorem slotAfter_concat (s : Fin maxSupportPoints) (points : List Point) (p : Point) :
    slotAfter s (points ++ [p]) =
      if p.IsAbout s then p.event (slotAfter s points) else slotAfter s points := by
  by_cases about : p.IsAbout s
  · obtain ⟨used, same⟩ := about
    by_cases up : p.type = touchEventUp
    · simp [slotAfter, touches, places, Point.IsAbout, Point.event, same, up]
    · simp [slotAfter, touches, places, Point.IsAbout, Point.event, used, same, up]
  · have other : ¬ (p.type ≠ touchEventReserved ∧ p.type ≠ touchEventUp ∧ p.id.val = s) :=
      fun ⟨used, _, same⟩ => about ⟨used, same⟩
    have notTouched : ¬ (p.type ≠ touchEventReserved ∧ p.id.val = s) := about
    rw [if_neg about]
    simp [slotAfter, touches, places, notTouched, other]

/-! ## Any reports -/

/-- Every stray point is harmless where it is reported. -/
def StraysHarmless (points : List Point) : Prop :=
  ∀ front p back, points = front ++ p :: back →
    StrayHarmless (front.foldl reportPoint probedSlots) p

/-- As long as stray points are harmless, each slot shows its own points. -/
theorem slots_track {points : List Point} (harmless : StraysHarmless points)
    (s : Fin maxSupportPoints) :
    (points.foldl reportPoint probedSlots).slots s = slotAfter s points := by
  induction points using List.reverseRecOn with
  | nil => rfl
  | append_singleton points p ih =>
      have earlier : StraysHarmless points := by
        rintro front q back rfl
        exact harmless front q (back ++ [p]) (by simp)
      rw [List.foldl_append, List.foldl_cons, List.foldl_nil,
        reportPoint_slots (harmless points p [] rfl), ih earlier, slotAfter_concat]

theorem edtFt5426TsIsr_eq (input : InputMt maxSupportPoints) (read : Option Report) :
    edtFt5426TsIsr input read = (pointsOf read).foldl reportPoint input := by
  cases read with
  | none => rfl
  | some report => simp [edtFt5426TsIsr, pointsOf, List.foldl_map]

/-- A run of the handler reports the points of its reads, in order. -/
theorem foldl_edtFt5426TsIsr (input : InputMt maxSupportPoints) (reads : List (Option Report)) :
    reads.foldl edtFt5426TsIsr input = (reads.flatMap pointsOf).foldl reportPoint input := by
  rw [List.foldl_flatMap]
  congr 1
  funext input read
  exact edtFt5426TsIsr_eq input read

/-- The controller numbers its touches below `MAX_SUPPORT_POINTS`. -/
def Numbered (points : List Point) : Prop :=
  ∀ p ∈ points, p.type ≠ touchEventReserved → p.id < maxSupportPoints

theorem straysHarmless_of_numbered {points : List Point} (numbered : Numbered points) :
    StraysHarmless points := by
  intro front p back here used stray
  have isSlot := numbered p (by simp [here]) used
  exact absurd stray (Nat.not_le.2 isSlot)

/-- **The slot table tracks the packets.**  Over any reports and failed transfers,
after each of them every slot shows its own most recent points, and points whose
id is no slot change none, exactly when all stray points are harmless, as they are if
there is none. -/
theorem slots_track_packets_iff (reads : List (Option Report)) :
    (((∀ front back, reads = front ++ back → ∀ s,
        (front.foldl edtFt5426TsIsr probedSlots).slots s =
          slotAfter s (front.flatMap pointsOf)) ∧
      (∀ front p back, reads.flatMap pointsOf = front ++ p :: back →
        maxSupportPoints ≤ p.id →
          (reportPoint (front.foldl reportPoint probedSlots) p).slots =
            (front.foldl reportPoint probedSlots).slots)) ↔
      StraysHarmless (reads.flatMap pointsOf)) ∧
    (Numbered (reads.flatMap pointsOf) → StraysHarmless (reads.flatMap pointsOf)) := by
  refine ⟨?_, straysHarmless_of_numbered⟩
  constructor
  · rintro ⟨-, ignored⟩ front p back here used stray
    exact (stray_slots_eq_iff stray).1 (ignored front p back here stray) used stray
  · intro harmless
    refine ⟨?_, ?_⟩
    · rintro front back rfl s
      rw [foldl_edtFt5426TsIsr]
      refine slots_track ?_ s
      rintro before p after here
      exact harmless before p (after ++ back.flatMap pointsOf) (by simp [here])
    · intro front p back here stray
      exact (stray_slots_eq_iff stray).2 (harmless front p back here)

/-- Touch 0 at (10, 20), then a touch 7 at (30, 40). -/
def strayReport : Report :=
  ⟨#[2, 0x00, 20, 0x00, 10, 0, 0, 0x00, 40, 0x70, 30, 0, 0,
    0xc0, 0, 0, 0, 0, 0, 0xc0, 0, 0, 0, 0, 0, 0xc0, 0, 0, 0], rfl⟩

/-- Slot 0 is moved by touch 7. -/
theorem stray_point_moves_slot :
    ∃ s : Fin maxSupportPoints,
      (edtFt5426TsIsr probedSlots (some strayReport)).slots s =
          { active := true, x := 30, y := 40 } ∧
        slotAfter s (pointsOf (some strayReport)) = { active := true, x := 10, y := 20 } ∧
        ¬ ∀ reads : List (Option Report), (reads.foldl edtFt5426TsIsr probedSlots).slots s =
          slotAfter s (reads.flatMap pointsOf) := by
  refine ⟨⟨0, by decide⟩, by decide, by decide, ?_⟩
  intro track
  have tracked := track [some strayReport]
  revert tracked
  decide

end LearningKernel.MultiTouch
