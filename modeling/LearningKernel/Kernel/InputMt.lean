/-
# Kernel.InputMt -- the slot table of the input core

What `input_mt_init_slots` sets up, and the events that act on it: `ABS_MT_SLOT`
selects a slot when its value is one and is ignored otherwise; slot state and
position go to the slot that is selected.
-/
import Mathlib.Logic.Function.Basic
import Mathlib.Tactic.Common

namespace LearningKernel.Kernel

set_option autoImplicit false

/-- A slot: whether it has a tracking id, `ABS_MT_POSITION_X` and `_Y`. -/
structure MtSlot where
  active : Bool
  x : Nat
  y : Nat
  deriving DecidableEq

/-- `struct input_mt`, with `numSlots` slots of which one is selected. -/
structure InputMt (numSlots : Nat) where
  slots : Fin numSlots → MtSlot
  slot : Fin numSlots

namespace InputMt

variable {numSlots : Nat}

/-- `input_mt_init_slots`. -/
def initSlots (numSlots : Nat) (some_ : 0 < numSlots) : InputMt numSlots :=
  { slots := fun _ => { active := false, x := 0, y := 0 }, slot := ⟨0, some_⟩ }

/-- `input_mt_slot`. -/
def selectSlot (mt : InputMt numSlots) (value : Nat) : InputMt numSlots :=
  if isSlot : value < numSlots then { mt with slot := ⟨value, isSlot⟩ } else mt

/-- The slot that events go to. -/
def selected (mt : InputMt numSlots) : MtSlot := mt.slots mt.slot

def modifySelected (mt : InputMt numSlots) (event : MtSlot → MtSlot) : InputMt numSlots :=
  { mt with slots := Function.update mt.slots mt.slot (event mt.selected) }

/-- `input_mt_report_slot_state`. -/
def reportSlotState (mt : InputMt numSlots) (active : Bool) : InputMt numSlots :=
  mt.modifySelected fun s => { s with active := active }

/-- `input_report_abs` of `ABS_MT_POSITION_X`. -/
def reportX (mt : InputMt numSlots) (x : Nat) : InputMt numSlots :=
  mt.modifySelected fun s => { s with x := x }

/-- `input_report_abs` of `ABS_MT_POSITION_Y`. -/
def reportY (mt : InputMt numSlots) (y : Nat) : InputMt numSlots :=
  mt.modifySelected fun s => { s with y := y }

@[simp] theorem selectSlot_slots (mt : InputMt numSlots) (value : Nat) :
    (mt.selectSlot value).slots = mt.slots := by
  unfold selectSlot
  split <;> rfl

theorem selectSlot_slot {mt : InputMt numSlots} {value : Nat} (isSlot : value < numSlots) :
    (mt.selectSlot value).slot = ⟨value, isSlot⟩ := by
  simp [selectSlot, isSlot]

theorem selectSlot_ignored {mt : InputMt numSlots} {value : Nat} (notSlot : numSlots ≤ value) :
    mt.selectSlot value = mt := by
  simp [selectSlot, Nat.not_lt.2 notSlot]

/-- Two events on the selected slot are one. -/
@[simp] theorem modifySelected_modifySelected (mt : InputMt numSlots) (f g : MtSlot → MtSlot) :
    (mt.modifySelected f).modifySelected g = mt.modifySelected fun s => g (f s) := by
  simp [modifySelected, selected]

theorem modifySelected_slots (mt : InputMt numSlots) (event : MtSlot → MtSlot)
    (s : Fin numSlots) :
    (mt.modifySelected event).slots s = if s = mt.slot then event mt.selected else mt.slots s := by
  simp [modifySelected, Function.update_apply]

/-- An event leaves the table alone exactly when it leaves the selected slot alone. -/
theorem modifySelected_slots_eq_iff {mt : InputMt numSlots} {event : MtSlot → MtSlot} :
    (mt.modifySelected event).slots = mt.slots ↔ event mt.selected = mt.selected := by
  simp [modifySelected, selected]

end InputMt

end LearningKernel.Kernel
