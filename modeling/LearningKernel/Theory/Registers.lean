/-
# Theory.Registers -- registers that are written one by one and reset together

A `Change` writes one register or resets all of them to their `fresh` values, and `after`
is what a log of changes leaves.  Where a log writes only one value to a register, the
register holds it exactly if it was written since the last reset, or was so all along
(`holds_iff`).

A `Device` keeps its registers in a `Memory`, and a value written to its control register
may ask for a reset; `Served` says that one state follows from another by a log, and
`served_store` and `Served.trans` build the log of a driver's accesses.
-/
import LearningKernel.Theory.Latest
import LearningKernel.Theory.Memory
import Mathlib.Logic.Function.Basic

namespace LearningKernel.Theory

set_option autoImplicit false

universe u v

/-! ## Changes -/

/-- What happens to a file of registers. -/
inductive Change (R : Type u) (V : Type v) where
  | write (r : R) (v : V)
  | reset
  deriving DecidableEq

namespace Change

variable {R : Type u} {V : Type v} [DecidableEq R]

/-- The file after a change. -/
def apply (fresh file : R → V) : Change R V → R → V
  | .write r v => Function.update file r v
  | .reset => fresh

/-- The file after a log of changes, the first one first. -/
def after (fresh file : R → V) (log : List (Change R V)) : R → V := log.foldl (apply fresh) file

variable {fresh file : R → V} {log : List (Change R V)} {r : R} {v : V}

theorem after_append (log log' : List (Change R V)) :
    after fresh file (log ++ log') = after fresh (after fresh file log) log' :=
  List.foldl_append

/-- The register is written, and not reset since. -/
def WrittenSince (log : List (Change R V)) (r : R) (v : V) : Prop :=
  Since (· = .write r v) (· = .reset) log

/-- **A register that is given one value only** holds it exactly if it was written since
the last reset, or was its fresh value. -/
theorem holds_iff (only : ∀ w, .write r w ∈ log → w = v) :
    after fresh fresh log r = v ↔ fresh r = v ∨ WrittenSince log r v := by
  induction log using List.reverseRecOn with
  | nil => exact (or_iff_left since_nil).symm
  | append_singleton log c ih =>
      have before := ih fun w member => only w (List.mem_append_left _ member)
      rw [after_append, WrittenSince, since_concat]
      cases c with
      | reset => simp [after, apply]
      | write r' w =>
          by_cases same : r' = r
          · subst same
            obtain rfl := only w (List.mem_append_right _ (List.mem_singleton.2 rfl))
            simp [after, apply]
          · have other : ¬ (r' = r ∧ w = v) := fun both => same both.1
            simp only [after, apply, List.foldl_cons, List.foldl_nil,
              Function.update_of_ne (Ne.symm same), Change.write.injEq, other, false_or,
              reduceCtorEq, not_false_eq_true, true_and]
            exact before

end Change

/-! ## Devices -/

/-- A device of `n` registers: what they hold when it is fresh, and the values of its
control register that make it so again. -/
structure Device (n : Nat) where
  fresh : Memory n
  control : Nat
  resets : UInt8 → Bool
  /-- it does not go on resetting itself -/
  starts : resets (fresh.get control) = false

namespace Device

variable {n : Nat} (dev : Device n)

/-- No reset is asked for. -/
def Ready (file : Memory n) : Prop := dev.resets (file.get dev.control) = false

instance (file : Memory n) : Decidable (dev.Ready file) :=
  inferInstanceAs (Decidable (_ = _))

/-- The registers after an access. -/
def settle (file : Memory n) : Memory n := if dev.Ready file then file else dev.fresh

/-- What it means to write a value to a register. -/
def change (r : Nat) (v : UInt8) : Change Nat UInt8 :=
  if r = dev.control ∧ dev.resets v = true then .reset else .write r v

/-- The log leads from one state to the other. -/
structure Served (file : Memory n) (log : List (Change Nat UInt8)) (file' : Memory n) :
    Prop where
  ready : dev.Ready file'
  get : file'.get = Change.after dev.fresh.get file.get log

variable {dev}

theorem settle_ready {file : Memory n} (ready : dev.Ready file) : dev.settle file = file :=
  if_pos ready

theorem Served.refl {file : Memory n} (ready : dev.Ready file) : dev.Served file [] file :=
  ⟨ready, rfl⟩

theorem Served.trans {file file' file'' : Memory n} {log log' : List (Change Nat UInt8)}
    (first : dev.Served file log file') (second : dev.Served file' log' file'') :
    dev.Served file (log ++ log') file'' := by
  refine ⟨second.ready, ?_⟩
  rw [second.get, first.get, Change.after_append]

theorem served_fresh (file : Memory n) : dev.Served file [.reset] dev.fresh := ⟨dev.starts, rfl⟩

theorem get_store_single (file : Memory n) {r : Nat} (inside : r < n) (v : UInt8) :
    (file.store r [v]).get = Function.update file.get r v := by
  funext i
  by_cases here : i = r
  · subst here
    rw [Memory.get_store _ _ _ inside, if_pos (Nat.le_refl i), Nat.sub_self, Function.update_self]
    rfl
  · rw [Function.update_of_ne here]
    apply Memory.get_store_outside
    rw [List.length_singleton]
    omega

/-- A value written to a register. -/
theorem served_store {file : Memory n} (ready : dev.Ready file) {r : Nat} (inside : r < n)
    (v : UInt8) : dev.Served file [dev.change r v] (dev.settle (file.store r [v])) := by
  have stored := get_store_single file inside v
  unfold settle change
  by_cases still : dev.Ready (file.store r [v])
  · have quiet : ¬ (r = dev.control ∧ dev.resets v = true) := by
      rintro ⟨rfl, resets⟩
      rw [Ready, stored, Function.update_self, resets] at still
      cases still
    rw [if_pos still, if_neg quiet]
    exact ⟨still, stored⟩
  · have asked : r = dev.control ∧ dev.resets v = true := by
      rw [Ready, stored] at still
      by_cases control : dev.control = r
      · subst control
        rw [Function.update_self] at still
        exact ⟨rfl, eq_true_of_ne_false still⟩
      · rw [Function.update_of_ne control] at still
        exact absurd ready still
    rw [if_neg still, if_pos asked]
    exact served_fresh file

end Device

end LearningKernel.Theory
