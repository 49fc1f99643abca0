/-
# Theory.Changes -- a table sent as its changes

A sender keeps a table of cells, in rows of fields, and some single values.  It tells a
receiver only what changes, and names a row only when a cell of another row than the one named
last changes: until then a row that is merely staged is not told.

`Sent s msgs s'` says that the messages take the view that `s` has given to the view that `s'`
has given, and that each of them changes the view of who receives it.  Every operation of the
sender is one (`sent_stage`, `sent_put`, `sent_set`), and so is one after the other
(`Sent.append`).
-/
import Mathlib.Logic.Function.Basic
import Mathlib.Tactic.Common

namespace LearningKernel.Theory.Changes

set_option autoImplicit false
set_option linter.unusedSectionVars false

variable {I F G V : Type}

inductive Msg (I F G V : Type) where
  /-- the row of the next cells -/
  | select (i : I)
  | put (f : F) (v : V)
  | set (g : G) (v : V)
  deriving DecidableEq

/-- What a receiver knows. -/
structure View (I F G V : Type) where
  table : I → F → V
  single : G → V
  row : I

/-- The sender: the view that it has given, and the row that it means. -/
structure Sender (I F G V : Type) where
  view : View I F G V
  staged : I

variable [DecidableEq I] [DecidableEq F] [DecidableEq G] [DecidableEq V]

/-- One cell changed. -/
def View.write (w : View I F G V) (i : I) (f : F) (v : V) : View I F G V :=
  { w with table := Function.update w.table i (Function.update (w.table i) f v) }

def View.receive (w : View I F G V) : Msg I F G V → View I F G V
  | .select i => { w with row := i }
  | .put f v => w.write w.row f v
  | .set g v => { w with single := Function.update w.single g v }

/-- Each message changes the view that it finds. -/
def Effective : View I F G V → List (Msg I F G V) → Prop
  | _, [] => True
  | w, m :: ms => w.receive m ≠ w ∧ Effective (w.receive m) ms

namespace Sender

variable (s : Sender I F G V)

def stage (i : I) : Sender I F G V := { s with staged := i }

/-- The cell of the staged row, where it changes. -/
def put (f : F) (v : V) : List (Msg I F G V) × Sender I F G V :=
  if s.view.table s.staged f = v then ([], s)
  else
    ((if s.staged = s.view.row then [] else [.select s.staged]) ++ [.put f v],
      { s with view := { s.view.write s.staged f v with row := s.staged } })

def set (g : G) (v : V) : List (Msg I F G V) × Sender I F G V :=
  if s.view.single g = v then ([], s)
  else
    ([.set g v], { s with view := { s.view with single := Function.update s.view.single g v } })

end Sender

/-- The messages bring a receiver from one view to the other, and none is idle. -/
structure Sent (s : Sender I F G V) (msgs : List (Msg I F G V)) (s' : Sender I F G V) : Prop where
  received : msgs.foldl View.receive s.view = s'.view
  effective : Effective s.view msgs

theorem effective_append {w : View I F G V} {ms ns : List (Msg I F G V)} :
    Effective w (ms ++ ns) ↔ Effective w ms ∧ Effective (ms.foldl View.receive w) ns := by
  induction ms generalizing w with
  | nil =>
      show Effective w ns ↔ True ∧ Effective w ns
      rw [true_and]
  | cons m ms ih =>
      show (_ ∧ Effective _ (ms ++ ns)) ↔ (_ ∧ Effective _ ms) ∧ _
      rw [ih, and_assoc]
      rfl

theorem Sent.refl (s : Sender I F G V) : Sent s [] s := ⟨rfl, trivial⟩

theorem Sent.append {s t u : Sender I F G V} {ms ns : List (Msg I F G V)} (first : Sent s ms t)
    (second : Sent t ns u) : Sent s (ms ++ ns) u := by
  refine ⟨?_, ?_⟩
  · rw [List.foldl_append, first.received, second.received]
  · rw [effective_append, first.received]
    exact ⟨first.effective, second.effective⟩

theorem sent_stage (s : Sender I F G V) (i : I) : Sent s [] (s.stage i) := ⟨rfl, trivial⟩

theorem View.write_ne {w : View I F G V} {i : I} {f : F} {v : V} (changes : w.table i f ≠ v) :
    w.write i f v ≠ w := by
  intro same
  have cell : (w.write i f v).table i f = v := by
    simp only [View.write, Function.update_self]
  rw [same] at cell
  exact changes cell

theorem sent_put (s : Sender I F G V) (f : F) (v : V) :
    Sent s (s.put f v).1 (s.put f v).2 := by
  unfold Sender.put
  by_cases same : s.view.table s.staged f = v
  · rw [if_pos same]
    exact Sent.refl s
  · rw [if_neg same]
    by_cases here : s.staged = s.view.row
    · rw [if_pos here]
      refine ⟨?_, ?_, trivial⟩
      · show s.view.write s.view.row f v = { s.view.write s.staged f v with row := s.staged }
        rw [here]
        rfl
      · rw [View.receive, ← here]
        exact View.write_ne same
    · rw [if_neg here]
      refine ⟨rfl, ?_, ?_, trivial⟩
      · intro unmoved
        exact here (congrArg View.row unmoved)
      · exact View.write_ne (w := { s.view with row := s.staged }) same

theorem sent_set (s : Sender I F G V) (g : G) (v : V) :
    Sent s (s.set g v).1 (s.set g v).2 := by
  unfold Sender.set
  by_cases same : s.view.single g = v
  · rw [if_pos same]
    exact Sent.refl s
  · rw [if_neg same]
    refine ⟨rfl, ?_, trivial⟩
    intro unchanged
    have value : (s.view.receive (.set g v)).single g = v := Function.update_self _ _ _
    rw [unchanged] at value
    exact same value

/-! ## What the operations leave -/

@[simp] theorem put_staged (s : Sender I F G V) (f : F) (v : V) :
    (s.put f v).2.staged = s.staged := by
  unfold Sender.put
  split <;> rfl

@[simp] theorem set_staged (s : Sender I F G V) (g : G) (v : V) :
    (s.set g v).2.staged = s.staged := by
  unfold Sender.set
  split <;> rfl

@[simp] theorem set_table (s : Sender I F G V) (g : G) (v : V) :
    (s.set g v).2.view.table = s.view.table := by
  unfold Sender.set
  split <;> rfl

@[simp] theorem put_table (s : Sender I F G V) (f : F) (v : V) :
    (s.put f v).2.view.table =
      Function.update s.view.table s.staged (Function.update (s.view.table s.staged) f v) := by
  unfold Sender.put
  split
  · rename_i same
    rw [← same, Function.update_eq_self, Function.update_eq_self]
  · rfl

@[simp] theorem set_single (s : Sender I F G V) (g : G) (v : V) :
    (s.set g v).2.view.single = Function.update s.view.single g v := by
  unfold Sender.set
  split
  · rename_i same
    rw [← same, Function.update_eq_self]
  · rfl

end LearningKernel.Theory.Changes
