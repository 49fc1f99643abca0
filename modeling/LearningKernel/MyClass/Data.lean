/-
# MyClass.Data -- the data registers under concurrent writers

`led_chrdev_write` reads the data register of its device, drives one bit of what
it read, and writes the result, each access by itself and without a lock.  Any
number of clients may be in such calls; devices 1 and 2 share a register.

* `kept_of_undisturbed`: in a run in which every `iowrite32` finds the other bits
  of the register as its call read them, each pin has the level of the last write
  to it, and what no write names is unchanged;
* `undisturbed_iff`: a step that does not find them so changes a level that is
  not its own;
* `undisturbed_of_alone`: it does if no `iowrite32` comes between the two accesses
  of a call on another device with the same register.
-/
import LearningKernel.MyClass.Device
import LearningKernel.Theory.Latest
import LearningKernel.Theory.Machine

namespace LearningKernel.MyClass

open LearningKernel.Theory LearningKernel.Kernel

set_option autoImplicit false

/-- Where a client is in `led_chrdev_write`. -/
inductive Phase where
  | idle
  /-- before `ioread32`, with the number of the text -/
  | parsed (d : Dev) (ret : Nat)
  /-- before `iowrite32`, with what was read -/
  | read (d : Dev) (ret : Nat) (val : BitVec 32)
  deriving DecidableEq

/-- The registers, by physical address, and the clients. -/
structure DataState (Client : Type) where
  word : Nat → BitVec 32
  phase : Client → Phase

inductive Access (Client : Type) where
  | write (c : Client) (d : Dev) (buf : UserText)
  | ioread32 (c : Client)
  | iowrite32 (c : Client)

variable {Client : Type} [DecidableEq Client]

def enter (s : DataState Client) (c : Client) (phase : Phase) : DataState Client :=
  { s with phase := Function.update s.phase c phase }

def accessStep (s : DataState Client) : Access Client → Option (Unit × DataState Client)
  | .write c d buf =>
      match s.phase c with
      | .idle => some ((), enter s c (.parsed d (writtenNumber buf)))
      | _ => none
  | .ioread32 c =>
      match s.phase c with
      | .parsed d ret => some ((), enter s c (.read d ret (s.word (d.pa .dr))))
      | _ => none
  | .iowrite32 c =>
      match s.phase c with
      | .read d ret val =>
          some ((), enter { s with word := Function.update s.word (d.pa .dr) (driven d ret val) } c
            .idle)
      | _ => none

/-- Clients in `led_chrdev_write`, their accesses in any order. -/
def dataMachine (Client : Type) [DecidableEq Client] :
    Machine (DataState Client) (Access Client) Unit := ⟨accessStep⟩

abbrev DataEvent (Client : Type) := Event (DataState Client) (Access Client) Unit

/-- The call that makes its `iowrite32`: its device, its number, and what it read. -/
def storing (e : DataEvent Client) : Option (Dev × Nat × BitVec 32) :=
  match e.act with
  | .iowrite32 c =>
      match e.source.phase c with
      | .read d ret val => some (d, ret, val)
      | _ => none
  | _ => none

omit [DecidableEq Client] in
theorem storing_eq_some_iff {e : DataEvent Client} {call : Dev × Nat × BitVec 32} :
    storing e = some call ↔
      ∃ c, e.act = .iowrite32 c ∧ e.source.phase c = .read call.1 call.2.1 call.2.2 := by
  obtain ⟨s, act, out, t⟩ := e
  cases act with
  | write c d buf => simp [storing]
  | ioread32 c => simp [storing]
  | iowrite32 c =>
      simp only [storing, Access.iowrite32.injEq, exists_eq_left']
      cases s.phase c with
      | idle => simp
      | parsed d ret => simp
      | read d ret val =>
          obtain ⟨d', ret', val'⟩ := call
          simp

/-- The level that an event drives pin `pin` of the register at `pa` to. -/
def drives (pa pin : Nat) (e : DataEvent Client) : Option Bool :=
  match storing e with
  | some (d, ret, _) => if d.pa .dr = pa ∧ d.ledPin = pin then some (decide (ret ≠ 0)) else none
  | none => none

/-- The cases of one access: only an `iowrite32` changes the registers. -/
theorem access_cases {e : DataEvent Client} (taken : (dataMachine Client).Takes e) :
    (storing e = none ∧ e.target.word = e.source.word) ∨
      ∃ d ret val, storing e = some (d, ret, val) ∧
        e.target.word = Function.update e.source.word (d.pa .dr) (driven d ret val) := by
  obtain ⟨s, act, ⟨⟩, t⟩ := e
  simp only [Machine.Takes, dataMachine] at taken
  cases act with
  | write c d buf =>
      simp only [accessStep] at taken
      split at taken <;> cases taken
      exact Or.inl ⟨rfl, rfl⟩
  | ioread32 c =>
      simp only [accessStep] at taken
      split at taken <;> cases taken
      exact Or.inl ⟨rfl, rfl⟩
  | iowrite32 c =>
      simp only [accessStep] at taken
      split at taken <;> cases taken
      rename_i d ret val here
      exact Or.inr ⟨d, ret, val, by simp [storing, here], rfl⟩

/-! ## Undisturbed writes -/

/-- The other bits of the register are as the call read them. -/
def Undisturbed (e : DataEvent Client) : Prop :=
  match storing e with
  | some (d, _, val) => e.source.word (d.pa .dr) &&& ~~~d.bit = val &&& ~~~d.bit
  | none => True

instance (e : DataEvent Client) : Decidable (Undisturbed e) := by
  unfold Undisturbed
  cases storing e with
  | none => exact inferInstanceAs (Decidable True)
  | some call => exact inferInstanceAs (Decidable (_ = _))

/-- Two words agree but for the pin of the device. -/
theorem masked_eq_iff {d : Dev} {val val' : BitVec 32} :
    val &&& ~~~d.bit = val' &&& ~~~d.bit ↔
      ∀ pin, d.ledPin ≠ pin → val.getLsbD pin = val'.getLsbD pin := by
  constructor
  · intro same pin other
    by_cases inside : pin < 32
    · have here := congrArg (fun word : BitVec 32 => word.getLsbD pin) same
      simp only [BitVec.getLsbD_and, BitVec.getLsbD_not, d.getLsbD_bit] at here
      simpa [inside, other] using here
    · rw [BitVec.getLsbD_of_ge _ _ (Nat.le_of_not_lt inside),
        BitVec.getLsbD_of_ge _ _ (Nat.le_of_not_lt inside)]
  · intro same
    apply BitVec.eq_of_getLsbD_eq
    intro pin inside
    rw [BitVec.getLsbD_and, BitVec.getLsbD_and, BitVec.getLsbD_not, d.getLsbD_bit]
    by_cases other : d.ledPin = pin
    · simp [other]
    · rw [same pin other]

theorem driven_masked (d : Dev) (ret : Nat) (val : BitVec 32) :
    driven d ret val &&& ~~~d.bit = val &&& ~~~d.bit :=
  masked_eq_iff.2 fun _ other => getLsbD_driven_other d ret val other

/-- A step is undisturbed exactly if it changes no level but the one it drives. -/
theorem undisturbed_iff {e : DataEvent Client} (taken : (dataMachine Client).Takes e) :
    Undisturbed e ↔ ∀ pa pin, (e.target.word pa).getLsbD pin =
      (drives pa pin e).getD ((e.source.word pa).getLsbD pin) := by
  rcases access_cases taken with ⟨quiet, same⟩ | ⟨d, ret, val, here, changed⟩
  · simp [Undisturbed, drives, quiet, same]
  · simp only [Undisturbed, drives, here, changed]
    constructor
    · intro undisturbed pa pin
      by_cases register : d.pa .dr = pa
      · subst register
        rw [Function.update_self]
        by_cases own : d.ledPin = pin
        · subst own
          simp [getLsbD_driven_pin]
        · rw [getLsbD_driven_other d ret val own]
          simpa [own] using (masked_eq_iff.1 undisturbed pin own).symm
      · rw [Function.update_of_ne (Ne.symm register)]
        simp [register]
    · intro levels
      rw [masked_eq_iff]
      intro pin other
      have here := levels (d.pa .dr) pin
      rw [Function.update_self, getLsbD_driven_other d ret val other] at here
      simpa [other] using here.symm

/-- **No update lost.**  In a run of undisturbed steps every pin has the level of
the last write to it, and a pin that was not written is as it was. -/
theorem kept_of_undisturbed {s u : DataState Client} {es : List (DataEvent Client)}
    (path : (dataMachine Client).Path s es u) (undisturbed : ∀ e ∈ es, Undisturbed e)
    (pa pin : Nat) :
    (u.word pa).getLsbD pin = (latest (drives pa pin) es).getD ((s.word pa).getLsbD pin) := by
  refine path.history (C := Undisturbed)
    (J := fun es u => (u.word pa).getLsbD pin =
      (latest (drives pa pin) es).getD ((s.word pa).getLsbD pin)) rfl ?_ undisturbed
  intro es e _ taken here before
  rw [(undisturbed_iff taken).1 here pa pin, before, latest_concat]
  cases drives pa pin e <;> rfl

/-- Nothing is written and no call is in progress. -/
def quiet : DataState Client := { word := fun _ => 0, phase := fun _ => .idle }

/-- The text of one digit 1. -/
def textOne : UserText := { readable := [49], count := 1 }

/-- One client after the other lights LEDs 1 and 2. -/
theorem kept_in_turn :
    let acts : List (Access Bool) :=
      [.write false .led1 textOne, .ioread32 false, .iowrite32 false,
        .write true .led2 textOne, .ioread32 true, .iowrite32 true]
    let es := (dataMachine Bool).trace quiet acts
    (((dataMachine Bool).final quiet acts).word 0x20A8000).getLsbD 20 =
      (latest (drives 0x20A8000 20) es).getD (((quiet : DataState Bool).word 0x20A8000).getLsbD 20) :=
  kept_of_undisturbed (Machine.path_trace _ _ _) (by decide) 0x20A8000 20

/-- Both read the register before either writes it: the update of LED 1 is lost. -/
theorem update_lost :
    let acts : List (Access Bool) :=
      [.write false .led1 textOne, .write true .led2 textOne, .ioread32 false, .ioread32 true,
        .iowrite32 false, .iowrite32 true]
    let es := (dataMachine Bool).trace quiet acts
    let u := (dataMachine Bool).final quiet acts
    es.length = 6 ∧ u.phase false = .idle ∧ u.phase true = .idle ∧
      latest (drives 0x20A8000 20) es = some true ∧ (u.word 0x20A8000).getLsbD 20 = false := by
  decide

/-! ## Who disturbs -/

/-- No call on another device of the register is between its two accesses. -/
def Alone (e : DataEvent Client) : Prop :=
  ∀ d ret val, storing e = some (d, ret, val) →
    ∀ c d' ret' val', e.source.phase c = .read d' ret' val' → d'.pa .dr = d.pa .dr → d' = d

/-- What the calls have read is current, but for their own pins. -/
def Current (s : DataState Client) : Prop :=
  ∀ c d ret val, s.phase c = .read d ret val →
    s.word (d.pa .dr) &&& ~~~d.bit = val &&& ~~~d.bit

omit [DecidableEq Client] in
theorem undisturbed_of_current {e : DataEvent Client} (current : Current e.source) :
    Undisturbed e := by
  unfold Undisturbed
  cases here : storing e with
  | none => trivial
  | some call =>
      obtain ⟨c, -, reading⟩ := storing_eq_some_iff.1 here
      exact current c call.1 call.2.1 call.2.2 reading

/-- A step lets a call read, or changes a register that it does not share. -/
theorem current_step {e : DataEvent Client} (taken : (dataMachine Client).Takes e)
    (alone : Alone e) (current : Current e.source) : Current e.target := by
  obtain ⟨s, act, ⟨⟩, t⟩ := e
  simp only [Machine.Takes, dataMachine] at taken
  cases act with
  | write c d buf =>
      simp only [accessStep] at taken
      split at taken <;> cases taken
      intro c' d' ret' val' reading
      by_cases same : c' = c
      · simp [enter, same] at reading
      · simp only [enter, Function.update_of_ne same] at reading ⊢
        exact current c' d' ret' val' reading
  | ioread32 c =>
      simp only [accessStep] at taken
      split at taken <;> cases taken
      intro c' d' ret' val' reading
      by_cases same : c' = c
      · simp only [enter, same, Function.update_self] at reading ⊢
        cases reading
        rfl
      · simp only [enter, Function.update_of_ne same] at reading ⊢
        exact current c' d' ret' val' reading
  | iowrite32 c =>
      simp only [accessStep] at taken
      split at taken <;> cases taken
      rename_i d ret val here
      intro c' d' ret' val' reading
      by_cases same : c' = c
      · simp [enter, same] at reading
      · simp only [enter, Function.update_of_ne same] at reading ⊢
        have before := current c' d' ret' val' reading
        by_cases register : d'.pa .dr = d.pa .dr
        · obtain rfl := alone d ret val (storing_eq_some_iff.2 ⟨c, rfl, here⟩) c' d' ret' val'
            reading register
          rw [Function.update_self, driven_masked, ← current c d' ret val here]
          exact before
        · rw [Function.update_of_ne register]
          exact before

/-- Calls that keep out of each other's accesses disturb nobody. -/
theorem undisturbed_of_alone {s u : DataState Client} {es : List (DataEvent Client)}
    (path : (dataMachine Client).Path s es u) (start : ∀ c, s.phase c = .idle)
    (alone : ∀ e ∈ es, Alone e) : ∀ e ∈ es, Undisturbed e := by
  have current : Current s := by
    intro c d ret val reading
    rw [start c] at reading
    cases reading
  intro e member
  have along := (path.keeps (C := Alone) (I := Current) (fun e => current_step) alone current).2
  exact undisturbed_of_current (along e member).2.1

end LearningKernel.MyClass
