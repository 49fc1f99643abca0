/-
# MiscBeep.Ownership -- the beeper's GPIO and its device

`miscbeep_probe` runs on into its label `free_gpio`: whether `misc_register`
succeeds or fails, it frees the GPIO and answers 0.  `owned_iff`: the GPIO is owned
exactly while the device exists in those runs only in which no probe gets the
GPIO at all.
-/
import LearningKernel.Kernel.Text
import LearningKernel.Theory.Machine
import LearningKernel.Theory.Outcome

namespace LearningKernel.MiscBeep

open LearningKernel.Theory LearningKernel.Kernel

set_option autoImplicit false

inductive Call where
  | ofGetNamedGpio
  | gpioRequest
  | gpioDirectionOutput
  | miscRegister
  | gpioSetValue (level : Bool)
  | gpioFree
  | miscDeregister
  deriving DecidableEq

/-- What a probe answers. -/
inductive Answer where
  | zero
  | errno (code : Int)
  /-- the negative code of the call that failed -/
  | callee
  deriving DecidableEq

/-- `miscbeep_gpio_init`, before the rest of its caller. -/
def miscbeepGpioInit (rest : Script Call Answer) : Script Call Answer :=
  .attempt .ofGetNamedGpio
    (.attempt .gpioRequest (.call .gpioDirectionOutput rest) (.ret .callee))
    (.ret (.errno (-einval)))

/-- `miscbeep_probe`: both ways from `misc_register` lead to `free_gpio`. -/
def miscbeepProbe : Script Call Answer :=
  let freeGpio := .call .gpioFree (.ret .zero)
  miscbeepGpioInit (.attempt .miscRegister freeGpio freeGpio)

/-- `miscbeep_remove`. -/
def miscbeepRemove : Script Call Answer :=
  .calls [.gpioSetValue true, .gpioFree, .miscDeregister] (.ret .zero)

/-- What `miscbeep_write` calls. -/
def miscbeepWrite (buf : UserText) : List Call :=
  match kstrtoulFromUser 32 .announced buf with
  | .ok value => [.gpioSetValue (value = 0)]
  | .error _ => []

/-- The GPIO and the registration that a list of calls leaves. -/
structure Held where
  gpio : Bool := false
  registered : Bool := false
  deriving DecidableEq

def own (held : Held) : Call → Held
  | .gpioRequest => { held with gpio := true }
  | .gpioFree => { held with gpio := false }
  | .miscRegister => { held with registered := true }
  | .miscDeregister => { held with registered := false }
  | .ofGetNamedGpio | .gpioDirectionOutput | .gpioSetValue _ => held

/-- The calls so far, whether the last probe answered 0 and has not been removed, and
the open files. -/
structure BeepState (File : Type) where
  log : List Call
  bound : Bool
  files : File → Bool

def BeepState.held {File : Type} (s : BeepState File) : Held := s.log.foldl own {}

inductive Entry (File : Type) where
  | probe (fails : Nat → Bool)
  | remove
  | opens (f : File)
  | write (f : File) (buf : UserText)
  | release (f : File)

variable {File : Type} [DecidableEq File]

/-- One call of the driver.  A file is opened while the device is registered, and may
stay open after it. -/
def beepStep (s : BeepState File) : Entry File → Option (Unit × BeepState File)
  | .probe fails =>
      if s.bound then none
      else
        let result := miscbeepProbe.exec fails
        some ((), { s with log := s.log ++ result.1, bound := result.2 = .zero })
  | .remove =>
      if s.bound then
        some ((), { s with
          log := s.log ++ (miscbeepRemove.exec fun _ => false).1
          bound := false })
      else none
  | .opens f =>
      if s.held.registered ∧ s.files f = false then
        some ((), { s with files := Function.update s.files f true })
      else none
  | .write f buf =>
      if s.files f then some ((), { s with log := s.log ++ miscbeepWrite buf }) else none
  | .release f =>
      if s.files f then some ((), { s with files := Function.update s.files f false }) else none

def beepMachine (File : Type) [DecidableEq File] : Machine (BeepState File) (Entry File) Unit :=
  ⟨beepStep⟩

abbrev BeepEvent (File : Type) := Event (BeepState File) (Entry File) Unit

/-- The driver registered, and no device probed yet. -/
def unprobed (File : Type) : BeepState File := { log := [], bound := false, files := fun _ => false }

/-! ## Ownership -/

/-- The GPIO is owned exactly while the device exists. -/
structure Owned (s : BeepState File) : Prop where
  registered : s.held.registered = s.bound
  gpio : s.held.gpio = s.held.registered
  /-- the value is set, and the GPIO freed, only while it is held -/
  uses : ∀ front k back, s.log = front ++ k :: back → (∃ level, k = .gpioSetValue level) ∨
    k = .gpioFree → (front.foldl own {}).gpio = true
  /-- every request but that of the present device is freed once -/
  frees : s.log.count .gpioFree + (if s.held.registered then 1 else 0) = s.log.count .gpioRequest

/-- The probe does not get the GPIO. -/
def GetsNoGpio (e : BeepEvent File) : Prop :=
  match e.act with
  | .probe fails => fails 0 = true ∨ fails 1 = true
  | _ => True

instance (e : BeepEvent File) : Decidable (GetsNoGpio e) :=
  match act : e.act with
  | .probe fails => decidable_of_iff (fails 0 = true ∨ fails 1 = true) (by simp only [GetsNoGpio, act])
  | .remove | .opens _ | .write .. | .release _ => isTrue (by simp only [GetsNoGpio, act])

/-- A probe without the GPIO calls nothing that lasts, and fails. -/
theorem exec_without_gpio {fails : Nat → Bool} (without : fails 0 = true ∨ fails 1 = true) :
    (miscbeepProbe.exec fails).2 ≠ .zero ∧
      ∀ k ∈ (miscbeepProbe.exec fails).1, k = .ofGetNamedGpio := by
  cases first : fails 0 with
  | true => simp [miscbeepProbe, miscbeepGpioInit, Script.exec, first]
  | false =>
      have second : fails 1 = true := by
        rcases without with here | here
        · rw [first] at here
          cases here
        · exact here
      simp [miscbeepProbe, miscbeepGpioInit, Script.exec, first, second]

/-- A probe with the GPIO frees it, and answers 0. -/
theorem exec_with_gpio {fails : Nat → Bool} (first : fails 0 = false) (second : fails 1 = false)
    (held : Held) :
    (miscbeepProbe.exec fails).2 = .zero ∧
      ((miscbeepProbe.exec fails).1.foldl own held).gpio = false := by
  cases third : fails 2 <;>
    simp [miscbeepProbe, miscbeepGpioInit, Script.exec, first, second, third, own]

/-! ## Runs -/

/-- Nothing but lookups was ever called, and nobody got in. -/
structure Untouched (s : BeepState File) : Prop where
  log : ∀ k ∈ s.log, k = .ofGetNamedGpio
  bound : s.bound = false
  files : ∀ f, s.files f = false

theorem foldl_lookups {ks : List Call} (lookups : ∀ k ∈ ks, k = .ofGetNamedGpio) (held : Held) :
    ks.foldl own held = held := by
  induction ks with
  | nil => rfl
  | cons k ks ih =>
      have first : k = .ofGetNamedGpio := lookups k List.mem_cons_self
      have later := ih fun k' member => lookups k' (List.mem_cons_of_mem _ member)
      rw [List.foldl_cons, first]
      exact later

omit [DecidableEq File] in
theorem Untouched.held {s : BeepState File} (untouched : Untouched s) : s.held = {} :=
  foldl_lookups untouched.log {}

omit [DecidableEq File] in
theorem Untouched.owned {s : BeepState File} (untouched : Untouched s) : Owned s := by
  have held := untouched.held
  have none : ∀ k, k ≠ .ofGetNamedGpio → s.log.count k = 0 := by
    intro k other
    rw [List.count_eq_zero]
    intro member
    exact other (untouched.log k member)
  refine ⟨?_, ?_, ?_, ?_⟩
  · rw [held, untouched.bound]
  · rw [held]
  · intro front k back split uses
    have lookup : k = .ofGetNamedGpio := untouched.log k (by simp [split])
    subst lookup
    rcases uses with ⟨level, same⟩ | same <;> cases same
  · rw [held, none .gpioFree (by decide), none .gpioRequest (by decide)]
    rfl

theorem Untouched.step {e : BeepEvent File} (taken : (beepMachine File).Takes e)
    (without : GetsNoGpio e) (untouched : Untouched e.source) : Untouched e.target := by
  obtain ⟨s, act, ⟨⟩, t⟩ := e
  have unbound : s.bound = false := untouched.bound
  have closed : ∀ f, s.files f = false := untouched.files
  have held : s.held = {} := untouched.held
  simp only [Machine.Takes, beepMachine] at taken
  cases act with
  | probe fails =>
      simp only [beepStep, unbound, Bool.false_eq_true, if_false] at taken
      cases taken
      obtain ⟨fails', lookups⟩ := exec_without_gpio without
      refine ⟨?_, ?_, untouched.files⟩
      · intro k member
        rcases List.mem_append.1 member with before | new
        · exact untouched.log k before
        · exact lookups k new
      · exact decide_eq_false fails'
  | remove =>
      simp only [beepStep, unbound, Bool.false_eq_true, if_false] at taken
      cases taken
  | opens f =>
      simp only [beepStep, held, Bool.false_eq_true, false_and, if_false] at taken
      cases taken
  | write f buf | release f =>
      simp only [beepStep, closed f, Bool.false_eq_true, if_false] at taken
      cases taken

/-- A probe that gets the GPIO loses it. -/
theorem getsNoGpio_of_owned {e : BeepEvent File} (taken : (beepMachine File).Takes e)
    (owned : Owned e.target) : GetsNoGpio e := by
  obtain ⟨s, act, ⟨⟩, t⟩ := e
  simp only [Machine.Takes, beepMachine] at taken
  cases act with
  | probe fails =>
      simp only [beepStep] at taken
      split at taken
      · cases taken
      · cases taken
        show fails 0 = true ∨ fails 1 = true
        by_contra gets
        simp only [not_or, Bool.not_eq_true] at gets
        obtain ⟨answer, free⟩ := exec_with_gpio gets.1 gets.2 s.held
        have gpio := owned.gpio
        have registered := owned.registered
        simp only [BeepState.held, List.foldl_append] at gpio registered free
        rw [answer] at registered
        rw [registered, free] at gpio
        exact absurd gpio (by decide)
  | remove | opens f | write f buf | release f => trivial

/-- **The beeper's GPIO.**  It is owned exactly while the device exists, and freed once
for each request, in all states of a run if and only if no probe of the run gets
it. -/
theorem owned_iff {es : List (BeepEvent File)} {u : BeepState File}
    (path : (beepMachine File).Path (unprobed File) es u) :
    (Owned u ∧ ∀ e ∈ es, Owned e.source ∧ Owned e.target) ↔ ∀ e ∈ es, GetsNoGpio e := by
  constructor
  · rintro ⟨-, owned⟩ e member
    exact getsNoGpio_of_owned (path.takes e member) (owned e member).2
  · intro without
    have start : Untouched (unprobed File) := ⟨by simp [unprobed], rfl, fun _ => rfl⟩
    obtain ⟨final, along⟩ := path.keeps (C := GetsNoGpio) (I := Untouched)
      (fun e taken => Untouched.step taken) without start
    refine ⟨final.owned, ?_⟩
    intro e member
    obtain ⟨-, before, after⟩ := along e member
    exact ⟨before.owned, after.owned⟩

/-- Two probes that fail for want of the GPIO. -/
theorem owned_without_gpio :
    let entries : List (Entry Unit) := [.probe fun n => n = 0, .probe fun n => n = 1]
    let es := (beepMachine Unit).trace (unprobed Unit) entries
    es.length = 2 ∧ (Owned ((beepMachine Unit).final (unprobed Unit) entries) ∧
      ∀ e ∈ es, Owned e.source ∧ Owned e.target) := by
  refine ⟨by decide, (owned_iff (Machine.path_trace _ _ _)).2 ?_⟩
  decide

/-- A probe in which nothing fails leaves a registered device without its GPIO, which
a write then drives and the removal frees again. -/
theorem probe_frees_gpio :
    let bound := (beepMachine Unit).final (unprobed Unit) [.probe fun _ => false]
    let s := (beepMachine Unit).final bound [.opens (), .write () ⟨[49], 1⟩, .remove]
    (bound.bound = true ∧ bound.held = { gpio := false, registered := true }) ∧
      s.log.drop 5 = [.gpioSetValue false, .gpioSetValue true, .gpioFree, .miscDeregister] ∧
      s.log.count .gpioRequest = 1 ∧ s.log.count .gpioFree = 2 := by
  decide

end LearningKernel.MiscBeep
