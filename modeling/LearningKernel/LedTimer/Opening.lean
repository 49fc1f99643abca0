/-
# LedTimer.Opening -- what a failed open of the LED timer leaves

`timer_open` sets `timeperiod` to 1000 and then calls `led_parse`, which stores the
GPIO number it looks up before it checks the number and requests the GPIO.

* `Opens`: what can come of a `timer_open`, all seven exits of `led_parse`;
* `kept_iff`: an open that fails leaves the device as it was exactly if the period
  was 1000 and the GPIO number, if it was looked up, is the one stored before;
* `timerOpen_steps`: an open of the device in use is `openStore` and then
  `openParse` of its sessions.
-/
import LearningKernel.Kernel.Abi
import LearningKernel.LedTimer.Sessions

namespace LearningKernel.LedTimer.Opening

open LearningKernel.Kernel
open LearningKernel.LedTimer.Sessions (Period)

set_option autoImplicit false

/-! ## The driver -/

/-- The node `/gpioled` of the device tree, each lookup with its result: a string, if it
can be read, and the number or negative code of `of_get_named_gpio`. -/
structure Node where
  status : Option String
  compatible : Option String
  ledGpio : Int

/-- What `gpio_request` answers for a GPIO that is free, and `gpio_direction_output`. -/
structure Given where
  request : Int
  direction : Int

/-- `timerdev`, the period that its timer is armed with, and the GPIOs: which are
requested, by whomever, and the levels driven. -/
structure Device where
  timeperiod : Period
  ledGpio : Int
  pending : Option Period
  held : Int → Bool
  level : Int → Option Bool

def gpioRequest (gpio : Int) (given : Given) (d : Device) : Int × Device :=
  if d.held gpio then (-ebusy, d)
  else if given.request < 0 then (given.request, d)
  else (0, { d with held := Function.update d.held gpio true })

def gpioDirectionOutput (gpio : Int) (value : Bool) (given : Given) (d : Device) : Int × Device :=
  if given.direction < 0 then (given.direction, d)
  else (0, { d with level := Function.update d.level gpio (some value) })

/-- `led_parse`. -/
def ledParse (nd : Option Node) (given : Given) (d : Device) : Int × Device :=
  match nd with
  | none => (-einval, d)
  | some nd =>
      match nd.status with
      | none => (-einval, d)
      | some str =>
          if str ≠ "okay" then (-einval, d)
          else
            match nd.compatible with
            | none => (-einval, d)
            | some str =>
                if str ≠ "alex,led" then (-einval, d)
                else
                  let d := { d with ledGpio := nd.ledGpio }
                  if d.ledGpio < 0 then (-einval, d)
                  else
                    let (ret, d) := gpioRequest d.ledGpio given d
                    if ret < 0 then (ret, d)
                    else
                      -- a direction that cannot be set is only printed
                      let (_, d) := gpioDirectionOutput d.ledGpio true given d
                      (0, d)

/-- `timer_open`. -/
def timerOpen (nd : Option Node) (given : Given) (d : Device) : Int × Device :=
  ledParse nd given { d with timeperiod := 1000 }

/-! ## What can come of it -/

/-- The lookups succeed up to the one of the GPIO. -/
def Node.Matches (n : Node) : Prop := n.status = some "okay" ∧ n.compatible = some "alex,led"

instance (n : Node) : Decidable n.Matches := inferInstanceAs (Decidable (_ ∧ _))

/-- The device after the stores of an open that looks the GPIO up. -/
def Device.stored (d : Device) (n : Node) : Device :=
  { d with timeperiod := 1000, ledGpio := n.ledGpio }

inductive Opens (nd : Option Node) (given : Given) (d : Device) : Int × Device → Prop where
  /-- no node, or its status or compatible is not the one expected -/
  | misses (other : ∀ n ∈ nd, ¬ n.Matches) :
      Opens nd given d (-einval, { d with timeperiod := 1000 })
  | unnamed (n : Node) (here : n ∈ nd) (found : n.Matches) (negative : n.ledGpio < 0) :
      Opens nd given d (-einval, d.stored n)
  | refused (n : Node) (here : n ∈ nd) (found : n.Matches) (named : 0 ≤ n.ledGpio) (ret : Int)
      (negative : ret < 0) (why : d.held n.ledGpio = true ∨ given.request < 0) :
      Opens nd given d (ret, d.stored n)
  | gets (n : Node) (here : n ∈ nd) (found : n.Matches) (named : 0 ≤ n.ledGpio)
      (free : d.held n.ledGpio = false) (granted : 0 ≤ given.request) :
      Opens nd given d
        (0, { d.stored n with
          held := Function.update d.held n.ledGpio true
          level := if given.direction < 0 then d.level
            else Function.update d.level n.ledGpio (some true) })

theorem ledParse_of_other {nd : Option Node} (other : ∀ n ∈ nd, ¬ n.Matches) (given : Given)
    (d : Device) : ledParse nd given d = (-einval, d) := by
  unfold ledParse
  split
  · rfl
  rename_i n
  split
  · rfl
  rename_i str status
  split
  · rfl
  rename_i okay
  split
  · rfl
  rename_i str' compatible
  split
  · rfl
  rename_i led
  have found : n.Matches := by
    rw [Node.Matches, status, compatible, not_not.1 okay, not_not.1 led]
    exact ⟨rfl, rfl⟩
  exact absurd found (other n rfl)

theorem ledParse_of_matches {n : Node} (found : n.Matches) (given : Given) (d : Device) :
    ledParse (some n) given d =
      if n.ledGpio < 0 then (-einval, { d with ledGpio := n.ledGpio })
      else
        let (ret, d) := gpioRequest n.ledGpio given { d with ledGpio := n.ledGpio }
        if ret < 0 then (ret, d)
        else (0, (gpioDirectionOutput d.ledGpio true given d).2) := by
  obtain ⟨status, compatible⟩ := found
  simp [ledParse, status, compatible]

theorem opens_timerOpen (nd : Option Node) (given : Given) (d : Device) :
    Opens nd given d (timerOpen nd given d) := by
  by_cases matching : ∃ n ∈ nd, n.Matches
  · obtain ⟨n, here, found⟩ := matching
    obtain rfl : nd = some n := here
    rw [timerOpen, ledParse_of_matches found]
    by_cases negative : n.ledGpio < 0
    · rw [if_pos negative]
      exact .unnamed n rfl found negative
    · have named : 0 ≤ n.ledGpio := Int.not_lt.1 negative
      rw [if_neg negative]
      cases taken : d.held n.ledGpio with
      | true =>
          have busy : -ebusy < 0 := by decide
          simp only [gpioRequest, taken, if_true, busy]
          exact .refused n rfl found named (-ebusy) busy (Or.inl taken)
      | false =>
          by_cases denied : given.request < 0
          · simp only [gpioRequest, taken, denied, if_true, Bool.false_eq_true, if_false]
            exact .refused n rfl found named given.request denied (Or.inr denied)
          · have opened := Opens.gets (d := d) n rfl found named taken (Int.not_lt.1 denied)
            by_cases direction : given.direction < 0
            · simpa [gpioRequest, gpioDirectionOutput, taken, denied, direction, Device.stored]
                using opened
            · simpa [gpioRequest, gpioDirectionOutput, taken, denied, direction, Device.stored]
                using opened
  · have other : ∀ n ∈ nd, ¬ n.Matches := fun n here found => matching ⟨n, here, found⟩
    rw [timerOpen, ledParse_of_other other]
    exact .misses other

/-! ## Opens that fail -/

/-- An open that fails leaves everything as it was. -/
def Kept (nd : Option Node) (given : Given) (d : Device) : Prop :=
  (timerOpen nd given d).1 < 0 → (timerOpen nd given d).2 = d

/-- The open finds the GPIO, and gets it. -/
def Gets (nd : Option Node) (given : Given) (d : Device) : Prop :=
  ∃ n ∈ nd, n.Matches ∧ 0 ≤ n.ledGpio ∧ d.held n.ledGpio = false ∧ 0 ≤ given.request

/-- What the open stores is there already. -/
def Stored (nd : Option Node) (d : Device) : Prop :=
  d.timeperiod = 1000 ∧ ∀ n ∈ nd, n.Matches → n.ledGpio = d.ledGpio

theorem stored_eq_iff {nd : Option Node} {d : Device} {n : Node} (here : n ∈ nd)
    (found : n.Matches) : d.stored n = d ↔ Stored nd d := by
  constructor
  · intro same
    refine ⟨congrArg Device.timeperiod same.symm, ?_⟩
    intro m also _
    obtain rfl := Option.some.inj (here.symm.trans also)
    exact congrArg Device.ledGpio same
  · rintro ⟨period, gpio⟩
    rw [Device.stored, gpio n here found, ← period]

/-- **Failed opens.**  Nothing has changed exactly if the open did not fail, or what it
stores first was there already. -/
theorem kept_iff (nd : Option Node) (given : Given) (d : Device) :
    Kept nd given d ↔ Gets nd given d ∨ Stored nd d := by
  have only {n m : Node} (here : n ∈ nd) (also : m ∈ nd) : n = m :=
    Option.some.inj (here.symm.trans also)
  have opens := opens_timerOpen nd given d
  unfold Kept
  generalize timerOpen nd given d = result at opens
  cases opens with
  | misses other =>
      have no_gpio : ¬ Gets nd given d := fun ⟨n, here, found, _⟩ => other n here found
      rw [or_iff_right no_gpio]
      constructor
      · intro kept
        refine ⟨congrArg Device.timeperiod (kept (show -einval < 0 by decide)).symm, ?_⟩
        intro n here found
        exact absurd found (other n here)
      · rintro ⟨period, -⟩ _
        rw [← period]
  | unnamed n here found negative =>
      have no_gpio : ¬ Gets nd given d := by
        rintro ⟨m, also, -, named, -⟩
        obtain rfl := only here also
        omega
      rw [or_iff_right no_gpio, ← stored_eq_iff here found]
      exact ⟨fun kept => kept (show -einval < 0 by decide), fun same _ => same⟩
  | refused n here found named ret negative why =>
      have no_gpio : ¬ Gets nd given d := by
        rintro ⟨m, also, -, -, free, granted⟩
        obtain rfl := only here also
        rcases why with taken | denied
        · rw [free] at taken
          cases taken
        · omega
      rw [or_iff_right no_gpio, ← stored_eq_iff here found]
      exact ⟨fun kept => kept negative, fun same _ => same⟩
  | gets n here found named free granted =>
      constructor
      · intro _
        exact Or.inl ⟨n, here, found, named, free, granted⟩
      · intro _ failed
        exact absurd failed (show ¬ (0 : Int) < 0 by decide)

/-- The GPIO is busy, since a session with a period of 50 runs on it; the open that fails
sets its period to 1000. -/
theorem busy_open_sets_period :
    let nd : Option Node := some ⟨some "okay", some "alex,led", 128⟩
    let d : Device :=
      { timeperiod := 50, ledGpio := 128, pending := some 50, held := fun gpio => gpio = 128
        level := fun _ => some true }
    (timerOpen nd ⟨0, 0⟩ d).1 = -ebusy ∧ (timerOpen nd ⟨0, 0⟩ d).2.timeperiod = 1000 ∧
      ¬ Kept nd ⟨0, 0⟩ d := by
  refine ⟨by decide, by decide, ?_⟩
  intro kept
  have period := congrArg Device.timeperiod (kept (by decide))
  revert period
  decide

/-! ## The device in use -/

variable {T : Type} [DecidableEq T]

/-- The device in a state of its sessions, where the device tree names `gpio`. -/
def device (gpio : Int) (s : Sessions.State T) : Device :=
  { timeperiod := s.timeperiod
    ledGpio := gpio
    pending := s.pending
    held := fun n => n = gpio ∧ s.session ≠ .closed
    level := fun n => if n = gpio then s.level else none }

/-- **An open in two steps.** -/
theorem timerOpen_steps {n : Node} (found : n.Matches) (named : 0 ≤ n.ledGpio) (given : Given)
    (s : Sessions.State T) :
    ∃ m t, Sessions.step s .openStore = some m ∧
      Sessions.step m (.openParse (decide (0 ≤ given.request)) (decide (0 ≤ given.direction))) =
        some t ∧ (timerOpen (some n) given (device n.ledGpio s)).2 = device n.ledGpio t := by
  have opens := opens_timerOpen (some n) given (device n.ledGpio s)
  generalize timerOpen (some n) given (device n.ledGpio s) = result at opens ⊢
  refine ⟨{ s with timeperiod := 1000, opens := s.opens + 1 }, ?_⟩
  cases opens with
  | misses other => exact absurd found (other n rfl)
  | unnamed m here found' negative =>
      obtain rfl : n = m := Option.some.inj here
      omega
  | refused m here found' named' ret negative why =>
      obtain rfl : n = m := Option.some.inj here
      have refused : ¬ (0 ≤ given.request ∧ s.session = .closed) := by
        rintro ⟨granted, closed⟩
        rcases why with taken | denied
        · simp [device, closed] at taken
        · omega
      refine ⟨{ s with timeperiod := 1000 }, rfl, ?_, rfl⟩
      simp [Sessions.step, refused]
  | gets m here found' named' free granted =>
      obtain rfl : n = m := Option.some.inj here
      have closed : s.session = .closed := by simpa [device] using free
      refine ⟨{ s with
        timeperiod := 1000
        session := .open
        level := if 0 ≤ given.direction then some true else s.level }, rfl, ?_, ?_⟩
      · simp [Sessions.step, granted, closed]
      · have held : Function.update (device n.ledGpio s).held n.ledGpio true =
            fun gpio => decide (gpio = n.ledGpio) := by
          funext gpio
          simp [Function.update_apply, device, closed]
        have level : Function.update (device n.ledGpio s).level n.ledGpio (some true) =
            fun gpio => if gpio = n.ledGpio then some true else none := by
          funext gpio
          by_cases same : gpio = n.ledGpio
          · simp [same]
          · simp [device, same]
        dsimp only
        rw [held]
        by_cases directed : 0 ≤ given.direction
        · rw [if_neg (Int.not_lt.2 directed), if_pos directed, level]
          simp [device, Device.stored]
        · rw [if_pos (Int.not_le.1 directed), if_neg directed]
          simp [device, Device.stored]

end LearningKernel.LedTimer.Opening
