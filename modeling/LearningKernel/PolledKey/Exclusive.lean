/-
# PolledKey.Exclusive -- one client at a time has the polled key

`key_open` of `11_key` looks the GPIO up in the device tree and requests it,
`key_release` frees the number that the shared `keydev.key_gpio` holds.  Nothing
counts the open files: that there is at most one of them comes from the request,
which fails while the GPIO is held.

* `Opens`: what can come of a `key_open`, all seven exits of `gpiokey_parse`;
* `Owns`: who has the GPIO, kept by every call (`Owns.step`);
* `exclusive_balanced`: what that means for every run of any clients.
-/
import LearningKernel.Kernel.Abi
import LearningKernel.Theory.Ledger
import LearningKernel.Theory.Machine
import Mathlib.Logic.Function.Basic

namespace LearningKernel.PolledKey

open LearningKernel.Theory LearningKernel.Kernel

set_option autoImplicit false

/-! ## The driver -/

/-- The calls on the GPIO, with what they answered. -/
inductive Call where
  | gpioRequest (gpio ret : Int)
  | gpioDirectionInput (gpio ret : Int)
  | gpioFree (gpio : Int)
  deriving DecidableEq

/-- The node `/key` of the device tree, each lookup with its result: a string, if it
can be read, and the number or negative code of `of_get_named_gpio`. -/
structure Node where
  status : Option String
  compatible : Option String
  gpios : Int

/-- What `gpio_request` and `gpio_direction_input` answer an open. -/
structure Given where
  request : Int
  direction : Int

/-- What a call returns, the `keydev.key_gpio` it leaves, and its calls. -/
structure Opened where
  ret : Int
  keyGpio : Int
  calls : List Call

/-- `gpiokey_parse`. -/
def gpiokeyParse (nd : Option Node) (keyGpio : Int) (given : Given) : Opened :=
  let invalid : Opened := { ret := -einval, keyGpio := keyGpio, calls := [] }
  match nd with
  | none => invalid
  | some nd =>
      match nd.status with
      | none => invalid
      | some str =>
          if str ≠ "okay" then invalid
          else
            match nd.compatible with
            | none => invalid
            | some str =>
                if str ≠ "alex,key" then invalid
                else if nd.gpios < 0 then { invalid with keyGpio := nd.gpios }
                else
                  let requested : Call := .gpioRequest nd.gpios given.request
                  if given.request < 0 then
                    { ret := given.request, keyGpio := nd.gpios, calls := [requested] }
                  else
                    -- a direction that cannot be set is only printed
                    { ret := 0
                      keyGpio := nd.gpios
                      calls := [requested, .gpioDirectionInput nd.gpios given.direction] }

/-- `key_open`. -/
def keyOpen (nd : Option Node) (keyGpio : Int) (given : Given) : Opened :=
  gpiokeyParse nd keyGpio given

/-- `key_release`. -/
def keyRelease (keyGpio : Int) : Opened :=
  { ret := 0, keyGpio := keyGpio, calls := [.gpioFree keyGpio] }

/-! ## Any clients -/

/-- What a call does with the GPIO numbers. -/
def Call.gpio : Call → Effect Int
  | .gpioRequest gpio ret => if ret < 0 then .neither else .acquire gpio
  | .gpioDirectionInput gpio _ => .use gpio
  | .gpioFree gpio => .release gpio

/-- All calls on the GPIO so far, `keydev.key_gpio`, and the open files. -/
structure State (File : Type) where
  log : List Call
  keyGpio : Int
  files : File → Bool

/-- The module loaded. -/
def State.loaded (File : Type) : State File := { log := [], keyGpio := 0, files := fun _ => false }

/-- The GPIO numbers held. -/
def State.held {File : Type} (s : State File) : List Int := Effect.held Call.gpio [] s.log

inductive Act (File : Type) where
  | opens (f : File) (given : Given)
  | release (f : File)

variable {File : Type} [DecidableEq File]

/-- One call of a client.  A request does not succeed while the GPIO is held; the file
is open if `key_open` returns 0. -/
def step (nd : Option Node) (s : State File) : Act File → Option (Int × State File)
  | .opens f given =>
      if s.files f = true ∨ (0 ≤ given.request ∧ ∃ n ∈ nd, n.gpios ∈ s.held) then none
      else
        let opened := keyOpen nd s.keyGpio given
        some (opened.ret,
          { log := s.log ++ opened.calls
            keyGpio := opened.keyGpio
            files := if opened.ret = 0 then Function.update s.files f true else s.files })
  | .release f =>
      if s.files f = true then
        let released := keyRelease s.keyGpio
        some (released.ret,
          { log := s.log ++ released.calls
            keyGpio := released.keyGpio
            files := Function.update s.files f false })
      else none

/-- The device in use by any clients, in any order.  The observation is what the call
returns. -/
def machine (nd : Option Node) (File : Type) [DecidableEq File] :
    Machine (State File) (Act File) Int :=
  ⟨step nd⟩

abbrev KeyEvent (File : Type) := Event (State File) (Act File) Int

/-- The key is exclusive and balanced. -/
structure Exclusive (nd : Option Node) (s : State File) : Prop where
  one : ∀ f g, s.files f = true → s.files g = true → f = g
  held : (∃ gpio, gpio ∈ s.held) ↔ ∃ f, s.files f = true
  /-- `key_gpio` names the held GPIO, the one of the device tree, and no other is held -/
  names : (∃ f, s.files f = true) → s.held = [s.keyGpio] ∧ ∃ n ∈ nd, n.gpios = s.keyGpio
  /-- every `gpio_free` so far was of a GPIO then held -/
  grounded : Effect.Grounded Call.gpio [] s.log

/-! ## One call -/

/-- What can come of a `key_open`. -/
inductive Opens (nd : Option Node) (keyGpio : Int) (given : Given) : Opened → Prop where
  /-- a lookup fails, before `key_gpio` is written or with its negative code -/
  | misses (gpio : Int) (from_tree : gpio = keyGpio ∨ ∃ n ∈ nd, n.gpios = gpio) :
      Opens nd keyGpio given { ret := -einval, keyGpio := gpio, calls := [] }
  | refused (n : Node) (found : n ∈ nd) (failed : given.request < 0) :
      Opens nd keyGpio given
        { ret := given.request
          keyGpio := n.gpios
          calls := [.gpioRequest n.gpios given.request] }
  | gets (n : Node) (found : n ∈ nd) (granted : 0 ≤ given.request) :
      Opens nd keyGpio given
        { ret := 0
          keyGpio := n.gpios
          calls := [.gpioRequest n.gpios given.request,
            .gpioDirectionInput n.gpios given.direction] }

theorem opens_keyOpen (nd : Option Node) (keyGpio : Int) (given : Given) :
    Opens nd keyGpio given (keyOpen nd keyGpio given) := by
  have invalid : Opens nd keyGpio given { ret := -einval, keyGpio := keyGpio, calls := [] } :=
    .misses keyGpio (Or.inl rfl)
  unfold keyOpen gpiokeyParse
  split
  · exact invalid
  rename_i n
  have found : n ∈ some n := rfl
  split
  · exact invalid
  split
  · exact invalid
  split
  · exact invalid
  split
  · exact invalid
  split
  · exact .misses n.gpios (Or.inr ⟨n, found, rfl⟩)
  split
  · rename_i failed
    exact .refused n found failed
  · rename_i granted
    exact .gets n found (Int.not_lt.1 granted)

/-- The cases of one step. -/
inductive Turns (nd : Option Node) (e : KeyEvent File) : Prop where
  | opens (f : File) (given : Given) (opened : Opened) (act : e.act = .opens f given)
      (possible : 0 ≤ given.request → ∀ n ∈ nd, n.gpios ∉ e.source.held)
      (comes : Opens nd e.source.keyGpio given opened) (out : e.out = opened.ret)
      (log : e.target.log = e.source.log ++ opened.calls)
      (keyGpio : e.target.keyGpio = opened.keyGpio)
      (files : e.target.files =
        if opened.ret = 0 then Function.update e.source.files f true else e.source.files)
  | releases (f : File) (act : e.act = .release f) (here : e.source.files f = true)
      (log : e.target.log = e.source.log ++ [.gpioFree e.source.keyGpio])
      (keyGpio : e.target.keyGpio = e.source.keyGpio)
      (files : e.target.files = Function.update e.source.files f false)

theorem turns_of_takes {nd : Option Node} {e : KeyEvent File}
    (taken : (machine nd File).Takes e) : Turns nd e := by
  obtain ⟨s, act, out, t⟩ := e
  simp only [Machine.Takes, machine] at taken
  cases act with
  | opens f given =>
      simp only [step] at taken
      split at taken
      · cases taken
      · rename_i free
        cases taken
        refine .opens f given _ rfl ?_ (opens_keyOpen nd s.keyGpio given) rfl rfl rfl rfl
        intro granted n found holds
        exact free (Or.inr ⟨granted, n, found, holds⟩)
  | release f =>
      simp only [step] at taken
      split at taken
      · rename_i here
        cases taken
        exact .releases f rfl here rfl rfl rfl
      · cases taken

/-! ## Who has the GPIO -/

/-- Nobody has the GPIO, or one file has it and `key_gpio` names it. -/
inductive Holds (nd : Option Node) (s : State File) : Prop where
  | nobody (files : ∀ f, s.files f = false) (held : s.held = [])
  | owner (f : File) (files : s.files = Function.update (fun _ => false) f true)
      (held : s.held = [s.keyGpio]) (named : ∃ n ∈ nd, n.gpios = s.keyGpio)

/-- The invariant. -/
structure Owns (nd : Option Node) (s : State File) : Prop where
  grounded : Effect.Grounded Call.gpio [] s.log
  holds : Holds nd s

theorem owns_loaded (nd : Option Node) : Owns nd (State.loaded File) :=
  ⟨trivial, .nobody (fun _ => rfl) rfl⟩

omit [DecidableEq File] in
/-- Calls after those so far. -/
theorem held_after {s t : State File} {calls : List Call} (log : t.log = s.log ++ calls) :
    t.held = Effect.held Call.gpio s.held calls := by
  rw [State.held, log, Effect.held_append]
  rfl

omit [DecidableEq File] in
theorem grounded_after {s t : State File} {calls : List Call} (log : t.log = s.log ++ calls)
    (before : Effect.Grounded Call.gpio [] s.log)
    (grounded : Effect.Grounded Call.gpio s.held calls) :
    Effect.Grounded Call.gpio [] t.log := by
  rw [log, Effect.grounded_append]
  exact ⟨before, grounded⟩

/-- The number that a failed open writes is the one that is held. -/
theorem Holds.failed {nd : Option Node} {s t : State File} (holds : Holds nd s)
    (files : t.files = s.files) (held : t.held = s.held)
    (from_tree : t.keyGpio = s.keyGpio ∨ ∃ n ∈ nd, n.gpios = t.keyGpio) : Holds nd t := by
  cases holds with
  | nobody closed free =>
      refine .nobody ?_ (held.trans free)
      rw [files]
      exact closed
  | owner f has holds named =>
      have same : t.keyGpio = s.keyGpio := by
        rcases from_tree with same | ⟨n, found, written⟩
        · exact same
        · obtain ⟨m, found', holds'⟩ := named
          have one : n = m := Option.mem_unique found found'
          rw [← written, ← holds', one]
      refine .owner f (files.trans has) ?_ ?_
      · rw [held, same]
        exact holds
      · rw [same]
        exact named

/-- An open keeps what it does not get. -/
theorem Owns.opens {nd : Option Node} {e : KeyEvent File} {f : File} {given : Given}
    {opened : Opened} (owns : Owns nd e.source)
    (possible : 0 ≤ given.request → ∀ n ∈ nd, n.gpios ∉ e.source.held)
    (comes : Opens nd e.source.keyGpio given opened)
    (log : e.target.log = e.source.log ++ opened.calls)
    (keyGpio : e.target.keyGpio = opened.keyGpio)
    (files : e.target.files =
      if opened.ret = 0 then Function.update e.source.files f true else e.source.files) :
    Owns nd e.target := by
  have held := held_after log
  cases comes with
  | misses gpio from_tree =>
      refine ⟨grounded_after log owns.grounded trivial, owns.holds.failed files held ?_⟩
      rw [keyGpio]
      exact from_tree
  | refused n found failed =>
      have failure : given.request ≠ 0 := by omega
      have nothing : (Call.gpioRequest n.gpios given.request).gpio = .neither := if_pos failed
      refine ⟨grounded_after log owns.grounded ?_, owns.holds.failed ?_ ?_ ?_⟩
      · simp [Effect.Grounded, Effect.needs, nothing]
      · simpa only [failure, if_false] using files
      · simpa [Effect.held, Effect.apply, nothing] using held
      · exact Or.inr ⟨n, found, keyGpio.symm⟩
  | gets n found granted =>
      have acquires : (Call.gpioRequest n.gpios given.request).gpio = .acquire n.gpios :=
        if_neg (by omega)
      have uses : (Call.gpioDirectionInput n.gpios given.direction).gpio = .use n.gpios := rfl
      have free := possible granted n found
      cases owns.holds with
      | nobody closed none =>
          have fresh : e.source.files = fun _ => false := funext closed
          refine ⟨grounded_after log owns.grounded ?_, .owner f ?_ ?_ ?_⟩
          · simp [Effect.Grounded, Effect.needs, Effect.apply, acquires, uses]
          · rw [files, if_pos rfl, fresh]
          · rw [held, none, keyGpio]
            simp [Effect.held, Effect.apply, acquires, uses]
          · exact ⟨n, found, keyGpio.symm⟩
      | owner g has holds named =>
          obtain ⟨m, found', same⟩ := named
          have one : n = m := Option.mem_unique found found'
          rw [holds, one, same] at free
          exact absurd (List.mem_singleton_self _) free

/-- The only open file gives the GPIO back. -/
theorem Owns.releases {nd : Option Node} {e : KeyEvent File} {f : File} (owns : Owns nd e.source)
    (here : e.source.files f = true)
    (log : e.target.log = e.source.log ++ [.gpioFree e.source.keyGpio])
    (files : e.target.files = Function.update e.source.files f false) : Owns nd e.target := by
  have held := held_after log
  cases owns.holds with
  | nobody closed free =>
      rw [closed f] at here
      cases here
  | owner g has holds named =>
      have same : f = g := by
        by_contra other
        rw [has, Function.update_of_ne other] at here
        cases here
      subst same
      refine ⟨grounded_after log owns.grounded ?_, .nobody ?_ ?_⟩
      · simp [Effect.Grounded, Effect.needs, Call.gpio, holds]
      · intro g
        rw [files, has, Function.update_idem]
        by_cases same : g = f
        · rw [same, Function.update_self]
        · rw [Function.update_of_ne same]
      · rw [held, holds]
        simp [Effect.held, Effect.apply, Call.gpio]

theorem Owns.step {nd : Option Node} {e : KeyEvent File} (taken : (machine nd File).Takes e)
    (owns : Owns nd e.source) : Owns nd e.target := by
  cases turns_of_takes taken with
  | opens f given opened act possible comes out log keyGpio files =>
      exact owns.opens possible comes log keyGpio files
  | releases f act here log keyGpio files => exact owns.releases here log files

theorem Owns.exclusive {nd : Option Node} {s : State File} (owns : Owns nd s) :
    Exclusive nd s := by
  cases owns.holds with
  | nobody closed free =>
      refine ⟨?_, ?_, ?_, owns.grounded⟩
      · intro f g opened
        rw [closed f] at opened
        cases opened
      · simp [free, closed]
      · rintro ⟨f, opened⟩
        rw [closed f] at opened
        cases opened
  | owner f has holds named =>
      have only : ∀ g, s.files g = true → g = f := by
        intro g opened
        by_contra other
        rw [has, Function.update_of_ne other] at opened
        cases opened
      refine ⟨?_, ?_, fun _ => ⟨holds, named⟩, owns.grounded⟩
      · intro g g' opened opened'
        rw [only g opened, only g' opened']
      · refine ⟨fun _ => ⟨f, ?_⟩, fun _ => ⟨s.keyGpio, ?_⟩⟩
        · rw [has, Function.update_self]
        · rw [holds]
          exact List.mem_singleton_self _

/-- A failed `key_open` acquires nothing. -/
theorem Opens.failed {nd : Option Node} {keyGpio : Int} {given : Given} {opened : Opened}
    (comes : Opens nd keyGpio given opened) (failure : opened.ret ≠ 0) (rs : List Int) :
    Effect.held Call.gpio rs opened.calls = rs := by
  cases comes with
  | misses gpio from_tree => rfl
  | refused n found failed =>
      have nothing : (Call.gpioRequest n.gpios given.request).gpio = .neither := if_pos failed
      simp [Effect.held, Effect.apply, nothing]
  | gets n found granted => exact absurd rfl failure

/-! ## Runs -/

/-- **The polled key is exclusive and balanced**, in every state of every run of any
clients; and an open that fails leaves the files and the GPIO as they were. -/
theorem exclusive_balanced {nd : Option Node} {es : List (KeyEvent File)} {u : State File}
    (path : (machine nd File).Path (State.loaded File) es u) :
    Exclusive nd u ∧ ∀ e ∈ es, Exclusive nd e.source ∧ Exclusive nd e.target ∧
      ∀ f given, e.act = .opens f given → e.out ≠ 0 →
        e.target.held = e.source.held ∧ e.target.files = e.source.files := by
  obtain ⟨final, along⟩ := path.invariant (I := Owns nd) (fun e => Owns.step) (owns_loaded nd)
  refine ⟨final.exclusive, ?_⟩
  intro e member
  obtain ⟨taken, before, after⟩ := along e member
  refine ⟨before.exclusive, after.exclusive, ?_⟩
  intro f given act failure
  cases turns_of_takes taken with
  | opens f' given' opened act' possible comes out log keyGpio files =>
      rw [out] at failure
      refine ⟨(held_after log).trans (comes.failed failure _), ?_⟩
      rw [files, if_neg failure]
  | releases f' act' =>
      rw [act] at act'
      cases act'

/-- A key on GPIO 7. -/
def keyNode : Node := { status := some "okay", compatible := some "alex,key", gpios := 7 }

/-- The second client is refused while the first has the key, gets it afterwards without
its direction, and another open is refused. -/
def clients : List (Act Bool) :=
  [.opens false ⟨0, 0⟩, .opens true ⟨-ebusy, 0⟩, .release false, .opens true ⟨0, -einval⟩,
    .opens false ⟨-ebusy, 0⟩, .release true]

theorem exclusive_balanced_clients :
    let es := (machine (some keyNode) Bool).trace (State.loaded Bool) clients
    es.map Event.out = [0, -ebusy, 0, 0, -ebusy, 0] ∧
      (∃ e ∈ es, e.target.held = [7]) ∧
      (Exclusive (some keyNode) ((machine (some keyNode) Bool).final (State.loaded Bool) clients) ∧
        ∀ e ∈ es, Exclusive (some keyNode) e.source ∧ Exclusive (some keyNode) e.target ∧
          ∀ f given, e.act = .opens f given → e.out ≠ 0 →
            e.target.held = e.source.held ∧ e.target.files = e.source.files) := by
  refine ⟨by decide, ?_, exclusive_balanced (Machine.path_trace _ _ clients)⟩
  exact ⟨_, List.mem_cons_self, by decide⟩

end LearningKernel.PolledKey
