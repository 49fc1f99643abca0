/-
# Led.Binding -- the mappings of the platform LED driver

`led_probe` of `17_platform` maps one resource after the other, and `led_remove`
unmaps them, while clients that have `/dev/led` open keep writing: the device is
bound and unbound whether or not files are open.

`mapped_as_needed_iff`: every access of `led_switch` finds its mapping, and nothing
is mapped while the driver is not bound, exactly in the runs in which no probe
misses a resource after the first, and every access falls between the mapping of
BSRR and its unmapping.
-/
import LearningKernel.Kernel.Abi
import LearningKernel.Led.Registers
import LearningKernel.Theory.Cycle
import Mathlib.Data.Fintype.Pi

namespace LearningKernel.Led

open LearningKernel.Theory LearningKernel.Theory.BitField LearningKernel.Kernel

set_option autoImplicit false

instance : Fintype Reg :=
  ⟨{.mpuAhb4PeriphRccPi, .gpioiModerPi, .gpioiOtyperPi, .gpioiOspeedrPi, .gpioiPupdrPi,
    .gpioiBsrrPi}, by intro r; cases r <;> simp⟩

/-- What binding and unbinding calls. -/
inductive Call where
  /-- `platform_get_resource` for the register -/
  | getResource (r : Reg)
  | ioremap (r : Reg)
  /-- read, clear, set and write back -/
  | modify (r : Reg) (clear set : BitVec 32)
  | registerChrdev
  | iounmap (r : Reg)
  | unregisterChrdev
  deriving DecidableEq

inductive Answer where
  | probed (ret : Int)
  | removed (ret : Int)
  deriving DecidableEq

/-- `led_unmap`. -/
def ledUnmap (rest : Script Call Answer) : Script Call Answer :=
  .calls [.iounmap .mpuAhb4PeriphRccPi, .iounmap .gpioiModerPi, .iounmap .gpioiOtyperPi,
    .iounmap .gpioiOspeedrPi, .iounmap .gpioiPupdrPi, .iounmap .gpioiBsrrPi] rest

/-- A resource found and mapped, before the rest of the probe. -/
def mapResource (r : Reg) (rest : Script Call Answer) : Script Call Answer :=
  .attempt (.getResource r) (.call (.ioremap r) rest) (.ret (.probed (-einval)))

/-- `led_probe`, with its label. -/
def ledProbeScript : Script Call Answer :=
  mapResource .mpuAhb4PeriphRccPi <|
  mapResource .gpioiModerPi <|
  mapResource .gpioiOtyperPi <|
  mapResource .gpioiOspeedrPi <|
  mapResource .gpioiPupdrPi <|
  mapResource .gpioiBsrrPi <|
  .calls [.modify .mpuAhb4PeriphRccPi (0x1#32 <<< 8) (0x1#32 <<< 8),
    .modify .gpioiModerPi (0x3#32 <<< 0) (0x1#32 <<< 0),
    .modify .gpioiOtyperPi (0x1#32 <<< 0) 0,
    .modify .gpioiOspeedrPi (0x3#32 <<< 0) (0x2#32 <<< 0),
    .modify .gpioiPupdrPi (0x3#32 <<< 0) (0x1#32 <<< 0),
    .modify .gpioiBsrrPi 0 (0x1#32 <<< 0)] <|
  .attempt .registerChrdev (.ret (.probed 0)) (ledUnmap (.ret (.probed (-eio))))

/-- `led_remove`. -/
def ledRemove : Script Call Answer :=
  ledUnmap (.call .unregisterChrdev (.ret (.removed 0)))

/-- The driver core: a device whose probe answered 0 is bound, and may be removed;
any other may be probed. -/
def again : Answer → Script Call Answer
  | .probed ret => if ret = 0 then ledRemove else ledProbeScript
  | .removed _ => ledProbeScript

/-- What a call does to the registers. -/
def access (k : Call) (b : Board) : Board :=
  match k with
  | .modify r clear set => modify r clear set b
  | _ => b

/-- The register accesses on the way through `led_probe` are those of `ledProbe`. -/
theorem ledProbe_accesses (b : Board) :
    ledProbeScript.ahead.foldl (fun b k => access k b) b = ledProbe b := rfl

/-! ## Mappings and clients -/

/-- How many mappings of a register there are, whether its pointer is one of them,
and whether the device number is registered. -/
structure Held where
  mapped : Reg → Nat
  pointer : Reg → Bool
  chrdev : Bool

instance : DecidableEq Held := fun held held' =>
  decidable_of_iff
    ((∀ r, held.mapped r = held'.mapped r) ∧ (∀ r, held.pointer r = held'.pointer r) ∧
      held.chrdev = held'.chrdev) (by
    cases held
    cases held'
    simp [funext_iff])

def own (k : Call) (held : Held) : Held :=
  match k with
  | .ioremap r =>
      { held with
        mapped := Function.update held.mapped r (held.mapped r + 1)
        pointer := Function.update held.pointer r true }
  | .iounmap r =>
      if held.pointer r then
        { held with
          mapped := Function.update held.mapped r (held.mapped r - 1)
          pointer := Function.update held.pointer r false }
      else held
  | .registerChrdev => { held with chrdev := true }
  | .unregisterChrdev => { held with chrdev := false }
  | .getResource _ | .modify .. => held

/-- Where a client is. -/
inductive Client where
  | closed
  | opened
  /-- in `led_switch`, before `readl` -/
  | switching
  /-- and before `writel` -/
  | read
  deriving DecidableEq

/-- `led_write` with a text that is not decisive accesses nothing. -/
inductive Occurrence (File : Type) where
  | opens (f : File)
  | write (f : File) (sta : List UInt8)
  | readl (f : File)
  | writel (f : File)
  | release (f : File)
  deriving DecidableEq

variable {File : Type} [DecidableEq File]

/-- A client goes on, if it is where it has to be. -/
def move (clients : File → Client) (f : File) (here there : Client) : Option (File → Client) :=
  if clients f = here then some (Function.update clients f there) else none

def occur (x : Occurrence File) (held : Held) (clients : File → Client) : Option (File → Client) :=
  match x with
  | .opens f => if held.chrdev then move clients f .closed .opened else none
  | .write f sta => move clients f .opened (if asked sta = none then .opened else .switching)
  | .readl f => move clients f .switching .read
  | .writel f => move clients f .read .opened
  | .release f => move clients f .opened .closed

def platform (File : Type) [DecidableEq File] : Platform Call (Occurrence File) Held (File → Client) :=
  { own := own, settle := fun _ clients => some clients, occur := occur }

abbrev BindState (File : Type) := Platform.State Call Held (File → Client) Answer
abbrev BindEvent (File : Type) :=
  Platform.CycleEvent Call (Occurrence File) Held (File → Client) Answer

/-- Nothing mapped or registered. -/
def clear : Held := { mapped := fun _ => 0, pointer := fun _ => false, chrdev := false }

/-- Bound: every register mapped once. -/
def bound : Held := { mapped := fun _ => 1, pointer := fun _ => true, chrdev := true }

/-- The driver registered, and no device probed yet. -/
def unbound (File : Type) : BindState File :=
  { held := clear, flight := fun _ => .closed, rest := .ret (.removed 0) }

/-! ## As needed -/

/-- An access of `led_switch`. -/
def IsAccess (e : BindEvent File) : Prop :=
  ∃ f, e.act = some (.occur (.readl f)) ∨ e.act = some (.occur (.writel f))

/-- The driver is not bound, and not being bound or unbound. -/
def Unbound (rest : Script Call Answer) : Prop :=
  match rest.answer? with
  | some (.probed ret) => ret ≠ 0
  | some (.removed _) => True
  | none => False

instance (rest : Script Call Answer) : Decidable (Unbound rest) :=
  match answered : rest.answer? with
  | some (.probed ret) => decidable_of_iff (ret ≠ 0) (by simp only [Unbound, answered])
  | some (.removed _) => isTrue (by simp only [Unbound, answered])
  | none => isFalse (by simp [Unbound, answered])

/-- Nothing is mapped while the driver is not bound. -/
def NoneLeft (s : BindState File) : Prop := Unbound s.rest → ∀ r, s.held.mapped r = 0

/-- The accesses of `led_switch` go to a live mapping, and nothing outlives the
binding. -/
structure MappedAsNeeded (e : BindEvent File) : Prop where
  accesses : IsAccess e → e.source.held.pointer .gpioiBsrrPi = true
  before : NoneLeft e.source
  after : NoneLeft e.target

/-- Past the mapping of BSRR, and not past its unmapping. -/
def BsrrMapped (rest : Script Call Answer) : Prop :=
  match rest.answer? with
  | some (.probed ret) => ret = 0
  | some (.removed _) => False
  | none =>
      .ioremap .gpioiBsrrPi ∉ rest.ahead ∧
        (.registerChrdev ∈ rest.ahead ∨ .iounmap .gpioiBsrrPi ∈ rest.ahead)

instance (rest : Script Call Answer) : Decidable (BsrrMapped rest) :=
  match answered : rest.answer? with
  | some (.probed ret) => decidable_of_iff (ret = 0) (by simp only [BsrrMapped, answered])
  | some (.removed _) => isFalse (by simp [BsrrMapped, answered])
  | none =>
      decidable_of_iff (.ioremap .gpioiBsrrPi ∉ rest.ahead ∧
        (.registerChrdev ∈ rest.ahead ∨ .iounmap .gpioiBsrrPi ∈ rest.ahead))
        (by simp only [BsrrMapped, answered])

/-- A probe misses no resource but perhaps the first, and an access comes while BSRR
is mapped. -/
structure Orderly (e : BindEvent File) : Prop where
  resources : e.act = some .fail → ∀ r, e.source.rest.next? = some (.getResource r) →
    r = .mpuAhb4PeriphRccPi
  accesses : IsAccess e → BsrrMapped e.source.rest

/-! ## The places of orderly runs -/

def mayFail (k : Call) : Bool := k = .getResource .mpuAhb4PeriphRccPi ∨ k = .registerChrdev

def entries : List (Held × Script Call Answer) :=
  [(clear, .ret (.removed 0)), (clear, ledProbeScript), (bound, ledRemove)]

def places : List (Held × Script Call Answer) :=
  entries.flatMap fun entry => entry.2.reach mayFail own entry.1

theorem places_enter : ∀ p ∈ places, ∀ a ∈ p.2.answer?, (p.1, again a) ∈ entries := by
  decide

theorem places_mapped : ∀ p ∈ places,
    (BsrrMapped p.2 ↔ p.1.pointer .gpioiBsrrPi = true) ∧
      (Unbound p.2 → ∀ r, p.1.mapped r = 0) := by
  decide

/-- A call that fails may, or it misses a resource after the first and leaves that one
mapped. -/
theorem places_fail : ∀ p ∈ places, ∀ k ∈ p.2.next?, p.2.fail? ≠ none →
    mayFail k = true ∨ ∃ r, k = .getResource r ∧ r ≠ .mpuAhb4PeriphRccPi ∧
      p.1.mapped .mpuAhb4PeriphRccPi ≠ 0 ∧ p.2.fail? = some (.ret (.probed (-einval))) := by
  decide

section Runs

variable {es : List (BindEvent File)} {u : BindState File}

/-- Where only such calls fail, the run keeps to the places. -/
theorem run_among {C : BindEvent File → Prop}
    (fails : ∀ e : BindEvent File, (platform File).Turns again e → C e →
      e.source.place ∈ places → e.act = some .fail →
        ∀ k, e.source.rest.next? = some k → mayFail k = true)
    (path : ((platform File).cycle again).Path (unbound File) es u) (along : ∀ e ∈ es, C e) :
    ∀ e ∈ es, (platform File).Turns again e ∧ e.source.place ∈ places ∧ e.target.place ∈ places := by
  have run := Platform.cycle_keeps (I := fun _ => True) places_enter fails
    (fun _ _ _ _ _ => trivial) path along List.mem_cons_self trivial
  intro e member
  obtain ⟨turns, before, after⟩ := run.2 e member
  exact ⟨turns, before.1, after.1⟩

theorem orderly_fails {e : BindEvent File} (orderly : Orderly e) (place : e.source.place ∈ places)
    (turns : (platform File).Turns again e) (failing : e.act = some .fail) {k : Call}
    (next : e.source.rest.next? = some k) : mayFail k = true := by
  have failable : e.source.rest.fail? ≠ none := by
    rw [(turns.of_fail failing).2]
    exact Option.some_ne_none _
  rcases places_fail _ place k next failable with may | ⟨r, rfl, later, -, -⟩
  · exact may
  · exact absurd (orderly.resources failing r next) later

/-- A probe that misses a later resource returns with the first one mapped. -/
theorem needed_fails {e : BindEvent File} (needed : MappedAsNeeded e)
    (place : e.source.place ∈ places) (turns : (platform File).Turns again e)
    (failing : e.act = some .fail) {k : Call} (next : e.source.rest.next? = some k) :
    mayFail k = true := by
  obtain ⟨held, fails⟩ := turns.of_fail failing
  have failable : e.source.rest.fail? ≠ none := by
    rw [fails]
    exact Option.some_ne_none _
  rcases places_fail _ place k next failable with may | ⟨r, -, -, mapped, answers⟩
  · exact may
  · have answered : e.target.rest = .ret (.probed (-einval)) :=
      Option.some.inj (fails.symm.trans answers)
    have unbound : Unbound e.target.rest := by
      rw [answered]
      decide
    have none := needed.after unbound .mpuAhb4PeriphRccPi
    rw [held] at none
    exact absurd none mapped

/-- **Mappings and bindings.**  Over any number of bindings and of clients, the
accesses of `led_switch` find their mapping and nothing is mapped while the driver
is not bound, if and only if every step is orderly. -/
theorem mapped_as_needed_iff (path : ((platform File).cycle again).Path (unbound File) es u) :
    (∀ e ∈ es, MappedAsNeeded e) ↔ ∀ e ∈ es, Orderly e := by
  constructor
  · intro needed e member
    obtain ⟨turns, before, after⟩ := run_among (fun e turns needed place failing k =>
      needed_fails needed place turns failing) path needed e member
    refine ⟨?_, ?_⟩
    · intro failing r next
      have may := needed_fails (needed e member) before turns failing next
      simpa [mayFail] using may
    · intro access
      exact (places_mapped _ before).1.2 ((needed e member).accesses access)
  · intro orderly e member
    obtain ⟨turns, before, after⟩ := run_among (fun e turns orderly place failing k =>
      orderly_fails orderly place turns failing) path orderly e member
    refine ⟨?_, (places_mapped _ before).2, (places_mapped _ after).2⟩
    intro access
    exact (places_mapped _ before).1.1 ((orderly e member).accesses access)

end Runs

instance [Fintype File] (e : BindEvent File) : Decidable (IsAccess e) :=
  inferInstanceAs (Decidable (∃ f, e.act = some (.occur (.readl f)) ∨
    e.act = some (.occur (.writel f))))

instance [Fintype File] (e : BindEvent File) : Decidable (Orderly e) :=
  decidable_of_iff ((e.act = some .fail → ∀ r, e.source.rest.next? = some (.getResource r) →
    r = .mpuAhb4PeriphRccPi) ∧ (IsAccess e → BsrrMapped e.source.rest))
    ⟨fun ⟨resources, accesses⟩ => ⟨resources, accesses⟩, fun orderly =>
      ⟨orderly.resources, orderly.accesses⟩⟩

/-- The acts of a probe that maps everything, and of a removal. -/
def probeActs : List (Option (Platform.Act (Occurrence Unit))) :=
  none :: List.replicate ledProbeScript.ahead.length (some .proceed)

def removeActs : List (Option (Platform.Act (Occurrence Unit))) :=
  none :: List.replicate ledRemove.ahead.length (some .proceed)

/-- A client switches the LED while the driver is bound. -/
theorem mapped_as_needed_session :
    let acts := probeActs ++ [some (.occur (.opens ())), some (.occur (.write () [49])),
      some (.occur (.readl ())), some (.occur (.writel ()))] ++ removeActs
    let es := ((platform Unit).cycle again).trace (unbound Unit) acts
    es.length = acts.length ∧ ∀ e ∈ es, MappedAsNeeded e := by
  refine ⟨by decide, (mapped_as_needed_iff (Machine.path_trace _ _ _)).2 ?_⟩
  decide

/-- A probe that misses the second resource leaves the first mapped, and a file
still open after the removal writes to what was unmapped. -/
theorem mappings_outlive_and_miss :
    let cycle := (platform Unit).cycle again
    let missed := cycle.final (unbound Unit)
      [none, some .proceed, some .proceed, some .fail]
    let es := cycle.trace (unbound Unit) (probeActs ++ [some (.occur (.opens ()))] ++ removeActs ++
      [some (.occur (.write () [49])), some (.occur (.readl ()))])
    (missed.rest = .ret (.probed (-einval)) ∧ missed.held.mapped .mpuAhb4PeriphRccPi = 1) ∧
      ∃ e ∈ es, e.act = some (.occur (.readl ())) ∧ e.source.held.pointer .gpioiBsrrPi = false := by
  decide

end LearningKernel.Led
