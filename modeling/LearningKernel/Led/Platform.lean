/-
# Led.Platform -- leddevice and leddriver on the platform bus

`leddevice` registers a device with six memory resources, `leddriver` a driver of the same
name, in either order.  `led_probe` maps the resources that it finds by their numbers, and does
not look at what `ioremap` answers.

* `ledProbe_leddevice`: on that device it maps the addresses that `02_led` has as constants, and
  else does what `Led.Binding` has it do (`ledProbe_same`);
* `led_held_iff`: over any registrations, among other devices and drivers, each register access
  finds its mapping exactly if each probe gets all its mappings; and the registers are mapped,
  each once, and the character device is registered exactly while the device and the driver are
  both there, exactly if no call of a probe fails.
-/
import LearningKernel.Kernel.Compare
import LearningKernel.Led.Binding
import LearningKernel.Theory.Bus
import LearningKernel.Theory.Ladder

namespace LearningKernel.PlatformLed

open LearningKernel.Theory LearningKernel.Kernel
open LearningKernel.Led (Reg Board)

set_option autoImplicit false

/-! ## The device -/

inductive ResourceType where
  | io
  | mem
  | irq
  deriving DecidableEq

/-- `struct resource`. -/
structure Resource where
  start : Nat
  end_ : Nat
  type : ResourceType
  deriving DecidableEq

/-- `resource_size`. -/
def Resource.size (res : Resource) : Nat := res.end_ - res.start + 1

/-- `platform_get_resource`. -/
def platformGetResource : List Resource → ResourceType → Nat → Option Resource
  | [], _, _ => none
  | r :: resources, type, num =>
      if type = r.type then
        match num with
        | 0 => some r
        | num + 1 => platformGetResource resources type num
      else platformGetResource resources type num

def periphBase : Nat := 0x40000000
def mpuAhb4PeriphBase : Nat := periphBase + 0x10000000
def rccBase : Nat := mpuAhb4PeriphBase + 0x0000
def gpioiBase : Nat := mpuAhb4PeriphBase + 0xA000

/-- The physical addresses, the same constants in `02_led` and in `leddevice`. -/
def address : Reg → Nat
  | .mpuAhb4PeriphRccPi => rccBase + 0xA28
  | .gpioiModerPi => gpioiBase + 0x0000
  | .gpioiOtyperPi => gpioiBase + 0x0004
  | .gpioiOspeedrPi => gpioiBase + 0x0008
  | .gpioiPupdrPi => gpioiBase + 0x000C
  | .gpioiBsrrPi => gpioiBase + 0x0018

def registerLength : Nat := 4

/-- `led_resources`. -/
def ledResources : List Resource :=
  [.mpuAhb4PeriphRccPi, .gpioiModerPi, .gpioiOtyperPi, .gpioiOspeedrPi, .gpioiPupdrPi,
    .gpioiBsrrPi].map fun r =>
      { start := address r, end_ := address r + registerLength - 1, type := .mem }

/-! ## The driver -/

inductive Call where
  | ioremap (r : Reg) (start size : Nat)
  /-- read, clear, set and write back -/
  | modify (r : Reg) (clear set : BitVec 32)
  | registerChrdev
  | iounmap (r : Reg)
  | unregisterChrdev
  deriving DecidableEq

/-- `led_unmap`. -/
def ledUnmap : List Call :=
  [.iounmap .mpuAhb4PeriphRccPi, .iounmap .gpioiModerPi, .iounmap .gpioiOtyperPi,
    .iounmap .gpioiOspeedrPi, .iounmap .gpioiPupdrPi, .iounmap .gpioiBsrrPi]

/-- A resource found and mapped, before the rest of the probe; a `NULL` that `ioremap` answers
goes unnoticed. -/
def mapResource (resources : List Resource) (num : Nat) (r : Reg) (rest : Script Call Int) :
    Script Call Int :=
  match platformGetResource resources .mem num with
  | none => .ret (-einval)
  | some mem => .attempt (.ioremap r mem.start mem.size) rest rest

/-- The clock and the pin. -/
def ledConfigure : List Call :=
  [.modify .mpuAhb4PeriphRccPi (0x1#32 <<< 8) (0x1#32 <<< 8),
    .modify .gpioiModerPi (0x3#32 <<< 0) (0x1#32 <<< 0),
    .modify .gpioiOtyperPi (0x1#32 <<< 0) 0,
    .modify .gpioiOspeedrPi (0x3#32 <<< 0) (0x2#32 <<< 0),
    .modify .gpioiPupdrPi (0x3#32 <<< 0) (0x1#32 <<< 0),
    .modify .gpioiBsrrPi 0 (0x1#32 <<< 0)]

/-- `led_probe` from the clock on. -/
def ledStart : Script Call Int :=
  .calls ledConfigure <|
  .attempt .registerChrdev (.ret 0) (.calls ledUnmap (.ret (-eio)))

/-- `led_probe`. -/
def ledProbe (resources : List Resource) : Script Call Int :=
  mapResource resources 0 .mpuAhb4PeriphRccPi <|
  mapResource resources 1 .gpioiModerPi <|
  mapResource resources 2 .gpioiOtyperPi <|
  mapResource resources 3 .gpioiOspeedrPi <|
  mapResource resources 4 .gpioiPupdrPi <|
  mapResource resources 5 .gpioiBsrrPi <|
  ledStart

/-- `led_remove`. -/
def ledRemove : List Call := ledUnmap ++ [.unregisterChrdev]

/-- `led_probe` of `leddevice`. -/
theorem ledProbe_leddevice :
    ledProbe ledResources = tries (fun _ => true) ledStart
      ([.mpuAhb4PeriphRccPi, .gpioiModerPi, .gpioiOtyperPi, .gpioiOspeedrPi, .gpioiPupdrPi,
        .gpioiBsrrPi].map fun r => .ioremap r (address r) registerLength) := rfl

theorem platformGetResource_eq (resources : List Resource) (type : ResourceType) (num : Nat) :
    platformGetResource resources type num = (resources.filter (type = ·.type))[num]? := by
  induction resources generalizing num with
  | nil => simp [platformGetResource]
  | cons r resources ih =>
      rw [List.filter_cons]
      by_cases same : type = r.type
      · subst same
        cases num with
        | zero => simp [platformGetResource]
        | succ num => simp [platformGetResource, ih]
      · simp [platformGetResource, same, ih]

/-! ## The probe, with its look-ups as calls -/

/-- The call as `Led.Binding` has it. -/
def Call.onBoard : Call → Led.Call
  | .ioremap r _ _ => .ioremap r
  | .modify r clear set => .modify r clear set
  | .registerChrdev => .registerChrdev
  | .iounmap r => .iounmap r
  | .unregisterChrdev => .unregisterChrdev

def isLookUp : Led.Call → Bool
  | .getResource _ => true
  | _ => false

@[simp] theorem isLookUp_getResource (r : Reg) : isLookUp (.getResource r) = true := rfl

/-- Where the look-ups that fail are those of the resources that are missing, the two scripts make
the same calls and give the same answer. -/
def Same (probe : Script Call Int) (script : Script Led.Call Led.Answer)
    (fails fails' : Nat → Bool) : Prop :=
  ((script.exec fails').1.filter fun k => !isLookUp k) =
      (probe.exec fails).1.map Call.onBoard ∧
    (script.exec fails').2 = .probed (probe.exec fails).2

theorem Same.mapResource {resources : List Resource} {num : Nat} {r : Reg}
    {probe : Script Call Int} {script : Script Led.Call Led.Answer} {fails fails' : Nat → Bool}
    (mapped : fails 0 = false)
    (first : fails' 0 = (platformGetResource resources .mem num).isNone)
    (rest : Same probe script (fun n => fails (n + 1)) fun n => fails' (n + 1)) :
    Same (PlatformLed.mapResource resources num r probe) (Led.mapResource r script) fails
      fails' := by
  unfold Same PlatformLed.mapResource Led.mapResource
  cases found : platformGetResource resources .mem num with
  | none =>
      rw [found] at first
      simp [Script.exec, first]
  | some mem =>
      rw [found] at first
      obtain ⟨calls, answer⟩ := rest
      have kept : isLookUp (.ioremap r) = false := rfl
      simp [Script.exec, first, mapped, kept, Call.onBoard, calls, answer]

theorem same_start (fails fails' : Nat → Bool) (same : fails' 0 = fails 0) :
    Same ledStart (.calls [.modify .mpuAhb4PeriphRccPi (0x1#32 <<< 8) (0x1#32 <<< 8),
      .modify .gpioiModerPi (0x3#32 <<< 0) (0x1#32 <<< 0),
      .modify .gpioiOtyperPi (0x1#32 <<< 0) 0,
      .modify .gpioiOspeedrPi (0x3#32 <<< 0) (0x2#32 <<< 0),
      .modify .gpioiPupdrPi (0x3#32 <<< 0) (0x1#32 <<< 0),
      .modify .gpioiBsrrPi 0 (0x1#32 <<< 0)] <|
      .attempt .registerChrdev (.ret (.probed 0)) (Led.ledUnmap (.ret (.probed (-eio)))))
      fails fails' := by
  unfold Same ledStart
  by_cases failed : fails 0 = true
  · rw [failed] at same
    simp [Script.calls, Script.exec, failed, same, isLookUp, Call.onBoard, ledConfigure, ledUnmap,
      Led.ledUnmap]
  · rw [Bool.not_eq_true] at failed
    rw [failed] at same
    simp [Script.calls, Script.exec, failed, same, isLookUp, Call.onBoard, ledConfigure]

/-- Whether the `n`-th call of `Led.Binding` that may fail does. -/
def missing (resources : List Resource) (fails : Nat → Bool) (n : Nat) : Bool :=
  if n < 6 then (platformGetResource resources .mem n).isNone else fails n

/-- **`led_probe` on a table of resources** is the probe of `Led.Binding`, where each register can
be mapped. -/
theorem ledProbe_same (resources : List Resource) {fails : Nat → Bool}
    (mapped : ∀ n < 6, fails n = false) :
    Same (ledProbe resources) Led.ledProbeScript fails (missing resources fails) := by
  refine Same.mapResource (mapped 0 (by decide)) rfl <|
    Same.mapResource (mapped 1 (by decide)) rfl <|
    Same.mapResource (mapped 2 (by decide)) rfl <|
    Same.mapResource (mapped 3 (by decide)) rfl <|
    Same.mapResource (mapped 4 (by decide)) rfl <|
    Same.mapResource (mapped 5 (by decide)) rfl ?_
  exact same_start _ _ rfl

/-! ## What a probe holds -/

inductive Owned where
  | mapping (r : Reg)
  | chrdev
  deriving DecidableEq

def effect : Call → Effect Owned
  | .ioremap r _ _ => .acquire (.mapping r)
  | .modify r _ _ => .use (.mapping r)
  | .registerChrdev => .acquire .chrdev
  | .iounmap r => .release (.mapping r)
  | .unregisterChrdev => .release .chrdev

/-- What a bound driver holds, the last acquired first. -/
def needed : List Owned :=
  [.chrdev, .mapping .gpioiBsrrPi, .mapping .gpioiPupdrPi, .mapping .gpioiOspeedrPi,
    .mapping .gpioiOtyperPi, .mapping .gpioiModerPi, .mapping .mpuAhb4PeriphRccPi]

/-- There is a memory resource for each register. -/
def Complete (resources : List Resource) : Prop :=
  6 ≤ (resources.filter (ResourceType.mem = ·.type)).length

/-- The mappings of a probe that finds them all. -/
def mapAll (mem : Nat → Resource) : List Call :=
  [.ioremap .mpuAhb4PeriphRccPi (mem 0).start (mem 0).size,
    .ioremap .gpioiModerPi (mem 1).start (mem 1).size,
    .ioremap .gpioiOtyperPi (mem 2).start (mem 2).size,
    .ioremap .gpioiOspeedrPi (mem 3).start (mem 3).size,
    .ioremap .gpioiPupdrPi (mem 4).start (mem 4).size,
    .ioremap .gpioiBsrrPi (mem 5).start (mem 5).size]

theorem ledProbe_complete {resources : List Resource} (complete : Complete resources) :
    ∃ mem, ledProbe resources = tries (fun _ => true) ledStart (mapAll mem) := by
  have found : ∀ num, ∃ mem, num < 6 → platformGetResource resources .mem num = some mem := by
    intro num
    rw [platformGetResource_eq]
    by_cases few : num < 6
    · exact ⟨_, fun _ => List.getElem?_eq_getElem (Nat.lt_of_lt_of_le few complete)⟩
    · exact ⟨⟨0, 0, .mem⟩, fun lt => absurd lt few⟩
  choose mem found using found
  refine ⟨mem, ?_⟩
  unfold ledProbe mapResource
  rw [found 0 (by decide), found 1 (by decide), found 2 (by decide), found 3 (by decide),
    found 4 (by decide), found 5 (by decide)]
  rfl

theorem ledStart_exec (fails : Nat → Bool) :
    ledStart.exec fails =
      if fails 0 then (ledConfigure ++ ledUnmap, -eio)
      else (ledConfigure ++ [.registerChrdev], 0) := by
  rw [ledStart, Script.exec_calls, Script.exec]
  cases fails 0 with
  | true => rfl
  | false => rfl

theorem ledStart_firstFailure (fails : Nat → Bool) :
    ledStart.firstFailure fails = if fails 0 then some .registerChrdev else none := by
  rw [ledStart, Script.firstFailure_calls, Script.firstFailure]
  cases fails 0 with
  | true => rfl
  | false => rfl

/-- The registers can be programmed only if they are all mapped. -/
theorem mapped_of_grounded {held : List Owned} {ks : List Call}
    (grounded : Effect.Grounded effect held (ledConfigure ++ ks)) :
    ∀ r, Owned.mapping r ∈ held := by
  have configures := (Effect.grounded_append.1 grounded).1
  rintro (_ | _ | _ | _ | _ | _)
  all_goals
    simp only [ledConfigure, Effect.Grounded, Effect.needs, Effect.apply, effect,
      Option.mem_some_iff, forall_eq'] at configures
    simp only [configures]

/-- The calls that acquire something. -/
def acquires : Call → Bool
  | .ioremap _ _ _ | .registerChrdev => true
  | _ => false

theorem held_length_le (ks : List Call) :
    (Effect.held effect [] ks).length ≤ ks.countP acquires := by
  refine (Effect.length_held_le ?_ []).trans (Nat.zero_add _).le
  intro k _ r acquire
  cases k with
  | ioremap r' start size | registerChrdev => rfl
  | modify r' clear set | iounmap r' | unregisterChrdev => cases acquire

theorem not_grounded_of_few {got rest : List Call} (few : got.length < 6) :
    ¬ Effect.Grounded effect [] (got ++ (ledConfigure ++ rest)) := by
  intro grounded
  have all := mapped_of_grounded (Effect.grounded_append.1 grounded).2
  have within : needed.tail.Subperm (Effect.held effect [] got) := by
    refine List.Nodup.subperm (by decide) ?_
    intro x listed
    simp only [needed, List.tail_cons, List.mem_cons, List.not_mem_nil, or_false] at listed
    rcases listed with rfl | rfl | rfl | rfl | rfl | rfl <;> exact all _
  have enough : 6 ≤ (Effect.held effect [] got).length := within.length_le
  have bound := (held_length_le got).trans List.countP_le_length
  omega

theorem held_ne_of_few {got rest : List Call} (few : got.length < 6)
    (once : rest.countP acquires ≤ 1) :
    Effect.held effect [] (got ++ (ledConfigure ++ rest)) ≠ needed := by
  intro all
  have enough : (Effect.held effect [] (got ++ (ledConfigure ++ rest))).length = 7 :=
    congrArg List.length all
  have bound := held_length_le (got ++ (ledConfigure ++ rest))
  have here := (List.countP_le_length : got.countP acquires ≤ got.length)
  have nothing : ledConfigure.countP acquires = 0 := by decide
  rw [List.countP_append, List.countP_append, nothing] at bound
  omega

/-- How a probe goes that finds all its resources. -/
inductive ProbeCourse (failed : Option Call) (calls : List Call × Int) : Prop
  | bound (failed : failed = none) (grounded : Effect.Grounded effect [] calls.1)
      (held : Effect.held effect [] calls.1 = needed) (answer : calls.2 = 0)
  | refused (failed : failed = some .registerChrdev) (grounded : Effect.Grounded effect [] calls.1)
      (held : Effect.held effect [] calls.1 = []) (answer : calls.2 = -eio)
  /-- a register is not mapped -/
  | unmapped (r : Reg) (start size : Nat) (failed : failed = some (.ioremap r start size))
      (lost : ¬ Effect.Grounded effect [] calls.1)
      (held : Effect.held effect [] calls.1 ≠ needed)

theorem ledProbe_course {resources : List Resource} (complete : Complete resources)
    (fails : Nat → Bool) :
    ProbeCourse ((ledProbe resources).firstFailure fails) ((ledProbe resources).exec fails) := by
  obtain ⟨mem, probe⟩ := ledProbe_complete complete
  rw [probe]
  cases tries_exec (fun _ => true) ledStart (mapAll mem) fails with
  | all later exec failed =>
      rw [exec, failed, ledStart_exec, ledStart_firstFailure]
      cases later 0 with
      | true => exact .refused rfl (of_decide_eq_true rfl) rfl rfl
      | false => exact .bound rfl (of_decide_eq_true rfl) rfl rfl
  | some got later k member may exec failed within fewer =>
      have few : got.length < 6 := by simpa [mapAll] using fewer
      have maps : ∃ r start size, k = .ioremap r start size := by
        simp only [mapAll, List.mem_cons, List.not_mem_nil, or_false] at member
        rcases member with rfl | rfl | rfl | rfl | rfl | rfl <;> exact ⟨_, _, _, rfl⟩
      obtain ⟨r, start, size, rfl⟩ := maps
      obtain ⟨rest, tail, once⟩ : ∃ rest, (ledStart.exec later).1 = ledConfigure ++ rest ∧
          rest.countP acquires ≤ 1 := by
        rw [ledStart_exec]
        cases later 0 with
        | true => exact ⟨ledUnmap, rfl, by decide⟩
        | false => exact ⟨[.registerChrdev], rfl, by decide⟩
      rw [exec, failed, tail]
      exact .unmapped r start size rfl (not_grounded_of_few few) (held_ne_of_few few once)

/-! ## On the bus -/

theorem noNul_ledName :
    (0 : UInt8) ∉ [115, 116, 109, 51, 50, 109, 112, 49, 45, 108, 101, 100] := by decide

/-- `stm32mp1-led`, the name of `leddevice` and of `led_driver`. -/
def ledName : CName :=
  { bytes := [115, 116, 109, 51, 50, 109, 112, 49, 45, 108, 101, 100], noNul := noNul_ledName }

/-- The platform bus: the resources of its devices, which bear their names alone, and what other
drivers answer.  None of them has another way of matching than its name. -/
def platform (table : CName → List Resource) (others : CName → CName → Int) :
    Bus CName CName Call :=
  { accepts := fun pdev drv => strcmp pdev.bytes drv.bytes = 0
    probe := fun pdev drv => if drv = ledName then ledProbe (table pdev) else .ret (others pdev drv)
    remove := fun _ drv => if drv = ledName then ledRemove else [] }

abbrev PlatformState := Bus.State CName CName Call
abbrev PlatformEvent := Bus.BusEvent CName CName Call

variable {table : CName → List Resource} {others : CName → CName → Int}

theorem accepts_iff {pdev drv : CName} : (platform table others).accepts pdev drv ↔ pdev = drv := by
  rw [platform, decide_eq_true_iff, strcmp_iff pdev.noNul drv.noNul]
  constructor
  · intro same
    cases pdev
    cases drv
    cases same
    rfl
  · rintro rfl
    rfl

/-- What a pair needs. -/
def neededBy (_pdev drv : CName) : List Owned := if drv = ledName then needed else []

/-- All that the probe maps is mapped. -/
def Mapped (resources : List Resource) (fails : Nat → Bool) : Prop :=
  ∀ r start size, (ledProbe resources).firstFailure fails ≠ some (.ioremap r start size)

/-- The probes that the bus runs, where `leddevice` is mapped. -/
def Allowed (table : CName → List Resource) (pdev drv : CName) (fails : Nat → Bool) : Prop :=
  pdev = drv ∧ (drv = ledName → Mapped (table ledName) fails)

theorem platform_keeps (complete : Complete (table ledName)) :
    (platform table others).Keeps effect neededBy (Allowed table) where
  probe := by
    rintro pdev drv fails ⟨rfl, mapped⟩
    by_cases led : pdev = ledName
    · subst led
      simp only [platform, neededBy, if_true]
      cases ledProbe_course complete fails with
      | bound failed grounded held answer =>
          refine ⟨grounded, ?_⟩
          rw [held, if_pos answer]
      | refused failed grounded held answer =>
          refine ⟨grounded, ?_⟩
          rw [held, answer]
          rfl
      | unmapped r start size failed lost held => exact absurd failed (mapped rfl r start size)
    · simp only [platform, neededBy, if_neg led]
      exact ⟨trivial, (ite_self _).symm⟩
  remove := by
    intro pdev drv
    by_cases led : drv = ledName
    · simp only [platform, neededBy, if_pos led]
      exact ⟨by decide, by decide⟩
    · simp only [platform, neededBy, if_neg led]
      exact ⟨trivial, rfl⟩

/-- What has been called for `leddevice` and `led_driver`. -/
def calls (s : PlatformState) : List Call := s.log (ledName, ledName)

/-- Where the step brings `leddevice` and `led_driver` together, the probe gets its mappings. -/
def MapsAll (table : CName → List Resource) (e : PlatformEvent) : Prop :=
  ∀ fails, Bus.Meets ledName ledName e fails → Mapped (table ledName) (fails ledName ledName)

section Runs

variable {es : List PlatformEvent} {u : PlatformState}

/-- Who is bound is there, and each pair holds what it needs. -/
structure Good (table : CName → List Resource) (others : CName → CName → Int)
    (s : PlatformState) : Prop where
  sound : (platform table others).Sound s
  balanced : Bus.Balanced effect neededBy s

theorem MapsAll.probes {e : PlatformEvent} (maps : MapsAll table e) :
    (platform table others).Probes (Allowed table) e := by
  intro pdev drv fails meets accepted
  obtain rfl := accepts_iff.1 accepted
  refine ⟨rfl, ?_⟩
  rintro rfl
  exact maps fails meets

theorem Good.step (complete : Complete (table ledName)) {e : PlatformEvent}
    (taken : (platform table others).machine.Takes e) (maps : MapsAll table e)
    (good : Good table others e.source) : Good table others e.target :=
  ⟨(Bus.turns_of_takes taken).sound good.sound,
    Bus.balanced_of_takes (platform_keeps complete) taken maps.probes good.balanced⟩

end Runs

/-- The clock of `led_probe` is not mapped, and it goes on. -/
example :
    let es := (platform (fun _ => ledResources) fun _ _ => 0).machine.trace Bus.empty
      [.addDriver ledName fun _ _ _ => false, .addDevice ledName fun _ _ n => n == 0]
    es.length = 2 ∧ ∃ e ∈ es, ¬ Effect.Grounded effect [] (calls e.target) := by
  decide

end LearningKernel.PlatformLed
