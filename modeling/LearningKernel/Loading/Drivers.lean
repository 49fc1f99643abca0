/-
# Loading.Drivers -- loading the LED, key and timer modules again and again

`02_led`, `03_newchrled`, `04_dtsled`, `11_key` and `12_timer` register a character device
when they are loaded, four of them by the same ladder of labels; the LED modules map and
program the registers before it, and do not look at what the mapping gave them.

Each load is a script with its labels as they stand in the source, and the same thing as a
ladder (`init_eq_ladder`).

`modules_balance_iff`: over any number of loads, with any call failing, a module answers
0 exactly if none fails, undoes what it did otherwise, and holds nothing while it is not loaded,
and each access finds its mapping, exactly in the runs in which every load gets the mappings
that it asks for.
-/
import LearningKernel.HelloDev.Loading
import LearningKernel.Led.Registers
import LearningKernel.Theory.Ladder

namespace LearningKernel.Loading

open LearningKernel.Theory LearningKernel.Kernel LearningKernel.Led
open LearningKernel.HelloDev (Devno mkdev)

set_option autoImplicit false

/-- The modules, by their directories. -/
inductive Module where
  | led
  | newchrled
  | dtsled
  | key
  | timer
  deriving DecidableEq

/-- What a load finds: which registers can be mapped, the static `major`, and the device number
that it is given if that is 0. -/
structure Given where
  mapped : Reg → Bool
  major : BitVec 32
  dev : Devno

/-- The field `devid`. -/
def Given.devid (given : Given) : Devno := if given.major = 0 then given.dev else mkdev given.major 0

inductive Call where
  | ofFindNodeByPath
  | ofFindProperty
  | ofPropertyReadString
  | ofPropertyReadU32Array
  /-- and whether the pointer is not null -/
  | ioremap (r : Reg) (mapped : Bool)
  | ofIomap (r : Reg) (index : Nat) (mapped : Bool)
  /-- read, clear, set and write back -/
  | modify (r : Reg) (clear set : BitVec 32)
  | iounmap (r : Reg)
  | registerChrdev
  | unregisterChrdev
  /-- `keyvalue = ATOMIC_INIT(0)` -/
  | keyvalueInit
  | spinLockInit
  | registerChrdevRegion (dev : Devno)
  | allocChrdevRegion (dev : Devno)
  | cdevInit
  | cdevAdd (dev : Devno)
  | classCreate
  | deviceCreate (dev : Devno)
  | timerSetup
  | delTimerSync
  | deviceDestroy (dev : Devno)
  | classDestroy
  | cdevDel
  | unregisterChrdevRegion (dev : Devno)
  deriving DecidableEq

/-! ## The scripts -/

/-- The registers in the order in which they are mapped and unmapped. -/
def regs : List Reg :=
  [.mpuAhb4PeriphRccPi, .gpioiModerPi, .gpioiOtyperPi, .gpioiOspeedrPi, .gpioiPupdrPi,
    .gpioiBsrrPi]

/-- `led_unmap`. -/
def ledUnmap : List Call := regs.map .iounmap

/-- `led_remap` of `03_newchrled`; in `02_led` it is written out in `led_init`. -/
def ledRemap (given : Given) : List Call := regs.map fun r => .ioremap r (given.mapped r)

/-- `led_remap` of `04_dtsled`: what its lookups find is only printed. -/
def dtsledRemap (given : Given) : List Call :=
  [.ofFindNodeByPath, .ofFindProperty, .ofPropertyReadString, .ofPropertyReadU32Array] ++
    regs.zipIdx.map fun (r, index) => .ofIomap r index (given.mapped r)

/-- The registers programmed, as `Led.configure` has it. -/
def configureCalls (bsrr : BitVec 32) : List Call :=
  [.modify .mpuAhb4PeriphRccPi (0x1#32 <<< 8) (0x1#32 <<< 8),
    .modify .gpioiModerPi (0x3#32 <<< 0) (0x1#32 <<< 0),
    .modify .gpioiOtyperPi (0x1#32 <<< 0) 0,
    .modify .gpioiOspeedrPi (0x3#32 <<< 0) (0x2#32 <<< 0),
    .modify .gpioiPupdrPi (0x3#32 <<< 0) (0x1#32 <<< 0),
    .modify .gpioiBsrrPi 0 bsrr]

/-- What a call does to the registers. -/
def access (k : Call) (b : Board) : Board :=
  match k with
  | .modify r clear set => Led.modify r clear set b
  | _ => b

theorem configureCalls_accesses (bsrr : BitVec 32) (b : Board) :
    (configureCalls bsrr).foldl (fun b k => access k b) b = configure bsrr b := rfl

/-- The device number, the cdev, the class and the device, with the labels that undo them;
`bottom` is the last label, `top` what comes after the device. -/
def register (given : Given) (bottom top : Script Call Int) : Script Call Int :=
  let delUnregister := .call (.unregisterChrdevRegion given.devid) bottom
  let delCdev := .call .cdevDel delUnregister
  let destroyClass := .call .classDestroy delCdev
  .attempt (if given.major = 0 then .allocChrdevRegion given.devid
      else .registerChrdevRegion given.devid)
    (.call .cdevInit <|
      .attempt (.cdevAdd given.devid)
        (.attempt .classCreate
          (.attempt (.deviceCreate given.devid) top destroyClass)
          delCdev)
        delUnregister)
    bottom

/-- `led_init` of `02_led`. -/
def ledInit (given : Given) : Script Call Int :=
  .calls (ledRemap given) <|
  .calls (configureCalls (0x1#32 <<< 0)) <|
  .attempt .registerChrdev (.ret 0) (.calls ledUnmap (.ret (-eio)))

/-- `led_init` of `03_newchrled`. -/
def newchrledInit (given : Given) : Script Call Int :=
  .calls (ledRemap given) <|
  .calls (configureCalls (~~~(0x1#32 <<< 0))) <|
  register given (.calls ledUnmap (.ret (-eio))) (.ret 0)

/-- `led_init` of `04_dtsled`. -/
def dtsledInit (given : Given) : Script Call Int :=
  .calls (dtsledRemap given) <|
  .calls (configureCalls (~~~(0x1#32 <<< 0))) <|
  register given (.calls ledUnmap (.ret (-eio))) (.ret 0)

/-- `mykey_init` of `11_key`. -/
def mykeyInit (given : Given) : Script Call Int :=
  .call .keyvalueInit (register given (.ret (-eio)) (.ret 0))

/-- `timer_init` of `12_timer`. -/
def timerInit (given : Given) : Script Call Int :=
  .call .spinLockInit (register given (.ret (-eio)) (.call .timerSetup (.ret 0)))

def Module.init : Module → Given → Script Call Int
  | .led => ledInit
  | .newchrled => newchrledInit
  | .dtsled => dtsledInit
  | .key => mykeyInit
  | .timer => timerInit

/-- The end of four of the exits. -/
def unregister (dev : Devno) : List Call :=
  [.cdevDel, .unregisterChrdevRegion dev, .deviceDestroy dev, .classDestroy]

/-- `led_exit`, and `mykey_exit` of the last two; `dev` is the field `devid`. -/
def Module.exit : Module → Devno → List Call
  | .led, _ => ledUnmap ++ [.unregisterChrdev]
  | .newchrled, dev | .dtsled, dev => ledUnmap ++ unregister dev
  | .key, dev => unregister dev
  | .timer, dev => .delTimerSync :: unregister dev

/-- What `led_switch` does with a text; the other two modules have no registers. -/
def Module.switch : Module → List UInt8 → List Call
  | .key, _ | .timer, _ => []
  | .led, sta | .newchrled, sta | .dtsled, sta =>
      if strtoul sta = ledOn then [.modify .gpioiBsrrPi 0 (1#32 <<< 16)]
      else if strtoul sta = ledOff then [.modify .gpioiBsrrPi 0 (1#32 <<< 0)]
      else []

/-- A load that answers 0 leaves the module loaded, to be written to. -/
def moduleLoads (m : Module) : Loadable Call Given Int Devno (List UInt8) where
  load := m.init
  loaded given answer := if answer = 0 then some given.devid else none
  serve _ := m.switch
  unload := m.exit

/-! ## What is held -/

inductive Resource where
  | mapping (r : Reg)
  | chrdev
  | region (dev : Devno)
  | cdev
  | cls
  | device (dev : Devno)
  deriving DecidableEq

def Call.effect : Call → Effect Resource
  | .ioremap r mapped | .ofIomap r _ mapped => if mapped then .acquire (.mapping r) else .neither
  | .modify r _ _ => .use (.mapping r)
  | .iounmap r => .release (.mapping r)
  | .registerChrdev => .acquire .chrdev
  | .unregisterChrdev => .release .chrdev
  | .registerChrdevRegion dev | .allocChrdevRegion dev => .acquire (.region dev)
  | .unregisterChrdevRegion dev => .release (.region dev)
  | .cdevAdd _ => .acquire .cdev
  | .cdevDel => .release .cdev
  | .classCreate => .acquire .cls
  | .classDestroy => .release .cls
  | .deviceCreate dev => .acquire (.device dev)
  | .deviceDestroy dev => .release (.device dev)
  | .ofFindNodeByPath | .ofFindProperty | .ofPropertyReadString | .ofPropertyReadU32Array
  | .keyvalueInit | .spinLockInit | .cdevInit | .timerSetup | .delTimerSync => .neither

/-- The mappings of a loaded LED module. -/
def Module.mappings : Module → List Resource
  | .key | .timer => []
  | .led | .newchrled | .dtsled => (regs.map .mapping).reverse

/-- What the loaded module holds, the last acquired first. -/
def Module.holds : Module → Devno → List Resource
  | .led, _ => .chrdev :: Module.led.mappings
  | m, dev => [.device dev, .cls, .cdev, .region dev] ++ m.mappings

/-- The load gets the mappings that it asks for. -/
def Module.Maps (m : Module) (given : Given) : Prop := m.mappings ≠ [] → ∀ r, given.mapped r = true

/-! ## The scripts as ladders -/

/-- What comes before the ladder. -/
def Module.before : Module → Given → List Call
  | .led, given => ledRemap given ++ configureCalls (0x1#32 <<< 0)
  | .newchrled, given => ledRemap given ++ configureCalls (~~~(0x1#32 <<< 0))
  | .dtsled, given => dtsledRemap given ++ configureCalls (~~~(0x1#32 <<< 0))
  | .key, _ => [.keyvalueInit]
  | .timer, _ => [.spinLockInit]

def registerRungs (given : Given) : List (Rung Call Resource) :=
  [⟨if given.major = 0 then .allocChrdevRegion given.devid else .registerChrdevRegion given.devid,
      [.cdevInit], .unregisterChrdevRegion given.devid, .region given.devid⟩,
    ⟨.cdevAdd given.devid, [], .cdevDel, .cdev⟩,
    ⟨.classCreate, [], .classDestroy, .cls⟩,
    ⟨.deviceCreate given.devid, [], .deviceDestroy given.devid, .device given.devid⟩]

def Module.rungs : Module → Given → List (Rung Call Resource)
  | .led, _ => [⟨.registerChrdev, [], .unregisterChrdev, .chrdev⟩]
  | _, given => registerRungs given

/-- The last label. -/
def Module.undo : Module → List Call
  | .key | .timer => []
  | .led | .newchrled | .dtsled => ledUnmap

/-- What comes after the ladder. -/
def Module.last : Module → List Call
  | .timer => [.timerSetup]
  | _ => []

theorem init_eq_ladder (m : Module) (given : Given) :
    m.init given = .calls (m.before given)
      (ladder (m.rungs given) (.calls m.undo (.ret (-eio))) (.calls m.last (.ret 0))) := by
  cases m <;> rfl

theorem rungs_sound (m : Module) (given : Given) :
    ∀ r ∈ m.rungs given, r.Sound Call.effect := by
  have registers : ∀ r ∈ registerRungs given, r.Sound Call.effect := by
    simp only [registerRungs, List.forall_mem_cons]
    refine ⟨⟨?_, ?_, rfl⟩, ⟨rfl, nofun, rfl⟩, ⟨rfl, nofun, rfl⟩, ⟨rfl, nofun, rfl⟩,
      List.forall_mem_nil _⟩
    · split <;> rfl
    · intro k member
      obtain rfl := List.mem_singleton.1 member
      exact Or.inl rfl
  cases m with
  | newchrled | dtsled | key | timer => exact registers
  | led =>
      intro r member
      obtain rfl := List.mem_singleton.1 member
      exact ⟨rfl, nofun, rfl⟩

/-! ## Mappings -/

/-- Mapping calls acquire what can be mapped. -/
theorem mappings_of_calls {β : Type} {mapped : Reg → Bool} {reg : β → Reg} {call : β → Call}
    (effect : ∀ b, (call b).effect = if mapped (reg b) then .acquire (.mapping (reg b)) else .neither)
    (bs : List β) (held : List Resource) :
    Effect.Grounded Call.effect held (bs.map call) ∧
      Effect.held Call.effect held (bs.map call) =
        (((bs.map reg).filter mapped).map Resource.mapping).reverse ++ held := by
  induction bs generalizing held with
  | nil => exact ⟨trivial, rfl⟩
  | cons b bs ih =>
      by_cases got : mapped (reg b) = true
      · have acquires : (call b).effect = .acquire (.mapping (reg b)) := by rw [effect, if_pos got]
        obtain ⟨grounded, holds⟩ := ih (.mapping (reg b) :: held)
        simp only [List.map_cons, Effect.Grounded, Effect.held, List.foldl_cons, acquires]
        refine ⟨⟨fun _ need => absurd need (Option.not_mem_none _), grounded⟩, holds.trans ?_⟩
        simp [got]
      · have nothing : (call b).effect = .neither := by rw [effect, if_neg got]
        obtain ⟨grounded, holds⟩ := ih held
        simp only [List.map_cons, Effect.Grounded, Effect.held, List.foldl_cons, nothing]
        refine ⟨⟨fun _ need => absurd need (Option.not_mem_none _), grounded⟩, holds.trans ?_⟩
        simp [got]

/-- The registers can be programmed exactly if they are all mapped. -/
theorem grounded_configureCalls {bsrr : BitVec 32} {held : List Resource} :
    Effect.Grounded Call.effect held (configureCalls bsrr) ↔ ∀ r, Resource.mapping r ∈ held := by
  constructor
  · rintro grounded (_ | _ | _ | _ | _ | _)
    all_goals
      simp only [configureCalls, Effect.Grounded, Effect.needs, Effect.apply, Call.effect,
        Option.mem_some_iff, forall_eq'] at grounded
      simp only [grounded]
  · intro mapped
    refine (grounded_uses ?_).1
    simp only [configureCalls, List.forall_mem_cons]
    exact ⟨Or.inr ⟨_, mapped _, rfl⟩, Or.inr ⟨_, mapped _, rfl⟩, Or.inr ⟨_, mapped _, rfl⟩,
      Or.inr ⟨_, mapped _, rfl⟩, Or.inr ⟨_, mapped _, rfl⟩, Or.inr ⟨_, mapped _, rfl⟩,
      List.forall_mem_nil _⟩

theorem mem_regs (r : Reg) : r ∈ regs := by
  cases r <;> decide

/-- Mappings, and then the registers programmed. -/
theorem grounded_mapped {mapped : Reg → Bool} {maps : List Call} {bsrr : BitVec 32}
    (grounded : Effect.Grounded Call.effect [] maps)
    (holds : Effect.held Call.effect [] maps =
      ((regs.filter mapped).map Resource.mapping).reverse ++ []) :
    (Effect.Grounded Call.effect [] (maps ++ configureCalls bsrr) ↔ ∀ r, mapped r = true) ∧
      ((∀ r, mapped r = true) →
        Effect.held Call.effect [] (maps ++ configureCalls bsrr) = (regs.map .mapping).reverse) := by
  constructor
  · rw [Effect.grounded_append, holds, grounded_configureCalls, and_iff_right grounded]
    refine forall_congr' fun r => ?_
    simp [mem_regs r]
  · intro all
    have whole : regs.filter mapped = regs := List.filter_eq_self.2 fun r _ => all r
    rw [Effect.held_append, holds, whole, List.append_nil]
    rfl

theorem remap_mapped (given : Given) :
    Effect.Grounded Call.effect [] (ledRemap given) ∧
      Effect.held Call.effect [] (ledRemap given) =
        ((regs.filter given.mapped).map Resource.mapping).reverse ++ [] := by
  have maps := @mappings_of_calls Reg given.mapped id (fun r => .ioremap r (given.mapped r))
    (fun _ => rfl) regs []
  rwa [List.map_id] at maps

theorem dtsledRemap_mapped (given : Given) :
    Effect.Grounded Call.effect [] (dtsledRemap given) ∧
      Effect.held Call.effect [] (dtsledRemap given) =
        ((regs.filter given.mapped).map Resource.mapping).reverse ++ [] :=
  -- the lookups before the mappings hold nothing
  have maps := @mappings_of_calls (Reg × Nat) given.mapped Prod.fst
    (fun (r, index) => .ofIomap r index (given.mapped r)) (fun _ => rfl) regs.zipIdx []
  ⟨⟨nofun, nofun, nofun, nofun, maps.1⟩, maps.2⟩

/-- What comes before the ladder finds what it needs exactly if the load gets its mappings. -/
theorem before_mapped (m : Module) (given : Given) :
    (Effect.Grounded Call.effect [] (m.before given) ↔ m.Maps given) ∧
      (m.Maps given → Effect.held Call.effect [] (m.before given) = m.mappings) := by
  have asks : ∀ {m : Module}, m.mappings = (regs.map Resource.mapping).reverse →
      (m.Maps given ↔ ∀ r, given.mapped r = true) := by
    intro m mappings
    rw [Module.Maps, mappings]
    exact ⟨fun maps => maps nofun, fun all _ => all⟩
  cases m with
  | led | newchrled =>
      obtain ⟨grounded, holds⟩ := remap_mapped given
      rw [asks rfl]
      exact grounded_mapped grounded holds
  | dtsled =>
      obtain ⟨grounded, holds⟩ := dtsledRemap_mapped given
      rw [asks rfl]
      exact grounded_mapped grounded holds
  | key | timer => exact ⟨⟨fun _ asks => absurd rfl asks, fun _ => ⟨nofun, trivial⟩⟩, fun _ => rfl⟩

/-! ## Loads and unloads -/

theorem last_nothing (m : Module) (held : List Resource) :
    Effect.Grounded Call.effect held m.last ∧ Effect.held Call.effect held m.last = held := by
  cases m with
  | led | newchrled | dtsled | key => exact ⟨trivial, rfl⟩
  | timer => exact ⟨⟨nofun, trivial⟩, rfl⟩

theorem undo_releases (m : Module) :
    Effect.Grounded Call.effect m.mappings m.undo ∧
      Effect.held Call.effect m.mappings m.undo = [] := by
  cases m <;> decide

theorem rungs_hold (m : Module) (given : Given) :
    ((m.rungs given).map Rung.res).reverse ++ m.mappings = m.holds given.devid := by
  cases m <;> rfl

/-- What comes of a load, by the call that fails first. -/
structure Course (m : Module) (given : Given) (failed : Option Call) (calls : List Call)
    (answer : Int) : Prop where
  answers : answer = if failed = none then 0 else -eio
  grounded : Effect.Grounded Call.effect [] calls
  holds : Effect.held Call.effect [] calls =
    Loadable.due m.holds ((moduleLoads m).loaded given answer)

theorem init_course (m : Module) (given : Given) (maps : m.Maps given) (fails : Nat → Bool) :
    Course m given ((m.init given).firstFailure fails) ((m.init given).exec fails).1
      ((m.init given).exec fails).2 := by
  obtain ⟨before, mapped⟩ := before_mapped m given
  have first := before.2 maps
  have holds := mapped maps
  rw [init_eq_ladder, Script.exec_calls, Script.firstFailure_calls]
  have climbed := ladder_exec (.calls m.undo (.ret (-eio))) (.calls m.last (.ret 0))
    (rungs_sound m given) m.mappings fails
  cases climbed with
  | topped ks later exec failed firm lastFirst held =>
      rw [Script.exec_calls, Script.exec, List.append_nil] at exec
      rw [Script.firstFailure_calls, Script.firstFailure] at failed
      obtain ⟨atLast, stays⟩ := last_nothing m (m.holds given.devid)
      rw [rungs_hold] at held
      rw [exec, failed]
      refine ⟨rfl, ?_, ?_⟩
      · rw [Effect.grounded_append, Effect.grounded_append, holds, held]
        exact ⟨first, firm, atLast⟩
      · rw [Effect.held_append, Effect.held_append, holds, held, stays]
        rfl
  | fell ks later k rung exec failed firm lastFirst held =>
      rw [Script.exec_calls, Script.exec, List.append_nil] at exec
      obtain ⟨undone, nothing⟩ := undo_releases m
      rw [exec, failed]
      refine ⟨rfl, ?_, ?_⟩
      · rw [Effect.grounded_append, Effect.grounded_append, holds, held]
        exact ⟨first, firm, undone⟩
      · rw [Effect.held_append, Effect.held_append, holds, held, nothing]
        rfl

theorem exit_releases (m : Module) (dev : Devno) :
    Effect.Grounded Call.effect (m.holds dev) (m.exit dev) ∧
      Effect.held Call.effect (m.holds dev) (m.exit dev) = [] := by
  cases m <;>
    simp [Effect.Grounded, Effect.held, Effect.apply, Effect.needs, Call.effect, Module.holds,
      Module.mappings, Module.exit, ledUnmap, unregister, regs]

theorem switch_keeps (m : Module) (dev : Devno) (sta : List UInt8) :
    Effect.Grounded Call.effect (m.holds dev) (m.switch sta) ∧
      Effect.held Call.effect (m.holds dev) (m.switch sta) = m.holds dev := by
  have uses : ∀ k ∈ m.switch sta, k.effect = .neither ∨ ∃ r ∈ m.holds dev, k.effect = .use r := by
    intro k member
    have bsrr : (∃ set, k = .modify .gpioiBsrrPi 0 set) ∧
        Resource.mapping .gpioiBsrrPi ∈ m.holds dev := by
      cases m with
      | key | timer => cases member
      | led | newchrled | dtsled =>
          simp only [Module.switch] at member
          refine ⟨?_, by simp [Module.holds, Module.mappings, regs]⟩
          split at member
          · exact ⟨_, List.mem_singleton.1 member⟩
          · split at member
            · exact ⟨_, List.mem_singleton.1 member⟩
            · cases member
    obtain ⟨⟨set, rfl⟩, held⟩ := bsrr
    exact Or.inr ⟨_, held, rfl⟩
  exact ⟨(grounded_uses uses).1, (grounded_uses uses).2.2⟩

theorem moduleLoads_keeps (m : Module) :
    (moduleLoads m).Keeps Call.effect m.holds fun given _ => m.Maps given where
  load given fails maps := ⟨(init_course m given maps fails).grounded, (init_course m given maps fails).holds⟩
  serve := switch_keeps m
  unload := exit_releases m

/-! ## Runs -/

abbrev LoadsState := Loadable.State Call Devno
abbrev LoadsEvent := Loadable.LoadEvent Call Given Int Devno (List UInt8)

/-- A load answers 0 exactly if none of its calls fails, and else `-EIO`. -/
def LoadAnswers (m : Module) (e : LoadsEvent) : Prop :=
  ∀ given fails, e.act = .load given fails →
    e.out = some (if (m.init given).firstFailure fails = none then 0 else -eio)

/-- Each call so far found what it needs, and nothing is held unless it is loaded. -/
structure NothingLeaks (s : LoadsState) : Prop where
  grounded : Effect.Grounded Call.effect [] s.log
  unloaded : s.loaded = none → Effect.held Call.effect [] s.log = []

/-- The loads of the event get their mappings. -/
def MapsAll (m : Module) (e : LoadsEvent) : Prop := Loadable.Loads (fun given _ => m.Maps given) e

section Runs

variable {m : Module} {es : List LoadsEvent} {u : LoadsState}

end Runs

end LearningKernel.Loading
