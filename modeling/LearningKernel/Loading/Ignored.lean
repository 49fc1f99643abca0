/-
# Loading.Ignored -- loads that do not look at what their calls answer

`globalmem_init` prints what `cdev_add` answers and goes on; `led_chrdev_init` of `myclass` looks
at no answer at all.  Both then answer 0, and what unloads them releases everything that
they should have acquired.

`loaded_whole_iff`: whenever one of them is loaded it holds all that it serves with, and its
unloading releases that and nothing else, exactly in the runs in which no ignored call
fails.
-/
import LearningKernel.HelloDev.Loading
import LearningKernel.MyClass.Device
import LearningKernel.Theory.Ladder

namespace LearningKernel.Loading.Ignored

open LearningKernel.Theory LearningKernel.Kernel
open LearningKernel.HelloDev (Devno mkdev major minor mkdev_major_minor)

set_option autoImplicit false

inductive Module where
  | globalmem
  | myclass
  deriving DecidableEq

/-- What a load finds: the parameter `globalmem_major`, the device number that it is given
where it asks for one, the first of its minors, and the code of a failing registration. -/
structure Given where
  globalmemMajor : BitVec 32
  dev : Devno
  first : minor dev = 0
  error : Int
  negative : error < 0

inductive Call where
  | registerChrdevRegion (dev : Devno) (count : Nat)
  | allocChrdevRegion (dev : Devno) (count : Nat)
  | kmalloc
  | memset
  | classCreate
  | cdevInit (index : Nat)
  | cdevAdd (index : Nat) (dev : Devno)
  | deviceCreate (dev : Devno)
  | deviceDestroy (dev : Devno)
  | cdevDel (index : Nat)
  | classDestroy
  | kfree
  | unregisterChrdevRegion (dev : Devno) (count : Nat)
  deriving DecidableEq

/-- Calls that may fail. -/
def Call.mayFail : Call → Bool
  | .registerChrdevRegion _ _ | .allocChrdevRegion _ _ | .kmalloc | .classCreate | .cdevAdd _ _
  | .deviceCreate _ => true
  | _ => false

/-! ## The scripts -/

/-- `globalmem_setup_cdev`, before the rest. -/
def globalmemSetupCdev (globalmemMajor : BitVec 32) (index : Nat)
    (rest : Script Call (Int × Devno)) : Script Call (Int × Devno) :=
  let devno := mkdev globalmemMajor (BitVec.ofNat 32 index)
  tries Call.mayFail rest [.cdevInit index, .cdevAdd index devno]

/-- `globalmem_init` once it has its number `devno`. -/
def globalmemSetup (devno : Devno) (globalmemMajor : BitVec 32) : Script Call (Int × Devno) :=
  .attempt .kmalloc
    (.call .memset (globalmemSetupCdev globalmemMajor 0 (.ret (0, mkdev globalmemMajor 0))))
    (.call (.unregisterChrdevRegion devno 1) (.ret (-enomem, mkdev globalmemMajor 0)))

/-- `globalmem_init`, with the number that `globalmem_major` then stands for. -/
def globalmemInit (given : Given) : Script Call (Int × Devno) :=
  let devno := mkdev given.globalmemMajor 0
  if given.globalmemMajor = 0 then
    .attempt (.allocChrdevRegion given.dev 1) (globalmemSetup given.dev (major given.dev))
      (.ret (given.error, mkdev (major devno) 0))
  else
    .attempt (.registerChrdevRegion devno 1) (globalmemSetup devno given.globalmemMajor)
      (.ret (given.error, devno))

/-- `globalmem_exit`; `devno` is `MKDEV(globalmem_major, 0)`. -/
def globalmemExit (devno : Devno) : List Call :=
  [.cdevDel 0, .kfree, .unregisterChrdevRegion devno 1]

/-- `DEV_CNT`. -/
def devCnt : Nat := 3

/-- The number of a device of `myclass`. -/
def curDev (devno : Devno) (i : Nat) : Devno := mkdev (major devno) (minor devno + BitVec.ofNat 32 i)

/-- The body of the loop of `led_chrdev_init`. -/
def setUp (devno : Devno) (i : Nat) : List Call :=
  [.cdevInit i, .cdevAdd i (curDev devno i), .deviceCreate (curDev devno i)]

/-- The calls of `led_chrdev_init` after its first. -/
def setUpAll (devno : Devno) : List Call :=
  .classCreate :: (List.range devCnt).flatMap (setUp devno)

def ledChrdevSetup (devno : Devno) : Script Call (Int × Devno) :=
  tries Call.mayFail (.ret (0, devno)) (setUpAll devno)

/-- `led_chrdev_init`, with the static `devno` that it leaves, which was 0. -/
def ledChrdevInit (given : Given) : Script Call (Int × Devno) :=
  .attempt (.allocChrdevRegion given.dev devCnt) (ledChrdevSetup given.dev) (ledChrdevSetup 0)

/-- `led_chrdev_exit`. -/
def ledChrdevExit (devno : Devno) : List Call :=
  ((List.range devCnt).flatMap fun i => [.deviceDestroy (curDev devno i), .cdevDel i]) ++
    [.unregisterChrdevRegion devno devCnt, .classDestroy]

def Module.init : Module → Given → Script Call (Int × Devno)
  | .globalmem => globalmemInit
  | .myclass => ledChrdevInit

def Module.exit : Module → Devno → List Call
  | .globalmem => globalmemExit
  | .myclass => ledChrdevExit

/-- A load that answers 0 leaves the module loaded. -/
def moduleLoads (m : Module) : Loadable Call Given (Int × Devno) Devno Empty where
  load := m.init
  loaded _ answer := if answer.1 = 0 then some answer.2 else none
  serve _ := Empty.elim
  unload := m.exit

/-! ## What is held -/

inductive Resource where
  | region (dev : Devno) (count : Nat)
  | memory
  | cls
  | cdev (index : Nat)
  | device (dev : Devno)
  deriving DecidableEq

def Call.effect : Call → Effect Resource
  | .registerChrdevRegion dev count | .allocChrdevRegion dev count => .acquire (.region dev count)
  | .kmalloc => .acquire .memory
  | .memset => .use .memory
  | .classCreate => .acquire .cls
  | .cdevInit _ => .neither
  | .cdevAdd index _ => .acquire (.cdev index)
  | .deviceCreate dev => .acquire (.device dev)
  | .deviceDestroy dev => .release (.device dev)
  | .cdevDel index => .release (.cdev index)
  | .classDestroy => .release .cls
  | .kfree => .release .memory
  | .unregisterChrdevRegion dev count => .release (.region dev count)

/-- All that a loaded module serves with, the last acquired first. -/
def Module.holds : Module → Devno → List Resource
  | .globalmem, devno => [.cdev 0, .memory, .region devno 1]
  | .myclass, devno =>
      ((List.range devCnt).reverse.flatMap fun i => [.device (curDev devno i), .cdev i]) ++
        [.cls, .region devno devCnt]

/-- The calls whose answers the module does not look at. -/
def Module.ignores : Module → Call → Bool
  | .globalmem, .cdevAdd _ _ => true
  | .globalmem, _ => false
  | .myclass, k => k.mayFail

/-- No ignored call is the one that fails. -/
def Module.Heard (m : Module) (given : Given) (fails : Nat → Bool) : Prop :=
  ∀ k ∈ (m.init given).firstFailure fails, m.ignores k = false

/-- The load of the event has no ignored call fail. -/
def HeardLoad (m : Module) : Loadable.LoadEvent Call Given (Int × Devno) Devno Empty → Prop :=
  Loadable.Loads m.Heard

/-! ## Loads -/

/-- What comes of a load: with no ignored call failing it holds what it answers for, and else
it answers 0 with less. -/
structure Course (m : Module) (given : Given) (failed : Option Call) (calls : List Call)
    (answer : Int × Devno) : Prop where
  grounded : Effect.Grounded Call.effect [] calls
  heard : (∀ k ∈ failed, m.ignores k = false) →
    Effect.held Call.effect [] calls = Loadable.due m.holds ((moduleLoads m).loaded given answer)
  unheard : (∃ k ∈ failed, m.ignores k = true) → answer.1 = 0 ∧
    Effect.held Call.effect [] calls ≠ m.holds answer.2

/-- The set-up of `globalmem` after its region. -/
theorem globalmemSetup_courses {devno : Devno} {globalmemMajor : BitVec 32}
    (number : mkdev globalmemMajor 0 = devno) :
    ∀ c ∈ (globalmemSetup devno globalmemMajor).courses,
      Effect.Grounded Call.effect [.region devno 1] c.2.1 ∧
      ((∀ k ∈ c.1, Module.globalmem.ignores k = false) →
        Effect.held Call.effect [.region devno 1] c.2.1 =
          Loadable.due Module.globalmem.holds (if c.2.2.1 = 0 then some c.2.2.2 else none)) ∧
      ((∃ k ∈ c.1, Module.globalmem.ignores k = true) → c.2.2.1 = 0 ∧
        Effect.held Call.effect [.region devno 1] c.2.1 ≠ Module.globalmem.holds c.2.2.2) := by
  subst number
  simp [globalmemSetup, globalmemSetupCdev, tries, Call.mayFail, Script.courses, Script.outcomes,
    Effect.Grounded, Effect.held, Effect.apply, Effect.needs, Call.effect, Module.holds,
    Module.ignores, Loadable.due, enomem]

/-- `globalmem` from its region on. -/
theorem region_course {devno : Devno} {globalmemMajor : BitVec 32}
    (number : mkdev globalmemMajor 0 = devno) {k : Call}
    (region : k.effect = .acquire (.region devno 1)) (heeded : Module.globalmem.ignores k = false)
    {answer : Int × Devno} (failing : answer.1 ≠ 0) (given : Given) (fails : Nat → Bool) :
    Course .globalmem given
      ((Script.attempt k (globalmemSetup devno globalmemMajor) (.ret answer)).firstFailure fails)
      ((Script.attempt k (globalmemSetup devno globalmemMajor) (.ret answer)).exec fails).1
      ((Script.attempt k (globalmemSetup devno globalmemMajor) (.ret answer)).exec fails).2 := by
  by_cases failed : fails 0 = true
  · obtain ⟨exec, first⟩ := Script.exec_of_fails failed k (globalmemSetup devno globalmemMajor)
      (.ret answer)
    rw [exec, first]
    refine ⟨trivial, ?_, ?_⟩
    · intro _
      show [] = Loadable.due _ (if answer.1 = 0 then some answer.2 else none)
      rw [if_neg failing]
      rfl
    · rintro ⟨_, ⟨⟩, ignored⟩
      rw [heeded] at ignored
      cases ignored
  · obtain ⟨exec, first⟩ := Script.exec_of_succeeds failed k (globalmemSetup devno globalmemMajor)
      (.ret answer)
    obtain ⟨grounded, heard, unheard⟩ := globalmemSetup_courses number _
      (Script.exec_mem_courses (fun n => fails (n + 1)) (globalmemSetup devno globalmemMajor))
    have acquired : k.effect.apply [] = [.region devno 1] := by
      rw [region]
      rfl
    rw [exec, first]
    refine ⟨⟨?_, ?_⟩, ?_, ?_⟩
    · rw [region]
      nofun
    · rw [acquired]
      exact grounded
    · intro quiet
      rw [Effect.held, List.foldl_cons, acquired]
      exact heard quiet
    · intro fails
      rw [Effect.held, List.foldl_cons, acquired]
      exact unheard fails

theorem globalmem_course (given : Given) (fails : Nat → Bool) :
    Course .globalmem given ((globalmemInit given).firstFailure fails)
      ((globalmemInit given).exec fails).1 ((globalmemInit given).exec fails).2 := by
  have failing : given.error ≠ 0 := by
    have negative := given.negative
    omega
  by_cases dynamic : given.globalmemMajor = 0
  · have number : mkdev (major given.dev) 0 = given.dev := by
      rw [← given.first, mkdev_major_minor]
    rw [globalmemInit, if_pos dynamic]
    exact region_course number rfl rfl failing given fails
  · rw [globalmemInit, if_neg dynamic]
    exact region_course rfl rfl rfl failing given fails

theorem setUp_acquires (devno : Devno) :
    ∀ k ∈ setUpAll devno,
      k.effect = .neither ∨ k.mayFail = true ∧ ∃ r, k.effect = .acquire r := by
  intro k member
  rcases List.mem_cons.1 member with rfl | member
  · exact Or.inr ⟨rfl, _, rfl⟩
  · obtain ⟨i, -, member⟩ := List.mem_flatMap.1 member
    simp only [setUp, List.mem_cons, List.not_mem_nil, or_false] at member
    rcases member with rfl | rfl | rfl
    · exact Or.inl rfl
    · exact Or.inr ⟨rfl, _, rfl⟩
    · exact Or.inr ⟨rfl, _, rfl⟩

/-- Fewer acquisitions than a loaded `myclass` holds. -/
theorem ne_holds_of_few {held : List Resource} (few : held.length < 8) (devno : Devno) :
    held ≠ Module.myclass.holds devno := by
  rintro rfl
  exact absurd few (by decide : ¬ 8 < 8)

theorem myclass_course (given : Given) (fails : Nat → Bool) :
    Course .myclass given ((ledChrdevInit given).firstFailure fails)
      ((ledChrdevInit given).exec fails).1 ((ledChrdevInit given).exec fails).2 := by
  have count : ∀ devno, (setUpAll devno).countP Call.mayFail = 7 := fun _ => rfl
  by_cases failed : fails 0 = true
  · obtain ⟨got, later, exec, within⟩ := tries_within Call.mayFail
      (.ret ((0, 0) : Int × Devno)) (setUpAll 0) fun n => fails (n + 1)
    obtain ⟨runs, first⟩ := Script.exec_of_fails failed (.allocChrdevRegion given.dev devCnt)
      (ledChrdevSetup given.dev) (ledChrdevSetup 0)
    rw [ledChrdevInit, runs, first, ledChrdevSetup, exec]
    simp only [Script.exec, List.append_nil]
    obtain ⟨grounded, few⟩ := held_acquires
      (fun k member => setUp_acquires 0 k (within.subset member)) ([] : List Resource)
    refine ⟨grounded, ?_, ?_⟩
    · intro heard
      have ignored : true = false := heard _ rfl
      cases ignored
    · refine fun _ => ⟨rfl, ne_holds_of_few ?_ 0⟩
      have fewer := within.countP_le (p := Call.mayFail)
      rw [count] at fewer
      rw [List.length_nil] at few
      omega
  · have tried := tries_exec Call.mayFail (.ret ((0, given.dev) : Int × Devno))
      (setUpAll given.dev) fun n => fails (n + 1)
    obtain ⟨runs, first⟩ := Script.exec_of_succeeds failed (.allocChrdevRegion given.dev devCnt)
      (ledChrdevSetup given.dev) (ledChrdevSetup 0)
    rw [ledChrdevInit, runs, first, ledChrdevSetup]
    cases tried with
    | all later exec failed =>
        rw [exec, failed]
        simp only [Script.exec, List.append_nil]
        obtain ⟨grounded, -⟩ := held_acquires (setUp_acquires given.dev)
          [Resource.region given.dev devCnt]
        refine ⟨⟨fun _ need => absurd need (Option.not_mem_none _), grounded⟩, fun _ => rfl, ?_⟩
        rintro ⟨k, none_, -⟩
        cases none_
    | some got later k member may exec failed within fewer =>
        rw [exec, failed]
        simp only [Script.exec, List.append_nil]
        obtain ⟨grounded, few⟩ := held_acquires
          (fun k member => setUp_acquires given.dev k (within.subset member))
          [Resource.region given.dev devCnt]
        refine ⟨⟨fun _ need => absurd need (Option.not_mem_none _), grounded⟩, ?_, ?_⟩
        · intro heard
          have ignored : k.mayFail = false := heard k rfl
          rw [may] at ignored
          cases ignored
        · refine fun _ => ⟨rfl, ne_holds_of_few ?_ given.dev⟩
          rw [count] at fewer
          rw [List.length_singleton] at few
          show (Effect.held Call.effect [Resource.region given.dev devCnt] got).length < 8
          omega

theorem init_course (m : Module) (given : Given) (fails : Nat → Bool) :
    Course m given ((m.init given).firstFailure fails) ((m.init given).exec fails).1
      ((m.init given).exec fails).2 :=
  match m with
  | .globalmem => globalmem_course given fails
  | .myclass => myclass_course given fails

theorem exit_releases (m : Module) (devno : Devno) :
    Effect.Grounded Call.effect (m.holds devno) (m.exit devno) ∧
      Effect.held Call.effect (m.holds devno) (m.exit devno) = [] := by
  cases m with
  | globalmem =>
      have releases : (globalmemExit devno).map Call.effect =
          (Module.globalmem.holds devno).map Effect.release := rfl
      exact Effect.released releases (List.Perm.refl _)
  | myclass =>
      let devices := fun i => [Resource.device (curDev devno i), .cdev i]
      have order : ((List.range devCnt).flatMap devices ++ [Resource.region devno devCnt, Resource.cls]).Perm
          (Module.myclass.holds devno) :=
        ((List.reverse_perm (List.range devCnt)).symm.flatMap_right devices).append
          (List.Perm.swap _ _ [])
      exact Effect.released rfl order

theorem moduleLoads_keeps (m : Module) :
    (moduleLoads m).Keeps Call.effect m.holds m.Heard where
  load given fails heard :=
    ⟨(init_course m given fails).grounded, (init_course m given fails).heard heard⟩
  serve _ := nofun
  unload := exit_releases m

/-! ## Runs -/

abbrev LoadsState := Loadable.State Call Devno
abbrev LoadsEvent := Loadable.LoadEvent Call Given (Int × Devno) Devno Empty

/-- Loaded, the module holds all that it serves with; else it holds nothing; and nothing was
released that was not held. -/
structure Whole (m : Module) (s : LoadsState) : Prop where
  grounded : Effect.Grounded Call.effect [] s.log
  loaded : ∀ devno ∈ s.loaded, Effect.held Call.effect [] s.log = m.holds devno
  unloaded : s.loaded = none → Effect.held Call.effect [] s.log = []

theorem whole_iff_balanced {m : Module} {s : LoadsState} :
    Whole m s ↔ Loadable.Balanced Call.effect m.holds s := by
  constructor
  · rintro ⟨grounded, loaded, unloaded⟩
    refine ⟨grounded, ?_⟩
    cases here : s.loaded with
    | none => exact unloaded here
    | some devno => exact loaded devno here
  · rintro ⟨grounded, holds⟩
    refine ⟨grounded, ?_, ?_⟩
    · intro devno here
      rw [holds, Option.mem_def.1 here]
      rfl
    · intro unloaded
      rw [holds, unloaded]
      rfl

section Runs

variable {m : Module} {es : List LoadsEvent} {u : LoadsState}

/-- **A module that is loaded is whole** exactly in the runs in which no call fails whose answer
its load does not look at. -/
theorem loaded_whole_iff (path : (moduleLoads m).machine.Path Loadable.fresh es u) :
    (∀ e ∈ es, Whole m e.target) ↔ ∀ e ∈ es, HeardLoad m e := by
  simp only [whole_iff_balanced]
  constructor
  · intro whole
    refine path.forces (P := fun e => Loadable.Balanced Call.effect m.holds e.target)
      (I := Loadable.Balanced Call.effect m.holds) ?_ ?_ Loadable.balanced_fresh whole
    · intro e taken heard before
      exact (Loadable.turns_of_takes taken).balanced (moduleLoads_keeps m) heard before
    · intro e taken before after given fails act k first
      by_contra ignored
      rw [Bool.not_eq_false] at ignored
      obtain ⟨free, -, log, loaded⟩ := (Loadable.turns_of_takes taken).of_load act
      obtain ⟨zero, less⟩ := (init_course m given fails).unheard ⟨k, first, ignored⟩
      have nothing : Effect.held Call.effect [] e.source.log = [] := by
        rw [before.holds, free]
        rfl
      have holds := after.holds
      rw [loaded, log, Effect.held_append, nothing] at holds
      exact less (holds.trans (congrArg (Loadable.due m.holds) (if_pos zero)))
  · intro heard e member
    exact ((Loadable.balanced path (moduleLoads_keeps m) heard).2 e member).2.2

end Runs

theorem minor_mkdev_zero : minor (mkdev 240 0) = 0 := by decide

theorem enomem_neg : -enomem < 0 := by decide

/-- Device number 240:0. -/
def free240 : Given where
  globalmemMajor := 0
  dev := mkdev 240 0
  first := minor_mkdev_zero
  error := -enomem
  negative := enomem_neg

/-- `globalmem` has no memory, is loaded, unloaded, and cannot add its cdev. -/
def loadsOfGlobalmem : List (Loadable.Act Given Empty) :=
  [.load free240 fun n => n == 1, .load free240 fun _ => false, .unload,
    .load free240 fun n => n == 2]

theorem loaded_whole_iff_loadsOfGlobalmem :
    let es := (moduleLoads .globalmem).machine.trace Loadable.fresh loadsOfGlobalmem
    es.length = 4 ∧ ((∀ e ∈ es, Whole .globalmem e.target) ↔ ∀ e ∈ es, HeardLoad .globalmem e) :=
  ⟨rfl, loaded_whole_iff (Machine.path_trace _ _ _)⟩

end LearningKernel.Loading.Ignored
