/-
# HelloDev.Loading -- loading hello again and again

`hello_init` as a script over what the kernel gives it, with its goto ladder, and
`hello_exit`.  What `hello.c` keeps in static variables is threaded through the
script, from any values that earlier loads may have left there.

`hello_loads_balance`: a load answers 0 exactly if none of its calls fails, a failed
one has released all that it acquired, last first, and after `hello_exit` nothing
is held.
-/
import LearningKernel.Kernel.Abi
import LearningKernel.Theory.Loads

namespace LearningKernel.HelloDev

open LearningKernel.Theory LearningKernel.Kernel

set_option autoImplicit false

/-! ## Device numbers -/

abbrev Devno := BitVec 32

/-- `MAJOR`. -/
def major (dev : Devno) : BitVec 32 := dev >>> 20

/-- `MINOR`. -/
def minor (dev : Devno) : BitVec 32 := dev &&& 0xfffff#32

/-- `MKDEV`. -/
def mkdev (ma mi : BitVec 32) : Devno := ma <<< 20 ||| mi

@[simp] theorem mkdev_major_minor (dev : Devno) : mkdev (major dev) (minor dev) = dev := by
  apply BitVec.eq_of_getLsbD_eq
  intro i bound
  have mask : ∀ j < 32, (0xfffff#32).getLsbD j = decide (j < 20) := by decide
  simp only [mkdev, major, minor, BitVec.getLsbD_or, BitVec.getLsbD_and, BitVec.getLsbD_shiftLeft,
    BitVec.getLsbD_ushiftRight, mask i bound, bound]
  by_cases low : i < 20
  · simp [low]
  · have back : 20 + (i - 20) = i := by omega
    simp [low, back]

/-! ## The script -/

variable {A C : Type}

/-- A pointer as `kmalloc` and `class_create` return it. -/
inductive Pointer (A : Type) where
  | null
  | error (code : Int)
  | valid (address : A)
  deriving DecidableEq

/-- The static variables of `hello.c`. -/
structure Statics (A C : Type) where
  helloMajor : BitVec 32
  helloMinor : BitVec 32
  helloClass : Pointer C
  helloDev : Pointer A

def Statics.devno (st : Statics A C) : Devno := mkdev st.helloMajor st.helloMinor

/-- What a load finds: the device number, memory and class that it can get, the code
of the call that fails, and the static variables, with anything in them. -/
structure Given (A C : Type) where
  dev : Devno
  memory : A
  cls : C
  error : Int
  negative : error < 0
  statics : Statics A C

/-- What the driver data of the device point to. -/
inductive Drvdata (A : Type) where
  /-- the text `"%s"` -/
  | format
  | device (dev : Pointer A)
  deriving DecidableEq

inductive Call (A C : Type) where
  | allocChrdevRegion (dev : Devno)
  | kmalloc (memory : Pointer A)
  | memset (dev : Pointer A)
  | cdevInit (dev : Pointer A)
  | cdevAdd (dev : Pointer A) (devno : Devno)
  | semaInit (dev : Pointer A)
  /-- `dev->val = 0` -/
  | clearVal (dev : Pointer A)
  | classCreate (cls : Pointer C)
  | deviceCreate (cls : Pointer C) (dev : Devno) (data : Drvdata A)
  | deviceCreateFile (cls : Pointer C) (dev : Devno)
  | devSetDrvdata (cls : Pointer C) (dev : Devno) (data : Drvdata A)
  | deviceDestroy (cls : Pointer C) (dev : Devno)
  | classDestroy (cls : Pointer C)
  | cdevDel (dev : Pointer A)
  | kfree (dev : Pointer A)
  | unregisterChrdevRegion (dev : Devno)
  deriving DecidableEq

abbrev InitScript (A C : Type) := Script (Call A C) (Int × Statics A C)

/-- The labels of `hello_init`, from `fail` up. -/
def fail (err : Int) (st : Statics A C) : InitScript A C := .ret (err, st)

def unregister (err : Int) (st : Statics A C) : InitScript A C :=
  .call (.unregisterChrdevRegion st.devno) (fail err st)

def cleanup (err : Int) (st : Statics A C) : InitScript A C :=
  .call (.kfree st.helloDev) (unregister err st)

def destroyCdev (err : Int) (st : Statics A C) : InitScript A C :=
  .call (.cdevDel st.helloDev) (cleanup err st)

def destroyClass (err : Int) (st : Statics A C) : InitScript A C :=
  .call (.classDestroy st.helloClass) (destroyCdev err st)

def destroyDevice (dev : Devno) (err : Int) (st : Statics A C) : InitScript A C :=
  .call (.deviceDestroy st.helloClass dev) (destroyClass err st)

/-- `__hello_setup_dev`, before the rest of `hello_init` or `cleanup`. -/
def helloSetupDev (st : Statics A C) (rest cleanup : InitScript A C) : InitScript A C :=
  .calls [.memset st.helloDev, .cdevInit st.helloDev] <|
  .attempt (.cdevAdd st.helloDev st.devno)
    (.calls [.semaInit st.helloDev, .clearVal st.helloDev] rest)
    cleanup

/-- `hello_init`; its format stands where `device_create` takes the driver data. -/
def helloInit (given : Given A C) : InitScript A C :=
  let numbered :=
    { given.statics with helloMajor := major given.dev, helloMinor := minor given.dev }
  let allocated := { numbered with helloDev := .valid given.memory }
  let classed := { allocated with helloClass := .valid given.cls }
  .attempt (.allocChrdevRegion given.dev)
    (.attempt (.kmalloc (.valid given.memory))
      (helloSetupDev allocated
        (.attempt (.classCreate (.valid given.cls))
          (.attempt (.deviceCreate classed.helloClass given.dev .format)
            (.attempt (.deviceCreateFile classed.helloClass given.dev)
              (.call (.devSetDrvdata classed.helloClass given.dev (.device classed.helloDev))
                (.ret (0, classed)))
              (destroyDevice given.dev given.error classed))
            (destroyClass given.error classed))
          (destroyCdev given.error { allocated with helloClass := .error given.error }))
        (cleanup given.error allocated))
      (unregister (-enomem) { numbered with helloDev := .null }))
    (fail given.error given.statics)

/-- `hello_exit`. -/
def helloExit (st : Statics A C) : List (Call A C) :=
  (match st.helloClass with
    | .null => []
    | cls => [.deviceDestroy cls st.devno, .classDestroy cls]) ++
  (match st.helloDev with
    | .null => []
    | dev => [.cdevDel dev, .kfree dev]) ++
  [.unregisterChrdevRegion st.devno]

/-! ## What is held -/

inductive Resource (A C : Type) where
  | region (dev : Devno)
  | memory (dev : Pointer A)
  | cdev (dev : Pointer A)
  | cls (cls : Pointer C)
  | device (cls : Pointer C) (dev : Devno)
  deriving DecidableEq

/-- The attribute file goes with its device. -/
def Call.effect : Call A C → Effect (Resource A C)
  | .allocChrdevRegion dev => .acquire (.region dev)
  | .kmalloc memory => .acquire (.memory memory)
  | .memset dev | .cdevInit dev | .semaInit dev | .clearVal dev => .use (.memory dev)
  | .cdevAdd dev _ => .acquire (.cdev dev)
  | .classCreate cls => .acquire (.cls cls)
  | .deviceCreate cls dev _ => .acquire (.device cls dev)
  | .deviceCreateFile cls dev | .devSetDrvdata cls dev _ => .use (.device cls dev)
  | .deviceDestroy cls dev => .release (.device cls dev)
  | .classDestroy cls => .release (.cls cls)
  | .cdevDel dev => .release (.cdev dev)
  | .kfree dev => .release (.memory dev)
  | .unregisterChrdevRegion dev => .release (.region dev)

/-- What the static variables of a loaded driver stand for. -/
def Statics.holds (st : Statics A C) : List (Resource A C) :=
  (match st.helloClass with
    | .null => []
    | cls => [.device cls st.devno, .cls cls]) ++
  (match st.helloDev with
    | .null => []
    | dev => [.cdev dev, .memory dev]) ++
  [.region st.devno]

/-- A load that answers 0 leaves the driver loaded. -/
def helloLoads (A C : Type) :
    Loadable (Call A C) (Given A C) (Int × Statics A C) (Statics A C) Empty where
  load := helloInit
  loaded _ answer := if answer.1 = 0 then some answer.2 else none
  serve _ := Empty.elim
  unload := helloExit

variable [DecidableEq A] [DecidableEq C]

/-- What comes of a load, by the call that fails first. -/
structure Load.Course (given : Given A C) (failed : Option (Call A C)) (calls : List (Call A C))
    (answer : Int × Statics A C) : Prop where
  answers : answer.1 = 0 ↔ failed = none
  negative : failed ≠ none → answer.1 < 0
  grounded : Effect.Grounded Call.effect [] calls
  lastFirst : Effect.LastFirst Call.effect [] calls
  holds : Effect.held Call.effect [] calls =
    Loadable.due Statics.holds ((helloLoads A C).loaded given answer)

theorem helloInit_courses (given : Given A C) :
    ∀ c ∈ (helloInit given).courses, Load.Course given c.1 c.2.1 c.2.2 := by
  obtain ⟨dev, memory, cls, error, negative, statics⟩ := given
  have failing : error ≠ 0 := by omega
  simp only [helloInit, helloSetupDev, destroyDevice, destroyClass, destroyCdev, cleanup,
    unregister, fail, Script.calls, List.foldr, Script.courses, Script.outcomes, List.map_cons,
    List.map_nil, List.cons_append, List.nil_append, List.forall_mem_cons, Statics.devno,
    mkdev_major_minor]
  refine ⟨?_, ?_, ?_, ?_, ?_, ?_, ?_, List.forall_mem_nil _⟩
  all_goals
    constructor <;>
    simp [Effect.Grounded, Effect.LastFirst, Effect.held, Effect.apply, Effect.needs,
      Effect.releases, Call.effect, Loadable.due, helloLoads, Statics.holds, Statics.devno,
      failing, negative, enomem]

theorem helloExit_releases (st : Statics A C) :
    Effect.Grounded Call.effect st.holds (helloExit st) ∧
      Effect.held Call.effect st.holds (helloExit st) = [] := by
  obtain ⟨ma, mi, cls, dev⟩ := st
  cases cls <;> cases dev <;>
    simp [Effect.Grounded, Effect.held, Effect.apply, Effect.needs, Call.effect, Statics.holds,
      helloExit]

/-- What comes of the load `given` in which `fails` fails. -/
theorem helloInit_course (given : Given A C) (fails : Nat → Bool) :
    Load.Course given ((helloInit given).firstFailure fails) ((helloInit given).exec fails).1
      ((helloInit given).exec fails).2 :=
  helloInit_courses given _ (Script.exec_mem_courses fails (helloInit given))

theorem helloLoads_keeps :
    (helloLoads A C).Keeps Call.effect Statics.holds fun _ _ => True where
  load given fails _ := ⟨(helloInit_course given fails).grounded, (helloInit_course given fails).holds⟩
  serve _ := nofun
  unload := helloExit_releases

/-! ## Runs -/

abbrev LoadsState (A C : Type) := Loadable.State (Call A C) (Statics A C)
abbrev LoadsEvent (A C : Type) :=
  Loadable.LoadEvent (Call A C) (Given A C) (Int × Statics A C) (Statics A C) Empty

/-- A load answers 0 if none of its calls fails; else it answers a negative error, and
its calls have released all that they acquired, last first and each once. -/
def LoadAnswers (e : LoadsEvent A C) : Prop :=
  ∀ given fails, e.act = .load given fails →
    ∃ answer calls, e.out = some answer ∧ e.target.log = e.source.log ++ calls ∧
      (answer.1 = 0 ↔ (helloInit given).firstFailure fails = none) ∧
      (answer.1 ≠ 0 → answer.1 < 0 ∧ Effect.Grounded Call.effect [] calls ∧
        Effect.LastFirst Call.effect [] calls ∧ Effect.held Call.effect [] calls = [])

/-- Nothing was released that was not held, and nothing is held unless it is loaded. -/
structure NothingLeaks (s : LoadsState A C) : Prop where
  grounded : Effect.Grounded Call.effect [] s.log
  unloaded : s.loaded = none → Effect.held Call.effect [] s.log = []

theorem loadAnswers {e : LoadsEvent A C} (turns : (helloLoads A C).Turns e) : LoadAnswers e := by
  intro given fails act
  obtain ⟨-, out, log, -⟩ := turns.of_load act
  have course := helloInit_course given fails
  refine ⟨_, _, out, log, course.answers, ?_⟩
  intro failed
  refine ⟨?_, course.grounded, course.lastFirst, ?_⟩
  · apply course.negative
    intro none_failed
    exact failed (course.answers.2 none_failed)
  · have nothing : (helloLoads A C).loaded given ((helloInit given).exec fails).2 = none :=
      if_neg failed
    rw [show (helloLoads A C).load given = helloInit given from rfl, course.holds, nothing]
    rfl

/-- **hello over any number of loads**, with any of its calls failing and anything in
its static variables. -/
theorem hello_loads_balance {es : List (LoadsEvent A C)} {u : LoadsState A C}
    (path : (helloLoads A C).machine.Path Loadable.fresh es u) :
    ∀ e ∈ es, LoadAnswers e ∧ NothingLeaks e.target := by
  intro e member
  have run := Loadable.balanced path helloLoads_keeps fun _ _ _ _ _ => trivial
  obtain ⟨turns, -, after⟩ := run.2 e member
  refine ⟨loadAnswers turns, after.grounded, ?_⟩
  intro unloaded
  rw [after.holds, unloaded]
  rfl

/-- Device 240:3, with what an earlier load left in the static variables. -/
def stale : Given Nat Nat where
  dev := mkdev 240#32 3#32
  memory := 7
  cls := 8
  error := -enomem
  negative := by decide
  statics := ⟨239#32, 0#32, .error (-enomem), .valid 5⟩

/-- `device_create` fails, then a load and an unload. -/
def failedThenLoaded : List (Loadable.Act (Given Nat Nat) Empty) :=
  [.load stale fun n => n == 4, .load stale fun _ => false, .unload]

theorem hello_loads_balance_failedThenLoaded :
    let es := (helloLoads Nat Nat).machine.trace Loadable.fresh failedThenLoaded
    es.length = 3 ∧ ∀ e ∈ es, LoadAnswers e ∧ NothingLeaks e.target :=
  ⟨rfl, hello_loads_balance (Machine.path_trace _ _ _)⟩

end LearningKernel.HelloDev
