/-
# GpioLed.Ownership -- who holds the GPIO that gpioled drives

`gpioled_parse` finds and requests the GPIO, by seven steps each of which may fail,
and `led_init` goes on with the registration whatever it answered.  So the driver
may be loaded without its GPIO, then drives and frees what it does not hold, and an
error path of the registration frees it too.  It keeps to its own GPIO exactly in
the runs in which every load gets it (`drives_owned_iff`).
-/
import LearningKernel.Kernel.Text
import LearningKernel.Theory.Loads

namespace LearningKernel.GpioLed

open LearningKernel.Theory LearningKernel.Kernel

set_option autoImplicit false

inductive Call where
  | ofFindNodeByPath
  | ofPropertyReadStatus
  /-- `strcmp(str, "okay")` -/
  | strcmpOkay
  | ofPropertyReadCompatible
  /-- `strcmp(str, "alex,led")` -/
  | strcmpCompatible
  | ofGetNamedGpio
  | gpioRequest (gpio : Int)
  | gpioDirectionOutput (gpio : Int)
  | registerChrdevRegion
  | allocChrdevRegion
  | cdevInit
  | cdevAdd
  | classCreate
  | deviceCreate
  | gpioSetValue (gpio : Int) (value : Nat)
  | deviceDestroy
  | classDestroy
  | cdevDel
  | unregisterChrdevRegion
  | gpioFree (gpio : Int)
  deriving DecidableEq

/-- The fields of `gpioled` that the driver reads back. -/
structure Gpioled where
  major : Nat
  ledGpio : Int

/-- What a load finds: the GPIO and major number that it can get, the code of the
lookup or request that fails, and the static structure, with anything in it. -/
structure Given where
  gpio : Nat
  major : Nat
  error : Int
  negative : error < 0
  gpioled : Gpioled

/-! ## The scripts -/

/-- `gpioled_parse`: what it answers, and the structure it leaves. -/
def gpioledParse (given : Given) : Script Call (Int × Gpioled) :=
  let invalid := .ret (-einval, given.gpioled)
  let found := { given.gpioled with ledGpio := given.gpio }
  .attempt .ofFindNodeByPath
    (.attempt .ofPropertyReadStatus
      (.attempt .strcmpOkay
        (.attempt .ofPropertyReadCompatible
          (.attempt .strcmpCompatible
            (.attempt .ofGetNamedGpio
              (.attempt (.gpioRequest found.ledGpio)
                -- a direction that cannot be set is only printed
                (.attempt (.gpioDirectionOutput found.ledGpio) (.ret (0, found)) (.ret (0, found)))
                (.ret (given.error, found)))
              (.ret (-einval, { given.gpioled with ledGpio := given.error })))
            invalid)
          invalid)
        invalid)
      invalid)
    invalid

/-- The registration of `led_init`, with its labels. -/
def ledRegister (major : Nat) (dev : Gpioled) : Script Call (Int × Gpioled) :=
  let numbered := if dev.major = 0 then { dev with major := major } else dev
  let freeGpio := fun dev : Gpioled => .call (.gpioFree dev.ledGpio) (.ret (-eio, dev))
  let delUnregister := .call .unregisterChrdevRegion (freeGpio numbered)
  let delCdev := .call .cdevDel delUnregister
  let destroyClass := .call .classDestroy delCdev
  .attempt (if dev.major = 0 then .allocChrdevRegion else .registerChrdevRegion)
    (.call .cdevInit <|
      .attempt .cdevAdd
        (.attempt .classCreate
          (.attempt .deviceCreate (.ret (0, numbered)) destroyClass)
          delCdev)
        delUnregister)
    (freeGpio dev)

/-- `led_init`: it ignores what `gpioled_parse` answers. -/
def ledInit (given : Given) : Script Call (Int × Gpioled) :=
  (gpioledParse given).bind fun parsed => ledRegister given.major parsed.2

/-- `led_write`: what it returns and calls. -/
def ledWrite (dev : Gpioled) (buf : UserText) : Int × List Call :=
  match kstrtoulFromUser 32 .decimal buf with
  | .error code => (code, [])
  | .ok value =>
      (buf.count,
        if value = 1 then [.gpioSetValue dev.ledGpio 0]
        else if value = 0 then [.gpioSetValue dev.ledGpio 1]
        else [])

/-- `led_exit`. -/
def ledExit (dev : Gpioled) : List Call :=
  [.cdevDel, .unregisterChrdevRegion, .deviceDestroy, .classDestroy, .gpioFree dev.ledGpio]

/-- A load that answers 0 leaves the driver loaded, to be written to. -/
def gpioledLoads : Loadable Call Given (Int × Gpioled) Gpioled UserText where
  load := ledInit
  loaded _ answer := if answer.1 = 0 then some answer.2 else none
  serve dev buf := (ledWrite dev buf).2
  unload := ledExit

/-! ## What is held -/

/-- The GPIO numbers that a call requests, drives or frees. -/
def Call.gpio : Call → Effect Int
  | .gpioRequest gpio => .acquire gpio
  | .gpioDirectionOutput gpio | .gpioSetValue gpio _ => .use gpio
  | .gpioFree gpio => .release gpio
  | _ => .neither

inductive Registration where
  | region
  | cdev
  | cls
  | device
  deriving DecidableEq

def Call.registration : Call → Effect Registration
  | .registerChrdevRegion | .allocChrdevRegion => .acquire .region
  | .cdevAdd => .acquire .cdev
  | .classCreate => .acquire .cls
  | .deviceCreate => .acquire .device
  | .deviceDestroy => .release .device
  | .classDestroy => .release .cls
  | .cdevDel => .release .cdev
  | .unregisterChrdevRegion => .release .region
  | _ => .neither

/-- The steps by which `gpioled_parse` gets the GPIO. -/
def Call.Gets : Call → Prop
  | .ofFindNodeByPath | .ofPropertyReadStatus | .strcmpOkay | .ofPropertyReadCompatible
  | .strcmpCompatible | .ofGetNamedGpio | .gpioRequest _ => True
  | _ => False

/-- None of these steps fails. -/
def Obtains (given : Given) (fails : Nat → Bool) : Prop :=
  ∀ k ∈ (ledInit given).firstFailure fails, ¬ k.Gets

abbrev LoadsState := Loadable.State Call Gpioled
abbrev LoadsEvent := Loadable.LoadEvent Call Given (Int × Gpioled) Gpioled UserText

/-- Every GPIO that was set or freed so far was held, and a load that could not obtain
the GPIO answers a negative error and leaves nothing registered. -/
structure DrivesOwned (e : LoadsEvent) : Prop where
  grounded : Effect.Grounded Call.gpio [] e.target.log
  failed : ∀ given fails, e.act = .load given fails → ¬ Obtains given fails →
    ∃ answer, e.out = some answer ∧ answer.1 < 0 ∧
      Effect.held Call.registration [] e.target.log = []

/-- A load of the event obtains the GPIO. -/
def ObtainsGpio (e : LoadsEvent) : Prop := Loadable.Loads Obtains e

/-! ## One load -/

/-- What comes of `gpioled_parse`. -/
structure ParseCourse (given : Given) (failed : Option Call) (calls : List Call)
    (parsed : Int × Gpioled) : Prop where
  grounded : Effect.Grounded Call.gpio [] calls
  obtained : (∀ k ∈ failed, ¬ k.Gets) →
    parsed.2.ledGpio = given.gpio ∧ Effect.held Call.gpio [] calls = [(given.gpio : Int)]
  missed : (∃ k ∈ failed, k.Gets) → Effect.held Call.gpio [] calls = []

theorem parse_courses (given : Given) :
    ∀ c ∈ (gpioledParse given).courses, ParseCourse given c.1 c.2.1 c.2.2 := by
  simp only [gpioledParse, Script.courses, Script.outcomes, List.map_cons, List.map_nil,
    List.cons_append, List.nil_append, List.forall_mem_cons]
  refine ⟨?_, ?_, ?_, ?_, ?_, ?_, ?_, ?_, ?_, List.forall_mem_nil _⟩
  all_goals
    constructor <;>
    simp [Effect.Grounded, Effect.held, Effect.apply, Effect.needs, Call.gpio, Call.Gets]

/-- What comes of the registration: no step of it gets the GPIO, and it frees the
GPIO if it answers an error. -/
structure RegisterCourse (dev : Gpioled) (failed : Option Call) (calls : List Call)
    (answer : Int × Gpioled) : Prop where
  other : ∀ k ∈ failed, ¬ k.Gets
  same : answer.2.ledGpio = dev.ledGpio
  loaded : answer.1 = 0 → ∀ rs, Effect.Grounded Call.gpio rs calls ∧
    Effect.held Call.gpio rs calls = rs
  failed : answer.1 ≠ 0 → ∀ rs, (Effect.Grounded Call.gpio rs calls ↔ dev.ledGpio ∈ rs) ∧
    Effect.held Call.gpio rs calls = rs.erase dev.ledGpio

theorem register_courses (major : Nat) (dev : Gpioled) :
    ∀ c ∈ (ledRegister major dev).courses, RegisterCourse dev c.1 c.2.1 c.2.2 := by
  by_cases fresh : dev.major = 0
  all_goals
    simp only [ledRegister, fresh, if_true, if_false, Script.courses, Script.outcomes,
      List.map_cons, List.map_nil, List.cons_append, List.nil_append, List.forall_mem_cons]
    refine ⟨?_, ?_, ?_, ?_, ?_, List.forall_mem_nil _⟩
  all_goals
    constructor <;>
    simp [Effect.Grounded, Effect.held, Effect.apply, Effect.needs, Call.gpio, Call.Gets, eio]

/-- A load is its parse and its registration. -/
theorem ledInit_parts (given : Given) (fails : Nat → Bool) :
    ∃ (parsed : Int × Gpioled) (calls calls' : List Call) (failed failed' : Option Call),
      ParseCourse given failed calls parsed ∧
        RegisterCourse parsed.2 failed' calls' ((ledInit given).exec fails).2 ∧
          ((ledInit given).exec fails).1 = calls ++ calls' ∧
            (ledInit given).firstFailure fails = failed.or failed' := by
  obtain ⟨later, same, first⟩ :=
    Script.exec_bind (fun parsed => ledRegister given.major parsed.2) fails (gpioledParse given)
  have parse := parse_courses given _ (Script.exec_mem_courses fails (gpioledParse given))
  have register := register_courses given.major ((gpioledParse given).exec fails).2.2 _
    (Script.exec_mem_courses later (ledRegister given.major ((gpioledParse given).exec fails).2.2))
  refine ⟨_, _, _, _, _, parse, ?_, congrArg Prod.fst same, first⟩
  rw [ledInit, same]
  exact register

/-- A load that obtains the GPIO holds it exactly if it leaves the driver loaded. -/
theorem ledInit_obtained {given : Given} {fails : Nat → Bool} (obtains : Obtains given fails) :
    Effect.Grounded Call.gpio [] ((ledInit given).exec fails).1 ∧
      Effect.held Call.gpio [] ((ledInit given).exec fails).1 =
        Loadable.due (fun dev : Gpioled => [dev.ledGpio])
          (gpioledLoads.loaded given ((ledInit given).exec fails).2) := by
  obtain ⟨parsed, calls, calls', failed, failed', parse, register, same, first⟩ :=
    ledInit_parts given fails
  have got : ∀ k ∈ failed, ¬ k.Gets := by
    intro k fails_at
    apply obtains k
    rw [first, Option.mem_def.1 fails_at]
    rfl
  obtain ⟨gpio, holds⟩ := parse.obtained got
  rw [same, Effect.grounded_append, Effect.held_append, holds]
  by_cases loads : ((ledInit given).exec fails).2.1 = 0
  · obtain ⟨grounded, kept⟩ := register.loaded loads [(given.gpio : Int)]
    refine ⟨⟨parse.grounded, grounded⟩, kept.trans ?_⟩
    rw [show gpioledLoads.loaded given _ = some ((ledInit given).exec fails).2.2 from if_pos loads]
    show [(given.gpio : Int)] = [((ledInit given).exec fails).2.2.ledGpio]
    rw [register.same, gpio]
  · obtain ⟨grounded, freed⟩ := register.failed loads [(given.gpio : Int)]
    refine ⟨⟨parse.grounded, grounded.2 ?_⟩, freed.trans ?_⟩
    · rw [gpio]
      exact List.mem_singleton_self _
    · rw [show gpioledLoads.loaded given _ = none from if_neg loads, gpio,
        List.erase_cons_head]
      rfl

/-- A load that does not obtain it leaves the driver loaded, or frees what is not held. -/
theorem ledInit_missed {given : Given} {fails : Nat → Bool} (missed : ¬ Obtains given fails) :
    ((ledInit given).exec fails).2.1 = 0 ∨
      ¬ Effect.Grounded Call.gpio [] ((ledInit given).exec fails).1 := by
  obtain ⟨parsed, calls, calls', failed, failed', parse, register, same, first⟩ :=
    ledInit_parts given fails
  have at_parse : ∃ k ∈ failed, k.Gets := by
    rw [Obtains, first] at missed
    push Not at missed
    obtain ⟨k, fails_at, gets⟩ := missed
    cases failed with
    | some k' => exact ⟨k, fails_at, gets⟩
    | none => exact absurd gets (register.other k fails_at)
  by_cases loads : ((ledInit given).exec fails).2.1 = 0
  · exact Or.inl loads
  · right
    rw [same, Effect.grounded_append, parse.missed at_parse]
    rintro ⟨-, grounded⟩
    cases (register.failed loads []).1.1 grounded

theorem gpioledLoads_keeps :
    gpioledLoads.Keeps Call.gpio (fun dev => [dev.ledGpio]) Obtains where
  load _ _ := ledInit_obtained
  serve dev buf := by
    show Effect.Grounded Call.gpio _ (ledWrite dev buf).2 ∧
      Effect.held Call.gpio _ (ledWrite dev buf).2 = _
    unfold ledWrite
    split
    · exact ⟨trivial, rfl⟩
    · split_ifs <;> simp [Effect.Grounded, Effect.held, Effect.apply, Effect.needs, Call.gpio]
  unload dev := by
    simp [gpioledLoads, ledExit, Effect.Grounded, Effect.held, Effect.apply, Effect.needs,
      Call.gpio]

/-! ## Runs -/

section Runs

variable {es : List LoadsEvent} {u : LoadsState}

/-- After loads that all obtained their GPIO, the next one keeps to its own only if it
does so, too. -/
theorem obtainsGpio_of_drivesOwned {e : LoadsEvent} (turns : gpioledLoads.Turns e)
    (before : Loadable.Balanced Call.gpio (fun dev : Gpioled => [dev.ledGpio]) e.source)
    (owned : DrivesOwned e) : ObtainsGpio e := by
  intro given fails act
  by_contra missed
  obtain ⟨free, out, log, -⟩ := turns.of_load act
  obtain ⟨answer, answers, negative, -⟩ := owned.failed given fails act missed
  have same : answer = ((ledInit given).exec fails).2 :=
    Option.some.inj (answers.symm.trans out)
  rw [same] at negative
  rcases ledInit_missed missed with loads | ungrounded
  · omega
  · have grounded := owned.grounded
    rw [log, Effect.grounded_append, before.holds, free] at grounded
    exact ungrounded grounded.2

/-- **gpioled keeps to its own GPIO** exactly in the runs in which every load obtains it. -/
theorem drives_owned_iff (path : gpioledLoads.machine.Path Loadable.fresh es u) :
    (∀ e ∈ es, DrivesOwned e) ↔ ∀ e ∈ es, ObtainsGpio e := by
  constructor
  · intro owned
    have start : Loadable.Balanced Call.gpio (fun dev : Gpioled => [dev.ledGpio]) Loadable.fresh :=
      Loadable.balanced_fresh
    refine path.forces (C := ObtainsGpio) ?_ ?_ start owned
    · intro e taken obtains before
      exact (Loadable.turns_of_takes taken).balanced gpioledLoads_keeps obtains before
    · intro e taken before owned
      exact obtainsGpio_of_drivesOwned (Loadable.turns_of_takes taken) before owned
  · intro obtains e member
    obtain ⟨-, -, after⟩ := (Loadable.balanced path gpioledLoads_keeps obtains).2 e member
    refine ⟨after.grounded, ?_⟩
    intro given fails act missed
    exact absurd (obtains e member given fails act) missed

end Runs

/-- GPIO 7, and a structure that has never been used. -/
def pin : Given where
  gpio := 7
  major := 240
  error := -ebusy
  negative := by decide
  gpioled := ⟨0, 0⟩

/-- A write of "1". -/
def switchOn : UserText := ⟨[49], 1⟩

/-- A load, a write and an unload; then a load that cannot add its device. -/
def loadsAndWrite : List (Loadable.Act Given UserText) :=
  [.load pin fun _ => false, .serve switchOn, .unload, .load pin fun n => n == 9]

theorem drives_owned_iff_loadsAndWrite :
    let es := gpioledLoads.machine.trace Loadable.fresh loadsAndWrite
    (∀ e ∈ es, DrivesOwned e) ↔ ∀ e ∈ es, ObtainsGpio e :=
  drives_owned_iff (Machine.path_trace _ _ _)

/-- Somebody else holds the GPIO: the driver is loaded all the same, and drives it. -/
theorem drives_unowned_gpio :
    ∃ (es : List LoadsEvent) (e d : LoadsEvent) (u : LoadsState),
      gpioledLoads.machine.Path Loadable.fresh es u ∧ e ∈ es ∧ d ∈ es ∧
        ¬ Obtains pin (fun n => n == 6) ∧ e.act = .load pin (fun n => n == 6) ∧
          e.out.map Prod.fst = some 0 ∧
            Effect.held Call.registration [] e.target.log = [.device, .cls, .cdev, .region] ∧
              d.act = .serve switchOn ∧ ¬ Effect.Grounded Call.gpio [] d.target.log := by
  let as : List (Loadable.Act Given UserText) := [.load pin fun n => n == 6, .serve switchOn]
  let es := gpioledLoads.machine.trace Loadable.fresh as
  refine ⟨es, es[0], es[1], _, Machine.path_trace _ _ as, List.getElem_mem _, List.getElem_mem _,
    ?_, rfl, by decide, by decide, rfl, by decide⟩
  intro obtains
  exact obtains (.gpioRequest 7) (by decide) trivial

end LearningKernel.GpioLed
