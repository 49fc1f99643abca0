/-
# HelloDev.Visible -- using hello while it is loaded

`hello_init` among clients that use what of the driver is already visible: the
character device from `cdev_add` on, the attribute file from `device_create_file`
on.  The semaphore and the register are initialised after the first, the driver data
set after the second; until then they are the format `"%s"`.

`usable_in_order`: the operations find all of it in place, and the initialisation
overwrites nothing that was reported as written, if file operations wait for
`sema_init` and end before `kfree`, writes reach the register after `dev->val = 0`
and the attribute operations wait for `dev_set_drvdata`.
-/
import LearningKernel.HelloDev.Loading
import LearningKernel.Theory.Latest

namespace LearningKernel.HelloDev

open LearningKernel.Theory LearningKernel.Kernel

set_option autoImplicit false

/-! ## The platform -/

/-- What is visible, and what of it is initialised; `drvdata` if the driver data of the device are
a `struct hello_android_dev`. -/
structure Held where
  cdev : Bool := false
  sem : Bool := false
  cleared : Bool := false
  attr : Bool := false
  drvdata : Bool := false
  deriving DecidableEq

variable {A C T : Type}

def Drvdata.isDevice : Drvdata A → Bool
  | .format => false
  | .device _ => true

def own (k : Call A C) (held : Held) : Held :=
  match k with
  | .cdevAdd _ _ => { held with cdev := true }
  | .semaInit _ => { held with sem := true }
  | .clearVal _ => { held with cleared := true }
  | .deviceCreateFile _ _ => { held with attr := true }
  | .deviceCreate _ _ data | .devSetDrvdata _ _ data => { held with drvdata := data.isDevice }
  | .deviceDestroy _ _ => { held with attr := false, drvdata := false }
  | .cdevDel _ => { held with cdev := false }
  | .kfree _ => { held with sem := false }
  | .allocChrdevRegion _ | .kmalloc _ | .memset _ | .cdevInit _ | .classCreate _
  | .classDestroy _ | .unregisterChrdevRegion _ => held

/-- `hello_read`, `hello_write`, `hello_val_show`, `hello_val_store`. -/
inductive Use where
  | read
  | write
  | valShow
  | valStore
  deriving DecidableEq

/-- Through an open file, or through the attribute. -/
def Use.file : Use → Bool
  | .read | .write => true
  | .valShow | .valStore => false

def Use.writes : Use → Bool
  | .write | .valStore => true
  | .read | .valShow => false

/-- Where a client is in an operation. -/
inductive Stage where
  | idle
  /-- before `down_interruptible` -/
  | waiting (use : Use)
  /-- holding the semaphore -/
  | inside (use : Use)
  /-- its value is in the register; `lost` if the initialisation has overwritten it -/
  | stored (use : Use) (lost : Bool)
  /-- without having stored anything -/
  | done (use : Use)
  /-- on a semaphore that is none, or on driver data that are no device -/
  | hung
  deriving DecidableEq

/-- The operation the client is in. -/
def Stage.use? : Stage → Option Use
  | idle | hung => none
  | waiting use | inside use | stored use _ | done use => some use

/-- `dev->val = 0`. -/
def Stage.clear : Stage → Stage
  | stored use _ => stored use true
  | stage => stage

/-- The clients, the one that holds the semaphore, and whether the value of any has
been reported as written. -/
structure Clients (T : Type) where
  opened : T → Bool
  stage : T → Stage
  holder : Option T
  reported : Bool

/-- No client has come yet. -/
def Clients.nobody (T : Type) : Clients T :=
  { opened := fun _ => false, stage := fun _ => .idle, holder := none, reported := false }

/-- Where `device_destroy` is called there is no attribute file yet to wait for. -/
def settle (k : Call A C) (clients : Clients T) : Option (Clients T) :=
  match k with
  | .semaInit _ => some { clients with holder := none }
  | .clearVal _ => some { clients with stage := fun c => (clients.stage c).clear }
  | _ => some clients

/-- The steps of an operation that touch `struct hello_android_dev`. -/
inductive UseStep where
  | down
  /-- `down_interruptible` refuses -/
  | interrupted
  /-- the copy or assignment, successful if `ok` -/
  | access (ok : Bool)
  /-- `up` and return -/
  | up
  deriving DecidableEq

inductive Occurrence (T : Type) where
  | opens (c : T)
  | closes (c : T)
  /-- an operation is called and finds its `struct hello_android_dev` -/
  | call (c : T) (use : Use)
  | step (c : T) (use : Use) (s : UseStep)
  deriving DecidableEq

variable [DecidableEq T]

def Clients.enter (clients : Clients T) (c : T) (stage : Stage) : Clients T :=
  { clients with stage := Function.update clients.stage c stage }

/-- An open file, or the attribute file. -/
def Clients.reaches (clients : Clients T) (held : Held) (c : T) (use : Use) : Bool :=
  if use.file then clients.opened c else held.attr

def occur (x : Occurrence T) (held : Held) (clients : Clients T) : Option (Clients T) :=
  match x with
  | .opens c =>
      if held.cdev then some { clients with opened := Function.update clients.opened c true }
      else none
  | .closes c =>
      if clients.stage c = .idle then
        some { clients with opened := Function.update clients.opened c false }
      else none
  | .call c use =>
      if clients.stage c = .idle ∧ clients.reaches held c use = true then
        some (clients.enter c (if use.file ∨ held.drvdata then .waiting use else .hung))
      else none
  | .step c use .down =>
      if clients.stage c = .waiting use then
        if held.sem then
          if clients.holder = none then
            some { clients.enter c (.inside use) with holder := some c }
          else none
        else some (clients.enter c .hung)
      else none
  | .step c use .interrupted =>
      if clients.stage c = .waiting use then
        some (clients.enter c (if held.sem then .idle else .hung))
      else none
  | .step c use (.access ok) =>
      if clients.stage c = .inside use then
        some (clients.enter c (if ok ∧ use.writes then .stored use false else .done use))
      else none
  | .step c use .up =>
      match clients.stage c with
      | .stored use' _ =>
          if use' = use then
            some { clients.enter c .idle with holder := none, reported := true }
          else none
      | .done use' =>
          if use' = use then some { clients.enter c .idle with holder := none } else none
      | _ => none

def platform (A C T : Type) [DecidableEq T] :
    Platform (Call A C) (Occurrence T) Held (Clients T) :=
  { own := own, settle := settle, occur := occur }

abbrev VisibleState (A C T : Type) :=
  Platform.State (Call A C) Held (Clients T) (Int × Statics A C)
abbrev VisibleEvent (A C T : Type) :=
  Platform.RunEvent (Call A C) (Occurrence T) Held (Clients T) (Int × Statics A C)

/-- The module about to be loaded. -/
def loading (given : Given A C) (T : Type) : VisibleState A C T :=
  { held := {}, flight := .nobody T, rest := helloInit given }

/-! ## What is claimed of the steps -/

/-- Each step of an operation finds the semaphore initialised, each operation of the
attribute the driver data set, and `dev->val = 0` overwrites nothing that was reported
as written before or is before `hello_init` has finished. -/
structure Usable (e : VisibleEvent A C T) : Prop where
  sem : ∀ c use s, e.act = .occur (.step c use s) → e.source.held.sem = true
  drvdata : ∀ c use, e.act = .occur (.call c use) → use.file = false →
    e.source.held.drvdata = true
  unreported : ∀ dev, e.act = .proceed → e.source.rest.next? = some (.clearVal dev) →
    e.source.flight.reported = false
  kept : ∀ c use, e.act = .occur (.step c use .up) → e.source.flight.stage c = .stored use true →
    e.source.rest.answer? ≠ none

/-- `hello_init` has called `k` by now. -/
def Called (before : List (VisibleEvent A C T)) (k : Call A C) : Prop :=
  ∃ d ∈ before, d.act = .proceed ∧ d.source.rest.next? = some k

/-- `hello_dev` and `temp`. -/
def Given.helloDev (given : Given A C) : Pointer A := .valid given.memory

def Given.setsDrvdata (given : Given A C) : Call A C :=
  .devSetDrvdata (.valid given.cls) given.dev (.device given.helloDev)

/-- The operations come in order: those on files take their steps after `sema_init` and
before `kfree`, a write reaches the register after `dev->val = 0`, and those of the
attribute are called after `dev_set_drvdata`. -/
structure InOrder (given : Given A C) (before : List (VisibleEvent A C T))
    (e : VisibleEvent A C T) : Prop where
  file : ∀ c use s, e.act = .occur (.step c use s) → use.file = true →
    Called before (.semaInit given.helloDev) ∧ ¬ Called before (.kfree given.helloDev)
  write : ∀ c, e.act = .occur (.step c .write (.access true)) →
    Called before (.clearVal given.helloDev)
  attr : ∀ c use, e.act = .occur (.call c use) → use.file = false →
    Called before given.setsDrvdata

instance [DecidableEq A] [DecidableEq C] (before : List (VisibleEvent A C T)) (k : Call A C) :
    Decidable (Called before k) :=
  inferInstanceAs (Decidable (∃ d ∈ before, d.act = .proceed ∧ d.source.rest.next? = some k))

instance [DecidableEq A] [DecidableEq C] (given : Given A C) (before : List (VisibleEvent A C T))
    (e : VisibleEvent A C T) : Decidable (InOrder given before e) :=
  match act : e.act with
  | .occur (.step c use s) =>
      decidable_of_iff
        ((use.file = true →
            Called before (.semaInit given.helloDev) ∧ ¬ Called before (.kfree given.helloDev)) ∧
          (use = .write ∧ s = .access true → Called before (.clearVal given.helloDev)))
        ⟨fun order =>
          { file := by
              intro c' use' s' act'
              rw [act] at act'
              cases act'
              exact order.1
            write := by
              intro c' act'
              rw [act] at act'
              cases act'
              exact order.2 ⟨rfl, rfl⟩
            attr := by
              intro c' use' act'
              rw [act] at act'
              cases act' },
          fun order => ⟨order.file c use s act, by
            rintro ⟨rfl, rfl⟩
            exact order.write c act⟩⟩
  | .occur (.call c use) =>
      decidable_of_iff (use.file = false → Called before given.setsDrvdata)
        ⟨fun order =>
          { file := by
              intro c' use' s' act'
              rw [act] at act'
              cases act'
            write := by
              intro c' act'
              rw [act] at act'
              cases act'
            attr := by
              intro c' use' act'
              rw [act] at act'
              cases act'
              exact order },
          fun order => order.attr c use act⟩
  | .occur (.opens c) | .occur (.closes c) | .proceed | .fail =>
      .isTrue
        { file := by
            intro c' use' s' act'
            rw [act] at act'
            cases act'
          write := by
            intro c' act'
            rw [act] at act'
            cases act'
          attr := by
            intro c' use' act'
            rw [act] at act'
            cases act' }

/-! ## Places -/

theorem init_places (given : Given A C) :
    ∀ p ∈ (helloInit given).places own {},
      (p.1.drvdata = true → p.1.sem = true ∧ p.1.cleared = true ∧ p.2.next? = none) ∧
        ∀ k ∈ p.2.next?, (∀ dev, k = .clearVal dev → p.1.cleared = false) ∧
          ∀ dev, k = .kfree dev → dev = given.helloDev := by
  simp [helloInit, helloSetupDev, destroyDevice, destroyClass, destroyCdev, cleanup,
    unregister, fail, Script.calls, Script.places, own, Script.next?, Given.helloDev,
    Drvdata.isDevice]

/-! ## What a client's step changes -/

section Clients

variable {x : Occurrence T} {held : Held} {clients clients' : Clients T} {c : T}

theorem stage_enter (clients : Clients T) (c d : T) (stage : Stage) :
    (clients.enter c stage).stage d = if d = c then stage else clients.stage d := by
  by_cases same : d = c
  · subst same
    simp [Clients.enter]
  · simp [Clients.enter, same]

/-- How the stage of the client `c` can change. -/
inductive StageMoves (x : Occurrence T) (held : Held) (c : T) : Stage → Stage → Prop where
  | calls (use : Use) (act : x = .call c use) (found : use.file = true ∨ held.drvdata = true) :
      StageMoves x held c .idle (.waiting use)
  | enters (use : Use) : StageMoves x held c (.waiting use) (.inside use)
  | stores (use : Use) (act : x = .step c use (.access true)) (writes : use.writes = true) :
      StageMoves x held c (.inside use) (.stored use false)
  | passes (use : Use) : StageMoves x held c (.inside use) (.done use)
  | leaves (stage : Stage) : StageMoves x held c stage .idle
  | hangs (stage : Stage) : StageMoves x held c stage .hung

/-- The cases of one occurrence: a file is opened or closed, or one client moves. -/
inductive ClientTurns (x : Occurrence T) (held : Held) (clients clients' : Clients T) : Prop where
  | door (stage : clients'.stage = clients.stage) (reported : clients'.reported = clients.reported)
  | moves (c : T) (stage : Stage) (stages : clients'.stage = (clients.enter c stage).stage)
      (reported : clients'.reported = true →
        clients.reported = true ∨ ∃ use lost, clients.stage c = .stored use lost)
      (move : StageMoves x held c (clients.stage c) stage)

theorem clientTurns_of_occur (happens : occur x held clients = some clients') :
    ClientTurns x held clients clients' := by
  cases x with
  | opens d | closes d =>
      simp only [occur] at happens
      split at happens <;> cases happens
      exact .door rfl rfl
  | call d use =>
      simp only [occur] at happens
      split at happens
      · rename_i ready
        cases happens
        refine .moves d _ rfl Or.inl ?_
        rw [ready.1]
        split
        · rename_i found
          exact .calls use rfl found
        · exact .hangs _
      · cases happens
  | step d use s =>
      cases s with
      | down =>
          simp only [occur] at happens
          split_ifs at happens with waiting sem free <;> cases happens
          · refine .moves d _ rfl Or.inl ?_
            rw [waiting]
            exact .enters use
          · exact .moves d _ rfl Or.inl (.hangs _)
      | interrupted =>
          simp only [occur] at happens
          split at happens <;> cases happens
          refine .moves d _ rfl Or.inl ?_
          split
          · exact .leaves _
          · exact .hangs _
      | access ok =>
          simp only [occur] at happens
          split at happens
          · rename_i inside
            cases happens
            refine .moves d _ rfl Or.inl ?_
            rw [inside]
            split
            · rename_i stores
              obtain ⟨rfl, writes⟩ := stores
              exact .stores use rfl writes
            · exact .passes use
          · cases happens
      | up =>
          simp only [occur] at happens
          split at happens
          · rename_i use' lost stored
            split at happens <;> cases happens
            exact .moves d _ rfl (fun _ => Or.inr ⟨use', lost, stored⟩) (.leaves _)
          · split at happens <;> cases happens
            exact .moves d _ rfl Or.inl (.leaves _)
          · cases happens

/-- Somebody is in an operation because they were, or have just called it. -/
theorem ClientTurns.use {use : Use} (turns : ClientTurns x held clients clients')
    (inUse : (clients'.stage c).use? = some use) :
    (clients.stage c).use? = some use ∨
      (x = .call c use ∧ (use.file = true ∨ held.drvdata = true)) := by
  cases turns with
  | door stage reported =>
      rw [stage] at inUse
      exact Or.inl inUse
  | moves d stage stages reported move =>
      rw [stages, stage_enter] at inUse
      split at inUse
      · rename_i same
        subst same
        generalize clients.stage c = stage' at move ⊢
        cases move with
        | calls use' act found =>
            cases inUse
            exact Or.inr ⟨act, found⟩
        | enters use' | stores use' act writes | passes use' =>
            cases inUse
            exact Or.inl rfl
        | leaves stage' | hangs stage' => cases inUse
      · exact Or.inl inUse

/-- A value is in the register because it was, or has just been stored there. -/
theorem ClientTurns.stored {use : Use} {lost : Bool} (turns : ClientTurns x held clients clients')
    (stored : clients'.stage c = .stored use lost) :
    clients.stage c = .stored use lost ∨
      (lost = false ∧ x = .step c use (.access true) ∧ use.writes = true ∧
        clients.stage c = .inside use) := by
  cases turns with
  | door stage reported =>
      rw [stage] at stored
      exact Or.inl stored
  | moves d stage stages reported move =>
      rw [stages, stage_enter] at stored
      split at stored
      · rename_i same
        subst same
        generalize clients.stage c = stage' at move ⊢
        cases move with
        | stores use' act writes =>
            cases stored
            exact Or.inr ⟨rfl, act, writes, rfl⟩
        | calls use' act found | enters use' | passes use' | leaves stage' | hangs stage' =>
            cases stored
      · exact Or.inl stored

theorem ClientTurns.reported (turns : ClientTurns x held clients clients')
    (reported : clients'.reported = true) :
    clients.reported = true ∨ ∃ d use lost, clients.stage d = .stored use lost := by
  cases turns with
  | door stage same =>
      rw [same] at reported
      exact Or.inl reported
  | moves d stage stages reports move => exact (reports reported).imp_right fun was => ⟨d, was⟩

/-- A step of an operation is one of the operation that its client is in. -/
theorem use_of_step {use : Use} {s : UseStep}
    (happens : occur (.step c use s) held clients = some clients') :
    (clients.stage c).use? = some use := by
  cases s with
  | down | interrupted =>
      simp only [occur] at happens
      split at happens
      · rename_i waiting
        rw [waiting]
        rfl
      · cases happens
  | access ok =>
      simp only [occur] at happens
      split at happens
      · rename_i inside
        rw [inside]
        rfl
      · cases happens
  | up =>
      simp only [occur] at happens
      split at happens
      · rename_i use' lost stored
        split at happens
        · rename_i same
          rw [stored, same]
          rfl
        · cases happens
      · rename_i use' done
        split at happens
        · rename_i same
          rw [done, same]
          rfl
        · cases happens
      · cases happens

end Clients

/-! ## What a call of `hello_init` changes -/

section Calls

variable {k : Call A C} {held : Held} {clients clients' : Clients T} {c : T}

theorem own_sem (notFreed : ∀ dev, k ≠ .kfree dev)
    (was : (∃ dev, k = .semaInit dev) ∨ held.sem = true) : (own k held).sem = true := by
  cases k with
  | semaInit dev => rfl
  | kfree dev => exact absurd rfl (notFreed dev)
  | _ => exact was.resolve_left nofun

theorem own_cleared (was : (∃ dev, k = .clearVal dev) ∨ held.cleared = true) :
    (own k held).cleared = true := by
  cases k with
  | clearVal dev => rfl
  | _ => exact was.resolve_left nofun

omit [DecidableEq T] in
theorem settle_reported (settled : settle k clients = some clients') :
    clients'.reported = clients.reported := by
  cases k <;> cases settled <;> rfl

theorem use_clear (stage : Stage) : stage.clear.use? = stage.use? := by
  cases stage <;> rfl

omit [DecidableEq T] in
/-- `hello_init` moves nobody, but may overwrite what they stored. -/
theorem settle_stage (settled : settle k clients = some clients') :
    clients'.stage c = clients.stage c ∨
      ((∃ dev, k = .clearVal dev) ∧ clients'.stage c = (clients.stage c).clear) := by
  cases k with
  | clearVal dev =>
      cases settled
      exact Or.inr ⟨⟨dev, rfl⟩, rfl⟩
  | _ =>
      cases settled
      exact Or.inl rfl

omit [DecidableEq T] in
theorem settle_use (settled : settle k clients = some clients') :
    (clients'.stage c).use? = (clients.stage c).use? := by
  rcases settle_stage (c := c) settled with same | ⟨-, cleared⟩
  · rw [same]
  · rw [cleared, use_clear]

omit [DecidableEq T] in
theorem settle_stored {use : Use} {lost : Bool} (settled : settle k clients = some clients')
    (stored : clients'.stage c = .stored use lost) :
    clients.stage c = .stored use lost ∨
      ((∃ dev, k = .clearVal dev) ∧ ∃ lost', clients.stage c = .stored use lost') := by
  rcases settle_stage (c := c) settled with same | ⟨clears, cleared⟩
  · rw [same] at stored
    exact Or.inl stored
  · rw [cleared] at stored
    right
    refine ⟨clears, ?_⟩
    cases stage : clients.stage c with
    | stored use' lost' =>
        rw [stage] at stored
        cases stored
        exact ⟨lost', rfl⟩
    | idle | waiting use' | inside use' | done use' | hung =>
        rw [stage] at stored
        cases stored

end Calls

/-! ## Runs -/

section Runs

variable {given : Given A C} {es : List (VisibleEvent A C T)} {e : VisibleEvent A C T}
  {u : VisibleState A C T}

omit [DecidableEq T] in
theorem called_concat {k : Call A C} :
    Called (es ++ [e]) k ↔ Called es k ∨ (e.act = .proceed ∧ e.source.rest.next? = some k) := by
  simp [Called, or_and_right, exists_or]

omit [DecidableEq T] in
theorem called_concat_of_other {k : Call A C} (other : e.act ≠ .proceed) :
    Called (es ++ [e]) k ↔ Called es k := by
  rw [called_concat]
  exact or_iff_left fun called => other called.1

omit [DecidableEq T] in
theorem not_called_nil (k : Call A C) : ¬ Called ([] : List (VisibleEvent A C T)) k := by
  rintro ⟨d, member, -⟩
  cases member

/-- The invariant of an orderly run. -/
structure Sound (given : Given A C) (before : List (VisibleEvent A C T))
    (s : VisibleState A C T) : Prop where
  within : s.Within (platform A C T) (helloInit given) {}
  sem : Called before (.semaInit given.helloDev) → ¬ Called before (.kfree given.helloDev) →
    s.held.sem = true
  cleared : Called before (.clearVal given.helloDev) → s.held.cleared = true
  drvdata : Called before given.setsDrvdata → s.held.drvdata = true
  attr : ∀ c use, (s.flight.stage c).use? = some use → use.file = false → s.held.drvdata = true
  unwritten : s.held.cleared = false →
    s.flight.reported = false ∧ ∀ c use lost, s.flight.stage c ≠ .stored use lost
  kept : ∀ c use, s.flight.stage c ≠ .stored use true

theorem sound_start (given : Given A C) (T : Type) [DecidableEq T] :
    Sound given [] (loading given T) where
  within := Platform.State.within_self _ (loading given T)
  sem called := absurd called (not_called_nil _)
  cleared called := absurd called (not_called_nil _)
  drvdata called := absurd called (not_called_nil _)
  attr := nofun
  unwritten _ := ⟨rfl, nofun⟩
  kept := nofun

/-- What holds at the place of a sound state. -/
theorem Sound.place {before : List (VisibleEvent A C T)} {s : VisibleState A C T}
    (sound : Sound given before s) :
    (s.held.drvdata = true → s.held.sem = true ∧ s.held.cleared = true ∧ s.rest.next? = none) ∧
      ∀ k ∈ s.rest.next?, (∀ dev, k = .clearVal dev → s.held.cleared = false) ∧
        ∀ dev, k = .kfree dev → dev = given.helloDev :=
  init_places given _ sound.within

theorem Sound.proceeded {k : Call A C} (sound : Sound given es e.source) (act : e.act = .proceed)
    (next : e.source.rest.next? = some k) (held : e.target.held = own k e.source.held)
    (flight : settle k e.source.flight = some e.target.flight)
    (within : e.target.Within (platform A C T) (helloInit given) {}) :
    Sound given (es ++ [e]) e.target := by
  obtain ⟨last, calls⟩ := sound.place
  obtain ⟨clears, frees⟩ := calls k next
  -- whoever is in an operation of the attribute came after the last call
  have undriven : e.source.held.drvdata ≠ true := by
    intro driven
    rw [(last driven).2.2] at next
    cases next
  refine ⟨within, ?_, ?_, ?_, ?_, ?_, ?_⟩
  · intro inits notFreed
    rw [called_concat] at inits notFreed
    rw [held]
    apply own_sem
    · rintro dev rfl
      rw [frees dev rfl] at next
      exact notFreed (Or.inr ⟨act, next⟩)
    · rcases inits with before | ⟨-, now⟩
      · exact Or.inr (sound.sem before fun freed => notFreed (Or.inl freed))
      · rw [next] at now
        exact Or.inl ⟨_, Option.some.inj now⟩
  · intro cleared
    rw [called_concat] at cleared
    rw [held]
    apply own_cleared
    rcases cleared with before | ⟨-, now⟩
    · exact Or.inr (sound.cleared before)
    · rw [next] at now
      exact Or.inl ⟨_, Option.some.inj now⟩
  · intro sets
    rw [called_concat] at sets
    rcases sets with before | ⟨-, now⟩
    · exact absurd (sound.drvdata before) undriven
    · rw [next] at now
      rw [held, Option.some.inj now]
      rfl
  · intro c use inUse attr
    rw [settle_use flight] at inUse
    exact absurd (sound.attr c use inUse attr) undriven
  · intro uncleared
    have before : e.source.held.cleared = false := by
      by_contra cleared
      rw [Bool.not_eq_false] at cleared
      rw [held, own_cleared (Or.inr cleared)] at uncleared
      cases uncleared
    obtain ⟨unreported, unstored⟩ := sound.unwritten before
    refine ⟨(settle_reported flight).trans unreported, ?_⟩
    intro c use lost stored
    rcases settle_stored flight stored with was | ⟨-, lost', was⟩
    · exact unstored c use lost was
    · exact unstored c use lost' was
  · intro c use stored
    rcases settle_stored flight stored with was | ⟨⟨dev, now⟩, lost, was⟩
    · exact sound.kept c use was
    · exact (sound.unwritten (clears dev now)).2 c use lost was

/-- Where `hello_init` does not proceed and nothing changes hands, what it has called keeps
its effect. -/
theorem Sound.calls_kept (sound : Sound given es e.source) (other : e.act ≠ .proceed)
    (held : e.target.held = e.source.held) :
    (Called (es ++ [e]) (.semaInit given.helloDev) →
        ¬ Called (es ++ [e]) (.kfree given.helloDev) → e.target.held.sem = true) ∧
      (Called (es ++ [e]) (.clearVal given.helloDev) → e.target.held.cleared = true) ∧
      (Called (es ++ [e]) given.setsDrvdata → e.target.held.drvdata = true) := by
  simp only [called_concat_of_other other, held]
  exact ⟨sound.sem, sound.cleared, sound.drvdata⟩

theorem Sound.occurred {x : Occurrence T} (sound : Sound given es e.source)
    (order : InOrder given es e) (act : e.act = .occur x)
    (held : e.target.held = e.source.held)
    (flight : occur x e.source.held e.source.flight = some e.target.flight)
    (within : e.target.Within (platform A C T) (helloInit given) {}) :
    Sound given (es ++ [e]) e.target := by
  have turns := clientTurns_of_occur flight
  have other : e.act ≠ .proceed := by
    rw [act]
    nofun
  -- what is stored now is stored after `dev->val = 0`
  have stores : ∀ c use lost, e.target.flight.stage c = .stored use lost →
      e.source.flight.stage c = .stored use lost ∨
        (lost = false ∧ e.source.held.cleared = true) := by
    intro c use lost stored
    rcases turns.stored stored with was | ⟨kept, rfl, writes, inside⟩
    · exact Or.inl was
    · refine Or.inr ⟨kept, ?_⟩
      cases use with
      | write => exact sound.cleared (order.write c act)
      | valStore =>
          have driven : e.source.held.drvdata = true := by
            apply sound.attr c .valStore _ rfl
            rw [inside]
            rfl
          exact (sound.place.1 driven).2.1
      | read | valShow => cases writes
  obtain ⟨sem, cleared, drvdata⟩ := sound.calls_kept other held
  refine ⟨within, sem, cleared, drvdata, ?_, ?_, ?_⟩
  · intro c use inUse attr
    rw [held]
    rcases turns.use inUse with was | ⟨-, file | driven⟩
    · exact sound.attr c use was attr
    · rw [attr] at file
      cases file
    · exact driven
  · rw [held]
    intro uncleared
    obtain ⟨unreported, unstored⟩ := sound.unwritten uncleared
    refine ⟨?_, ?_⟩
    · by_contra reported
      rw [Bool.not_eq_false] at reported
      rcases turns.reported reported with was | ⟨d, use, lost, was⟩
      · rw [unreported] at was
        cases was
      · exact unstored d use lost was
    · intro c use lost stored
      rcases stores c use lost stored with was | ⟨-, cleared⟩
      · exact unstored c use lost was
      · rw [uncleared] at cleared
        cases cleared
  · intro c use stored
    rcases stores c use true stored with was | ⟨kept, -⟩
    · exact sound.kept c use was
    · cases kept

theorem Sound.step (sound : Sound given es e.source) (order : InOrder given es e)
    (moves : (platform A C T).Moves e) : Sound given (es ++ [e]) e.target := by
  have within := moves.within sound.within
  cases moves with
  | proceeded k act next held flight rest => exact sound.proceeded act next held flight within
  | occurred x act held flight rest => exact sound.occurred order act held flight within
  | failed k next fail act here held flight rest =>
      have other : e.act ≠ .proceed := by
        rw [act]
        nofun
      obtain ⟨sem, cleared, drvdata⟩ := sound.calls_kept other held
      refine ⟨within, sem, cleared, drvdata, ?_, ?_, ?_⟩
      · rw [flight, held]
        exact sound.attr
      · rw [flight, held]
        exact sound.unwritten
      · rw [flight]
        exact sound.kept

theorem Sound.usable (sound : Sound given es e.source) (order : InOrder given es e)
    (moves : (platform A C T).Moves e) : Usable e where
  sem := by
    intro c use s act
    have inUse := use_of_step (moves.of_occur act).2
    cases file : use.file with
    | true =>
        obtain ⟨inits, notFreed⟩ := order.file c use s act file
        exact sound.sem inits notFreed
    | false => exact (sound.place.1 (sound.attr c use inUse file)).1
  drvdata := by
    intro c use act attr
    exact sound.drvdata (order.attr c use act attr)
  unreported := by
    intro dev act next
    exact (sound.unwritten ((sound.place.2 _ next).1 dev rfl)).1
  kept := by
    intro c use act stored
    exact absurd stored (sound.kept c use)

/-- **hello is visible only when usable**, in every run of `hello_init` among clients
whose operations come in order. -/
theorem usable_in_order
    (path : ((platform A C T).machine (Int × Statics A C)).Path (loading given T) es u)
    (order : ∀ before e after, es = before ++ e :: after → InOrder given before e) :
    ∀ e ∈ es, Usable e := by
  have run := (path.along (D := InOrder given) (J := Sound given) (sound_start given T)
    (fun es e taken order sound => sound.step order (Platform.moves_of_takes taken)) order).2
  intro e member
  obtain ⟨before, after, cut⟩ := List.append_of_mem member
  obtain ⟨taken, sound, -⟩ := run before e after cut
  exact sound.usable (order before e after cut) (Platform.moves_of_takes taken)

end Runs

abbrev VisibleAct := Platform.Act (Occurrence Nat)

/-- The operation `use` of client `c`, not interrupted. -/
def operation (c : Nat) (use : Use) : List VisibleAct :=
  [.occur (.call c use), .occur (.step c use .down), .occur (.step c use (.access true)),
    .occur (.step c use .up)]

/-- Client 0 opens the device once `cdev_add` has returned and writes when the module
has been loaded; client 1 reads the attribute then. -/
def waitingClients : List VisibleAct :=
  List.replicate 5 .proceed ++ [.occur (.opens 0)] ++ List.replicate 6 .proceed ++
    operation 0 .write ++ operation 1 .valShow

theorem usable_in_order_waitingClients :
    let es := ((platform Nat Nat Nat).machine (Int × Statics Nat Nat)).trace (loading stale Nat)
      waitingClients
    es.length = 20 ∧ ∀ e ∈ es, Usable e :=
  ⟨rfl, usable_in_order (Machine.path_trace _ _ _) (forall_of_pasts (by decide))⟩

/-- Client 0 opens the device and reads before `sema_init`; client 0 writes before
`dev->val = 0`; client 0 reads the attribute before `dev_set_drvdata`. -/
def hastyReader : List VisibleAct :=
  List.replicate 5 .proceed ++ [.occur (.opens 0)] ++ operation 0 .read

def hastyWriter : List VisibleAct :=
  List.replicate 5 .proceed ++ [.occur (.opens 0), .proceed] ++ operation 0 .write ++ [.proceed]

def hastyShow : List VisibleAct :=
  List.replicate 10 .proceed ++ operation 0 .valShow

theorem hasty_clients_find_it_unusable :
    (∃ e ∈ ((platform Nat Nat Nat).machine (Int × Statics Nat Nat)).trace (loading stale Nat)
      hastyReader, e.act = .occur (.step 0 .read .down) ∧ e.source.held.sem = false ∧ ¬ Usable e) ∧
    (∃ e ∈ ((platform Nat Nat Nat).machine (Int × Statics Nat Nat)).trace (loading stale Nat)
      hastyWriter, e.source.rest.next? = some (.clearVal (.valid 7)) ∧
        e.source.flight.reported = true ∧ ¬ Usable e) ∧
    ∃ e ∈ ((platform Nat Nat Nat).machine (Int × Statics Nat Nat)).trace (loading stale Nat)
      hastyShow, e.act = .occur (.call 0 .valShow) ∧ e.source.held.drvdata = false ∧
        ¬ Usable e := by
  let init := (platform Nat Nat Nat).machine (Int × Statics Nat Nat)
  refine ⟨⟨(init.trace (loading stale Nat) hastyReader)[7], List.getElem_mem _, rfl, rfl, ?_⟩,
    ⟨(init.trace (loading stale Nat) hastyWriter)[11], List.getElem_mem _, rfl, rfl, ?_⟩,
    ⟨(init.trace (loading stale Nat) hastyShow)[10], List.getElem_mem _, rfl, rfl, ?_⟩⟩
  · intro usable
    cases usable.sem 0 .read .down rfl
  · intro usable
    cases usable.unreported (.valid 7) rfl rfl
  · intro usable
    cases usable.drvdata 0 .valShow rfl rfl

end LearningKernel.HelloDev
