/-
# Sensor.Binding -- binding the sensors

The drivers `ap3216c` and `icm20608` keep the bound device in a static structure.
Their probes register the misc device first and store the pointer to the bound
device, and the driver data, after that; their removals deregister the misc device
and leave the pointer, while files already open go on working.

`misc_register` itself makes the `struct miscdevice` the driver data.  In
`struct ap3216c_device` it is the first member, so these driver data are the
structure already; in `struct icm20608_device` the `spi` pointer stands before it.

The places of a probe and of a removal say what is stored there (`places_stored`).
-/
import LearningKernel.Theory.Cycle

namespace LearningKernel.Sensor

open LearningKernel.Theory

set_option autoImplicit false

/-- The two drivers. -/
inductive Driver where
  | ap3216c
  | icm20608
  deriving DecidableEq

/-- What binding and unbinding calls; the driver core's own part is `bind` and
`unbind`. -/
inductive Call where
  | bind
  /-- a register write of `ap3216c_init` -/
  | initWrite (data : UInt8)
  | miscRegister
  /-- `ap3216c_dev.client = client`, `icm20608_dev.spi = spi` -/
  | setClient
  | spiSetup
  | icm20608Reginit
  | spiSetDrvdata
  /-- `dev_set_drvdata` of the misc device -/
  | devSetDrvdata
  | miscDeregister
  | unbind
  deriving DecidableEq

inductive Answer where
  | probed (ret : Int)
  | removed
  deriving DecidableEq

/-- `ap3216c_probe`; what `misc_register` returns is ignored. -/
def ap3216cProbe : Script Call Answer :=
  let failed := .call .unbind (.ret (.probed (-1)))
  let registered := .calls [.setClient, .devSetDrvdata] (.ret (.probed 0))
  .call .bind <|
  .attempt (.initWrite 0x04)
    (.attempt (.initWrite 0x03)
      (.attempt .miscRegister registered registered)
      failed)
    failed

/-- `icm20608_probe`. -/
def icm20608Probe : Script Call Answer :=
  let registered := .calls [.setClient, .spiSetup, .icm20608Reginit, .spiSetDrvdata, .devSetDrvdata]
    (.ret (.probed 0))
  .call .bind (.attempt .miscRegister registered registered)

def Driver.probe : Driver → Script Call Answer
  | .ap3216c => ap3216cProbe
  | .icm20608 => icm20608Probe

/-- `ap3216c_remove` and `icm20608_remove`. -/
def Driver.remove : Driver → Script Call Answer
  | .ap3216c | .icm20608 => .calls [.miscDeregister, .unbind] (.ret .removed)

/-- `misc_dev` is the first member of the driver's structure. -/
def Driver.miscDevFirst : Driver → Bool
  | .ap3216c => true
  | .icm20608 => false

def Driver.again (driver : Driver) : Answer → Script Call Answer
  | .probed ret => if ret = 0 then driver.remove else driver.probe
  | .removed => driver.probe

/-! ## The platform -/

/-- Whether a device is bound, the misc device is registered, this binding has stored
the pointer, and the driver data are the driver's structure. -/
structure Held where
  bound : Bool := false
  registered : Bool := false
  stored : Bool := false
  drvdata : Bool := false
  deriving DecidableEq

def own (driver : Driver) (k : Call) (held : Held) : Held :=
  match k with
  | .bind => { held with bound := true }
  | .miscRegister => { held with registered := true, drvdata := driver.miscDevFirst }
  | .setClient => { held with stored := true }
  | .devSetDrvdata => { held with drvdata := true }
  | .miscDeregister => { held with registered := false, drvdata := false }
  | .unbind => { held with bound := false, stored := false, drvdata := false }
  | .initWrite _ | .spiSetup | .icm20608Reginit | .spiSetDrvdata => held

/-- A file, perhaps in an `ioctl` or a `read` that took up a pointer while the device
of the `n`-th binding was the latest. -/
inductive FilePhase (C : Type) where
  | closed
  | opened
  | running (client : Option C) (n : Nat)

/-- The device to be bound next, those bound so far, the stored pointer, the files,
and the pointers that the attributes being shown took up, `none` where the driver
data were not the structure. -/
structure Flight (C User : Type) where
  candidate : C
  bindings : List C
  client : Option C
  files : User → FilePhase C
  shows : List (Option C)

variable {C User : Type} [DecidableEq User]

/-- `misc_deregister` waits for the attributes being shown, and not for the files. -/
def settle (k : Call) (flight : Flight C User) : Option (Flight C User) :=
  match k with
  | .bind => some { flight with bindings := flight.bindings ++ [flight.candidate] }
  | .setClient => some { flight with client := flight.bindings.getLast? }
  | .miscDeregister => if flight.shows.isEmpty then some flight else none
  | _ => some flight

inductive Occurrence (C User : Type) where
  /-- another device is to be bound next -/
  | arrive (c : C)
  | opens (user : User)
  /-- `ap3216c_ioctl` or `icm20608_read` takes up the pointer -/
  | call (user : User)
  /-- and uses it for a transfer -/
  | transfer (user : User)
  | finish (user : User)
  | release (user : User)
  /-- an attribute is shown: through the driver data to the pointer -/
  | «show»
  | showTransfer (i : Nat)
  | showFinish (i : Nat)

def Flight.enter (flight : Flight C User) (user : User) (phase : FilePhase C) : Flight C User :=
  { flight with files := Function.update flight.files user phase }

def occur (x : Occurrence C User) (held : Held) (flight : Flight C User) :
    Option (Flight C User) :=
  match x with
  | .arrive c => some { flight with candidate := c }
  | .opens user =>
      match held.registered, flight.files user with
      | true, .closed => some (flight.enter user .opened)
      | _, _ => none
  | .call user =>
      match flight.files user with
      | .opened => some (flight.enter user (.running flight.client flight.bindings.length))
      | _ => none
  | .transfer user =>
      match flight.files user with
      | .running _ _ => some flight
      | _ => none
  | .finish user =>
      match flight.files user with
      | .running _ _ => some (flight.enter user .opened)
      | _ => none
  | .release user =>
      match flight.files user with
      | .opened => some (flight.enter user .closed)
      | _ => none
  | .show =>
      if held.registered then
        let client := if held.drvdata then flight.client else none
        some { flight with shows := flight.shows ++ [client] }
      else none
  | .showTransfer i => if i < flight.shows.length then some flight else none
  | .showFinish i => some { flight with shows := flight.shows.eraseIdx i }

def platform (C User : Type) [DecidableEq User] (driver : Driver) :
    Platform Call (Occurrence C User) Held (Flight C User) :=
  { own := own driver, settle := settle, occur := occur }

abbrev SensorState (C User : Type) := Platform.State Call Held (Flight C User) Answer
abbrev SensorEvent (C User : Type) :=
  Platform.CycleEvent Call (Occurrence C User) Held (Flight C User) Answer

/-- The driver registered, and no device bound yet. -/
def unbound (User : Type) (candidate : C) : SensorState C User :=
  { held := {}
    flight := { candidate := candidate, bindings := [], client := none, files := fun _ => .closed,
                shows := [] }
    rest := .ret .removed }

/-! ## Places -/

/-- The pointer has been stored, and the device has not been unbound. -/
def StoredAt (rest : Script Call Answer) : Prop :=
  rest = .ret (.probed 0) ∨ (.devSetDrvdata ∈ rest.ahead ∧ .setClient ∉ rest.ahead) ∨
    .miscDeregister ∈ rest.ahead ∨ rest = .call .unbind (.ret .removed)

/-- `misc_register` has made the structure the driver data, or the probe has, and the
misc device has not been deregistered. -/
def DrvdataAt (driver : Driver) (rest : Script Call Answer) : Prop :=
  driver.miscDevFirst = true ∨ rest = .ret (.probed 0) ∨ .miscDeregister ∈ rest.ahead

instance (rest : Script Call Answer) : Decidable (StoredAt rest) :=
  inferInstanceAs (Decidable (_ ∨ _))

instance (driver : Driver) (rest : Script Call Answer) : Decidable (DrvdataAt driver rest) :=
  inferInstanceAs (Decidable (_ ∨ _))

def Driver.entries (driver : Driver) : List (Held × Script Call Answer) :=
  [({}, .ret .removed), ({}, driver.probe),
    ({ bound := true, registered := true, stored := true, drvdata := true }, driver.remove),
    ({ bound := true, registered := false, stored := true, drvdata := true }, driver.remove)]

def Driver.places (driver : Driver) : List (Held × Script Call Answer) :=
  driver.entries.flatMap fun entry => entry.2.reach (fun _ => true) (own driver) entry.1

theorem places_enter (driver : Driver) :
    ∀ p ∈ driver.places, ∀ a ∈ p.2.answer?, (p.1, driver.again a) ∈ driver.entries := by
  cases driver <;> decide

theorem places_stored (driver : Driver) : ∀ p ∈ driver.places,
    (StoredAt p.2 ↔ p.1.stored = true) ∧
      (p.1.registered = true → (DrvdataAt driver p.2 ↔ p.1.drvdata = true)) ∧
        (p.1.stored = true → p.1.bound = true) ∧
          (p.1.registered = true → p.1.bound = true) := by
  cases driver <;> decide

theorem places_calls (driver : Driver) : ∀ p ∈ driver.places, ∀ k ∈ p.2.next?,
    k = .bind → p.1 = {} := by
  cases driver <;> decide

/-- What the steps keep at the places holds throughout a run. -/
theorem run_keeps {driver : Driver} {K : SensorEvent C User → Prop} {I : SensorState C User → Prop}
    (step : ∀ e, (platform C User driver).Turns driver.again e → K e →
      e.source.place ∈ driver.places → I e.source → I e.target)
    {candidate : C} {es : List (SensorEvent C User)} {s : SensorState C User}
    (path : ((platform C User driver).cycle driver.again).Path (unbound User candidate) es s)
    (along : ∀ e ∈ es, K e) (start : I (unbound User candidate)) :
    ∀ e ∈ es, (platform C User driver).Turns driver.again e ∧ e.source.place ∈ driver.places ∧
      I e.source := by
  have run := Platform.cycle_keeps (P := platform C User driver) (I := I) (places_enter driver)
    (fun _ _ _ _ _ _ _ => rfl) step path along List.mem_cons_self start
  intro e member
  obtain ⟨turns, before, -⟩ := run.2 e member
  exact ⟨turns, before.1, before.2⟩

end LearningKernel.Sensor
