/-
# Xdev.Bus -- the bus of xbus, xdev and xdrv

`xbus_match` compares the two names over the length of the driver's, so that a driver gets
every device whose name begins with its own; the probe of `xdrv` always succeeds.

`xbus_binds_iff`: over any order of registrations, each device has a driver exactly while one
is there whose name it begins with, and has none but such a driver, exactly in the runs in which
no driver leaves while another one matches a device of its.
-/
import LearningKernel.Kernel.Compare
import LearningKernel.Theory.Bus

namespace LearningKernel.Xdev

open LearningKernel.Theory LearningKernel.Kernel

set_option autoImplicit false

/-- `xbus_match`. -/
def xbusMatch (dev drv : CName) : Int :=
  if strncmp drv.bytes.length dev.bytes drv.bytes = 0 then 1 else 0

/-- `xdrv_probe`. -/
def xdrvProbe : Int := 0

/-- `xbus`, with drivers that probe as `xdrv` does; neither its probe nor `xdrv_remove` call
anything. -/
def xbus : Bus CName CName Empty :=
  { accepts := fun dev drv => xbusMatch dev drv ≠ 0
    probe := fun _ _ => .ret xdrvProbe
    remove := fun _ _ => [] }

theorem noNul_xdev : (0 : UInt8) ∉ [120, 100, 101, 118] := by decide

/-- The name of `xdev`, and of the driver `xdrv`. -/
def xdevName : CName := { bytes := [120, 100, 101, 118], noNul := noNul_xdev }

abbrev XbusState := Bus.State CName CName Empty
abbrev XbusEvent := Bus.BusEvent CName CName Empty

theorem accepts_iff (dev drv : CName) : xbus.accepts dev drv ↔ drv.bytes <+: dev.bytes := by
  rw [← strncmp_length_iff dev.noNul drv.noNul]
  unfold xbus xbusMatch
  by_cases same : strncmp drv.bytes.length dev.bytes drv.bytes = 0
  · simp [same]
  · simp [same]

theorem takes_eq (fails : Bus.Fails CName CName) (dev drv : CName) :
    xbus.takes fails dev drv = xbus.accepts dev drv := Bool.and_true _

/-- A device has a driver exactly if one matches, and then has one that does. -/
def Binds (s : XbusState) : Prop :=
  ∀ dev ∈ s.devices,
    (s.driver dev ≠ none ↔ ∃ drv ∈ s.drivers, drv.bytes <+: dev.bytes) ∧
      ∀ drv ∈ s.driver dev, drv ∈ s.drivers ∧ drv.bytes <+: dev.bytes

/-- The driver that leaves is the only one for each device that it has. -/
def OnlyDriver (e : XbusEvent) : Prop :=
  ∀ drv, e.act = .removeDriver drv → ∀ dev, e.source.driver dev = some drv →
    ∀ drv' ∈ e.source.drivers, drv'.bytes <+: dev.bytes → drv' = drv

theorem orderly_iff (e : XbusEvent) : (∀ dev, xbus.Orderly dev e) ↔ OnlyDriver e := by
  unfold Bus.Orderly OnlyDriver
  simp only [takes_eq, accepts_iff]
  split
  all_goals
    rename_i act
    simp [act]

theorem binds_iff {s : XbusState} (sound : xbus.Sound s) :
    Binds s ↔ ∀ dev, xbus.Settled dev s := by
  constructor
  · intro binds dev listed drv there accepted
    exact (binds dev listed).1.2 ⟨drv, there, (accepts_iff dev drv).1 accepted⟩
  · intro settled dev listed
    have own : ∀ drv ∈ s.driver dev, drv ∈ s.drivers ∧ drv.bytes <+: dev.bytes := by
      intro drv bound
      obtain ⟨-, there, accepted⟩ := sound.bound dev drv bound
      exact ⟨there, (accepts_iff dev drv).1 accepted⟩
    refine ⟨⟨?_, ?_⟩, own⟩
    · intro some_
      obtain ⟨drv, bound⟩ := Option.ne_none_iff_exists'.1 some_
      exact ⟨drv, own drv bound⟩
    · rintro ⟨drv, there, front⟩
      exact settled dev listed drv there ((accepts_iff dev drv).2 front)

section Runs

variable {es : List XbusEvent} {u : XbusState}

/-- **Bindings on xbus**, over any order in which devices and drivers come and go. -/
theorem xbus_binds_iff (path : xbus.machine.Path Bus.empty es u) :
    (∀ e ∈ es, Binds e.target) ↔ ∀ e ∈ es, OnlyDriver e := by
  have sound := (Bus.sound_run path).2
  have settled := Bus.settled_run_iff path
  constructor
  · intro binds e member
    rw [← orderly_iff]
    intro dev
    refine (settled dev).1 ?_ e member
    intro d listed
    exact (binds_iff (sound d listed).2.2).1 (binds d listed) dev
  · intro only e member
    rw [binds_iff (sound e member).2.2]
    intro dev
    refine (settled dev).2 ?_ e member
    intro d listed
    exact (orderly_iff d).2 (only d listed) dev

end Runs

theorem noNul_xdevTwo : (0 : UInt8) ∉ [120, 100, 101, 118, 50] := by decide

/-- A second device whose name begins with that of `xdev`. -/
def xdevTwo : CName := { bytes := [120, 100, 101, 118, 50], noNul := noNul_xdevTwo }

/-- `xdrv` comes between the devices, has both, and leaves. -/
def bothDevices : List (Bus.Act CName CName) :=
  [.addDevice xdevName fun _ _ _ => false, .addDriver xdevName fun _ _ _ => false,
    .addDevice xdevTwo fun _ _ _ => false, .removeDriver xdevName]

theorem xbus_binds_iff_bothDevices :
    let es := xbus.machine.trace Bus.empty bothDevices
    es.length = 4 ∧ ((∀ e ∈ es, Binds e.target) ↔ ∀ e ∈ es, OnlyDriver e) :=
  ⟨by decide, xbus_binds_iff (Machine.path_trace _ _ _)⟩

end LearningKernel.Xdev
