/-
# Sensor.Configure -- what the probes leave in the devices' registers

`icm20608_reginit` resets the sensor and writes nine registers without a look at how the
transfers end, as `edt_ft5426_ts_probe` writes two; `ap3216c_init` looks at both of its
writes.  Here each device is its registers, a transfer that fails may have got any way, and
the device may lose its power at any time.

* `icm20608_configured_iff`: the probe of `icm20608` returns 0 however its transfers end, and
  a register has the value it is meant to have exactly if the device starts with it or the
  write has come through since the last reset;
* `ft5426_configured_iff`: the same for the touchscreen, which is reset by its pin;
* `ap3216c_bound_iff`: while `ap3216c` is bound the sensor measures exactly if it has not lost
  its power since it was probed, or does so by itself.
-/
import LearningKernel.Icm20608.Transfers
import LearningKernel.Theory.Machine
import LearningKernel.Theory.Registers

namespace LearningKernel.Sensor.Configure

open LearningKernel.Theory LearningKernel.Icm20608

set_option autoImplicit false

/-! ## Devices that are probed again and again -/

/-- A device of `n` registers and the probe of its driver, where `given` is how the calls
that the probe makes end. -/
structure Part (n : Nat) (Given : Type) where
  dev : Device n
  probe : Given → Memory n → Int × Memory n

structure State (n : Nat) where
  file : Memory n
  bound : Bool

inductive Act (Given : Type) where
  | probe (given : Given)
  | remove
  /-- and comes back -/
  | powerLoss

inductive Out where
  | probed (ret : Int)
  | removed
  | reset
  deriving DecidableEq

section Parts

variable {n : Nat} {Given : Type} (part : Part n Given)

def step (s : State n) : Act Given → Option (Out × State n)
  | .probe given =>
      if s.bound then none
      else
        let (ret, file) := part.probe given s.file
        some (.probed ret, ⟨file, ret = 0⟩)
  | .remove => if s.bound then some (.removed, { s with bound := false }) else none
  | .powerLoss => some (.reset, { s with file := part.dev.fresh })

def machine : Machine (State n) (Act Given) Out := ⟨step part⟩

/-- The device is put into service. -/
def start : State n := ⟨part.dev.fresh, false⟩

abbrev PartEvent (n : Nat) (Given : Type) := Event (State n) (Act Given) Out

variable {part} {changes : Given → List (Change Nat UInt8)} {es : List (PartEvent n Given)}
  {u : State n}

/-- The changes of a step, where `changes` says what those of a probe are. -/
def changed (changes : Given → List (Change Nat UInt8)) (e : PartEvent n Given) :
    List (Change Nat UInt8) :=
  match e.act with
  | .probe given => changes given
  | .remove => []
  | .powerLoss => [.reset]

def log (changes : Given → List (Change Nat UInt8)) (es : List (PartEvent n Given)) :
    List (Change Nat UInt8) := es.flatMap (changed changes)

/-- The registers after a run are what the log of the run leaves. -/
theorem served_run
    (served : ∀ given file, part.dev.Ready file →
      part.dev.Served file (changes given) (part.probe given file).2)
    (path : (machine part).Path (start part) es u) :
    part.dev.Served part.dev.fresh (log changes es) u.file := by
  refine path.history (C := fun _ => True)
    (J := fun es s => part.dev.Served part.dev.fresh (log changes es) s.file) ?_ ?_
    (fun _ _ => trivial)
  · exact Device.Served.refl part.dev.starts
  rintro es ⟨s, act, out, t⟩ - taken - before
  dsimp only at before
  have whole : log changes (es ++ [⟨s, act, out, t⟩]) =
      log changes es ++ changed changes ⟨s, act, out, t⟩ := by
    rw [log, List.flatMap_append, List.flatMap_singleton, log]
  rw [whole]
  refine before.trans ?_
  simp only [Machine.Takes, machine] at taken
  cases act with
  | probe given =>
      simp only [step] at taken
      split at taken
      · cases taken
      · cases taken
        exact served given s.file before.ready
  | remove =>
      simp only [step] at taken
      split at taken
      · cases taken
        exact Device.Served.refl before.ready
      · cases taken
  | powerLoss =>
      cases taken
      exact Device.served_fresh s.file

/-- A register that the probes only give `v`. -/
theorem holds_run
    (served : ∀ given file, part.dev.Ready file →
      part.dev.Served file (changes given) (part.probe given file).2)
    (path : (machine part).Path (start part) es u) {r : Nat} {v : UInt8}
    (only : ∀ given w, .write r w ∈ changes given → w = v) :
    u.file.get r = v ↔ part.dev.fresh.get r = v ∨ Change.WrittenSince (log changes es) r v := by
  rw [(served_run served path).get]
  apply Change.holds_iff
  intro w member
  obtain ⟨e, -, member⟩ := List.mem_flatMap.1 member
  unfold changed at member
  split at member
  · rename_i given act
    exact only given w member
  · cases member
  · simp at member

end Parts

/-! ## `icm20608` -/

def smplrtDiv : UInt8 := 0x19
def config : UInt8 := 0x1A
def gyroConfig : UInt8 := 0x1B
def accelConfig : UInt8 := 0x1C
def accelConfig2 : UInt8 := 0x1D
def lpModeCfg : UInt8 := 0x1E
def fifoEn : UInt8 := 0x23
def pwrMgmt1 : UInt8 := 0x6B
def pwrMgmt2 : UInt8 := 0x6C
def whoAmI : UInt8 := 0x75

/-- Bit 7 of `PWR_MGMT_1` resets the sensor. -/
def deviceReset (v : UInt8) : Bool := v &&& 0x80 ≠ 0

/-- How the calls of a register access end: `kzalloc` of the frame, and the transfer. -/
structure Transfer where
  allocated : Bool
  wire : Wire

/-- The command and the value have come through. -/
def Transfer.Arrives (t : Transfer) : Prop :=
  t.allocated = true ∧ (t.wire.ret = 0 ∨ 2 ≤ t.wire.through)

instance (t : Transfer) : Decidable t.Arrives := inferInstanceAs (Decidable (_ ∧ _))

section Icm20608

variable (fresh : Memory regCount) (starts : deviceReset (fresh.get pwrMgmt1.toNat) = false)

def icm20608 : Device regCount := ⟨fresh, pwrMgmt1.toNat, deviceReset, starts⟩

/-- `icm20608_write_onereg`: what the write returns is dropped. -/
def icm20608WriteOnereg (file : Memory regCount) (t : Transfer) (reg value : UInt8) :
    Memory regCount :=
  (icm20608 fresh starts).settle (icm20608WriteRegs file t.allocated t.wire reg [value] 1).2

/-- `icm20608_read_onereg`. -/
def icm20608ReadOnereg (file : Memory regCount) (wire : Wire) (reg : UInt8) : UInt8 :=
  (icm20608ReadRegsOn file wire reg (Memory.zero 1)).2.1.get 0

/-- `icm20608_reginit`, whose `n`-th access ends as `ts n`: the `value` it prints, and the
sensor after it. -/
def icm20608Reginit (ts : Nat → Transfer) (file : Memory regCount) : UInt8 × Memory regCount :=
  let write := icm20608WriteOnereg fresh starts
  let file := write file (ts 0) pwrMgmt1 0x80
  let file := write file (ts 1) pwrMgmt1 0x01
  let value := icm20608ReadOnereg file (ts 2).wire whoAmI
  let file := write file (ts 3) smplrtDiv 0x00
  let file := write file (ts 4) gyroConfig 0x18
  let file := write file (ts 5) accelConfig 0x18
  let file := write file (ts 6) config 0x04
  let file := write file (ts 7) accelConfig2 0x04
  let file := write file (ts 8) pwrMgmt2 0x00
  let file := write file (ts 9) lpModeCfg 0x00
  let file := write file (ts 10) fifoEn 0x00
  (value, file)

/-- The writes of `icm20608_reginit`, each with the number of its access. -/
def reginitWrites : List (Nat × UInt8 × UInt8) :=
  [(0, pwrMgmt1, 0x80), (1, pwrMgmt1, 0x01), (3, smplrtDiv, 0x00), (4, gyroConfig, 0x18),
    (5, accelConfig, 0x18), (6, config, 0x04), (7, accelConfig2, 0x04), (8, pwrMgmt2, 0x00),
    (9, lpModeCfg, 0x00), (10, fifoEn, 0x00)]

/-- What the sensor is to be left with. -/
def icm20608Config : List (UInt8 × UInt8) := (reginitWrites.drop 1).map Prod.snd

/-- `icm20608_probe`, as far as the sensor goes: nothing it calls is looked at. -/
def icm20608Part : Part regCount (Nat → Transfer) where
  dev := icm20608 fresh starts
  probe ts file := (0, (icm20608Reginit fresh starts ts file).2)

/-- What of these writes comes through. -/
def icm20608Changes (ts : Nat → Transfer) : List (Change Nat UInt8) :=
  reginitWrites.flatMap fun w =>
    if (ts w.1).Arrives then [(icm20608 fresh starts).change w.2.1.toNat w.2.2] else []

variable {fresh starts}

theorem writeRegs_single (file : Memory regCount) (t : Transfer) {reg : UInt8}
    (inside : reg.toNat < regCount) (value : UInt8) :
    (icm20608WriteRegs file t.allocated t.wire reg [value] 1).2 =
      if t.Arrives then file.store reg.toNat [value] else file := by
  have address : startOf (reg &&& ~~~0x80) = reg.toNat := by
    rw [startOf_writeCommand]
    exact Nat.mod_eq_of_lt inside
  have frame : ∀ bs,
      serveFrame file ((reg &&& ~~~0x80) :: bs) 0 = ([], file.store reg.toNat bs) := by
    intro bs
    simp only [serveFrame, if_pos (writeCommand_flag reg), address]
  have whole : [value].take (1 : UInt8).toNat = [value] := rfl
  rw [icm20608WriteRegs, whole]
  cases allocated : t.allocated with
  | false =>
      have lost : ¬ t.Arrives := fun arrives => by
        rw [Transfer.Arrives, allocated] at arrives
        cases arrives.1
      rw [if_neg lost, if_neg Bool.false_ne_true]
  | true =>
      rw [if_pos rfl, spiWrite]
      by_cases success : t.wire.ret = 0
      · rw [if_pos success, frame, if_pos ⟨allocated, Or.inl success⟩]
      · rw [if_neg success]
        by_cases through : 2 ≤ t.wire.through
        · obtain ⟨k, more⟩ := Nat.exists_eq_add_of_le' through
          rw [if_pos ⟨allocated, Or.inr through⟩, more, List.take_succ_cons, List.take_succ_cons,
            frame, List.take_nil]
        · have lost : ¬ t.Arrives := fun arrives => arrives.2.elim success through
          rw [if_neg lost]
          obtain none_ | command : t.wire.through = 0 ∨ t.wire.through = 1 := by omega
          · rw [none_]
            rfl
          · rw [command, List.take_succ_cons, frame, List.take_zero, Memory.store_nil]

theorem served_writeOnereg {file : Memory regCount} (ready : (icm20608 fresh starts).Ready file)
    (t : Transfer) {reg : UInt8} (inside : reg.toNat < regCount) (value : UInt8) :
    (icm20608 fresh starts).Served file
      (if t.Arrives then [(icm20608 fresh starts).change reg.toNat value] else [])
      (icm20608WriteOnereg fresh starts file t reg value) := by
  rw [icm20608WriteOnereg, writeRegs_single file t inside]
  by_cases arrives : t.Arrives
  · rw [if_pos arrives, if_pos arrives]
    exact Device.served_store ready inside value
  · rw [if_neg arrives, if_neg arrives, Device.settle_ready ready]
    exact Device.Served.refl ready

/-- Any sequence of such writes. -/
theorem served_writes (ts : Nat → Transfer) {writes : List (Nat × UInt8 × UInt8)}
    (inside : ∀ w ∈ writes, w.2.1.toNat < regCount) {file : Memory regCount}
    (ready : (icm20608 fresh starts).Ready file) :
    (icm20608 fresh starts).Served file
      (writes.flatMap fun w =>
        if (ts w.1).Arrives then [(icm20608 fresh starts).change w.2.1.toNat w.2.2] else [])
      (writes.foldl (fun file w => icm20608WriteOnereg fresh starts file (ts w.1) w.2.1 w.2.2)
        file) := by
  induction writes generalizing file with
  | nil => exact Device.Served.refl ready
  | cons w writes ih =>
      have first := served_writeOnereg ready (ts w.1) (inside w List.mem_cons_self) w.2.2
      rw [List.flatMap_cons, List.foldl_cons]
      exact first.trans (ih (fun d member => inside d (List.mem_cons_of_mem w member)) first.ready)

theorem reginit_eq (ts : Nat → Transfer) (file : Memory regCount) :
    (icm20608Reginit fresh starts ts file).2 =
      reginitWrites.foldl
        (fun file w => icm20608WriteOnereg fresh starts file (ts w.1) w.2.1 w.2.2) file := rfl

theorem served_reginit (ts : Nat → Transfer) (file : Memory regCount)
    (ready : (icm20608 fresh starts).Ready file) :
    (icm20608 fresh starts).Served file (icm20608Changes fresh starts ts)
      (icm20608Reginit fresh starts ts file).2 := by
  rw [reginit_eq]
  exact served_writes ts (by decide) ready

/-- The write asks for the reset, or gives the register no other value than it is meant to
have. -/
def meantFor (w : Nat × UInt8 × UInt8) (p : UInt8 × UInt8) : Bool :=
  (w.2.1.toNat == pwrMgmt1.toNat && deviceReset w.2.2) || w.2.1.toNat != p.1.toNat || w.2.2 == p.2

theorem reginitWrites_meant :
    (reginitWrites.all fun w => icm20608Config.all fun p => meantFor w p) = true := by decide

theorem icm20608_only {p : UInt8 × UInt8} (meant : p ∈ icm20608Config) (ts : Nat → Transfer)
    (v : UInt8) (member : .write p.1.toNat v ∈ icm20608Changes fresh starts ts) : v = p.2 := by
  obtain ⟨w, listed, arrives⟩ := List.mem_flatMap.1 member
  have law : meantFor w p = true :=
    List.all_eq_true.1 (List.all_eq_true.1 reginitWrites_meant w listed) p meant
  split at arrives
  · have change := List.mem_singleton.1 arrives
    unfold Device.change at change
    split at change
    · cases change
    · rename_i kept
      injection change with register value
      simp only [meantFor, Bool.or_eq_true, Bool.and_eq_true, beq_iff_eq, bne_iff_ne] at law
      rcases law with (resets | other) | same
      · exact absurd resets kept
      · exact absurd register.symm other
      · rw [value, same]
  · cases arrives

/-- **`icm20608` binds, and the sensor may be anything.**  In every run of probes whose
transfers end in any way, removals and losses of power: every probe returns 0, and a register
has the value it is meant to have exactly if the sensor starts with it or a write has come
through since the last reset. -/
theorem icm20608_configured_iff {es : List (PartEvent regCount (Nat → Transfer))}
    {u : State regCount}
    (path : (machine (icm20608Part fresh starts)).Path (start (icm20608Part fresh starts)) es u) :
    (∀ e ∈ es, ∀ ts, e.act = .probe ts → e.out = .probed 0 ∧ e.target.bound = true) ∧
      ∀ p ∈ icm20608Config, u.file.get p.1.toNat = p.2 ↔
        fresh.get p.1.toNat = p.2 ∨
          Change.WrittenSince (log (icm20608Changes fresh starts) es) p.1.toNat p.2 := by
  constructor
  · rintro ⟨s, act, out, t⟩ member ts rfl
    have taken := path.takes _ member
    simp only [Machine.Takes, machine, step] at taken
    split at taken
    · cases taken
    · cases taken
      exact ⟨rfl, rfl⟩
  · intro p meant
    exact holds_run served_reginit path fun ts v => icm20608_only meant ts v

end Icm20608

/-- A sensor asleep after its reset is probed with a fault in the write that would wake it, and
probed again. -/
def asleepThenAwake : List (Act (Nat → Transfer)) :=
  let sound : Transfer := { allocated := true, wire := .sound }
  let lost : Transfer := { allocated := true, wire := { ret := -5, through := 1 } }
  [.probe fun n => if n = 1 then lost else sound, .remove, .powerLoss, .probe fun _ => sound]

/-- `PWR_MGMT_1` of the sensor after its reset. -/
def asleep : Memory regCount := (Memory.zero regCount).store 0x6B [0x40]

theorem asleep_starts : deviceReset (asleep.get pwrMgmt1.toNat) = false := by decide

theorem icm20608_configured_iff_asleepThenAwake :
    let part := icm20608Part asleep asleep_starts
    let es := (machine part).trace (start part) asleepThenAwake
    let u := (machine part).final (start part) asleepThenAwake
    ((∀ e ∈ es, ∀ ts, e.act = .probe ts → e.out = .probed 0 ∧ e.target.bound = true) ∧
      ∀ p ∈ icm20608Config, u.file.get p.1.toNat = p.2 ↔
        asleep.get p.1.toNat = p.2 ∨
          Change.WrittenSince (log (icm20608Changes asleep asleep_starts) es) p.1.toNat p.2) ∧
      (((machine part).final (start part) (asleepThenAwake.take 1)).file.get 0x6B = 0x40 ∧
        u.file.get 0x6B = 0x01) :=
  ⟨icm20608_configured_iff (Machine.path_trace _ _ _), by decide +kernel⟩

/-! ## I2C -/

section I2c

variable {n : Nat} {dev : Device n}

/-- A device takes the bytes of a message: the register it starts at, and the values. -/
def serveMessage (file : Memory n) : List UInt8 → Memory n
  | [] => file
  | reg :: data => file.store reg.toNat data

/-- `i2c_transfer` of one message: it returns 1 if the device has taken it all. -/
def i2cTransfer (dev : Device n) (file : Memory n) (wire : Wire) (tx : List UInt8) :
    Int × Memory n :=
  if wire.ret = 1 then (1, dev.settle (serveMessage file tx))
  else (wire.ret, dev.settle (serveMessage file (tx.take wire.through)))

/-- The register and the value have come through. -/
def Taken (wire : Wire) : Prop := wire.ret = 1 ∨ 2 ≤ wire.through

instance (wire : Wire) : Decidable (Taken wire) := inferInstanceAs (Decidable (_ ∨ _))

theorem served_transfer {file : Memory n} (ready : dev.Ready file) (wire : Wire) {reg : UInt8}
    (inside : reg.toNat < n) (value : UInt8) :
    dev.Served file (if Taken wire then [dev.change reg.toNat value] else [])
      (i2cTransfer dev file wire [reg, value]).2 := by
  have stored := Device.served_store ready inside value
  unfold i2cTransfer
  by_cases success : wire.ret = 1
  · rw [if_pos success, if_pos (show Taken wire from Or.inl success)]
    exact stored
  · rw [if_neg success]
    by_cases through : 2 ≤ wire.through
    · obtain ⟨k, more⟩ := Nat.exists_eq_add_of_le' through
      rw [if_pos (show Taken wire from Or.inr through), more, List.take_succ_cons,
        List.take_succ_cons, List.take_nil]
      exact stored
    · rw [if_neg (show ¬ Taken wire from fun taken => taken.elim success through)]
      have kept : serveMessage file ([reg, value].take wire.through) = file := by
        obtain none_ | register : wire.through = 0 ∨ wire.through = 1 := by omega
        · rw [none_]
          rfl
        · rw [register]
          exact Memory.store_nil file reg.toNat
      rw [kept, Device.settle_ready ready]
      exact Device.Served.refl ready

end I2c

/-! ## `ap3216c` -/

def systemcong : UInt8 := 0x00

/-- The mode in which the sensor resets itself. -/
def swReset (mode : UInt8) : Bool := mode &&& 0x07 = 0x04

section Ap3216c

variable (fresh : Memory 256) (starts : swReset (fresh.get systemcong.toNat) = false)

def ap3216c : Device 256 := ⟨fresh, systemcong.toNat, swReset, starts⟩

def ap3216cWriteReg (file : Memory 256) (wire : Wire) (reg data : UInt8) : Int × Memory 256 :=
  let (ret, file) := i2cTransfer (ap3216c fresh starts) file wire [reg, data]
  if 1 ≠ ret then (-1, file) else (0, file)

/-- `ap3216c_init`, whose two transfers end as `ws 0` and `ws 1`. -/
def ap3216cInit (ws : Nat → Wire) (file : Memory 256) : Int × Memory 256 :=
  let (ret, file) := ap3216cWriteReg fresh starts file (ws 0) systemcong 0x04
  if ret ≠ 0 then (-1, file)
  else
    let (ret, file) := ap3216cWriteReg fresh starts file (ws 1) systemcong 0x03
    if ret ≠ 0 then (-1, file) else (0, file)

/-- `ap3216c_probe`, as far as the sensor goes. -/
def ap3216cPart : Part 256 (Nat → Wire) where
  dev := ap3216c fresh starts
  probe ws file :=
    let (ret, file) := ap3216cInit fresh starts ws file
    if ret ≠ 0 then (-1, file) else (0, file)

variable {fresh starts}

theorem writeReg_of_success {file : Memory 256} {wire : Wire} (success : wire.ret = 1)
    (reg data : UInt8) :
    ap3216cWriteReg fresh starts file wire reg data =
      (0, (ap3216c fresh starts).settle (file.store reg.toNat [data])) := by
  rw [ap3216cWriteReg, i2cTransfer, if_pos success]
  rfl

theorem writeReg_of_failure {file : Memory 256} {wire : Wire} (failure : wire.ret ≠ 1)
    (reg data : UInt8) : (ap3216cWriteReg fresh starts file wire reg data).1 = -1 := by
  rw [ap3216cWriteReg, i2cTransfer, if_neg failure]
  exact congrArg Prod.fst (if_pos (Ne.symm failure))

/-- A probe that succeeds leaves the sensor measuring. -/
theorem probe_measures {ws : Nat → Wire} {file : Memory 256}
    (success : ((ap3216cPart fresh starts).probe ws file).1 = 0) :
    ((ap3216cPart fresh starts).probe ws file).2.get systemcong.toNat = 0x03 := by
  have negative : (-1 : Int) ≠ 0 := by decide
  simp only [ap3216cPart, ap3216cInit] at success ⊢
  by_cases first : (ws 0).ret = 1
  · rw [writeReg_of_success first, if_neg (not_not.2 rfl)] at success ⊢
    generalize (ap3216c fresh starts).settle (file.store systemcong.toNat [0x04]) = file
      at success ⊢
    by_cases second : (ws 1).ret = 1
    · rw [writeReg_of_success second, if_neg (not_not.2 rfl), if_neg (not_not.2 rfl)] at success ⊢
      have stored := Device.get_store_single file (by decide : systemcong.toNat < 256) 0x03
      have ready : (ap3216c fresh starts).Ready (file.store systemcong.toNat [0x03]) := by
        show swReset ((file.store systemcong.toNat [0x03]).get systemcong.toNat) = false
        rw [stored, Function.update_self]
        rfl
      rw [Device.settle_ready ready, stored, Function.update_self]
    · rw [writeReg_of_failure second, if_pos negative, if_pos negative] at success
      exact absurd success negative
  · rw [writeReg_of_failure first, if_pos negative, if_pos negative] at success
    exact absurd success negative

/-- It was probed, and has not lost its power since. -/
def PoweredSince (es : List (PartEvent 256 (Nat → Wire))) : Prop :=
  Since (fun e => ∃ ws, e.act = .probe ws) (fun e => e.act = .powerLoss) es

/-- **While `ap3216c` is bound**, whatever probes failed before it was: the sensor measures
exactly if it has not lost its power since it was probed, or measures as soon as it has
power. -/
theorem ap3216c_bound_iff {es : List (PartEvent 256 (Nat → Wire))} {u : State 256}
    (path : (machine (ap3216cPart fresh starts)).Path (start (ap3216cPart fresh starts)) es u)
    (bound : u.bound = true) :
    u.file.get systemcong.toNat = 0x03 ↔
      fresh.get systemcong.toNat = 0x03 ∨ PoweredSince es := by
  refine path.history (C := fun _ => True)
    (J := fun es s => s.bound = true →
      (s.file.get systemcong.toNat = 0x03 ↔ fresh.get systemcong.toNat = 0x03 ∨ PoweredSince es))
    ?_ ?_ (fun _ _ => trivial) bound
  · intro unbound
    cases unbound
  rintro es ⟨s, act, out, t⟩ - taken - before still
  dsimp only at before still ⊢
  rw [PoweredSince, since_concat]
  simp only [Machine.Takes, machine] at taken
  cases act with
  | probe ws =>
      simp only [step] at taken
      split at taken
      · cases taken
      · cases taken
        have measures := probe_measures (of_decide_eq_true still)
        exact iff_of_true measures (Or.inr (Or.inl ⟨ws, rfl⟩))
  | remove =>
      simp only [step] at taken
      split at taken
      · cases taken
        cases still
      · cases taken
  | powerLoss =>
      cases taken
      have lost : ¬ ((∃ ws : Nat → Wire, (Act.powerLoss : Act (Nat → Wire)) = .probe ws) ∨
          (¬ (Act.powerLoss : Act (Nat → Wire)) = .powerLoss ∧ PoweredSince es)) := by
        rintro (⟨ws, same⟩ | ⟨other, -⟩)
        · cases same
        · exact other rfl
      exact (or_iff_left lost).symm

end Ap3216c

/-- The first probe fails at its second write, the next succeeds, and the power goes. -/
def probedThenLost : List (Act (Nat → Wire)) :=
  [.probe fun n => if n = 1 then ⟨-6, 0⟩ else ⟨1, 0⟩, .probe fun _ => ⟨1, 0⟩, .powerLoss]

theorem ap3216c_bound_iff_probedThenLost :
    let part := ap3216cPart (Memory.zero 256) rfl
    let es := (machine part).trace (start part) probedThenLost
    let u := (machine part).final (start part) probedThenLost
    (u.file.get systemcong.toNat = 0x03 ↔
      (Memory.zero 256).get systemcong.toNat = 0x03 ∨ PoweredSince es) ∧ u.bound = true :=
  ⟨ap3216c_bound_iff (Machine.path_trace _ _ _) rfl, rfl⟩

/-! ## The touchscreen -/

def devideModeReg : UInt8 := 0x00
def idGModeReg : UInt8 := 0xA4

section Ft5426

variable (fresh : Memory 256)

/-- It is reset by its pin alone. -/
def ft5426 : Device 256 := ⟨fresh, 0, fun _ => false, rfl⟩

/-- `edt_ft5426_ts_write`; `none` when `memcpy` leaves `send_buf`. -/
def edtFt5426TsWrite (file : Memory 256) (wire : Wire) (addr : UInt8) (buf : List UInt8)
    (len : Nat) : Option (Int × Memory 256) :=
  ((Memory.zero 6).store? 1 (buf.take len)).map fun sendBuf =>
    let sendBuf := sendBuf.store 0 [addr]
    let (ret, file) := i2cTransfer (ft5426 fresh) file wire (sendBuf.load 0 (len + 1))
    if 1 ≠ ret then (-1, file) else (0, file)

/-- How the calls of `edt_ft5426_ts_probe` end: what `edt_ft5426_ts_reset` returns, the two
writes, and what the rest of the probe returns. -/
structure Ft5426Given where
  reset : Int
  writes : Nat → Wire
  rest : Int

/-- `edt_ft5426_ts_probe`, as far as the registers go. -/
def ft5426Part : Part 256 Ft5426Given where
  dev := ft5426 fresh
  probe given file :=
    if given.reset ≠ 0 then (given.reset, file)
    else
      -- the pulse of `edt_ft5426_ts_reset`
      let file := fresh
      let sent := edtFt5426TsWrite fresh file (given.writes 0) devideModeReg [0] 1
      let file := sent.elim file Prod.snd
      let sent := edtFt5426TsWrite fresh file (given.writes 1) idGModeReg [1] 1
      let file := sent.elim file Prod.snd
      (given.rest, file)

/-- What of it comes through. -/
def ft5426Changes (given : Ft5426Given) : List (Change Nat UInt8) :=
  if given.reset ≠ 0 then []
  else
    [.reset] ++ (if Taken (given.writes 0) then [.write devideModeReg.toNat 0] else []) ++
      if Taken (given.writes 1) then [.write idGModeReg.toNat 1] else []

variable {fresh}

/-- One byte fits, and what the write returns is dropped. -/
theorem served_tsWrite (file : Memory 256) (wire : Wire) (addr value : UInt8) :
    (ft5426 fresh).Served file (if Taken wire then [.write addr.toNat value] else [])
      ((edtFt5426TsWrite fresh file wire addr [value] 1).elim file Prod.snd) := by
  have message : ∀ a v : UInt8, (((Memory.zero 6).store 1 [v]).store 0 [a]).load 0 2 = [a, v] := by
    intro a v
    rfl
  have fits : Memory.InRange 6 1 1 := by decide
  have change : (ft5426 fresh).change addr.toNat value = .write addr.toNat value :=
    if_neg fun asked => Bool.false_ne_true asked.2
  have ready : (ft5426 fresh).Ready file := rfl
  have served := served_transfer ready wire addr.toNat_lt value
  rw [change] at served
  rw [edtFt5426TsWrite, Memory.store?,
    if_pos (show Memory.InRange 6 1 ([value].take 1).length from fits), Option.map_some,
    Option.elim_some]
  have dropped : ∀ r : Int × Memory 256,
      (if 1 ≠ r.1 then ((-1 : Int), r.2) else (0, r.2)).2 = r.2 := by
    intro r
    split <;> rfl
  have sent := message addr value
  dsimp only [List.take_succ_cons, List.take_zero, Int.toNat_one]
  rw [sent, dropped]
  exact served

theorem served_tsProbe (given : Ft5426Given) (file : Memory 256)
    (ready : (ft5426 fresh).Ready file) :
    (ft5426 fresh).Served file (ft5426Changes given) ((ft5426Part fresh).probe given file).2 := by
  unfold ft5426Part ft5426Changes
  dsimp only
  by_cases reset : given.reset ≠ 0
  · rw [if_pos reset, if_pos reset]
    exact Device.Served.refl ready
  · rw [if_neg reset, if_neg reset]
    have pulse : (ft5426 fresh).Served file [.reset] fresh := Device.served_fresh file
    exact (pulse.trans (served_tsWrite _ _ _ _)).trans (served_tsWrite _ _ _ _)

/-- **The touchscreen's registers**, after every run of probes, removals and losses of power:
whatever its transfers and the rest of the probes do, it is in its working mode, or
signals touches by edges, exactly if it starts so or the write has come through since the
last pulse of the pin or loss of power. -/
theorem ft5426_configured_iff {es : List (PartEvent 256 Ft5426Given)} {u : State 256}
    (path : (machine (ft5426Part fresh)).Path (start (ft5426Part fresh)) es u) :
    (u.file.get devideModeReg.toNat = 0 ↔ fresh.get devideModeReg.toNat = 0 ∨
        Change.WrittenSince (log ft5426Changes es) devideModeReg.toNat 0) ∧
      (u.file.get idGModeReg.toNat = 1 ↔ fresh.get idGModeReg.toNat = 1 ∨
        Change.WrittenSince (log ft5426Changes es) idGModeReg.toNat 1) := by
  have law : ∀ given r w, .write r w ∈ ft5426Changes given →
      (r = devideModeReg.toNat ∧ w = 0) ∨ (r = idGModeReg.toNat ∧ w = 1) := by
    intro given r w member
    unfold ft5426Changes at member
    split_ifs at member <;> simp at member <;> tauto
  have other : devideModeReg.toNat ≠ idGModeReg.toNat := by decide
  constructor
  · refine holds_run served_tsProbe path fun given w member => ?_
    rcases law given _ w member with ⟨-, value⟩ | ⟨register, -⟩
    · exact value
    · exact absurd register other
  · refine holds_run served_tsProbe path fun given w member => ?_
    rcases law given _ w member with ⟨register, -⟩ | ⟨-, value⟩
    · exact absurd register.symm other
    · exact value

end Ft5426

end LearningKernel.Sensor.Configure
