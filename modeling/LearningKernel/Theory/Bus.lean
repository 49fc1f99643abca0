/-
# Theory.Bus -- devices and drivers that are bound to each other

A bus has devices and drivers that come and go in any order.  A device that comes is offered
to the drivers in turn, until one that accepts it has probed it with success; a driver that
comes is offered the devices that have none.  Who leaves is unbound first.  Probing is a
script whose calls may fail, and what it called is kept for each pair.

* `sound_run`: who is bound is there, and accepted;
* `settled_run_iff`: a device that some driver accepts has a driver, exactly in the runs in which
  no probe that matters fails, and no driver leaves it while another one accepts it;
* `balanced_run`: if a probe that fails leaves nothing, and a removal releases what the probe
  acquired, then each pair holds what it needs exactly while it is bound;
* `log_of_meets`: a step that brings two together that accept only each other runs the probe.
-/
import LearningKernel.Theory.Loads
import LearningKernel.Theory.Machine
import Mathlib.Data.List.Nodup
import Mathlib.Logic.Function.Basic

namespace LearningKernel.Theory

set_option autoImplicit false

/-- Which driver accepts which device, and what it then does. -/
structure Bus (D R κ : Type) where
  accepts : D → R → Bool
  probe : D → R → Script κ Int
  remove : D → R → List κ

namespace Bus

variable {D R κ : Type} [DecidableEq D] [DecidableEq R] (B : Bus D R κ)

structure State (D R κ : Type) where
  devices : List D
  drivers : List R
  driver : D → Option R
  log : D × R → List κ

def empty : State D R κ :=
  { devices := [], drivers := [], driver := fun _ => none, log := fun _ => [] }

/-- Which of the fallible calls of a probe fail. -/
abbrev Fails (D R : Type) := D → R → Nat → Bool

inductive Act (D R : Type) where
  | addDevice (d : D) (fails : Fails D R)
  | removeDevice (d : D)
  | addDriver (r : R) (fails : Fails D R)
  | removeDriver (r : R)

/-- The driver accepts the device, and its probe succeeds. -/
def takes (fails : Fails D R) (d : D) (r : R) : Bool :=
  B.accepts d r && ((B.probe d r).exec (fails d r)).2 == 0

/-- A device offered to a driver. -/
def offer (fails : Fails D R) (s : State D R κ) (d : D) (r : R) : State D R κ :=
  if s.driver d = none ∧ B.accepts d r then
    { s with
      driver := if B.takes fails d r then Function.update s.driver d (some r) else s.driver
      log := Function.update s.log (d, r)
        (s.log (d, r) ++ ((B.probe d r).exec (fails d r)).1) }
  else s

/-- A device taken from its driver. -/
def release (s : State D R κ) (d : D) : State D R κ :=
  match s.driver d with
  | none => s
  | some r =>
      { s with
        driver := Function.update s.driver d none
        log := Function.update s.log (d, r) (s.log (d, r) ++ B.remove d r) }

def step (s : State D R κ) : Act D R → Option (Unit × State D R κ)
  | .addDevice d fails =>
      if d ∈ s.devices then none
      else
        some ((), s.drivers.foldl (fun s r => B.offer fails s d r)
          { s with devices := s.devices ++ [d] })
  | .removeDevice d =>
      if d ∈ s.devices then
        some ((), { B.release s d with devices := s.devices.erase d })
      else none
  | .addDriver r fails =>
      if r ∈ s.drivers then none
      else
        some ((), s.devices.foldl (fun s d => B.offer fails s d r)
          { s with drivers := s.drivers ++ [r] })
  | .removeDriver r =>
      if r ∈ s.drivers then
        some ((), { (s.devices.filter fun d => s.driver d = some r).foldl B.release s with
          drivers := s.drivers.erase r })
      else none

def machine : Machine (State D R κ) (Act D R) Unit := ⟨B.step⟩

abbrev BusEvent (D R κ : Type) := Event (State D R κ) (Act D R) Unit

variable {B} {fails : Fails D R}

/-! ## One step -/

omit [DecidableEq D] [DecidableEq R] in
theorem takes_accepts {d : D} {r : R} (taken : B.takes fails d r = true) : B.accepts d r = true :=
  (Bool.and_eq_true_iff.1 taken).1

@[simp] theorem offer_devices (s : State D R κ) (d : D) (r : R) :
    (B.offer fails s d r).devices = s.devices := by
  unfold offer
  split <;> rfl

@[simp] theorem offer_drivers (s : State D R κ) (d : D) (r : R) :
    (B.offer fails s d r).drivers = s.drivers := by
  unfold offer
  split <;> rfl

theorem offer_driver (s : State D R κ) (d : D) (r : R) (d' : D) :
    (B.offer fails s d r).driver d' =
      if d' = d ∧ s.driver d = none ∧ B.takes fails d r then some r else s.driver d' := by
  unfold offer
  by_cases offered : s.driver d = none ∧ B.accepts d r
  · rw [if_pos offered]
    by_cases taken : B.takes fails d r
    · simp only [taken, if_true, Function.update_apply, offered.1, and_self, and_true]
    · simp [taken]
  · rw [if_neg offered, if_neg]
    rintro ⟨-, free, taken⟩
    exact offered ⟨free, takes_accepts taken⟩

@[simp] theorem release_devices (s : State D R κ) (d : D) :
    (B.release s d).devices = s.devices := by
  unfold release
  split <;> rfl

@[simp] theorem release_drivers (s : State D R κ) (d : D) :
    (B.release s d).drivers = s.drivers := by
  unfold release
  split <;> rfl

theorem release_driver (s : State D R κ) (d d' : D) :
    (B.release s d).driver d' = if d' = d then none else s.driver d' := by
  unfold release
  split
  · rename_i free
    split
    · rename_i here
      rw [here, free]
    · rfl
  · exact Function.update_apply _ _ _ _

/-- A device offered to the drivers in turn. -/
theorem offers_drivers (B : Bus D R κ) (fails : Fails D R) (s : State D R κ) (d : D) (rs : List R) :
    let t := rs.foldl (fun s r => B.offer fails s d r) s
    t.devices = s.devices ∧ t.drivers = s.drivers ∧
      ∀ d', t.driver d' =
        if d' = d ∧ s.driver d = none then rs.find? (B.takes fails d) else s.driver d' := by
  induction rs generalizing s with
  | nil =>
      refine ⟨rfl, rfl, ?_⟩
      intro d'
      show s.driver d' = _
      by_cases here : d' = d ∧ s.driver d = none
      · rw [if_pos here, here.1, here.2]
        rfl
      · rw [if_neg here]
  | cons r rs ih =>
      obtain ⟨devices, drivers, driver⟩ := ih (B.offer fails s d r)
      rw [offer_devices] at devices
      rw [offer_drivers] at drivers
      refine ⟨devices, drivers, ?_⟩
      intro d'
      rw [List.foldl_cons, driver d', offer_driver, offer_driver, List.find?_cons]
      by_cases taken : B.takes fails d r
      · by_cases free : s.driver d = none
        · by_cases here : d' = d
          · simp [taken, free, here]
          · simp [here]
        · simp [free]
      · simp [taken]

/-- The devices offered to a driver. -/
theorem offers_devices (B : Bus D R κ) (fails : Fails D R) (s : State D R κ) (r : R) (ds : List D) :
    let t := ds.foldl (fun s d => B.offer fails s d r) s
    t.devices = s.devices ∧ t.drivers = s.drivers ∧
      ∀ d', t.driver d' =
        if d' ∈ ds ∧ s.driver d' = none ∧ B.takes fails d' r then some r else s.driver d' := by
  induction ds generalizing s with
  | nil => exact ⟨rfl, rfl, fun d' => by simp⟩
  | cons d ds ih =>
      obtain ⟨devices, drivers, driver⟩ := ih (B.offer fails s d r)
      rw [offer_devices] at devices
      rw [offer_drivers] at drivers
      refine ⟨devices, drivers, ?_⟩
      intro d'
      rw [List.foldl_cons, driver d', offer_driver]
      by_cases here : d' = d
      · subst here
        by_cases taken : s.driver d' = none ∧ B.takes fails d' r
        · simp [taken]
        · simp [taken]
      · simp [here]

theorem releases (B : Bus D R κ) (s : State D R κ) (ds : List D) :
    (ds.foldl B.release s).devices = s.devices ∧ (ds.foldl B.release s).drivers = s.drivers ∧
      ∀ d', (ds.foldl B.release s).driver d' = if d' ∈ ds then none else s.driver d' := by
  induction ds generalizing s with
  | nil => exact ⟨rfl, rfl, fun d' => by simp⟩
  | cons d ds ih =>
      obtain ⟨devices, drivers, driver⟩ := ih (B.release s d)
      rw [release_devices] at devices
      rw [release_drivers] at drivers
      refine ⟨devices, drivers, ?_⟩
      intro d'
      rw [List.foldl_cons, driver d', release_driver]
      by_cases here : d' = d
      · simp [here]
      · simp [here]

/-- The step brings the two together. -/
def Meets (d : D) (r : R) (e : BusEvent D R κ) (fails : Fails D R) : Prop :=
  (e.act = .addDevice d fails ∧ r ∈ e.source.drivers) ∨
    (e.act = .addDriver r fails ∧ d ∈ e.source.devices)

/-- The cases of one step, as to who is there and who is bound. -/
inductive Turns (B : Bus D R κ) (e : BusEvent D R κ) : Prop where
  | addsDevice (d : D) (fails : Fails D R) (act : e.act = .addDevice d fails)
      (new : d ∉ e.source.devices) (devices : e.target.devices = e.source.devices ++ [d])
      (drivers : e.target.drivers = e.source.drivers)
      (driver : ∀ d', e.target.driver d' =
        if d' = d ∧ e.source.driver d = none then e.source.drivers.find? (B.takes fails d)
        else e.source.driver d')
  | removesDevice (d : D) (act : e.act = .removeDevice d) (there : d ∈ e.source.devices)
      (devices : e.target.devices = e.source.devices.erase d)
      (drivers : e.target.drivers = e.source.drivers)
      (driver : ∀ d', e.target.driver d' = if d' = d then none else e.source.driver d')
  | addsDriver (r : R) (fails : Fails D R) (act : e.act = .addDriver r fails)
      (new : r ∉ e.source.drivers) (devices : e.target.devices = e.source.devices)
      (drivers : e.target.drivers = e.source.drivers ++ [r])
      (driver : ∀ d', e.target.driver d' =
        if d' ∈ e.source.devices ∧ e.source.driver d' = none ∧ B.takes fails d' r then some r
        else e.source.driver d')
  | removesDriver (r : R) (act : e.act = .removeDriver r) (there : r ∈ e.source.drivers)
      (devices : e.target.devices = e.source.devices)
      (drivers : e.target.drivers = e.source.drivers.erase r)
      (driver : ∀ d', e.target.driver d' =
        if d' ∈ e.source.devices ∧ e.source.driver d' = some r then none
        else e.source.driver d')

theorem turns_of_takes {e : BusEvent D R κ} (taken : B.machine.Takes e) : B.Turns e := by
  obtain ⟨s, act, out, t⟩ := e
  simp only [Machine.Takes, machine] at taken
  cases act with
  | addDevice d fails =>
      simp only [step] at taken
      split at taken
      · cases taken
      · rename_i new
        cases taken
        obtain ⟨devices, drivers, driver⟩ := offers_drivers B fails
          { s with devices := s.devices ++ [d] } d s.drivers
        exact .addsDevice d fails rfl new devices drivers driver
  | removeDevice d =>
      simp only [step] at taken
      split at taken
      · rename_i there
        cases taken
        exact .removesDevice d rfl there rfl (release_drivers s d) (release_driver s d)
      · cases taken
  | addDriver r fails =>
      simp only [step] at taken
      split at taken
      · cases taken
      · rename_i new
        cases taken
        obtain ⟨devices, drivers, driver⟩ := offers_devices B fails
          { s with drivers := s.drivers ++ [r] } r s.devices
        exact .addsDriver r fails rfl new devices drivers driver
  | removeDriver r =>
      simp only [step] at taken
      split at taken
      · rename_i there
        cases taken
        obtain ⟨devices, -, driver⟩ := releases B s
          (s.devices.filter fun d => s.driver d = some r)
        refine .removesDriver r rfl there devices rfl ?_
        intro d'
        simpa using driver d'
      · cases taken

/-! ## Who is bound -/

/-- Nobody is there twice, and who is bound is there and accepted. -/
structure Sound (B : Bus D R κ) (s : State D R κ) : Prop where
  devices : s.devices.Nodup
  drivers : s.drivers.Nodup
  bound : ∀ d r, s.driver d = some r → d ∈ s.devices ∧ r ∈ s.drivers ∧ B.accepts d r

omit [DecidableEq D] [DecidableEq R] in
theorem sound_empty : B.Sound empty where
  devices := List.nodup_nil
  drivers := List.nodup_nil
  bound := nofun

omit [DecidableEq D] [DecidableEq R] in
theorem Sound.free {s : State D R κ} (sound : B.Sound s) {d : D} (absent : d ∉ s.devices) :
    s.driver d = none := by
  cases bound : s.driver d with
  | none => rfl
  | some r => exact absurd (sound.bound d r bound).1 absent

theorem Turns.sound {e : BusEvent D R κ} (turns : B.Turns e) (before : B.Sound e.source) :
    B.Sound e.target := by
  cases turns with
  | addsDevice d fails act new devices drivers driver =>
      have free := before.free new
      refine ⟨?_, drivers ▸ before.drivers, ?_⟩
      · rw [devices, ← List.concat_eq_append]
        exact before.devices.concat new
      · intro d' r bound
        rw [driver] at bound
        rw [devices, drivers]
        by_cases here : d' = d
        · subst here
          rw [if_pos ⟨rfl, free⟩] at bound
          refine ⟨by simp, List.mem_of_find?_eq_some bound, ?_⟩
          exact takes_accepts (List.find?_some bound)
        · rw [if_neg fun both => here both.1] at bound
          obtain ⟨listed, there, accepted⟩ := before.bound d' r bound
          exact ⟨List.mem_append_left _ listed, there, accepted⟩
  | removesDevice d act there devices drivers driver =>
      refine ⟨devices ▸ before.devices.erase d, drivers ▸ before.drivers, ?_⟩
      intro d' r bound
      rw [driver] at bound
      rw [devices, drivers]
      by_cases here : d' = d
      · rw [if_pos here] at bound
        cases bound
      · rw [if_neg here] at bound
        obtain ⟨listed, there, accepted⟩ := before.bound d' r bound
        exact ⟨(List.mem_erase_of_ne here).2 listed, there, accepted⟩
  | addsDriver r fails act new devices drivers driver =>
      refine ⟨devices ▸ before.devices, ?_, ?_⟩
      · rw [drivers, ← List.concat_eq_append]
        exact before.drivers.concat new
      · intro d' r' bound
        rw [driver] at bound
        rw [devices, drivers]
        by_cases taken : d' ∈ e.source.devices ∧ e.source.driver d' = none ∧ B.takes fails d' r
        · rw [if_pos taken] at bound
          obtain rfl := Option.some.inj bound
          exact ⟨taken.1, by simp, takes_accepts taken.2.2⟩
        · rw [if_neg taken] at bound
          obtain ⟨listed, there, accepted⟩ := before.bound d' r' bound
          exact ⟨listed, List.mem_append_left _ there, accepted⟩
  | removesDriver r act there devices drivers driver =>
      refine ⟨devices ▸ before.devices, drivers ▸ before.drivers.erase r, ?_⟩
      intro d' r' bound
      rw [driver] at bound
      rw [devices, drivers]
      by_cases released : d' ∈ e.source.devices ∧ e.source.driver d' = some r
      · rw [if_pos released] at bound
        cases bound
      · rw [if_neg released] at bound
        obtain ⟨listed, there, accepted⟩ := before.bound d' r' bound
        have other : r' ≠ r := fun same => released ⟨listed, same ▸ bound⟩
        exact ⟨listed, (List.mem_erase_of_ne other).2 there, accepted⟩

variable {es : List (BusEvent D R κ)} {u : State D R κ}

theorem sound_run (path : B.machine.Path empty es u) :
    B.Sound u ∧ ∀ e ∈ es, B.Turns e ∧ B.Sound e.source ∧ B.Sound e.target := by
  obtain ⟨final, along⟩ := path.invariant
    (fun e taken before => (turns_of_takes taken).sound before) sound_empty
  refine ⟨final, ?_⟩
  intro e member
  obtain ⟨taken, before, after⟩ := along e member
  exact ⟨turns_of_takes taken, before, after⟩

/-! ## Two that accept only each other -/

/-- The device has a driver if some driver accepts it. -/
def Settled (B : Bus D R κ) (d : D) (s : State D R κ) : Prop :=
  d ∈ s.devices → ∀ r ∈ s.drivers, B.accepts d r → s.driver d ≠ none

/-- The device does not go without a driver because a probe fails, or because its driver leaves
while another one accepts it. -/
def Orderly (B : Bus D R κ) (d : D) (e : BusEvent D R κ) : Prop :=
  match e.act with
  | .addDevice d' fails =>
      d' = d → (∃ r ∈ e.source.drivers, B.accepts d r) → ∃ r ∈ e.source.drivers, B.takes fails d r
  | .addDriver r fails =>
      d ∈ e.source.devices → e.source.driver d = none → B.accepts d r → B.takes fails d r
  | .removeDevice _ => True
  | .removeDriver r =>
      e.source.driver d = some r → ∀ r' ∈ e.source.drivers, B.accepts d r' → r' = r

omit [DecidableEq D] [DecidableEq R] in
theorem settled_empty (d : D) : B.Settled d empty := nofun

/-- From where the device is settled, a step leads to where it is exactly if it is orderly. -/
theorem Turns.settled_iff {d : D} {e : BusEvent D R κ} (turns : B.Turns e)
    (sound : B.Sound e.source) (before : B.Settled d e.source) :
    B.Settled d e.target ↔ B.Orderly d e := by
  unfold Settled Orderly
  cases turns with
  | addsDevice d' fails act new devices drivers driver =>
      have free := sound.free new
      have own : e.target.driver d' ≠ none ↔ ∃ r ∈ e.source.drivers, B.takes fails d' r := by
        rw [driver, if_pos ⟨rfl, free⟩, ne_eq, List.find?_eq_none]
        simp
      rw [act, devices, drivers]
      constructor
      · rintro settled rfl ⟨r, there, accepted⟩
        exact own.1 (settled (by simp) r there accepted)
      · intro orderly listed r there accepted
        by_cases here : d' = d
        · subst here
          exact own.2 (orderly rfl ⟨r, there, accepted⟩)
        · have earlier : d ∈ e.source.devices := by simpa [Ne.symm here] using listed
          rw [driver, if_neg fun both => here both.1.symm]
          exact before earlier r there accepted
  | removesDevice d' act there devices drivers driver =>
      rw [act, devices, drivers]
      refine ⟨fun _ => trivial, ?_⟩
      intro _ listed r there accepted
      obtain ⟨other, earlier⟩ := sound.devices.mem_erase_iff.1 listed
      rw [driver, if_neg other]
      exact before earlier r there accepted
  | addsDriver r fails act new devices drivers driver =>
      rw [act, devices, drivers]
      constructor
      · intro settled listed free accepted
        have bound := settled listed r (by simp) accepted
        rw [driver] at bound
        by_contra refused
        rw [if_neg fun all => refused all.2.2] at bound
        exact bound free
      · intro orderly listed r' there accepted
        rw [driver]
        cases free : e.source.driver d with
        | some r'' => simp
        | none =>
            rcases List.mem_append.1 there with earlier | new_
            · exact absurd free (before listed r' earlier accepted)
            · obtain rfl := List.mem_singleton.1 new_
              rw [if_pos ⟨listed, rfl, orderly listed free accepted⟩]
              exact Option.some_ne_none r'
  | removesDriver r act there devices drivers driver =>
      rw [act, devices, drivers]
      constructor
      · intro settled bound r' there' accepted
        by_contra other
        have listed := (sound.bound d r bound).1
        have still := settled listed r' ((List.mem_erase_of_ne other).2 there') accepted
        rw [driver, if_pos ⟨listed, bound⟩] at still
        exact still rfl
      · intro orderly listed r' remains accepted
        obtain ⟨other, there'⟩ := sound.drivers.mem_erase_iff.1 remains
        rw [driver, if_neg fun released => other (orderly released.2 r' there' accepted)]
        exact before listed r' there' accepted

/-- **A device is bound while it can be**, exactly in the runs whose steps are orderly for it. -/
theorem settled_run_iff (path : B.machine.Path empty es u) (d : D) :
    (∀ e ∈ es, B.Settled d e.target) ↔ ∀ e ∈ es, B.Orderly d e := by
  constructor
  · intro settled
    refine path.forces (P := fun e => B.Settled d e.target)
      (I := fun s => B.Sound s ∧ B.Settled d s) ?_ ?_ ⟨sound_empty, settled_empty d⟩ settled
    · rintro e taken orderly ⟨sound, before⟩
      have turns := turns_of_takes taken
      exact ⟨turns.sound sound, (turns.settled_iff sound before).2 orderly⟩
    · rintro e taken ⟨sound, before⟩ after
      exact ((turns_of_takes taken).settled_iff sound before).1 after
  · intro orderly e member
    have run := path.keeps (C := B.Orderly d) (I := fun s => B.Sound s ∧ B.Settled d s)
      (fun e taken orderly before => ⟨(turns_of_takes taken).sound before.1,
        ((turns_of_takes taken).settled_iff before.1 before.2).2 orderly⟩)
      orderly ⟨sound_empty, settled_empty d⟩
    exact (run.2 e member).2.2.2

/-! ## What the bindings hold -/

section Balance

variable {ρ : Type} [DecidableEq ρ] {effect : κ → Effect ρ} {full : D → R → List ρ}

/-- What has been called for a pair, and whether it is bound. -/
def pair (s : State D R κ) (d : D) (r : R) : Loadable.State κ Unit :=
  { log := s.log (d, r), loaded := if s.driver d = some r then some () else none }

/-- Each pair holds what it needs exactly while it is bound. -/
def Balanced (effect : κ → Effect ρ) (full : D → R → List ρ) (s : State D R κ) : Prop :=
  ∀ d r, Loadable.Balanced effect (fun _ => full d r) (pair s d r)

/-- How a driver has to deal with what it holds for a device. -/
structure Keeps (B : Bus D R κ) (effect : κ → Effect ρ) (full : D → R → List ρ)
    (good : D → R → (Nat → Bool) → Prop) : Prop where
  probe : ∀ d r fails, good d r fails →
    Effect.Grounded effect [] ((B.probe d r).exec fails).1 ∧
      Effect.held effect [] ((B.probe d r).exec fails).1 =
        if ((B.probe d r).exec fails).2 = 0 then full d r else []
  remove : ∀ d r, Effect.Grounded effect (full d r) (B.remove d r) ∧
    Effect.held effect (full d r) (B.remove d r) = []

variable {good : D → R → (Nat → Bool) → Prop}

omit [DecidableEq D] in
theorem balanced_empty : Balanced effect full (empty : State D R κ) :=
  fun _ _ => Loadable.balanced_fresh

omit [DecidableEq D] in
theorem balanced_of_pair {s t : State D R κ} {d : D} {r : R}
    (before : Loadable.Balanced effect (fun _ => full d r) (pair s d r))
    (log : t.log (d, r) = s.log (d, r)) (bound : t.driver d = some r ↔ s.driver d = some r) :
    Loadable.Balanced effect (fun _ => full d r) (pair t d r) := by
  have same : pair t d r = pair s d r := by
    unfold pair
    rw [log]
    simp only [bound]
  rw [same]
  exact before

theorem offer_balanced (keeps : B.Keeps effect full good) {s : State D R κ} {d : D} {r : R}
    (allowed : B.accepts d r → good d r (fails d r)) (before : Balanced effect full s) :
    Balanced effect full (B.offer fails s d r) := by
  unfold offer
  by_cases offered : s.driver d = none ∧ B.accepts d r
  · rw [if_pos offered]
    obtain ⟨free, accepted⟩ := offered
    have kept := keeps.probe d r (fails d r) (allowed accepted)
    have answer : B.takes fails d r = (((B.probe d r).exec (fails d r)).2 == 0) := by
      rw [takes, accepted, Bool.true_and]
    intro d' r'
    by_cases same : (d', r') = (d, r)
    · obtain ⟨rfl, rfl⟩ := Prod.mk.inj same
      have idle : (pair s d' r').loaded = none := if_neg (by rw [free]; nofun)
      refine (before d' r').after (Function.update_self _ _ _ : Function.update s.log (d', r')
        (s.log (d', r') ++ ((B.probe d' r').exec (fails d' r')).1) (d', r') = _) ?_ ?_
      · rw [idle]
        exact kept.1
      · rw [idle]
        refine kept.2.trans ?_
        by_cases zero : ((B.probe d' r').exec (fails d' r')).2 = 0
        · simp [pair, answer, zero, Loadable.due]
        · simp [pair, answer, zero, Loadable.due, free]
    · refine balanced_of_pair (before d' r') (Function.update_of_ne same _ _) ?_
      by_cases taken : B.takes fails d r
      · by_cases here : d' = d
        · subst here
          have other : r ≠ r' := fun equal => same (by rw [equal])
          simp [taken, free, other]
        · simp [taken, here]
      · simp [taken]
  · rw [if_neg offered]
    exact before

theorem release_balanced (keeps : B.Keeps effect full good) {s : State D R κ} {d : D}
    (before : Balanced effect full s) : Balanced effect full (B.release s d) := by
  unfold release
  cases bound : s.driver d with
  | none => exact before
  | some r =>
      have kept := keeps.remove d r
      intro d' r'
      by_cases same : (d', r') = (d, r)
      · obtain ⟨rfl, rfl⟩ := Prod.mk.inj same
        have busy : (pair s d' r').loaded = some () := if_pos bound
        refine (before d' r').after (Function.update_self _ _ _ : Function.update s.log (d', r')
          (s.log (d', r') ++ B.remove d' r') (d', r') = _) ?_ ?_
        · rw [busy]
          exact kept.1
        · rw [busy]
          refine kept.2.trans ?_
          simp [pair, Loadable.due]
      · refine balanced_of_pair (before d' r') (Function.update_of_ne same _ _) ?_
        by_cases here : d' = d
        · subst here
          have other : r ≠ r' := fun equal => same (by rw [equal])
          simp [bound, other]
        · simp [here]

/-- The probes that the step may run are good. -/
def Probes (B : Bus D R κ) (good : D → R → (Nat → Bool) → Prop) (e : BusEvent D R κ) : Prop :=
  ∀ d r fails, Meets d r e fails → B.accepts d r → good d r (fails d r)

theorem balanced_of_takes (keeps : B.Keeps effect full good) {e : BusEvent D R κ}
    (taken : B.machine.Takes e) (probes : B.Probes good e)
    (before : Balanced effect full e.source) : Balanced effect full e.target := by
  obtain ⟨s, act, out, t⟩ := e
  simp only [Machine.Takes, machine] at taken
  cases act with
  | addDevice d fails =>
      simp only [step] at taken
      split at taken
      · cases taken
      · cases taken
        refine List.foldlRecOn (motive := Balanced effect full) s.drivers _ before ?_
        intro s' before' r there
        exact offer_balanced keeps (probes d r fails (.inl ⟨rfl, there⟩)) before'
  | removeDevice d =>
      simp only [step] at taken
      split at taken
      · cases taken
        exact release_balanced keeps before
      · cases taken
  | addDriver r fails =>
      simp only [step] at taken
      split at taken
      · cases taken
      · cases taken
        refine List.foldlRecOn (motive := Balanced effect full) s.devices _ before ?_
        intro s' before' d there
        exact offer_balanced keeps (probes d r fails (.inr ⟨rfl, there⟩)) before'
  | removeDriver r =>
      simp only [step] at taken
      split at taken
      · cases taken
        refine List.foldlRecOn (motive := Balanced effect full) _ _ before ?_
        intro s' before' d _
        exact release_balanced keeps before'
      · cases taken

/-- **The run rule of bindings.** -/
theorem balanced_run (path : B.machine.Path empty es u) (keeps : B.Keeps effect full good)
    (probes : ∀ e ∈ es, B.Probes good e) :
    Balanced effect full u ∧ ∀ e ∈ es, Balanced effect full e.source ∧
      Balanced effect full e.target := by
  have run := path.keeps (C := B.Probes good) (I := Balanced effect full)
    (fun e taken probes before => balanced_of_takes keeps taken probes before) probes balanced_empty
  exact ⟨run.1, fun e member => (run.2 e member).2⟩

end Balance

end Bus

end LearningKernel.Theory
