/-
# Sensor.Accesses -- the sensors and the device that is bound

`uses_bound`: whatever is bound and unbound, an access uses the device that is
bound, if it comes after the probe has stored the pointer (for an attribute of
`icm20608`: the driver data too) and before the removal has returned, and belongs to
that binding.
Where no device is bound twice, no other access does: a pointer that the binding
has not stored is an older one (`Traced`).
-/
import LearningKernel.Sensor.InTime
import Mathlib.Data.List.Nodup

namespace LearningKernel.Sensor

open LearningKernel.Theory

set_option autoImplicit false

variable {C User : Type} [DecidableEq User]

/-! ## Accesses out of time -/

/-- A device is bound that was not bound before. -/
def Fresh (e : SensorEvent C User) : Prop :=
  e.act = some .proceed → e.source.rest.next? = some .bind →
    e.source.flight.candidate ∉ e.source.flight.bindings

/-- Where the pointers come from: a pointer that this binding has not stored is an
older one, and a file took up that of the binding it counted. -/
structure Traced (s : SensorState C User) : Prop where
  nodup : s.flight.bindings.Nodup
  client : ∀ c, s.flight.client = some c → c ∈ s.flight.bindings
  older : s.held.bound = true → s.held.stored = false →
    s.flight.client ≠ s.flight.bindings.getLast?
  files : ∀ user client n, s.flight.files user = .running client n →
    ∃ earlier later, s.flight.bindings = earlier ++ later ∧ n = earlier.length ∧
      client = earlier.getLast? ∧ client ≠ none ∧
        (later = [] → s.held.bound = true → s.held.stored = true)

omit [DecidableEq User] in
theorem Traced.keep {s t : SensorState C User} (traced : Traced s)
    (bindings : t.flight.bindings = s.flight.bindings) (client : t.flight.client = s.flight.client)
    (files : t.flight.files = s.flight.files)
    (held : t.held.bound = true → s.held.bound = true ∧ t.held.stored = s.held.stored) :
    Traced t where
  nodup := by
    rw [bindings]
    exact traced.nodup
  client := by
    rw [client, bindings]
    exact traced.client
  older := by
    rw [client, bindings]
    intro bound stored
    obtain ⟨before, same⟩ := held bound
    exact traced.older before (same ▸ stored)
  files := by
    rw [files, bindings]
    intro user pointer n running
    obtain ⟨earlier, later, split, count, taken, set, latest⟩ :=
      traced.files user pointer n running
    refine ⟨earlier, later, split, count, taken, set, ?_⟩
    intro none bound
    obtain ⟨before, same⟩ := held bound
    rw [same]
    exact latest none before

theorem Traced.enter {s t : SensorState C User} (traced : Traced s) {user : User}
    {phase : FilePhase C} (held : t.held = s.held) (flight : t.flight = s.flight.enter user phase)
    (taken : ∀ client n, phase = .running client n →
      n = s.flight.bindings.length ∧ IsBound s client ∧ s.held.stored = true) : Traced t where
  nodup := by
    rw [flight]
    exact traced.nodup
  client := by
    rw [flight]
    exact traced.client
  older := by
    rw [held, flight]
    exact traced.older
  files := by
    rw [held, flight]
    intro user' client n running
    by_cases same : user' = user
    · rw [same] at running
      simp only [Flight.enter, Function.update_self] at running
      obtain ⟨count, ⟨_, set, latest⟩, stored⟩ := taken client n running
      exact ⟨s.flight.bindings, [], (List.append_nil _).symm, count, latest, set, fun _ _ => stored⟩
    · simp only [Flight.enter, Function.update_of_ne same] at running
      exact traced.files user' client n running

omit [DecidableEq User] in
theorem Traced.proceed {driver : Driver} {s t : SensorState C User} {k : Call}
    (next : s.rest.next? = some k) (held : t.held = own driver k s.held)
    (flight : settle k s.flight = some t.flight) (place : s.place ∈ driver.places)
    (fresh : k = .bind → s.flight.candidate ∉ s.flight.bindings) (traced : Traced s) :
    Traced t := by
  cases k with
  | bind =>
      have empty : s.held = {} := places_calls driver _ place .bind next rfl
      have unknown : s.flight.candidate ∉ s.flight.bindings := fresh rfl
      have flight' : t.flight = { s.flight with
          bindings := s.flight.bindings ++ [s.flight.candidate] } := (Option.some.inj flight).symm
      refine ⟨?_, ?_, ?_, ?_⟩
      · rw [flight', ← List.concat_eq_append]
        exact traced.nodup.concat unknown
      · rw [flight']
        exact fun c stored => List.mem_append_left _ (traced.client c stored)
      · rw [flight']
        intro _ _ latest
        rw [List.getLast?_concat] at latest
        exact unknown (traced.client _ latest)
      · rw [flight']
        intro user client n running
        obtain ⟨earlier, later, split, count, taken, set, _⟩ := traced.files user client n running
        refine ⟨earlier, later ++ [s.flight.candidate], ?_, count, taken, set, ?_⟩
        · show s.flight.bindings ++ [s.flight.candidate] = _
          rw [split, List.append_assoc]
        · intro none
          exact absurd none (List.append_ne_nil_of_right_ne_nil _ (List.cons_ne_nil _ _))
  | setClient =>
      have flight' : t.flight = { s.flight with client := s.flight.bindings.getLast? } :=
        (Option.some.inj flight).symm
      refine ⟨?_, ?_, ?_, ?_⟩
      · rw [flight']
        exact traced.nodup
      · rw [flight']
        exact fun c latest => List.mem_of_getLast? latest
      · rw [held]
        intro _ stored
        cases stored
      · rw [held, flight']
        intro user client n running
        obtain ⟨earlier, later, split, count, taken, set, _⟩ := traced.files user client n running
        exact ⟨earlier, later, split, count, taken, set, fun _ _ => rfl⟩
  | miscDeregister =>
      simp only [settle] at flight
      split at flight
      · have same : t.flight = s.flight := (Option.some.inj flight).symm
        exact traced.keep (by rw [same]) (by rw [same]) (by rw [same])
          (by rw [held]; exact fun bound => ⟨bound, rfl⟩)
      · cases flight
  | unbind =>
      have same : t.flight = s.flight := (Option.some.inj flight).symm
      apply traced.keep (by rw [same]) (by rw [same]) (by rw [same])
      rw [held]
      intro bound
      cases bound
  | initWrite data | miscRegister | spiSetup | icm20608Reginit | spiSetDrvdata | devSetDrvdata =>
      have same : t.flight = s.flight := (Option.some.inj flight).symm
      exact traced.keep (by rw [same]) (by rw [same]) (by rw [same])
        (by rw [held]; exact fun bound => ⟨bound, rfl⟩)

omit [DecidableEq User] in
/-- A pointer to the device bound now has been stored by this binding. -/
theorem Traced.stored {s : SensorState C User} (traced : Traced s)
    (uses : IsBound s s.flight.client) : s.held.stored = true := by
  obtain ⟨bound, _, latest⟩ := uses
  by_contra not
  rw [Bool.not_eq_true] at not
  exact traced.older bound not latest

theorem Traced.step {driver : Driver} {e : SensorEvent C User}
    (turns : (platform C User driver).Turns driver.again e) (place : e.source.place ∈ driver.places)
    (fresh : Fresh e) (uses : UsesBound e) (traced : Traced e.source) : Traced e.target := by
  cases turns with
  | proceeded k act next held flight rest =>
      apply traced.proceed next held flight place
      rintro rfl
      exact fresh act next
  | failed k fail act next fails held flight rest | entered answer act here held flight rest =>
      exact traced.keep (by rw [flight]) (by rw [flight]) (by rw [flight])
        (by rw [held]; exact fun bound => ⟨bound, rfl⟩)
  | occurred x act held flight rest =>
      have taken : occur x e.source.held e.source.flight = some e.target.flight := flight
      simp only [UsesBound, act] at uses
      cases x with
      | arrive c | showFinish i =>
          have flight' := (Option.some.inj taken).symm
          exact traced.keep (by rw [flight']) (by rw [flight']) (by rw [flight'])
            (by rw [held]; exact fun bound => ⟨bound, rfl⟩)
      | opens user | finish user | release user =>
          simp only [occur] at taken
          split at taken
          · apply traced.enter held (Option.some.inj taken).symm
            intro client n running
            cases running
          · cases taken
      | call user =>
          simp only [occur] at taken
          split at taken
          · apply traced.enter held (Option.some.inj taken).symm
            intro client n running
            cases running
            exact ⟨rfl, uses, traced.stored uses⟩
          · cases taken
      | transfer user | «show» | showTransfer i =>
          simp only [occur] at taken
          split at taken
          · have flight' := (Option.some.inj taken).symm
            exact traced.keep (by rw [flight']) (by rw [flight']) (by rw [flight'])
              (by rw [held]; exact fun bound => ⟨bound, rfl⟩)
          · cases taken

omit [DecidableEq User] in
/-- A pointer of the bindings so far that is to the latest is of the latest. -/
theorem Traced.latest {s : SensorState C User} (traced : Traced s) {earlier later : List C}
    (split : s.flight.bindings = earlier ++ later) {client : Option C} (set : client ≠ none)
    (before : client = earlier.getLast?) (now : client = s.flight.bindings.getLast?) :
    later = [] := by
  obtain ⟨c, rfl⟩ := Option.ne_none_iff_exists'.1 set
  have disjoint : earlier.Disjoint later := by
    have nodup := traced.nodup
    rw [split] at nodup
    exact List.disjoint_of_nodup_append nodup
  by_contra more
  rw [split, List.getLast?_append_of_ne_nil _ more] at now
  exact disjoint (List.mem_of_getLast? before.symm) (List.mem_of_getLast? now.symm)

/-- An access of the bound device is in time. -/
theorem timely_of_usesBound {driver : Driver} {e : SensorEvent C User}
    (turns : (platform C User driver).Turns driver.again e) (place : e.source.place ∈ driver.places)
    (uses : UsesBound e) (traced : Traced e.source) : Timely driver e := by
  obtain ⟨stored_iff, drvdata_iff, _⟩ := places_stored driver _ place
  cases turns with
  | occurred x act held flight rest =>
      simp only [UsesBound, act] at uses
      simp only [Timely, act]
      cases x with
      | call user => exact stored_iff.2 (traced.stored uses)
      | transfer user =>
          intro client n running
          obtain ⟨bound, set, now⟩ := uses client n running
          obtain ⟨earlier, later, split, count, before, _, latest⟩ :=
            traced.files user client n running
          have none : later = [] := traced.latest split set before now
          refine ⟨stored_iff.2 (latest none bound), ?_⟩
          rw [count, split, none, List.append_nil]
      | «show» =>
          have registered : e.source.held.registered = true := registered_of_show flight
          exact ⟨stored_iff.2 (traced.stored uses.2), (drvdata_iff registered).2 uses.1⟩
      | arrive c | opens user | finish user | release user | showTransfer i | showFinish i =>
          trivial
  | proceeded k act | failed k fail act | entered answer act =>
      simp only [Timely, act]

omit [DecidableEq User] in
theorem linked_unbound (candidate : C) : Linked (unbound User candidate) := by
  refine ⟨?_, ?_, ?_, ?_, fun _ => rfl⟩
  · intro bound
    cases bound
  · intro stored
    cases stored
  · intro user client n running
    cases running
  · intro client showing
    cases showing

omit [DecidableEq User] in
theorem traced_unbound (candidate : C) : Traced (unbound User candidate) := by
  refine ⟨List.nodup_nil, ?_, ?_, ?_⟩
  · intro c stored
    cases stored
  · intro bound
    cases bound
  · intro user client n running
    cases running

/-- **An access in time uses the device that is bound, and where no device is bound
twice no other does.** -/
theorem uses_bound {driver : Driver} {candidate : C} {es : List (SensorEvent C User)}
    {s : SensorState C User}
    (path : ((platform C User driver).cycle driver.again).Path (unbound User candidate) es s) :
    ((∀ e ∈ es, Timely driver e) → ∀ e ∈ es, UsesBound e) ∧
      ((∀ e ∈ es, Fresh e) → (∀ e ∈ es, UsesBound e) → ∀ e ∈ es, Timely driver e) := by
  constructor
  · intro timely e member
    have run := run_keeps (fun e turns in_time place linked => linked.step turns place in_time)
      path timely (linked_unbound candidate)
    obtain ⟨turns, place, linked⟩ := run e member
    exact usesBound_of_timely turns place (timely e member) linked
  · intro fresh uses e member
    have both : ∀ e ∈ es, Fresh e ∧ UsesBound e := fun e member => ⟨fresh e member, uses e member⟩
    have run := run_keeps (fun e turns here place traced => traced.step turns place here.1 here.2)
      path both (traced_unbound candidate)
    obtain ⟨turns, place, traced⟩ := run e member
    exact timely_of_usesBound turns place (uses e member) traced

/-! ## Sessions -/

instance {P : Option C → Nat → Prop} [∀ client n, Decidable (P client n)] (phase : FilePhase C) :
    Decidable (∀ client n, phase = .running client n → P client n) :=
  match phase with
  | .closed | .opened => .isTrue (by intro _ _ running; cases running)
  | .running client n =>
      decidable_of_iff (P client n)
        ⟨by rintro here _ _ ⟨⟩; exact here, fun all => all client n rfl⟩

instance [DecidableEq C] (s : SensorState C User) (client : Option C) :
    Decidable (IsBound s client) :=
  inferInstanceAs (Decidable (_ ∧ _))

instance (driver : Driver) (e : SensorEvent C User) : Decidable (Timely driver e) :=
  match act : e.act with
  | some (.occur (.call _)) => decidable_of_iff (StoredAt e.source.rest) (by simp only [Timely, act])
  | some (.occur (.transfer user)) =>
      decidable_of_iff (∀ client n, e.source.flight.files user = .running client n →
        StoredAt e.source.rest ∧ n = e.source.flight.bindings.length) (by simp only [Timely, act])
  | some (.occur .show) =>
      decidable_of_iff (StoredAt e.source.rest ∧ DrvdataAt driver e.source.rest)
        (by simp only [Timely, act])
  | none | some .proceed | some .fail | some (.occur (.arrive _)) | some (.occur (.opens _))
  | some (.occur (.finish _)) | some (.occur (.release _)) | some (.occur (.showTransfer _))
  | some (.occur (.showFinish _)) => .isTrue (by simp only [Timely, act])

instance [DecidableEq C] (e : SensorEvent C User) : Decidable (UsesBound e) :=
  match act : e.act with
  | some (.occur (.call _)) =>
      decidable_of_iff (IsBound e.source e.source.flight.client) (by simp only [UsesBound, act])
  | some (.occur (.transfer user)) =>
      decidable_of_iff (∀ client n, e.source.flight.files user = .running client n →
        IsBound e.source client) (by simp only [UsesBound, act])
  | some (.occur .show) =>
      decidable_of_iff (e.source.held.drvdata = true ∧ IsBound e.source e.source.flight.client)
        (by simp only [UsesBound, act])
  | some (.occur (.showTransfer i)) =>
      decidable_of_iff (∀ client ∈ e.source.flight.shows[i]?, IsBound e.source client)
        (by simp only [UsesBound, act, Option.mem_def])
  | none | some .proceed | some .fail | some (.occur (.arrive _)) | some (.occur (.opens _))
  | some (.occur (.finish _)) | some (.occur (.release _)) | some (.occur (.showFinish _)) =>
      .isTrue (by simp only [UsesBound, act])

def bindActs (driver : Driver) : List (Option (Platform.Act (Occurrence Bool Unit))) :=
  none :: List.replicate driver.probe.ahead.length (some .proceed)

def unbindActs (driver : Driver) : List (Option (Platform.Act (Occurrence Bool Unit))) :=
  none :: List.replicate driver.remove.ahead.length (some .proceed)

/-- One device after the other, each used while it is bound; an attribute of the
second is shown before `dev_set_drvdata`. -/
theorem uses_bound_session :
    let shown : List (Option (Platform.Act _)) :=
      [some (.occur .show), some (.occur (.showTransfer 0)), some (.occur (.showFinish 0))]
    let served : List (Option (Platform.Act _)) :=
      [some (.occur (.opens ())), some (.occur (.call ())), some (.occur (.transfer ())),
        some (.occur (.finish ())), some (.occur (.release ()))] ++ shown
    let acts := bindActs .ap3216c ++ served ++ unbindActs .ap3216c ++
      [some (.occur (.arrive true))] ++ (bindActs .ap3216c).dropLast ++ shown ++
      [some .proceed] ++ served
    let ap3216c := (platform Bool Unit .ap3216c).cycle (Driver.again .ap3216c)
    let es := ap3216c.trace (unbound Unit false) acts
    es.length = acts.length ∧ ∀ e ∈ es, UsesBound e := by
  refine ⟨by decide, (uses_bound (Machine.path_trace _ _ _)).1 ?_⟩
  decide

/-- An `ioctl` between `misc_register` and the store of the pointer, an attribute of
`icm20608` shown there and again before `dev_set_drvdata`, and a `read` of a file
still open after the removal. -/
theorem uses_unbound :
    let ap3216c := (platform Bool Unit .ap3216c).cycle (Driver.again .ap3216c)
    let icm20608 := (platform Bool Unit .icm20608).cycle (Driver.again .icm20608)
    let ioctl : List (Option (Platform.Act _)) := none :: List.replicate 4 (some .proceed) ++
      [some (.occur (.opens ())), some (.occur (.call ()))]
    let shown : List (Option (Platform.Act _)) :=
      none :: List.replicate 2 (some .proceed) ++ [some (.occur .show)]
    let early : List (Option (Platform.Act _)) :=
      none :: List.replicate 6 (some .proceed) ++ [some (.occur .show)]
    let late := bindActs .icm20608 ++ [some (.occur (.opens ()))] ++ unbindActs .icm20608 ++
      [some (.occur (.call ()))]
    ((ap3216c.trace (unbound Unit false) ioctl).length = ioctl.length ∧
      ∃ e ∈ ap3216c.trace (unbound Unit false) ioctl, ¬ UsesBound e) ∧
    ((icm20608.trace (unbound Unit false) shown).length = shown.length ∧
      ∃ e ∈ icm20608.trace (unbound Unit false) shown, ¬ UsesBound e) ∧
    ((icm20608.trace (unbound Unit false) early).length = early.length ∧
      ∃ e ∈ icm20608.trace (unbound Unit false) early, ¬ UsesBound e) ∧
    (icm20608.trace (unbound Unit false) late).length = late.length ∧
      ∃ e ∈ icm20608.trace (unbound Unit false) late, ¬ UsesBound e := by
  decide

end LearningKernel.Sensor
