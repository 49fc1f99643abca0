/-
# Sensor.InTime -- accesses in time use the bound device

An access is in time (`Timely`) if it comes after the probe has stored what it uses
and before the removal has returned, and belongs to that binding.  What ties the
stored pointer, and those taken up, to the device bound last (`Linked`) is kept by
every call, and by every access in time.
-/
import LearningKernel.Sensor.Binding

namespace LearningKernel.Sensor

open LearningKernel.Theory

set_option autoImplicit false

variable {C User : Type} [DecidableEq User]

/-- The pointer is set, and to the device that is bound. -/
def IsBound (s : SensorState C User) (client : Option C) : Prop :=
  s.held.bound = true ∧ client ≠ none ∧ client = s.flight.bindings.getLast?

/-- What an access uses is set and of the bound device. -/
def UsesBound (e : SensorEvent C User) : Prop :=
  match e.act with
  | some (.occur (.call _)) => IsBound e.source e.source.flight.client
  | some (.occur (.transfer user)) =>
      ∀ client n, e.source.flight.files user = .running client n → IsBound e.source client
  | some (.occur .show) => e.source.held.drvdata = true ∧ IsBound e.source e.source.flight.client
  | some (.occur (.showTransfer i)) =>
      ∀ client, e.source.flight.shows[i]? = some client → IsBound e.source client
  | _ => True

/-- A file is used where the pointer is stored, within one binding; an attribute is
shown where the driver data are the structure too. -/
def Timely (driver : Driver) (e : SensorEvent C User) : Prop :=
  match e.act with
  | some (.occur (.call _)) => StoredAt e.source.rest
  | some (.occur (.transfer user)) =>
      ∀ client n, e.source.flight.files user = .running client n →
        StoredAt e.source.rest ∧ n = e.source.flight.bindings.length
  | some (.occur .show) => StoredAt e.source.rest ∧ DrvdataAt driver e.source.rest
  | _ => True

/-! ## What ties the pointers -/

/-- What ties the pointers to the device bound last. -/
structure Linked (s : SensorState C User) : Prop where
  bindings : s.held.bound = true → s.flight.bindings ≠ []
  client : s.held.stored = true → s.flight.client = s.flight.bindings.getLast?
  files : ∀ user client n, s.flight.files user = .running client n →
    n ≤ s.flight.bindings.length ∧
      (n = s.flight.bindings.length → client = s.flight.bindings.getLast?)
  shows : ∀ client ∈ s.flight.shows, client = s.flight.bindings.getLast?
  quiet : s.held.registered = false → s.flight.shows = []

omit [DecidableEq User] in
/-- A pointer that follows the bound device is set. -/
theorem Linked.isBound {s : SensorState C User} (linked : Linked s) (bound : s.held.bound = true)
    {client : Option C} (same : client = s.flight.bindings.getLast?) : IsBound s client := by
  refine ⟨bound, ?_, same⟩
  rw [same, Ne, List.getLast?_eq_none_iff]
  exact linked.bindings bound

omit [DecidableEq User] in
/-- A step that leaves bindings, pointer and files, and claims no more than was held. -/
theorem Linked.frame {s t : SensorState C User} (linked : Linked s)
    (bindings : t.flight.bindings = s.flight.bindings) (client : t.flight.client = s.flight.client)
    (files : t.flight.files = s.flight.files) (bound : t.held.bound = true → s.held.bound = true)
    (stored : t.held.stored = true → s.held.stored = true)
    (shows : ∀ c ∈ t.flight.shows, c ∈ s.flight.shows ∨ c = s.flight.bindings.getLast?)
    (quiet : t.held.registered = false → t.flight.shows = []) : Linked t where
  bindings := by
    rw [bindings]
    exact fun held => linked.bindings (bound held)
  client := by
    rw [client, bindings]
    exact fun held => linked.client (stored held)
  files := by
    rw [files, bindings]
    exact linked.files
  shows := by
    rw [bindings]
    intro c member
    rcases shows c member with before | latest
    · exact linked.shows c before
    · exact latest
  quiet := quiet

omit [DecidableEq User] in
/-- A step that leaves the flight, and takes away no more than it has to. -/
theorem Linked.keep {s t : SensorState C User} (linked : Linked s) (flight : t.flight = s.flight)
    (bound : t.held.bound = true → s.held.bound = true)
    (stored : t.held.stored = true → s.held.stored = true)
    (registered : t.held.registered = false → s.held.registered = false) : Linked t := by
  refine linked.frame (by rw [flight]) (by rw [flight]) (by rw [flight]) bound stored ?_ ?_
  · rw [flight]
    exact fun c member => Or.inl member
  · rw [flight]
    exact fun held => linked.quiet (registered held)

omit [DecidableEq User] in
theorem Linked.same {s t : SensorState C User} (linked : Linked s) (held : t.held = s.held)
    (flight : t.flight = s.flight) : Linked t := by
  apply linked.keep flight <;> rw [held] <;> exact id

/-- A file moves on. -/
theorem Linked.enter {s t : SensorState C User} (linked : Linked s) {user : User}
    {phase : FilePhase C} (held : t.held = s.held) (flight : t.flight = s.flight.enter user phase)
    (taken : ∀ client n, phase = .running client n → n ≤ s.flight.bindings.length ∧
      (n = s.flight.bindings.length → client = s.flight.bindings.getLast?)) : Linked t where
  bindings := by
    rw [held, flight]
    exact linked.bindings
  client := by
    rw [held, flight]
    exact linked.client
  files := by
    rw [flight]
    intro user' client n running
    by_cases same : user' = user
    · rw [same] at running
      simp only [Flight.enter, Function.update_self] at running
      exact taken client n running
    · simp only [Flight.enter, Function.update_of_ne same] at running
      exact linked.files user' client n running
  shows := by
    rw [flight]
    exact linked.shows
  quiet := by
    rw [held, flight]
    exact linked.quiet

omit [DecidableEq User] in
/-- The calls of the probes and removals keep the pointers tied. -/
theorem Linked.proceed {driver : Driver} {s t : SensorState C User} {k : Call}
    (next : s.rest.next? = some k) (held : t.held = own driver k s.held)
    (flight : settle k s.flight = some t.flight) (place : s.place ∈ driver.places)
    (linked : Linked s) : Linked t := by
  cases k with
  | bind =>
      have empty : s.held = {} := places_calls driver _ place .bind next rfl
      have flight' : t.flight = { s.flight with
          bindings := s.flight.bindings ++ [s.flight.candidate] } := (Option.some.inj flight).symm
      have shows : s.flight.shows = [] := linked.quiet (by rw [empty])
      refine ⟨?_, ?_, ?_, ?_, ?_⟩
      · rw [flight']
        simp
      · rw [held, empty]
        intro stored
        cases stored
      · rw [flight']
        intro user client n running
        have before := (linked.files user client n running).1
        rw [List.length_append]
        refine ⟨Nat.le_succ_of_le before, ?_⟩
        intro latest
        exact absurd before (by simp only [latest, List.length_singleton]; omega)
      · rw [flight', shows]
        simp
      · rw [flight']
        exact fun _ => shows
  | setClient =>
      have flight' : t.flight = { s.flight with client := s.flight.bindings.getLast? } :=
        (Option.some.inj flight).symm
      refine ⟨?_, ?_, ?_, ?_, ?_⟩
      · rw [held, flight']
        exact linked.bindings
      · rw [flight']
        exact fun _ => rfl
      · rw [flight']
        exact linked.files
      · rw [flight']
        exact linked.shows
      · rw [held, flight']
        exact linked.quiet
  | miscDeregister =>
      simp only [settle] at flight
      split at flight
      · rename_i none
        have same : t.flight = s.flight := (Option.some.inj flight).symm
        have empty : t.flight.shows = [] := by
          rw [same]
          exact List.isEmpty_iff.1 none
        refine linked.frame (by rw [same]) (by rw [same]) (by rw [same]) ?_ ?_ ?_ fun _ => empty
        · rw [held]
          exact id
        · rw [held]
          exact id
        · rw [empty]
          exact fun c member => absurd member List.not_mem_nil
      · cases flight
  | miscRegister =>
      refine linked.keep (Option.some.inj flight).symm ?_ ?_ ?_ <;> rw [held]
      · exact id
      · exact id
      · intro registered
        cases registered
  | unbind =>
      refine linked.keep (Option.some.inj flight).symm ?_ ?_ ?_ <;> rw [held]
      · intro bound
        cases bound
      · intro stored
        cases stored
      · exact id
  | initWrite data | spiSetup | icm20608Reginit | spiSetDrvdata | devSetDrvdata =>
      apply linked.keep (Option.some.inj flight).symm <;> rw [held] <;> exact id

theorem registered_of_show {held : Held} {flight flight' : Flight C User}
    (shown : occur .show held flight = some flight') : held.registered = true := by
  simp only [occur] at shown
  split at shown
  · assumption
  · cases shown

/-- An access in time uses the bound device. -/
theorem usesBound_of_timely {driver : Driver} {e : SensorEvent C User}
    (turns : (platform C User driver).Turns driver.again e) (place : e.source.place ∈ driver.places)
    (timely : Timely driver e) (linked : Linked e.source) : UsesBound e := by
  obtain ⟨stored_iff, drvdata_iff, bound, registered_bound⟩ := places_stored driver _ place
  cases turns with
  | occurred x act held flight rest =>
      simp only [Timely, act] at timely
      simp only [UsesBound, act]
      cases x with
      | call user =>
          have here : e.source.held.stored = true := stored_iff.1 timely
          exact linked.isBound (bound here) (linked.client here)
      | transfer user =>
          intro client n running
          obtain ⟨in_time, latest⟩ := timely client n running
          have here : e.source.held.stored = true := stored_iff.1 in_time
          exact linked.isBound (bound here) ((linked.files user client n running).2 latest)
      | «show» =>
          have registered : e.source.held.registered = true := registered_of_show flight
          have drvdata : e.source.held.drvdata = true := (drvdata_iff registered).1 timely.2
          have here : e.source.held.stored = true := stored_iff.1 timely.1
          exact ⟨drvdata, linked.isBound (bound here) (linked.client here)⟩
      | showTransfer i =>
          intro client showing
          have member : client ∈ e.source.flight.shows := List.mem_of_getElem? showing
          have registered : e.source.held.registered = true := by
            by_contra not
            rw [Bool.not_eq_true] at not
            rw [linked.quiet not] at member
            cases member
          exact linked.isBound (registered_bound registered) (linked.shows client member)
      | arrive c | opens user | finish user | release user | showFinish i => trivial
  | proceeded k act | failed k fail act | entered answer act =>
      simp only [UsesBound, act]

/-- What users do keeps the pointers tied, if they do it in time. -/
theorem Linked.occur {driver : Driver} {e : SensorEvent C User} {x : Occurrence C User}
    (act : e.act = some (.occur x)) (held : e.target.held = e.source.held)
    (flight : occur x e.source.held e.source.flight = some e.target.flight)
    (place : e.source.place ∈ driver.places) (timely : Timely driver e) (linked : Linked e.source) :
    Linked e.target := by
  obtain ⟨stored_iff, drvdata_iff, -⟩ := places_stored driver _ place
  simp only [Timely, act] at timely
  cases x with
  | arrive c =>
      have flight' : e.target.flight = { e.source.flight with candidate := c } :=
        (Option.some.inj flight).symm
      refine linked.frame (by rw [flight']) (by rw [flight']) (by rw [flight'])
        (by rw [held]; exact id) (by rw [held]; exact id) ?_ ?_
      · rw [flight']
        exact fun c member => Or.inl member
      · rw [held, flight']
        exact linked.quiet
  | opens user | finish user | release user =>
      simp only [Sensor.occur] at flight
      split at flight
      · apply linked.enter held (Option.some.inj flight).symm
        intro client n running
        cases running
      · cases flight
  | call user =>
      have here : e.source.held.stored = true := stored_iff.1 timely
      simp only [Sensor.occur] at flight
      split at flight
      · apply linked.enter held (Option.some.inj flight).symm
        intro client n running
        cases running
        exact ⟨Nat.le_refl _, fun _ => linked.client here⟩
      · cases flight
  | transfer user | showTransfer i =>
      simp only [Sensor.occur] at flight
      split at flight
      · exact linked.same held (Option.some.inj flight).symm
      · cases flight
  | «show» =>
      simp only [Sensor.occur] at flight
      split at flight
      · rename_i registered
        have here : e.source.held.stored = true := stored_iff.1 timely.1
        have drvdata : e.source.held.drvdata = true := (drvdata_iff registered).1 timely.2
        have flight' := (Option.some.inj flight).symm
        refine linked.frame (by rw [flight']) (by rw [flight']) (by rw [flight'])
          (by rw [held]; exact id) (by rw [held]; exact id) ?_ ?_
        · rw [flight']
          intro client member
          rcases List.mem_append.1 member with before | last
          · exact Or.inl before
          · rw [List.mem_singleton.1 last, if_pos drvdata]
            exact Or.inr (linked.client here)
        · rw [held, registered]
          intro not
          cases not
      · cases flight
  | showFinish i =>
      have flight' : e.target.flight =
          { e.source.flight with shows := e.source.flight.shows.eraseIdx i } :=
        (Option.some.inj flight).symm
      refine linked.frame (by rw [flight']) (by rw [flight']) (by rw [flight'])
        (by rw [held]; exact id) (by rw [held]; exact id) ?_ ?_
      · rw [flight']
        exact fun client member => Or.inl (List.mem_of_mem_eraseIdx member)
      · rw [held, flight']
        intro not
        show e.source.flight.shows.eraseIdx i = []
        rw [linked.quiet not]
        rfl

theorem Linked.step {driver : Driver} {e : SensorEvent C User}
    (turns : (platform C User driver).Turns driver.again e) (place : e.source.place ∈ driver.places)
    (timely : Timely driver e) (linked : Linked e.source) : Linked e.target := by
  cases turns with
  | proceeded k act next held flight rest => exact linked.proceed next held flight place
  | failed k fail act next fails held flight rest | entered answer act here held flight rest =>
      exact linked.same held flight
  | occurred x act held flight rest => exact linked.occur act held flight place timely

end LearningKernel.Sensor
