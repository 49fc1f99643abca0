/-
# HelloDev.Register -- hello, an integer register with a binary and a text view

The four operations of `hello.c` on `dev->val`, each with its `dev->sem` critical
section as one step: the parse of `hello_val_store` and the print of
`hello_val_show` touch nothing shared.  `interrupted` is `down_interruptible`
refusing the semaphore.

`hello_write` copies into the live register, so a fault inside its four bytes
leaves the copied bytes followed by zeros, and the call answers `-EFAULT`.
`hello_register_iff` says that this is all that separates the driver from a
linearizable register whose failing calls change nothing.
-/
import LearningKernel.Kernel.Text
import LearningKernel.Theory.Latest
import LearningKernel.Theory.LittleEndian
import LearningKernel.Theory.Machine
import LearningKernel.Theory.Memory

namespace LearningKernel.HelloDev

open LearningKernel.Theory LearningKernel.Theory.CInt LearningKernel.Kernel

set_option autoImplicit false
set_option linter.dupNamespace false

/-- The `int` in four bytes of memory. -/
def intOfBytes (bs : List UInt8) : Int := signed 32 (ofLE bs)

/-- The four bytes of an `int`. -/
def bytesOfInt (v : Int) : List UInt8 := toLE sizeofInt (unsigned 32 v).toNat

/-- What `hello_read` delivers after a `hello_write` is what was written. -/
theorem bytesOfInt_intOfBytes {bs : List UInt8} (full : bs.length = sizeofInt) :
    bytesOfInt (intOfBytes bs) = bs := by
  have small := ofLE_lt bs
  rw [full] at small
  simp only [sizeofInt] at small
  have same : unsigned 32 (signed 32 (ofLE bs)) = ofLE bs := by
    show signed 32 (ofLE bs) % 2 ^ 32 = ofLE bs
    rw [signed_emod]
    exact Int.emod_eq_of_lt (by omega) (by omega)
  rw [bytesOfInt, intOfBytes, same, Int.toNat_natCast, ← full, toLE_ofLE]

/-- `hello_read` with a buffer of `count` bytes: what it returns and copies out. -/
def helloRead (val : Int) (count : Nat) (interrupted : Bool) (uncopied : Nat) :
    Int × List UInt8 :=
  if interrupted then (-erestartsys, [])
  else if count < sizeofInt then (0, [])
  else if min uncopied sizeofInt ≠ 0 then (-efault, copyToUser (bytesOfInt val) uncopied)
  else (sizeofInt, bytesOfInt val)

/-- `hello_write` of `count = buf.length` bytes: what it returns and leaves in `val`. -/
def helloWrite (val : Int) (buf : List UInt8) (interrupted : Bool) (uncopied : Nat) : Int × Int :=
  if interrupted then (-erestartsys, val)
  else if buf.length ≠ sizeofInt then (0, val)
  else
    -- the destination of `copy_from_user` is `dev->val` itself
    let copied := intOfBytes (copyFromUser buf uncopied)
    if min uncopied buf.length ≠ 0 then (-efault, copied) else (sizeofInt, copied)

/-- `__hello_get_val`. -/
def helloGetVal (val : Int) (interrupted : Bool) : Int × List UInt8 :=
  if interrupted then (-erestartsys, [])
  else
    let text := formatInt val ++ [10]
    (text.length, text)

/-- The `int` that `__hello_set_val` makes of a text. -/
def parsedInt (buf : List UInt8) : Int := signed 32 (simpleStrtol buf)

/-- `__hello_set_val`. -/
def helloSetVal (val : Int) (buf : List UInt8) (interrupted : Bool) : Int × Int :=
  if interrupted then (-erestartsys, val) else (buf.length, parsedInt buf)

/-- `hello_val_show`. -/
def helloValShow (val : Int) (interrupted : Bool) : Int × List UInt8 := helloGetVal val interrupted

/-- `hello_val_store`. -/
def helloValStore (val : Int) (text : SysfsText) (interrupted : Bool) : Int × Int :=
  helloSetVal val text.bytes interrupted

/-- What `hello_write` can do: refuse, ignore, store, or fault halfway. -/
theorem helloWrite_cases (val : Int) (buf : List UInt8) (interrupted : Bool) (uncopied : Nat) :
    (interrupted = true ∧ helloWrite val buf interrupted uncopied = (-erestartsys, val)) ∨
    (buf.length ≠ sizeofInt ∧ helloWrite val buf interrupted uncopied = (0, val)) ∨
    (uncopied = 0 ∧ helloWrite val buf interrupted uncopied = (4, intOfBytes buf)) ∨
    (interrupted = false ∧ buf.length = sizeofInt ∧ uncopied ≠ 0 ∧
      helloWrite val buf interrupted uncopied =
        (-efault, intOfBytes (copyFromUser buf uncopied))) := by
  unfold helloWrite
  cases interrupted with
  | true => exact Or.inl ⟨rfl, rfl⟩
  | false =>
      by_cases size : buf.length = sizeofInt
      · by_cases whole : uncopied = 0
        · exact Or.inr (Or.inr (Or.inl ⟨whole, by simp [size, whole, sizeofInt]⟩))
        · have faults : min uncopied sizeofInt ≠ 0 := by
            simp only [sizeofInt]
            omega
          exact Or.inr (Or.inr (Or.inr ⟨rfl, size, whole, by simp [size, faults]⟩))
      · exact Or.inr (Or.inl ⟨size, by simp [size]⟩)

/-! ## Runs of any number of clients -/

/-- The shared part of `struct hello_android_dev`. -/
structure HelloDev where
  val : Int
  deriving DecidableEq

/-- The device as `__hello_setup_dev` leaves it. -/
def HelloDev.setup : HelloDev := ⟨0⟩

inductive Op where
  | read (count : Nat) (interrupted : Bool) (uncopied : Nat)
  | write (buf : List UInt8) (interrupted : Bool) (uncopied : Nat)
  | valShow (interrupted : Bool)
  | valStore (text : SysfsText) (interrupted : Bool)

/-- The return value, and what a read or a show delivers. -/
structure Answer where
  ret : Int
  data : List UInt8
  deriving DecidableEq

def operate (dev : HelloDev) : Op → Answer × HelloDev
  | .read count interrupted uncopied =>
      let r := helloRead dev.val count interrupted uncopied
      (⟨r.1, r.2⟩, dev)
  | .write buf interrupted uncopied =>
      let r := helloWrite dev.val buf interrupted uncopied
      (⟨r.1, []⟩, { dev with val := r.2 })
  | .valShow interrupted =>
      let r := helloValShow dev.val interrupted
      (⟨r.1, r.2⟩, dev)
  | .valStore text interrupted =>
      let r := helloValStore dev.val text interrupted
      (⟨r.1, []⟩, { dev with val := r.2 })

/-- Critical sections of any clients, in any order. -/
def machine : Machine HelloDev Op Answer := ⟨fun dev op => some (operate dev op)⟩

abbrev HelloEvent := Event HelloDev Op Answer

theorem takes_iff {e : HelloEvent} :
    machine.Takes e ↔ operate e.source e.act = (e.out, e.target) := by
  simp [Machine.Takes, machine]

/-- The value a call that reported success supplied. -/
def supplied (e : HelloEvent) : Option Int :=
  match e.act with
  | .write buf _ _ => if e.out.ret = sizeofInt then some (intOfBytes buf) else none
  | .valStore text _ => if e.out.ret = text.bytes.length then some (parsedInt text.bytes) else none
  | _ => none

/-- The value most recently supplied, 0 if there is none. -/
def lastSupplied (es : List HelloEvent) : Int :=
  (latest supplied es).getD 0

theorem lastSupplied_concat (es : List HelloEvent) (e : HelloEvent) :
    lastSupplied (es ++ [e]) = (supplied e).getD (lastSupplied es) := by
  rw [lastSupplied, latest_concat, lastSupplied]
  cases supplied e with
  | none => rfl
  | some v => rfl

/-- A successful read or show reports the value most recently supplied. -/
def ReportsLast (before : List HelloEvent) (e : HelloEvent) : Prop :=
  match e.act with
  | .read _ _ _ => e.out.ret = sizeofInt → e.out.data = bytesOfInt (lastSupplied before)
  | .valShow _ => 0 ≤ e.out.ret → e.out.data = formatInt (lastSupplied before) ++ [10]
  | _ => True

/-- A call that returns an error or 0 leaves the register alone. -/
def FailsClean (e : HelloEvent) : Prop := e.out.ret ≤ 0 → e.target.val = e.source.val

/-- If this is a `hello_write` that faults, the copied bytes and the zeros after
them are the value the register already has. -/
def FaultHarmless (e : HelloEvent) : Prop :=
  ∀ buf uncopied, e.act = .write buf false uncopied → buf.length = sizeofInt → uncopied ≠ 0 →
    intOfBytes (copyFromUser buf uncopied) = e.source.val

theorem failsClean_write {dev : HelloDev} {buf : List UInt8} {interrupted : Bool}
    {uncopied : Nat} {answer : Answer} {dev' : HelloDev}
    (taken : operate dev (.write buf interrupted uncopied) = (answer, dev')) :
    FailsClean ⟨dev, .write buf interrupted uncopied, answer, dev'⟩ ↔
      FaultHarmless ⟨dev, .write buf interrupted uncopied, answer, dev'⟩ := by
  simp only [operate, Prod.mk.injEq] at taken
  obtain ⟨rfl, rfl⟩ := taken
  simp only [FailsClean, FaultHarmless, Op.write.injEq]
  rcases helloWrite_cases dev.val buf interrupted uncopied with
    ⟨rfl, result⟩ | ⟨size, result⟩ | ⟨rfl, result⟩ | ⟨rfl, size, faults, result⟩
  · simp [result]
  · rw [result]
    refine ⟨fun _ buf' uncopied' same full => ?_, fun _ _ => rfl⟩
    rw [← same.1] at full
    exact absurd full size
  · rw [result]
    refine ⟨fun _ buf' uncopied' same _ faults => absurd same.2.2.symm faults, fun _ failed => ?_⟩
    simp at failed
  · rw [result]
    dsimp only
    constructor
    · rintro clean buf' uncopied' ⟨rfl, -, rfl⟩ - -
      exact clean (by decide)
    · intro harmless _
      exact harmless buf uncopied ⟨rfl, rfl, rfl⟩ size faults

/-- A call fails clean exactly when its fault, if it has one, is harmless. -/
theorem failsClean_iff {e : HelloEvent} (taken : machine.Takes e) :
    FailsClean e ↔ FaultHarmless e := by
  rw [takes_iff] at taken
  obtain ⟨dev, op, answer, dev'⟩ := e
  dsimp only at taken
  cases op with
  | read count interrupted uncopied =>
      simp only [operate, Prod.mk.injEq] at taken
      obtain ⟨-, rfl⟩ := taken
      simp [FailsClean, FaultHarmless]
  | valShow interrupted =>
      simp only [operate, Prod.mk.injEq] at taken
      obtain ⟨-, rfl⟩ := taken
      simp [FailsClean, FaultHarmless]
  | valStore text interrupted =>
      simp only [operate, helloValStore, helloSetVal, Prod.mk.injEq] at taken
      obtain ⟨rfl, rfl⟩ := taken
      have counted := text.length_pos
      cases interrupted with
      | true => simp [FailsClean, FaultHarmless]
      | false => simp [FailsClean, FaultHarmless, text.nonempty]
  | write buf interrupted uncopied => exact failsClean_write taken

/-- What a successful read or show delivers is the register. -/
theorem reports_register {e : HelloEvent} (taken : machine.Takes e) {before : List HelloEvent}
    (current : e.source.val = lastSupplied before) : ReportsLast before e := by
  rw [takes_iff] at taken
  obtain ⟨dev, op, answer, dev'⟩ := e
  dsimp only at taken current
  unfold ReportsLast
  dsimp only
  rw [← current]
  cases op with
  | read count interrupted uncopied =>
      simp only [operate, helloRead, Prod.mk.injEq] at taken
      obtain ⟨rfl, -⟩ := taken
      dsimp only
      split_ifs <;> simp [erestartsys, efault, sizeofInt]
  | valShow interrupted =>
      simp only [operate, helloValShow, helloGetVal, Prod.mk.injEq] at taken
      obtain ⟨rfl, -⟩ := taken
      cases interrupted <;> simp [erestartsys]
  | write buf interrupted uncopied => trivial
  | valStore text interrupted => trivial

theorem target_val_write {dev : HelloDev} {buf : List UInt8} {interrupted : Bool}
    {uncopied : Nat} {answer : Answer} {dev' : HelloDev}
    (taken : operate dev (.write buf interrupted uncopied) = (answer, dev'))
    (harmless : FaultHarmless ⟨dev, .write buf interrupted uncopied, answer, dev'⟩) :
    dev'.val =
      (supplied ⟨dev, .write buf interrupted uncopied, answer, dev'⟩).getD dev.val := by
  have returned : answer.ret = (helloWrite dev.val buf interrupted uncopied).1 := by
    rw [← (Prod.mk.inj taken).1]
  have left : dev'.val = (helloWrite dev.val buf interrupted uncopied).2 := by
    rw [← (Prod.mk.inj taken).2]
  unfold supplied
  dsimp only
  rw [returned, left]
  rcases helloWrite_cases dev.val buf interrupted uncopied with
    ⟨-, result⟩ | ⟨-, result⟩ | ⟨-, result⟩ | ⟨rfl, size, faults, result⟩
  · rw [result]
    simp [erestartsys, sizeofInt]
  · rw [result]
    simp [sizeofInt]
  · rw [result]
    simp [sizeofInt]
  · have zeroed := harmless buf uncopied rfl size faults
    rw [result]
    simp [zeroed, efault, sizeofInt]

/-- A call supplies the value it leaves, or leaves the register alone, when its
fault is harmless. -/
theorem target_val {e : HelloEvent} (taken : machine.Takes e) (harmless : FaultHarmless e) :
    e.target.val = (supplied e).getD e.source.val := by
  rw [takes_iff] at taken
  obtain ⟨dev, op, answer, dev'⟩ := e
  dsimp only at taken
  cases op with
  | read count interrupted uncopied =>
      simp only [operate, Prod.mk.injEq] at taken
      obtain ⟨-, rfl⟩ := taken
      rfl
  | valShow interrupted =>
      simp only [operate, Prod.mk.injEq] at taken
      obtain ⟨-, rfl⟩ := taken
      rfl
  | valStore text interrupted =>
      simp only [operate, helloValStore, helloSetVal, Prod.mk.injEq] at taken
      obtain ⟨rfl, rfl⟩ := taken
      simp only [supplied]
      cases interrupted with
      | true =>
          have refused : ¬ (-erestartsys = (text.bytes.length : Int)) := by
            simp only [erestartsys]
            omega
          simp [refused]
      | false => simp
  | write buf interrupted uncopied => exact target_val_write taken harmless

/-- **hello as a linearizable register.**  In every run of critical sections, with
any outcome of the user copies: successful reads and shows report the value most
recently supplied and failing calls change nothing, exactly when no `hello_write`
faults in a way that changes the register. -/
theorem hello_register_iff {es : List HelloEvent} {u : HelloDev}
    (path : machine.Path HelloDev.setup es u) :
    (∀ before e after, es = before ++ e :: after → ReportsLast before e ∧ FailsClean e) ↔
      ∀ e ∈ es, FaultHarmless e := by
  constructor
  · intro register e member
    obtain ⟨before, after, here⟩ := List.append_of_mem member
    exact (failsClean_iff (path.takes e member)).1 (register before e after here).2
  · rintro harmless before e after rfl
    obtain ⟨front, taken, -⟩ := path.split
    -- the register is the value last supplied, as long as faults are harmless
    have current : e.source.val = lastSupplied before := by
      refine front.history (C := FaultHarmless) (J := fun es dev => dev.val = lastSupplied es)
        rfl ?_ (fun d member => harmless d (by simp [member]))
      intro es d _ step here before
      rw [target_val step here, before, lastSupplied_concat]
    exact ⟨reports_register taken current, (failsClean_iff taken).2 (harmless e (by simp))⟩

/-- A write of 5, then a second write whose first byte already faults. -/
def writeThenFault : List Op := [.write [5, 0, 0, 0] false 0, .write [7, 0, 0, 0] false 4]

theorem hello_register_iff_writeThenFault :
    (∀ before e after,
        machine.trace HelloDev.setup writeThenFault = before ++ e :: after →
          ReportsLast before e ∧ FailsClean e) ↔
      ∀ e ∈ machine.trace HelloDev.setup writeThenFault, FaultHarmless e :=
  hello_register_iff (Machine.path_trace _ _ _)

/-- The second write answers `-EFAULT` and has zeroed the register. -/
theorem failed_write_clobbers :
    ∃ (es before after : List HelloEvent) (e : HelloEvent) (u : HelloDev),
      machine.Path HelloDev.setup es u ∧ es = before ++ e :: after ∧
        e.out.ret = -efault ∧ e.source.val = 5 ∧ e.target.val = 0 ∧ ¬ FailsClean e := by
  let es := machine.trace HelloDev.setup writeThenFault
  refine ⟨es, es.take 1, [], es[1], _, Machine.path_trace _ _ writeThenFault, rfl,
    by decide,
    by decide, by decide, ?_⟩
  intro clean
  exact absurd (clean (by decide)) (by decide)

end LearningKernel.HelloDev
