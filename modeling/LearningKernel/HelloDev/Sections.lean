/-
# HelloDev.Sections -- the operations of hello, byte by byte

`HelloDev.Register` has each operation as one step.  Here any number of clients are in the driver
at once: `copy_to_user` and `copy_from_user` move single bytes of the live register, each test,
load and store is its own step, and `down_interruptible` lets one of those who wait in, or
refuses it.

`hello_linearizes`: every such run is, call by call, a run of the register, and each call
returns what the register answered at one moment since it was called.
-/
import LearningKernel.HelloDev.Register
import LearningKernel.Theory.Guarded

namespace LearningKernel.HelloDev

open LearningKernel.Theory LearningKernel.Theory.Guarded LearningKernel.Kernel

set_option autoImplicit false
set_option linter.dupNamespace false

/-! ## The sections -/

/-- A call, whatever `down_interruptible` will say. -/
inductive Request where
  | read (count uncopied : Nat)
  | write (buf : List UInt8) (uncopied : Nat)
  | valShow
  | valStore (text : SysfsText)

/-- The operation it is. -/
def Request.op (interrupted : Bool) : Request → Op
  | read count uncopied => .read count interrupted uncopied
  | write buf uncopied => .write buf interrupted uncopied
  | valShow => .valShow interrupted
  | valStore text => .valStore text interrupted

/-- Where a call is that holds the semaphore. -/
inductive Place where
  /-- `hello_read` before its test -/
  | readTest (count uncopied : Nat)
  /-- in `copy_to_user`, which has copied this -/
  | copyTo (uncopied : Nat) (data : List UInt8)
  /-- `hello_write` before its test -/
  | writeTest (buf : List UInt8) (uncopied : Nat)
  /-- in `copy_from_user`, before this byte -/
  | copyFrom (buf : List UInt8) (uncopied i : Nat)
  /-- `__hello_get_val` before and after its load -/
  | load
  | loaded (val : Int)
  /-- `__hello_set_val` before its store -/
  | store (val : Int) (count : Nat)
  /-- before `up` -/
  | out (answer : Answer)

/-- Behind `down_interruptible`; `__hello_set_val` has parsed its text before. -/
def enter : Request → Place
  | .read count uncopied => .readTest count uncopied
  | .write buf uncopied => .writeTest buf uncopied
  | .valShow => .load
  | .valStore text => .store (parsedInt text.bytes) text.bytes.length

/-- One byte of the register. -/
def HelloDev.setByte (dev : HelloDev) (i : Nat) (b : UInt8) : HelloDev :=
  ⟨intOfBytes ((bytesOfInt dev.val).set i b)⟩

/-- The byte that `copy_from_user` stores: after a fault it clears the rest. -/
def byteFrom (buf : List UInt8) (uncopied i : Nat) : UInt8 :=
  if i < buf.length - uncopied then buf[i]?.getD 0 else 0

def next : Place → HelloDev → (Place × HelloDev) ⊕ Answer
  | .readTest count uncopied, dev =>
      .inl (if count < sizeofInt then .out ⟨0, []⟩ else .copyTo uncopied [], dev)
  | .copyTo uncopied data, dev =>
      if data.length < sizeofInt - uncopied then
        .inl (.copyTo uncopied (data ++ [(bytesOfInt dev.val)[data.length]?.getD 0]), dev)
      else .inl (.out ⟨if min uncopied sizeofInt ≠ 0 then -efault else sizeofInt, data⟩, dev)
  | .writeTest buf uncopied, dev =>
      .inl (if buf.length ≠ sizeofInt then .out ⟨0, []⟩ else .copyFrom buf uncopied 0, dev)
  | .copyFrom buf uncopied i, dev =>
      if i < buf.length then
        .inl (.copyFrom buf uncopied (i + 1), dev.setByte i (byteFrom buf uncopied i))
      else .inl (.out ⟨if min uncopied buf.length ≠ 0 then -efault else sizeofInt, []⟩, dev)
  | .load, dev => .inl (.loaded dev.val, dev)
  | .loaded val, _ =>
      let text := formatInt val ++ [10]
      .inr ⟨text.length, text⟩
  | .store val count, _ => .inl (.out ⟨count, []⟩, ⟨val⟩)
  | .out answer, _ => .inr answer

/-- How many steps it is to `up`. -/
def Place.left : Place → Nat
  | readTest _ _ => sizeofInt + 3
  | copyTo _ data => sizeofInt - data.length + 2
  | writeTest buf _ => buf.length + 3
  | copyFrom buf _ i => buf.length - i + 2
  | load | store _ _ => 2
  | loaded _ | out _ => 1

theorem left_lt {p q : Place} {dev dev' : HelloDev} (here : next p dev = .inl (q, dev')) :
    q.left < p.left := by
  cases p with
  | readTest count uncopied =>
      cases here
      split <;> simp [Place.left]
  | copyTo uncopied data =>
      simp only [next] at here
      split at here
      · cases here
        simp only [Place.left, List.length_append, List.length_singleton]
        omega
      · cases here
        simp only [Place.left]
        omega
  | writeTest buf uncopied =>
      cases here
      split <;> simp [Place.left]
  | copyFrom buf uncopied i =>
      simp only [next] at here
      split at here
      · cases here
        simp only [Place.left]
        omega
      · cases here
        simp only [Place.left]
        omega
  | load | store val count =>
      cases here
      simp [Place.left]
  | loaded val | out answer => cases here

/-- `dev->sem` and what is done under it. -/
def hello : Guarded HelloDev Request Place Answer where
  enter := enter
  next := next
  left := Place.left
  left_lt := left_lt
  refused := some ⟨-erestartsys, []⟩

/-! ## Each section alone -/

theorem finish_out (answer : Answer) (dev : HelloDev) :
    hello.finish (.out answer) dev = (answer, dev) := hello.finish_inr rfl

theorem length_bytesOfInt (v : Int) : (bytesOfInt v).length = sizeofInt := length_toLE _ _

/-- The loop of `copy_to_user`: byte by byte, the bytes that it is to copy. -/
theorem finish_copyTo (dev : HelloDev) (uncopied : Nat) {data : List UInt8}
    (within : data.length ≤ sizeofInt - uncopied) :
    hello.finish (.copyTo uncopied data) dev =
      (⟨if min uncopied sizeofInt ≠ 0 then -efault else sizeofInt,
        data ++ (copyToUser (bytesOfInt dev.val) uncopied).drop data.length⟩, dev) := by
  have length : (copyToUser (bytesOfInt dev.val) uncopied).length = sizeofInt - uncopied := by
    rw [copyToUser, List.length_take, length_bytesOfInt]
    omega
  induction rest : sizeofInt - uncopied - data.length generalizing data with
  | zero =>
      have done : ¬ data.length < sizeofInt - uncopied := by omega
      have here : hello.next (.copyTo uncopied data) dev = _ := if_neg done
      rw [hello.finish_inl here, finish_out, List.drop_of_length_le (by omega), List.append_nil]
  | succ n ih =>
      have more : data.length < sizeofInt - uncopied := by omega
      have here : hello.next (.copyTo uncopied data) dev = _ := if_pos more
      have taken : data.length < (copyToUser (bytesOfInt dev.val) uncopied).length := by omega
      have byte : (bytesOfInt dev.val)[data.length]?.getD 0 =
          (copyToUser (bytesOfInt dev.val) uncopied)[data.length] := by
        rw [List.getElem?_eq_getElem (by rw [length_bytesOfInt]; omega), Option.getD_some]
        exact List.getElem_take.symm
      rw [hello.finish_inl here, ih (by rw [List.length_append, List.length_singleton]; omega)
          (by rw [List.length_append, List.length_singleton]; omega),
        List.length_append, List.length_singleton, List.append_assoc, byte, List.singleton_append,
        ← List.drop_eq_getElem_cons taken]

theorem byteFrom_eq {buf : List UInt8} {uncopied i : Nat}
    (stored : i < (copyFromUser buf uncopied).length) :
    (copyFromUser buf uncopied)[i] = byteFrom buf uncopied i := by
  have within : i < buf.length := by simpa using stored
  unfold byteFrom
  by_cases copied : i < buf.length - uncopied
  · rw [if_pos copied, List.getElem?_eq_getElem within, Option.getD_some]
    simp [copyFromUser, copied]
  · rw [if_neg copied]
    simp [copyFromUser, List.getElem_append, copied]

/-- With a byte stored, one less is still to be replaced. -/
theorem set_append_drop {bs copied : List UInt8} {i : Nat} (inside : i < bs.length)
    (stored : i < copied.length) :
    (bs.set i copied[i]).take (i + 1) ++ copied.drop (i + 1) = bs.take i ++ copied.drop i := by
  have here : i < (bs.set i copied[i]).length := by
    rw [List.length_set]
    exact inside
  rw [List.take_succ_eq_append_getElem here, List.take_set_of_le (le_refl i), List.getElem_set_self,
    List.append_assoc, List.singleton_append, ← List.drop_eq_getElem_cons stored]

/-- The loop of `copy_from_user`: from this byte on the register is replaced. -/
theorem finish_copyFrom {buf : List UInt8} (full : buf.length = sizeofInt) (uncopied : Nat)
    {i : Nat} (within : i < buf.length) (dev : HelloDev) :
    hello.finish (.copyFrom buf uncopied i) dev =
      (⟨if min uncopied buf.length ≠ 0 then -efault else sizeofInt, []⟩,
        ⟨intOfBytes ((bytesOfInt dev.val).take i ++ (copyFromUser buf uncopied).drop i)⟩) := by
  induction rest : buf.length - i generalizing i dev with
  | zero => omega
  | succ n ih =>
      have stored : i < (copyFromUser buf uncopied).length := by simpa using within
      have inside : i < (bytesOfInt dev.val).length := by
        rw [length_bytesOfInt]
        omega
      have here : hello.next (.copyFrom buf uncopied i) dev =
          .inl (.copyFrom buf uncopied (i + 1), dev.setByte i (copyFromUser buf uncopied)[i]) := by
        rw [byteFrom_eq stored]
        exact if_pos within
      have bytes : bytesOfInt (dev.setByte i (copyFromUser buf uncopied)[i]).val =
          (bytesOfInt dev.val).set i (copyFromUser buf uncopied)[i] :=
        bytesOfInt_intOfBytes (by rw [List.length_set, length_bytesOfInt])
      rw [hello.finish_inl here, ← set_append_drop inside stored]
      by_cases more : i + 1 < buf.length
      · rw [ih more _ (by omega), bytes]
      · have done : hello.next (.copyFrom buf uncopied (i + 1))
            (dev.setByte i (copyFromUser buf uncopied)[i]) = _ := if_neg more
        rw [hello.finish_inl done, finish_out, List.drop_of_length_le (by simp; omega),
          List.append_nil, List.take_of_length_le (by simp [length_bytesOfInt]; omega)]
        rfl

/-- **A section alone** is the operation that `HelloDev.Register` has. -/
theorem finish_enter (dev : HelloDev) (r : Request) :
    hello.finish (hello.enter r) dev = operate dev (r.op false) := by
  cases r with
  | read count uncopied =>
      have here : hello.next (.readTest count uncopied) dev =
        .inl (if count < sizeofInt then .out ⟨0, []⟩ else .copyTo uncopied [], dev) := rfl
      show hello.finish (.readTest count uncopied) dev = _
      rw [hello.finish_inl here]
      by_cases small : count < sizeofInt
      · rw [if_pos small, finish_out]
        simp [operate, Request.op, helloRead, small]
      · rw [if_neg small, finish_copyTo dev uncopied (Nat.zero_le _)]
        by_cases faults : min uncopied sizeofInt ≠ 0
        · simp [operate, Request.op, helloRead, small, faults]
        · obtain rfl : uncopied = 0 := by
            simp only [sizeofInt] at faults
            omega
          simp [operate, Request.op, helloRead, small, copyToUser]
  | write buf uncopied =>
      have here : hello.next (.writeTest buf uncopied) dev =
        .inl (if buf.length ≠ sizeofInt then .out ⟨0, []⟩ else .copyFrom buf uncopied 0, dev) := rfl
      show hello.finish (.writeTest buf uncopied) dev = _
      rw [hello.finish_inl here]
      by_cases full : buf.length = sizeofInt
      · have within : 0 < buf.length := by
          rw [full]
          decide
        rw [if_neg (not_not_intro full), finish_copyFrom full uncopied within, List.take_zero,
          List.drop_zero, List.nil_append]
        simp only [operate, Request.op, helloWrite, if_neg Bool.false_ne_true,
          if_neg (not_not_intro full)]
        by_cases faults : min uncopied buf.length ≠ 0
        · rw [if_pos faults, if_pos faults]
        · rw [if_neg faults, if_neg faults]
      · rw [if_pos full, finish_out]
        simp [operate, Request.op, helloWrite, full]
  | valShow =>
      have first : hello.next .load dev = .inl (.loaded dev.val, dev) := rfl
      have second : hello.next (.loaded dev.val) dev =
        .inr ⟨(formatInt dev.val ++ [10]).length, formatInt dev.val ++ [10]⟩ := rfl
      show hello.finish .load dev = _
      rw [hello.finish_inl first, hello.finish_inr second]
      rfl
  | valStore text =>
      have here : hello.next (.store (parsedInt text.bytes) text.bytes.length) dev =
        .inl (.out ⟨text.bytes.length, []⟩, ⟨parsedInt text.bytes⟩) := rfl
      show hello.finish (.store (parsedInt text.bytes) text.bytes.length) dev = _
      rw [hello.finish_inl here, finish_out]
      rfl

/-! ## The driver among its clients -/

abbrev SectionEvent (C : Type) := GuardedEvent HelloDev Request Place Answer C

/-- A step of the atomic object, as one of `HelloDev.Register`. -/
def helloEvent (d : Event HelloDev (Turn Request) Answer) : HelloEvent :=
  { source := d.source
    act :=
      match d.act with
      | .run r => r.op false
      | .refuse r => r.op true
    out := d.out
    target := d.target }

theorem operate_interrupted (dev : HelloDev) (r : Request) :
    operate dev (r.op true) = (⟨-erestartsys, []⟩, dev) := by
  cases r <;> rfl

theorem takes_helloEvent {d : Event HelloDev (Turn Request) Answer} (taken : hello.atomic.Takes d) :
    machine.Takes (helloEvent d) := by
  obtain ⟨dev, act, answer, dev'⟩ := d
  rw [takes_iff]
  cases act with
  | run r =>
      show operate dev (r.op false) = (answer, dev')
      rw [← finish_enter]
      exact Option.some.inj taken
  | refuse r =>
      show operate dev (r.op true) = (answer, dev')
      rw [operate_interrupted]
      exact Option.some.inj taken

/-- The step of the register that falls on this step. -/
def registerEvent? {C : Type} (e : SectionEvent C) : Option HelloEvent :=
  (hello.point? e).map fun p => helloEvent p.2

/-- **hello is linearizable.**  With the bytes of any number of operations interleaved as the
semaphore lets them be, with faults and refusals anywhere, the points of the calls are a run of the
register in which each operation is one step; each call has one of them between its beginning and
its return, and returns what the register answers there. -/
theorem hello_linearizes {C : Type} [DecidableEq C] {es : List (SectionEvent C)}
    {u : State HelloDev Request Place Answer C}
    (path : (hello.machine C).Path (.start .setup) es u) :
    machine.Path .setup (es.filterMap registerEvent?) (hello.settled u) ∧
    ∀ before e after c answer, es = before ++ e :: after → e.out = .returned c answer →
      ∃ d, Called hello c d.act.op [d] before ∧ d.out = answer := by
  refine ⟨?_, returned_point path⟩
  have points := (atomic_path path).project (N := machine) (π := id)
    (f := fun d => some (helloEvent d)) (fun d taken => Or.inr ⟨_, rfl, takes_helloEvent taken, rfl, rfl⟩)
  rw [List.filterMap_filterMap] at points
  have same : es.filterMap registerEvent? = es.filterMap fun e =>
      ((hello.point? e).map Prod.snd).bind fun d => some (helloEvent d) := by
    refine List.filterMap_congr fun e _ => ?_
    unfold registerEvent?
    cases hello.point? e <;> rfl
  rw [same]
  exact points

/-- A write that faults after two bytes, and a read that comes while it is copying. -/
def readDuringWrite : List (Act Request Bool) :=
  [.call true (.write [1, 2, 3, 4] 2), .lock true, .step true, .step true, .call false (.read 4 0)] ++
    List.replicate 5 (.step true) ++ .lock false :: List.replicate 7 (.step false) ++
    [.ret true, .ret false]

/-- The read gets all that the write has left. -/
example :
    let es := (hello.machine Bool).trace (.start .setup) readDuringWrite
    (es.filterMap fun e => match e.out with
      | .returned c answer => some (c, answer)
      | .silent => none) = [(true, ⟨-14, []⟩), (false, ⟨4, [1, 2, 0, 0]⟩)] := by decide

theorem hello_linearizes_readDuringWrite :
    let es := (hello.machine Bool).trace (.start .setup) readDuringWrite
    let u := (hello.machine Bool).final (.start .setup) readDuringWrite
    machine.Path .setup (es.filterMap registerEvent?) (hello.settled u) ∧
    ∀ before e after c answer, es = before ++ e :: after → e.out = .returned c answer →
      ∃ d, Called hello c d.act.op [d] before ∧ d.out = answer :=
  hello_linearizes (Machine.path_trace _ _ _)

end LearningKernel.HelloDev
