/-
# Led.Writes -- texts written to the register-level LED drivers

`led_write` of `02_led`, `03_newchrled`, `04_dtsled` and `17_platform` copies what
the user wrote into a buffer on its stack, without comparing the sizes and without
a terminator, and hands it to `led_switch`.  Here the buffer is an array with its
bounds: `write` says what a call writes to the registers and returns, or how it
leaves the buffer.

* `determined_iff`: the bytes alone decide exactly if one of them is no digit;
  `serve_execute`: calls with such texts are the runs of `Led.Registers`;
* `within_iff`: the buffer is not left exactly if the bytes fit and it holds, with
  what was there before, something that is no digit;
* `write_faulted`: a copy that faults is never reported, and the LED is switched by
  the bytes before the fault.
-/
import LearningKernel.Led.Registers
import LearningKernel.Theory.CInt
import LearningKernel.Theory.Memory
import LearningKernel.Theory.Scan

namespace LearningKernel.Led

open LearningKernel.Theory LearningKernel.Theory.CInt LearningKernel.Theory.BitField
open LearningKernel.Kernel

set_option autoImplicit false

/-! ## `led_switch` on a buffer -/

/-- A `writel`: the register and the value. -/
abbrev RegWrite := Reg × BitVec 32

/-- `simple_strtoul` on a buffer, nothing if it leaves the buffer. -/
def strtoulIn (sta : List UInt8) : Option Nat :=
  (scan digitValue (fun acc d => (acc * 10 + d) % 2 ^ 64) 0 sta).map (· % 2 ^ 32)

/-- What `led_switch` writes for a number. -/
def commands (number : Nat) (b : Board) : List RegWrite :=
  if number = ledOn then [(.gpioiBsrrPi, readl .gpioiBsrrPi b ||| 1#32 <<< 16)]
  else if number = ledOff then [(.gpioiBsrrPi, readl .gpioiBsrrPi b ||| 1#32 <<< 0)]
  else []

/-- `led_switch` on a buffer: a number that is not `LEDON` is parsed again. -/
def ledSwitchIn (sta : List UInt8) (b : Board) : Option (List RegWrite) :=
  (strtoulIn sta).bind fun number =>
    if number = ledOn then some (commands number b)
    else (strtoulIn sta).map fun number => commands number b

def perform (writes : List RegWrite) (b : Board) : Board :=
  writes.foldl (fun b w => writel w.2 w.1 b) b

/-- On the board, these writes are what `led_switch` does. -/
theorem perform_commands (sta : List UInt8) (b : Board) :
    perform (commands (strtoul sta) b) b = ledSwitch sta b := by
  unfold commands ledSwitch modify
  split
  · simp [perform, update, readl]
  · split
    · simp [perform, update, readl]
    · rfl

/-- A text that ends in the buffer has the number of the unbounded parser. -/
theorem scan_digits {acc : Nat} {s : List UInt8} (stops : Stops digitValue s) :
    scan digitValue (fun acc d => (acc * 10 + d) % 2 ^ 64) acc s = some (parseDigits acc s) := by
  induction s generalizing acc with
  | nil => simp [Stops] at stops
  | cons c cs ih =>
      simp only [scan, parseDigits]
      cases here : digitValue c with
      | none => rfl
      | some d => exact ih ((stops_cons.1 stops).resolve_left (by simp [here]))

theorem strtoulIn_eq {sta : List UInt8} (stops : Stops digitValue sta) :
    strtoulIn sta = some (strtoul sta) := by
  rw [strtoulIn, scan_digits stops]
  rfl

theorem ledSwitchIn_eq {sta : List UInt8} (stops : Stops digitValue sta) (b : Board) :
    ledSwitchIn sta b = some (commands (strtoul sta) b) := by
  simp only [ledSwitchIn, strtoulIn_eq stops, Option.bind_some, Option.map_some, ite_self]

theorem ledSwitchIn_eq_none {sta : List UInt8} (runs : ¬ Stops digitValue sta) (b : Board) :
    ledSwitchIn sta b = none := by
  rw [ledSwitchIn, strtoulIn, scan_eq_none_iff.2 runs]
  rfl

/-- What stands behind a byte that is no digit does not count. -/
theorem ledSwitchIn_append {sta : List UInt8} (stops : Stops digitValue sta) (rest : List UInt8)
    (b : Board) : ledSwitchIn (sta ++ rest) b = ledSwitchIn sta b := by
  simp only [ledSwitchIn, strtoulIn, scan_append stops]

/-- Nor does that byte. -/
theorem strtoul_append_cons {c : UInt8} (stop : digitValue c = none) (sta rest : List UInt8) :
    strtoul (sta ++ c :: rest) = strtoul sta := by
  have digits (acc : Nat) : parseDigits acc (sta ++ c :: rest) = parseDigits acc sta := by
    induction sta generalizing acc with
    | nil => simp [parseDigits, stop]
    | cons d ds ih =>
        simp only [List.cons_append, parseDigits]
        cases digitValue d with
        | none => rfl
        | some v => exact ih _
  rw [strtoul, strtoul, simpleStrtoul, simpleStrtoul, digits]

/-! ## `led_write` -/

/-- How a call leaves `databuf`. -/
inductive Overrun where
  /-- `copy_from_user` of more than it holds -/
  | copy
  /-- `simple_strtoul` behind its last byte -/
  | scan
  deriving DecidableEq

/-- What a call writes, and what it returns. -/
structure Written where
  writes : List RegWrite
  ret : Int
  deriving DecidableEq

/-- The four drivers. -/
inductive Driver where
  | led
  | newchrled
  | dtsled
  | leddriver
  deriving DecidableEq

/-- `sizeof(databuf)`. -/
def Driver.databufSize : Driver → Nat
  | led => 128
  | newchrled => 32
  | dtsled => 32
  | leddriver => 128

/-- `led_write`, of which only the size of `databuf` differs: `stack` is what it holds
before, and the last `uncopied` bytes of `buf` cannot be read. -/
def write (size : Nat) (buf : List UInt8) (uncopied : Nat) (stack : Memory size) (b : Board) :
    Except Overrun Written :=
  match stack.store? 0 (copyFromUser buf uncopied) with
  | none => .error .copy
  | some databuf =>
      let retvalue := signed 32 (min uncopied buf.length : Nat)
      if retvalue < 0 then .ok { writes := [], ret := -efault }
      else
        match ledSwitchIn (databuf.load 0 size) b with
        | none => .error .scan
        | some writes => .ok { writes := writes, ret := buf.length }

def Driver.ledWrite (driver : Driver) := write driver.databufSize

/-- What `databuf` holds after the copy. -/
def copied {size : Nat} (buf : List UInt8) (uncopied : Nat) (stack : Memory size) : List UInt8 :=
  copyFromUser buf uncopied ++ stack.load buf.length (size - buf.length)

theorem load_store_all {size : Nat} (m : Memory size) (bs : List UInt8) (fits : bs.length ≤ size) :
    (m.store 0 bs).load 0 size = bs ++ m.load bs.length (size - bs.length) := by
  have whole : size = bs.length + (size - bs.length) := (Nat.add_sub_cancel' fits).symm
  calc (m.store 0 bs).load 0 size
      = (m.store 0 bs).load 0 (bs.length + (size - bs.length)) := by rw [← whole]
    _ = (m.store 0 bs).load 0 bs.length ++ (m.store 0 bs).load (0 + bs.length) _ :=
        Memory.load_append _ _ _ _
    _ = bs ++ m.load bs.length (size - bs.length) := by
        rw [Memory.load_store m 0 bs (by omega), Nat.zero_add]
        congr 1
        apply List.map_congr_left
        intro k _
        exact Memory.get_store_outside m 0 bs (Or.inr (by omega))

theorem write_overflow {size : Nat} {buf : List UInt8} (long : size < buf.length) (uncopied : Nat)
    (stack : Memory size) (b : Board) : write size buf uncopied stack b = .error .copy := by
  have refused : ¬ Memory.InRange size 0 (copyFromUser buf uncopied).length := by
    rw [length_copyFromUser, Memory.InRange]
    omega
  rw [write, Memory.store?, if_neg refused]

/-- The error test never holds: what it tests is no larger than the buffer. -/
theorem retvalue_nonneg {size : Nat} {buf : List UInt8} (fits : buf.length ≤ size)
    (small : size < 2 ^ 31) (uncopied : Nat) :
    ¬ signed 32 (min uncopied buf.length : Nat) < 0 := by
  rw [signed_eq_self (by omega) (by omega)]
  omega

theorem write_eq {size : Nat} {buf : List UInt8} (fits : buf.length ≤ size)
    (small : size < 2 ^ 31) (uncopied : Nat) (stack : Memory size) (b : Board) :
    write size buf uncopied stack b =
      match ledSwitchIn (copied buf uncopied stack) b with
      | none => .error .scan
      | some writes => .ok { writes := writes, ret := buf.length } := by
  have accepted : Memory.InRange size 0 (copyFromUser buf uncopied).length := by
    rw [length_copyFromUser, Memory.InRange]
    omega
  have holds : (stack.store 0 (copyFromUser buf uncopied)).load 0 size =
      copied buf uncopied stack := by
    rw [load_store_all _ _ (by rwa [length_copyFromUser]), length_copyFromUser, copied]
  rw [write, Memory.store?, if_pos accepted]
  simp only [Int.toNat_zero, holds, if_neg (retvalue_nonneg fits small uncopied)]

/-- A call, and what it does to the board. -/
def serve (driver : Driver) (b : Board) (call : List UInt8 × Memory driver.databufSize) :
    Except Overrun Board :=
  (driver.ledWrite call.1 0 call.2 b).map fun w => perform w.writes b

theorem Driver.databufSize_small (driver : Driver) : driver.databufSize < 2 ^ 31 := by
  cases driver <;> decide

/-! ## What decides -/

/-- The bytes decide: whatever was on the stack, the call does what `led_switch` does
for the text of these bytes. -/
structure Determined (driver : Driver) (buf : List UInt8) (b : Board) : Prop where
  same : ∀ stack stack', driver.ledWrite buf 0 stack b = driver.ledWrite buf 0 stack' b
  text : ∀ stack, driver.ledWrite buf 0 stack b =
    .ok { writes := commands (strtoul buf) b, ret := buf.length }

/-- A call with a text that fits and ends, whatever was on the stack. -/
theorem ledWrite_eq (driver : Driver) {buf : List UInt8} (fits : buf.length ≤ driver.databufSize)
    (stops : Stops digitValue buf) (stack : Memory driver.databufSize) (b : Board) :
    driver.ledWrite buf 0 stack b =
      .ok { writes := commands (strtoul buf) b, ret := buf.length } := by
  rw [Driver.ledWrite, write_eq fits driver.databufSize_small, copied, copyFromUser_zero,
    ledSwitchIn_append stops, ledSwitchIn_eq stops]

/-- **Texts in turn.**  After an initialisation, calls with such texts execute the
texts. -/
theorem serve_execute (driver : Driver) (init : Board → Board)
    (calls : List (List UInt8 × Memory driver.databufSize))
    (ends : ∀ call ∈ calls, call.1.length ≤ driver.databufSize ∧ Stops digitValue call.1)
    (b : Board) :
    calls.foldlM (serve driver) (init b) = .ok (execute init (calls.map Prod.fst) b) := by
  unfold execute
  generalize init b = board
  induction calls generalizing board with
  | nil => rfl
  | cons call calls ih =>
      obtain ⟨fits, stops⟩ := ends call List.mem_cons_self
      have first : serve driver board call = .ok (ledSwitch call.1 board) := by
        rw [serve, ledWrite_eq driver fits stops, ← perform_commands]
        rfl
      rw [List.foldlM_cons, first]
      exact ih (fun call' later => ends call' (List.mem_cons_of_mem _ later)) _

/-- On a stack full of digits nothing ends a number. -/
theorem not_stops_digits {size : Nat} {buf : List UInt8} (runs : ¬ Stops digitValue buf)
    (fits : buf.length ≤ size) :
    ¬ Stops digitValue (copied buf 0 (⟨fun _ => 48⟩ : Memory size)) := by
  rw [copied, copyFromUser_zero, stops_append, not_or]
  refine ⟨runs, ?_⟩
  rintro ⟨c, among, stop⟩
  obtain ⟨k, inside, rfl⟩ := List.mem_map.1 among
  have bound : buf.length + k < size := by
    have below := List.mem_range.1 inside
    omega
  rw [Memory.get, dif_pos bound] at stop
  cases stop

/-- **The bytes decide** exactly if one of them is no digit. -/
theorem determined_iff (driver : Driver) {buf : List UInt8}
    (fits : buf.length ≤ driver.databufSize) (b : Board) :
    Determined driver buf b ↔ Stops digitValue buf := by
  constructor
  · intro determined
    by_contra runs
    have text := determined.text ⟨fun _ => 48⟩
    rw [Driver.ledWrite, write_eq fits driver.databufSize_small,
      ledSwitchIn_eq_none (not_stops_digits runs fits)] at text
    cases text
  · intro stops
    have text := fun stack => ledWrite_eq driver fits stops stack b
    refine ⟨?_, text⟩
    intro stack stack'
    rw [text, text]

/-- A `1` and a newline. -/
theorem determined_echo : Determined .led [49, 10] ⟨0, 0, 0, 0, 0, 0⟩ :=
  (determined_iff .led (by decide) _).2 (by decide)

/-- A `1` without one: with a stale `0` behind it, it is 10. -/
theorem stale_digit_counts :
    let b : Board := ⟨0, 0, 0, 0, 0, 0⟩
    let stale : Memory 32 := ⟨fun i => if i.val = 1 then 48 else 0⟩
    Driver.newchrled.ledWrite [49] 0 (Memory.zero 32) b = .ok ⟨commands ledOn b, 1⟩ ∧
      Driver.newchrled.ledWrite [49] 0 stale b = .ok ⟨[], 1⟩ ∧
      ¬ Determined .newchrled [49] b := by
  refine ⟨by decide +kernel, by decide +kernel, ?_⟩
  intro determined
  have same := determined.same (Memory.zero 32) ⟨fun i => if i.val = 1 then 48 else 0⟩
  revert same
  decide +kernel

/-! ## What stays in the buffer -/

/-- **The buffer is not left** exactly if the bytes fit and something in it, after the
copy, is no digit. -/
theorem within_iff (driver : Driver) (buf : List UInt8) (uncopied : Nat)
    (stack : Memory driver.databufSize) (b : Board) :
    (∀ overrun, driver.ledWrite buf uncopied stack b ≠ .error overrun) ↔
      buf.length ≤ driver.databufSize ∧ Stops digitValue (copied buf uncopied stack) := by
  by_cases fits : buf.length ≤ driver.databufSize
  · rw [Driver.ledWrite, write_eq fits driver.databufSize_small]
    by_cases stops : Stops digitValue (copied buf uncopied stack)
    · rw [ledSwitchIn_eq stops]
      simp [fits, stops]
    · rw [ledSwitchIn_eq_none stops]
      simp [stops]
  · rw [Driver.ledWrite, write_overflow (Nat.lt_of_not_le fits)]
    simp [fits]

/-- Too many bytes, and as many digits as fit. -/
theorem digits_leave_databuf :
    let b : Board := ⟨0, 0, 0, 0, 0, 0⟩
    129 ≤ maxRwCount ∧
      Driver.led.ledWrite (List.replicate 129 0) 0 (Memory.zero 128) b = .error .copy ∧
      Driver.newchrled.ledWrite (List.replicate 32 48) 0 (Memory.zero 32) b = .error .scan := by
  decide +kernel

/-! ## Copies that fault -/

/-- A negative error, and nothing written. -/
def Refused (result : Except Overrun Written) : Prop :=
  ∃ ret < 0, result = .ok { writes := [], ret := ret }

theorem copied_faulted {size : Nat} {buf : List UInt8} {uncopied : Nat} (faults : 0 < uncopied)
    (part : uncopied ≤ buf.length) (stack : Memory size) :
    ∃ rest, copied buf uncopied stack = buf.take (buf.length - uncopied) ++ 0 :: rest := by
  obtain ⟨more, rfl⟩ : ∃ more, uncopied = more + 1 := ⟨uncopied - 1, by omega⟩
  rw [copied, copyFromUser, Nat.min_eq_left part, List.replicate_succ, List.append_assoc,
    List.cons_append]
  exact ⟨_, rfl⟩

/-- **A fault is not reported.**  Where not all bytes can be copied, the call still
answers with their number, and switches the LED by the bytes before the fault. -/
theorem write_faulted (driver : Driver) {buf : List UInt8}
    (fits : buf.length ≤ driver.databufSize) {uncopied : Nat} (faults : 0 < uncopied)
    (part : uncopied ≤ buf.length) (stack : Memory driver.databufSize) (b : Board) :
    ¬ Refused (driver.ledWrite buf uncopied stack b) ∧
      driver.ledWrite buf uncopied stack b =
        .ok { writes := commands (strtoul (buf.take (buf.length - uncopied))) b
              ret := buf.length } := by
  have call : driver.ledWrite buf uncopied stack b =
      .ok { writes := commands (strtoul (buf.take (buf.length - uncopied))) b
            ret := buf.length } := by
    rw [Driver.ledWrite, write_eq fits driver.databufSize_small]
    -- the first byte that was not copied is 0, and ends the number
    obtain ⟨rest, zero⟩ := copied_faulted faults part stack
    have stops : Stops digitValue (copied buf uncopied stack) := by
      rw [zero]
      exact ⟨0, by simp, by decide⟩
    rw [ledSwitchIn_eq stops, zero, strtoul_append_cons (by decide)]
  refine ⟨?_, call⟩
  rintro ⟨ret, negative, same⟩
  rw [call] at same
  have positive := congrArg Written.ret (Except.ok.inj same)
  dsimp only at positive
  omega

/-- The user wrote a `1`, at an address that cannot be read: the LED is switched off. -/
theorem unreadable_switches_off :
    let b : Board := ⟨0, 0, 0, 0, 0, 0⟩
    let result := Driver.led.ledWrite [49] 1 (Memory.zero 128) b
    result = .ok ⟨commands ledOff b, 1⟩ ∧ ¬ Refused result := by
  have switched : Driver.led.ledWrite [49] 1 (Memory.zero 128) ⟨0, 0, 0, 0, 0, 0⟩ =
      .ok ⟨commands ledOff ⟨0, 0, 0, 0, 0, 0⟩, 1⟩ := by decide +kernel
  refine ⟨switched, ?_⟩
  rintro ⟨ret, -, same⟩
  rw [switched] at same
  cases same

/-- Of `10` only the `1` can be read: the LED is switched on. -/
theorem write_faulted_half :
    ¬ Refused (Driver.led.ledWrite [49, 48] 1 (Memory.zero 128) ⟨0, 0, 0, 0, 0, 0⟩) ∧
      Driver.led.ledWrite [49, 48] 1 (Memory.zero 128) ⟨0, 0, 0, 0, 0, 0⟩ =
        .ok { writes := commands (strtoul (([49, 48] : List UInt8).take (2 - 1))) ⟨0, 0, 0, 0, 0, 0⟩
              ret := (2 : Nat) } :=
  write_faulted .led (by decide) (by decide) (by decide) (Memory.zero 128) _

end LearningKernel.Led
