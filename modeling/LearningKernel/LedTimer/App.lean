/-
# LedTimer.App -- what timerApp makes of what is typed

`timerApp` reads a number and calls `ioctl`; for 3 it reads a period too.  `cmd` is overwritten by
the number of the `ioctl`, so that where no number can be read the call before is made again.

`app_obeys`: the lines typed reach `timer_unlocked_ioctl` as the commands they stand for, up to the
line that ends the application.  A line that begins with no number repeats the command before it,
once for each 99 characters that `fgets` takes (`Junk.of_line`), or stands for the period before it;
a blank line does nothing.  At the end of its input the application does not leave, and repeats
the last command for ever.
-/
import LearningKernel.Kernel.Stdio
import LearningKernel.LedTimer.Sessions

namespace LearningKernel.LedTimer.App

open LearningKernel.Theory LearningKernel.Kernel
open LearningKernel.LedTimer.Sessions (Cmd Period)

set_option autoImplicit false

abbrev Word := BitVec 32

/-- `_IO(0XEF, nr)`. -/
def io (nr : Word) : Word := 0xEF00 ||| nr

def closeCmd : Word := io 0x1
def openCmd : Word := io 0x2
def setperiodCmd : Word := io 0x3

/-- The switch of `timer_unlocked_ioctl`; any other number does nothing. -/
def command (cmd arg : Word) : Option Cmd :=
  if cmd = closeCmd then some .close
  else if cmd = openCmd then some .open
  else if cmd = setperiodCmd then some (.setPeriod arg)
  else none

/-! ## The application -/

/-- What is still to be read, and the variables `cmd` and `arg` of `main`. -/
structure Main where
  stdin : List UInt8
  cmd : Word
  arg : Word

/-- `scanf("%d", &old)`, and `fgets` if it reads no number. -/
def readInt (stdin : List UInt8) (old : Word) : Word × List UInt8 :=
  match scanInt stdin with
  | (some n, stdin) => (n, stdin)
  | (none, stdin) => (old, fgets 100 stdin)

/-- The loop of `main`: the `ioctl` that it calls, or `none` if it leaves. -/
def turn (app : Main) : Option ((Word × Word) × Main) :=
  let (cmd, stdin) := readInt app.stdin app.cmd
  if 4 = cmd then none
  else if cmd = 1 then some ((closeCmd, app.arg), { stdin, cmd := closeCmd, arg := app.arg })
  else if cmd = 2 then some ((openCmd, app.arg), { stdin, cmd := openCmd, arg := app.arg })
  else if cmd = 3 then
    let (arg, stdin) := readInt stdin app.arg
    some ((setperiodCmd, arg), { stdin, cmd := setperiodCmd, arg })
  else some ((cmd, app.arg), { stdin, cmd, arg := app.arg })

/-- The commands that so many turns give to the driver, and whether the application has left. -/
def run : Nat → Main → List (Option Cmd) × Bool
  | 0, _ => ([], false)
  | turns + 1, app =>
      match turn app with
      | none => ([], true)
      | some ((cmd, arg), app) =>
          let later := run turns app
          (command cmd arg :: later.1, later.2)

/-! ## What is typed -/

/-- A line that begins with no number, or as much of it as `fgets` takes: 99 characters behind the
spaces and the sign. -/
structure Junk where
  bytes : List UInt8
  whole : 10 ∉ bytes
  solid : ∃ c ∈ bytes, isSpace c = false
  begins : (scanInt bytes).1 = none
  fits : (afterSign bytes).length ≤ 99

/-- With the end of the line, if `fgets` takes that too. -/
def Junk.text (junk : Junk) : List UInt8 :=
  junk.bytes ++ if (afterSign junk.bytes).length = 99 then [] else [10]

/-- A number that `main` does not look for, and gives to `ioctl` as it is. -/
def Unknown (n : Word) : Prop := n ≠ 1 ∧ n ≠ 2 ∧ n ≠ 3 ∧ 4 ≠ n

theorem unknown_ioctls : Unknown closeCmd ∧ Unknown openCmd ∧ Unknown setperiodCmd := by
  unfold Unknown
  decide

inductive Line where
  | command (cmd : Cmd)
  | other (n : Word) (unknown : Unknown n)
  /-- `3` with a period that is no number -/
  | stale (text : Junk)
  | junk (text : Junk)
  | blank (spaces : List UInt8) (all : ∀ c ∈ spaces, isSpace c = true)

/-- The text of a command. -/
def typed : Cmd → List UInt8
  | .close => [49, 10]
  | .open => [50, 10]
  | .setPeriod p => [51, 10] ++ formatInt p.toInt ++ [10]

def Line.text : Line → List UInt8
  | command cmd => typed cmd
  | other n _ => formatInt n.toInt ++ [10]
  | stale text => [51, 10] ++ text.text
  | junk text => text.text
  | blank spaces _ => spaces ++ [10]

/-- `4`, which ends the application. -/
def quit : List UInt8 := [52, 10]

def textOf (lines : List Line) : List UInt8 := lines.flatMap Line.text

/-- The period typed last. -/
def periodAfter (arg : Word) : Cmd → Word
  | .setPeriod p => p
  | .close | .open => arg

/-- What the lines ask for, `last` being what the `ioctl` before them was and `arg` the period typed
last; `none` is an `ioctl` that does nothing. -/
def asked : Option Cmd → Word → List Line → List (Option Cmd)
  | _, _, [] => []
  | _, arg, .command cmd :: lines => some cmd :: asked (some cmd) (periodAfter arg cmd) lines
  | _, arg, .other n _ :: lines => command n arg :: asked (command n arg) arg lines
  | _, arg, .stale _ :: lines =>
      some (.setPeriod arg) :: asked (some (.setPeriod arg)) arg lines
  | last, arg, .junk _ :: lines => last :: asked last arg lines
  | last, arg, .blank _ _ :: lines => asked last arg lines

/-- A line that begins with no number begins with a piece that `fgets` takes, and is that piece if
it is not too long; what is left of it is read as a line of its own. -/
theorem Junk.of_line {line : List UInt8} (whole : 10 ∉ line) (solid : ∃ c ∈ line, isSpace c = false)
    (begins : (scanInt line).1 = none) :
    ∃ (junk : Junk) (rest : List UInt8), line ++ [10] = junk.text ++ rest ∧
      ((afterSign line).length < 99 → rest = []) := by
  by_cases fits : (afterSign line).length < 99
  · refine ⟨⟨line, whole, solid, begins, Nat.le_of_lt fits⟩, [], ?_, fun _ => rfl⟩
    rw [Junk.text, if_neg (Nat.ne_of_lt fits), List.append_nil]
  · obtain ⟨piece, cut, taken, solid', begins'⟩ :=
      exists_cut begins (n := 99) (by decide) (Nat.not_lt.1 fits)
    have size : (afterSign piece).length = 99 := by
      rw [taken, List.length_take]
      omega
    refine ⟨⟨piece, ?_, solid', begins', size.le⟩, (afterSign line).drop 99 ++ [10], ?_,
      fun short => absurd short fits⟩
    · intro among
      exact whole (cut ▸ List.mem_append_left _ among)
    · rw [Junk.text, if_pos size, List.append_nil, ← List.append_assoc, cut]

/-! ## One turn -/

/-- Only what is behind the spaces counts. -/
theorem readInt_congr {s t : List UInt8} (same : s.dropWhile isSpace = t.dropWhile isSpace)
    (old : Word) : readInt s old = readInt t old := by
  unfold readInt
  rw [scanInt_congr same]

theorem readInt_number (v : Word) {rest : List UInt8} (ends : Ends rest) (old : Word) :
    readInt (formatInt v.toInt ++ rest) old = (v, rest) := by
  rw [readInt, scanInt_formatInt v ends]

theorem ends_newline (rest : List UInt8) : Ends (10 :: rest) := by
  intro c first
  cases first
  rfl

/-- `fgets` takes what no number begins. -/
theorem readInt_junk (text : Junk) (rest : List UInt8) (old : Word) :
    readInt (text.text ++ rest) old = (old, rest) := by
  have inside : 10 ∉ afterSign text.bytes := fun among =>
    text.whole ((afterSign_suffix text.bytes).subset among)
  have fits := text.fits
  unfold readInt Junk.text
  rw [List.append_assoc]
  by_cases long : (afterSign text.bytes).length = 99
  · have none_ := scanInt_append (t := rest) text.solid text.begins fun empty => by
      rw [empty] at long
      cases long
    rw [if_pos long, List.nil_append, none_]
    exact congrArg (Prod.mk old) (fgets_cut rest inside (by omega))
  · have none_ := scanInt_append text.solid text.begins fun _ => ends_newline rest
    rw [if_neg long, List.cons_append, List.nil_append, none_]
    exact congrArg (Prod.mk old) (fgets_line rest inside (by omega))

/-- Where the application is between two lines: what is left of the line before is space, the
`ioctl` before was `last` and will be again without a number, and `arg` is the period. -/
structure Between (text : List UInt8) (last : Option Cmd) (arg : Word) (app : Main) : Prop where
  stdin : app.stdin.dropWhile isSpace = text.dropWhile isSpace
  last : command app.cmd app.arg = last
  arg : app.arg = arg
  given : Unknown app.cmd

/-- A turn gives the driver `cmd`, and the application is between two lines again. -/
def Gives (app : Main) (cmd : Option Cmd) (rest : List UInt8) (arg : Word) : Prop :=
  ∃ nr arg' app', turn app = some ((nr, arg'), app') ∧ command nr arg' = cmd ∧
    Between rest cmd arg app'

theorem gives_command {app : Main} {cmd : Cmd} {rest : List UInt8}
    (here : app.stdin.dropWhile isSpace = (typed cmd ++ rest).dropWhile isSpace) :
    Gives app (some cmd) rest (periodAfter app.arg cmd) := by
  cases cmd with
  | close =>
      have read : readInt app.stdin app.cmd = (1, 10 :: rest) :=
        (readInt_congr here app.cmd).trans (readInt_number 1 (ends_newline rest) app.cmd)
      refine ⟨closeCmd, app.arg, { stdin := 10 :: rest, cmd := closeCmd, arg := app.arg }, ?_, rfl,
        rfl, rfl, rfl, unknown_ioctls.1⟩
      rw [turn, read]
      rfl
  | «open» =>
      have read : readInt app.stdin app.cmd = (2, 10 :: rest) :=
        (readInt_congr here app.cmd).trans (readInt_number 2 (ends_newline rest) app.cmd)
      refine ⟨openCmd, app.arg, { stdin := 10 :: rest, cmd := openCmd, arg := app.arg }, ?_, rfl,
        rfl, rfl, rfl, unknown_ioctls.2.1⟩
      rw [turn, read]
      rfl
  | setPeriod p =>
      have text : typed (.setPeriod p) ++ rest =
          formatInt (3 : Word).toInt ++ 10 :: (formatInt p.toInt ++ 10 :: rest) := by
        show [51, 10] ++ formatInt p.toInt ++ [10] ++ rest =
          [51] ++ 10 :: (formatInt p.toInt ++ 10 :: rest)
        simp
      have read : readInt app.stdin app.cmd = (3, 10 :: (formatInt p.toInt ++ 10 :: rest)) := by
        rw [text] at here
        exact (readInt_congr here app.cmd).trans
          (readInt_number 3 (ends_newline (formatInt p.toInt ++ 10 :: rest)) app.cmd)
      have period : readInt (10 :: (formatInt p.toInt ++ 10 :: rest)) app.arg = (p, 10 :: rest) :=
        (readInt_congr rfl app.arg).trans (readInt_number p (ends_newline rest) app.arg)
      refine ⟨setperiodCmd, p, { stdin := 10 :: rest, cmd := setperiodCmd, arg := p }, ?_, rfl, rfl,
        rfl, rfl, unknown_ioctls.2.2⟩
      rw [turn, read]
      simp only [period]
      rfl

/-- `3`, and a line that begins with no number: the period stays. -/
theorem gives_stale {app : Main} {text : Junk} {rest : List UInt8}
    (here : app.stdin.dropWhile isSpace = ([51, 10] ++ text.text ++ rest).dropWhile isSpace) :
    Gives app (some (.setPeriod app.arg)) rest app.arg := by
  have read : readInt app.stdin app.cmd = (3, 10 :: (text.text ++ rest)) :=
    (readInt_congr here app.cmd).trans (readInt_number 3 (ends_newline (text.text ++ rest)) app.cmd)
  have period : readInt (10 :: (text.text ++ rest)) app.arg = (app.arg, rest) :=
    (readInt_congr rfl app.arg).trans (readInt_junk text rest app.arg)
  refine ⟨setperiodCmd, app.arg, { stdin := rest, cmd := setperiodCmd, arg := app.arg }, ?_, rfl,
    rfl, rfl, rfl, unknown_ioctls.2.2⟩
  rw [turn, read]
  simp only [period]
  rfl

/-- Any other number is given to `ioctl` as it is. -/
theorem turn_number {app : Main} {n : Word} {left : List UInt8}
    (unknown : Unknown n) (read : readInt app.stdin app.cmd = (n, left)) :
    turn app = some ((n, app.arg), { stdin := left, cmd := n, arg := app.arg }) := by
  obtain ⟨one, two, three, four⟩ := unknown
  rw [turn, read]
  simp only [if_neg four, if_neg one, if_neg two, if_neg three]

theorem gives_other {app : Main} {n : Word} (unknown : Unknown n)
    {rest : List UInt8}
    (here : app.stdin.dropWhile isSpace = (formatInt n.toInt ++ 10 :: rest).dropWhile isSpace) :
    Gives app (command n app.arg) rest app.arg := by
  have read : readInt app.stdin app.cmd = (n, 10 :: rest) :=
    (readInt_congr here app.cmd).trans (readInt_number n (ends_newline rest) app.cmd)
  exact ⟨n, app.arg, _, turn_number unknown read, rfl, rfl, rfl, rfl, unknown⟩

/-- Where no number is read, the `ioctl` before is made again. -/
theorem Between.again {text left : List UInt8} {last : Option Cmd} {arg : Word} {app : Main}
    (between : Between text last arg app) (read : readInt app.stdin app.cmd = (app.cmd, left)) :
    Gives app last left arg :=
  ⟨app.cmd, app.arg, _, turn_number between.given read, between.last, rfl, between.last,
    between.arg, between.given⟩

theorem turn_quit {app : Main} {rest : List UInt8}
    (here : app.stdin.dropWhile isSpace = (quit ++ rest).dropWhile isSpace) : turn app = none := by
  have read : readInt app.stdin app.cmd = (4, 10 :: rest) :=
    (readInt_congr here app.cmd).trans (readInt_number 4 (ends_newline rest) app.cmd)
  rw [turn, read]
  rfl

/-! ## The lines typed -/

/-- So many turns give the driver these commands, and leave `rest` to be read. -/
def Passes (app : Main) (given : List (Option Cmd)) (last : Option Cmd) (rest : List UInt8) :
    Prop :=
  ∃ app' arg, Between rest (given.getLastD last) arg app' ∧ ∀ turns,
    run (given.length + turns) app = (given ++ (run turns app').1, (run turns app').2)

theorem Gives.passes {app : Main} {cmd last : Option Cmd} {arg : Word} {text rest : List UInt8}
    {given : List (Option Cmd)} (gives : Gives app cmd text arg)
    (later : ∀ {app'}, Between text cmd arg app' → Passes app' given cmd rest) :
    Passes app (cmd :: given) last rest := by
  obtain ⟨nr, arg', app', turned, known, between⟩ := gives
  obtain ⟨final, arg'', after, runs⟩ := later between
  refine ⟨final, arg'', ?_, ?_⟩
  · rw [List.getLastD_cons]
    exact after
  · intro turns
    have more : (cmd :: given).length + turns = (given.length + turns) + 1 := by
      rw [List.length_cons]
      omega
    rw [more, run, turned]
    simp only [known, runs, List.cons_append]

theorem Between.passes {lines : List Line} {rest : List UInt8} {last : Option Cmd} {arg : Word}
    {app : Main} (between : Between (textOf lines ++ rest) last arg app) :
    Passes app (asked last arg lines) last rest := by
  induction lines generalizing last arg app with
  | nil =>
      refine ⟨app, arg, between, ?_⟩
      intro turns
      rw [asked, List.length_nil, Nat.zero_add]
      rfl
  | cons line lines ih =>
      have here : app.stdin.dropWhile isSpace =
          (line.text ++ (textOf lines ++ rest)).dropWhile isSpace := by
        rw [between.stdin, textOf, List.flatMap_cons, List.append_assoc]
        rfl
      obtain rfl := between.arg
      cases line with
      | command cmd => exact (gives_command here).passes ih
      | other n unknown =>
          rw [Line.text, List.append_assoc] at here
          exact (gives_other unknown here).passes ih
      | stale text => exact (gives_stale here).passes ih
      | junk text =>
          have read : readInt app.stdin app.cmd = (app.cmd, textOf lines ++ rest) :=
            (readInt_congr here app.cmd).trans (readInt_junk text _ app.cmd)
          exact (between.again read).passes ih
      | blank spaces all =>
          rw [Line.text, List.append_assoc, List.dropWhile_append_of_pos all] at here
          exact ih ⟨here, between.last, rfl, between.given⟩

/-- Where the text has come to its end, the last `ioctl` is made over and over. -/
theorem Between.repeats {last : Option Cmd} {arg : Word} {app : Main}
    (between : Between [] last arg app) (turns : Nat) :
    run turns app = (List.replicate turns last, false) := by
  induction turns generalizing app with
  | zero => rfl
  | succ turns ih =>
      have read : readInt app.stdin app.cmd = (app.cmd, []) :=
        (readInt_congr between.stdin app.cmd).trans rfl
      obtain ⟨nr, arg', app', turned, known, next⟩ := between.again read
      rw [run, turned]
      simp only [known, ih next, List.replicate_succ]

/-- What is given for the lines from the first command on. -/
def given (first : Cmd) (arg : Word) (lines : List Line) : List (Option Cmd) :=
  some first :: asked (some first) (periodAfter arg first) lines

theorem passes_lines (first : Cmd) (lines : List Line) (rest : List UInt8) (cmd arg : Word) :
    Passes { stdin := textOf (.command first :: lines) ++ rest, cmd, arg } (given first arg lines)
      none rest := by
  let app : Main := { stdin := textOf (.command first :: lines) ++ rest, cmd, arg }
  have here : app.stdin.dropWhile isSpace =
      (typed first ++ (textOf lines ++ rest)).dropWhile isSpace := by
    simp [app, textOf, Line.text]
  exact (gives_command here).passes Between.passes

/-- **The application obeys its lines.**  From the first command on, those typed are those that the
driver is given, a line that begins with no number repeats the one before it, and the line that
ends the application ends it, whatever follows.  Without one it never leaves, and goes on to repeat
the last command.  What `cmd` held at first does not matter, nor does `arg` if a period is typed. -/
theorem app_obeys (first : Cmd) (lines : List Line) (cmd arg : Word) (turns : Nat) :
    (∀ rest, run ((given first arg lines).length + 1 + turns)
        { stdin := textOf (.command first :: lines) ++ (quit ++ rest), cmd, arg } =
      (given first arg lines, true)) ∧
    run ((given first arg lines).length + turns)
        { stdin := textOf (.command first :: lines), cmd, arg } =
      (given first arg lines ++ List.replicate turns ((given first arg lines).getLastD none),
        false) := by
  refine ⟨?_, ?_⟩
  · intro rest
    obtain ⟨app, arg', after, later⟩ := passes_lines first lines (quit ++ rest) cmd arg
    have finished : run (1 + turns) app = ([], true) := by
      rw [Nat.add_comm, run, turn_quit after.stdin]
    rw [Nat.add_assoc, later, finished, List.append_nil]
  · obtain ⟨app, arg', after, later⟩ := passes_lines first lines [] cmd arg
    rw [List.append_nil] at later
    rw [later, after.repeats]

/-- `2`, a blank line, `-x`, and `3` with the period `7`. -/
example :
    run 4 { stdin := [50, 10, 10, 45, 120, 10, 51, 10, 55, 10], cmd := 0, arg := 0 } =
      ([some .open, some .open, some (.setPeriod 7), some (.setPeriod 7)], false) := by decide

end LearningKernel.LedTimer.App
