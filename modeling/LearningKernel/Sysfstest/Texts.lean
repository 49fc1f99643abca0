/-
# Sysfstest.Texts -- the text attribute of the sysfs test module

`system_name_store` prints into `lbuf` with the text that was written for the format and
no arguments for it; `system_name_show` prints `lbuf` up to its first NUL.

* `store_within_iff`: which texts are printed within `lbuf`, for what the conversions of
  the text find as arguments, and whatever they find;
* `text_returned_iff`: a text is returned as it was stored exactly if it has no `%` and
  leaves room for the terminator;
* `shows_latest`: in a run that stores such texts only, each is shown until the next.
-/
import LearningKernel.Kernel.Text
import LearningKernel.Theory.Format
import LearningKernel.Theory.Latest
import LearningKernel.Theory.Machine
import LearningKernel.Theory.Memory

namespace LearningKernel.Sysfstest

open LearningKernel.Theory LearningKernel.Theory.Format LearningKernel.Kernel

set_option autoImplicit false

/-! ## The attribute -/

/-- `sizeof(lbuf)`. -/
def sizeofLbuf : Nat := 256

/-- `system_name_store`: what it returns, and `lbuf`; none if it prints past the end of
`lbuf`.  `args` is what `sprintf` finds in the place of arguments. -/
def systemNameStore (args : Arguments) (lbuf : Memory sizeofLbuf) (buf : SysfsText) :
    Option (Int × Memory sizeofLbuf) :=
  let out := sprintf args (cString buf.bytes)
  (lbuf.store? 0 (out ++ [0])).map fun lbuf => (out.length, lbuf)

/-- `system_name_show`: what it returns and prints; none if it reads past the end of
`lbuf`. -/
def systemNameShow (lbuf : Memory sizeofLbuf) : Option (Int × List UInt8) :=
  let text := cString (lbuf.load 0 sizeofLbuf)
  if text.length < sizeofLbuf then some (text.length, text) else none

inductive Access where
  | systemNameStore (args : Arguments) (buf : SysfsText)
  | systemNameShow

/-- The observation is what is returned, and what is printed for the reader. -/
def access (lbuf : Memory sizeofLbuf) :
    Access → Option ((Int × List UInt8) × Memory sizeofLbuf)
  | .systemNameStore args buf =>
      (systemNameStore args lbuf buf).map fun (ret, lbuf) => ((ret, []), lbuf)
  | .systemNameShow => (systemNameShow lbuf).map fun shown => (shown, lbuf)

def chrdevNameAttr : Machine (Memory sizeofLbuf) Access (Int × List UInt8) := ⟨access⟩

/-! ## What is stored -/

theorem systemNameStore_eq (args : Arguments) (lbuf : Memory sizeofLbuf) (buf : SysfsText) :
    systemNameStore args lbuf buf =
      let out := sprintf args (cString buf.bytes)
      if out.length < sizeofLbuf then some ((out.length : Int), lbuf.store 0 (out ++ [0]))
      else none := by
  generalize printed : sprintf args (cString buf.bytes) = out
  have room : Memory.InRange sizeofLbuf 0 (out ++ [0]).length ↔ out.length < sizeofLbuf := by
    rw [Memory.InRange, List.length_append, List.length_singleton]
    omega
  simp only [systemNameStore, printed, Memory.store?, room]
  split <;> rfl

/-- What was printed is shown, up to its first NUL. -/
theorem systemNameShow_store (lbuf : Memory sizeofLbuf) {out : List UInt8}
    (fits : out.length < sizeofLbuf) :
    systemNameShow (lbuf.store 0 (out ++ [0])) =
      some (((cString out).length : Int), cString out) := by
  have whole : cString ((lbuf.store 0 (out ++ [0])).load 0 sizeofLbuf) = cString out := by
    have size : (out ++ [0]).length + (sizeofLbuf - (out.length + 1)) = sizeofLbuf := by
      rw [List.length_append, List.length_singleton]
      omega
    have back := Memory.load_store lbuf 0 (out ++ [0]) (by omega)
    generalize lbuf.store 0 (out ++ [0]) = stored at back ⊢
    have cut := Memory.load_append stored 0 (out ++ [0]).length (sizeofLbuf - (out.length + 1))
    rw [size, back, List.append_assoc, List.singleton_append] at cut
    rw [cut, cString_terminated]
  have short := length_cString_le out
  rw [systemNameShow, whole]
  exact if_pos (by omega)

/-! ## Within the buffer -/

/-- All bytes that a store prints, and the terminator, lie in `lbuf`. -/
def Within (args : Arguments) (lbuf : Memory sizeofLbuf) (buf : SysfsText) : Prop :=
  (systemNameStore args lbuf buf).isSome = true

theorem within_iff_length (args : Arguments) (lbuf : Memory sizeofLbuf) (buf : SysfsText) :
    Within args lbuf buf ↔ (sprintf args (cString buf.bytes)).length < sizeofLbuf := by
  rw [Within, systemNameStore_eq]
  dsimp only
  split
  · rename_i fits
    exact iff_of_true rfl fits
  · rename_i long
    exact iff_of_false nofun long

/-- **Which texts are printed within `lbuf`.**  With what its conversions print, a text has
to leave room for the terminator.  It does whatever they print exactly if it has none and
is short enough, and never if the fields it asks for are too wide. -/
theorem store_within_iff (buf : SysfsText) :
    let format := cString buf.bytes
    (∀ args lbuf, Within args lbuf buf ↔
        fixed format + found args 0 (pieces 0 format) < sizeofLbuf) ∧
      ((∀ args lbuf, Within args lbuf buf) ↔
        Plain format ∧ format.length - percents format < sizeofLbuf) ∧
      (sizeofLbuf ≤ least (pieces 0 format) → ∀ args lbuf, ¬ Within args lbuf buf) := by
  intro format
  have each (args : Arguments) (lbuf : Memory sizeofLbuf) : Within args lbuf buf ↔
      fixed format + found args 0 (pieces 0 format) < sizeofLbuf := by
    rw [within_iff_length, length_sprintf]
  refine ⟨each, ?_, ?_⟩
  · constructor
    · intro always
      have much := (each (.blank sizeofLbuf) (.zero sizeofLbuf)).1 (always _ _)
      have plain : Plain format := by
        intro p member
        by_contra converts
        have more := le_found sizeofLbuf 0 member (Bool.not_eq_true _ ▸ converts)
        omega
      refine ⟨plain, ?_⟩
      rw [← length_of_plain plain]
      omega
    · rintro ⟨plain, short⟩ args lbuf
      rw [each, found_of_plain 0 plain, length_of_plain plain]
      exact short
  · intro long args lbuf within
    rw [within_iff_length] at within
    exact Nat.not_lt.2 (long.trans (least_le args 0 _)) within

/-- 256 bytes are one too many with their terminator, and so are six bytes that ask for a
field of 300. -/
theorem texts_overrun :
    let letters : SysfsText :=
      ⟨List.replicate 256 97, nofun, List.length_replicate.trans_lt (by decide)⟩
    let field : SysfsText := ⟨[37, 51, 48, 48, 100, 10], by decide, by decide⟩
    (∀ args lbuf, ¬ Within args lbuf letters) ∧ ∀ args lbuf, ¬ Within args lbuf field := by
  constructor
  · intro args lbuf within
    have plain : 37 ∉ List.replicate 256 (97 : UInt8) := fun among =>
      nomatch List.eq_of_mem_replicate among
    have noNul : 0 ∉ List.replicate 256 (97 : UInt8) := fun among =>
      nomatch List.eq_of_mem_replicate among
    rw [within_iff_length, cString_eq_self noNul, sprintf_of_notMem args plain,
      List.length_replicate] at within
    exact Nat.lt_irrefl _ within
  · intro args lbuf within
    have wide : sizeofLbuf ≤ least (pieces 0 (cString [37, 51, 48, 48, 100, 10])) := by decide
    rw [within_iff_length] at within
    exact Nat.not_lt.2 (wide.trans (least_le args 0 _)) within

/-! ## What is shown -/

/-- A text without NULs. -/
structure Line extends SysfsText where
  noNul : 0 ∉ bytes

/-- However often it is shown, until the next store, it is this text. -/
def Shows (lbuf : Memory sizeofLbuf) (text : List UInt8) : Prop :=
  ∀ es u, chrdevNameAttr.Path lbuf es u → (∀ e ∈ es, e.act = .systemNameShow) →
    systemNameShow u = some ((text.length : Int), text)

/-- A store returns an error and leaves `lbuf`, or it returns the length of the text, which
is then shown. -/
def RoundTrips (args : Arguments) (lbuf : Memory sizeofLbuf) (text : Line) : Prop :=
  ∃ ret stored, systemNameStore args lbuf text.toSysfsText = some (ret, stored) ∧
    (ret < 0 ∧ stored = lbuf ∨ ret = text.bytes.length ∧ Shows stored text.bytes)

theorem show_keeps (e : Event (Memory sizeofLbuf) Access (Int × List UInt8))
    (taken : chrdevNameAttr.Takes e) (shows : e.act = .systemNameShow) : e.target = e.source := by
  have moved : access e.source e.act = some (e.out, e.target) := taken
  rw [shows, access] at moved
  obtain ⟨shown, -, same⟩ := Option.map_eq_some_iff.1 moved
  exact (congrArg Prod.snd same).symm

theorem shows_iff {lbuf : Memory sizeofLbuf} {text : List UInt8} :
    Shows lbuf text ↔ systemNameShow lbuf = some ((text.length : Int), text) := by
  constructor
  · intro shows
    exact shows [] lbuf (.nil lbuf) nofun
  · intro shown es u path within
    have same : u = lbuf := (path.keeps (I := fun s => s = lbuf)
      (fun e taken act source => (show_keeps e taken act).trans source) within rfl).1
    rw [same]
    exact shown

/-- A text is returned exactly if it is printed as it is, and fits. -/
theorem roundTrips_iff (args : Arguments) (lbuf : Memory sizeofLbuf) (text : Line) :
    RoundTrips args lbuf text ↔
      sprintf args text.bytes = text.bytes ∧ text.bytes.length < sizeofLbuf := by
  have string : cString text.bytes = text.bytes := cString_eq_self text.noNul
  have store := systemNameStore_eq args lbuf text.toSysfsText
  rw [string] at store
  constructor
  · rintro ⟨ret, stored, call, answers⟩
    rw [store] at call
    dsimp only at call
    generalize sprintf args text.bytes = out at call ⊢
    split at call
    · rename_i fits
      cases call
      rcases answers with ⟨negative, -⟩ | ⟨length, shows⟩
      · omega
      · rw [shows_iff, systemNameShow_store lbuf fits, Option.some.injEq, Prod.mk.injEq] at shows
        have same : cString out = text.bytes := shows.2
        have whole : cString out = out :=
          (List.takeWhile_prefix _).eq_of_length (by rw [← cString, same]; omega)
        rw [← same, whole]
        exact ⟨rfl, fits⟩
    · cases call
  · rintro ⟨printed, fits⟩
    rw [printed] at store
    refine ⟨_, _, store.trans (if_pos fits), Or.inr ⟨rfl, ?_⟩⟩
    rw [shows_iff, systemNameShow_store lbuf fits, string]

/-- **Which texts are returned as they were stored.**  Where no conversion prints a `%`,
and also whatever conversions print: the texts that have none and leave room for the
terminator. -/
theorem text_returned_iff (text : Line) :
    (∀ args : Arguments, args.NoPercent → ∀ lbuf,
        (RoundTrips args lbuf text ↔ 37 ∉ text.bytes ∧ text.bytes.length < sizeofLbuf)) ∧
      ((∀ args lbuf, RoundTrips args lbuf text) ↔
        37 ∉ text.bytes ∧ text.bytes.length < sizeofLbuf) := by
  have each (args : Arguments) (free : args.NoPercent) (lbuf : Memory sizeofLbuf) :
      RoundTrips args lbuf text ↔ 37 ∉ text.bytes ∧ text.bytes.length < sizeofLbuf := by
    rw [roundTrips_iff, sprintf_eq_self_iff free]
  refine ⟨each, ?_⟩
  constructor
  · intro always
    exact (each (.blank 0) (Arguments.blank_noPercent 0) (.zero sizeofLbuf)).1 (always _ _)
  · rintro ⟨literal, fits⟩ args lbuf
    rw [roundTrips_iff]
    exact ⟨sprintf_of_notMem args literal, fits⟩

/-- `100%%` is stored as `100%`, and 256 bytes are not stored at all. -/
theorem texts_differ :
    let percent : Line := ⟨⟨[49, 48, 48, 37, 37], by decide, by decide⟩, by decide⟩
    let letters : Line :=
      ⟨⟨List.replicate 256 97, nofun, List.length_replicate.trans_lt (by decide)⟩,
        fun among => nomatch List.eq_of_mem_replicate among⟩
    (∀ args lbuf, ∃ stored,
        systemNameStore args lbuf percent.toSysfsText = some (4, stored) ∧
          systemNameShow stored = some (4, [49, 48, 48, 37]) ∧ ¬ RoundTrips args lbuf percent) ∧
      ∀ args lbuf, ¬ RoundTrips args lbuf letters := by
  intro percent letters
  constructor
  · intro args lbuf
    have printed : sprintf args (cString percent.bytes) = [49, 48, 48, 37] := rfl
    have store := systemNameStore_eq args lbuf percent.toSysfsText
    rw [printed] at store
    refine ⟨_, store, systemNameShow_store lbuf (by decide), ?_⟩
    rw [roundTrips_iff]
    rintro ⟨same, -⟩
    cases printed.symm.trans same
  · intro args lbuf
    rw [roundTrips_iff]
    rintro ⟨-, fits⟩
    rw [List.length_replicate] at fits
    exact Nat.lt_irrefl _ fits

/-! ## Runs -/

abbrev AccessEvent := Event (Memory sizeofLbuf) Access (Int × List UInt8)

/-- The text that is stored. -/
def stored? (e : AccessEvent) : Option (List UInt8) :=
  match e.act with
  | .systemNameStore _ buf => some (cString buf.bytes)
  | .systemNameShow => none

/-- A text that is stored has no `%` and leaves room for the terminator. -/
def StoresItself (e : AccessEvent) : Prop :=
  ∀ text ∈ stored? e, 37 ∉ text ∧ text.length < sizeofLbuf

/-- In every run from the load of the module that stores such texts only, what is shown is
the last one, or nothing before the first. -/
theorem shows_latest {es : List AccessEvent} {lbuf : Memory sizeofLbuf}
    (path : chrdevNameAttr.Path (.zero sizeofLbuf) es lbuf) (within : ∀ e ∈ es, StoresItself e) :
    Shows lbuf ((latest stored? es).getD []) := by
  refine path.history (J := fun es lbuf => Shows lbuf ((latest stored? es).getD [])) ?_ ?_ within
  · rw [shows_iff]
    rfl
  · intro es e _ taken itself before
    rw [latest_concat]
    cases act : e.act with
    | systemNameShow =>
        have nothing : stored? e = none := by rw [stored?, act]
        rw [nothing, Option.none_or, show_keeps e taken act]
        exact before
    | systemNameStore args buf =>
        have text : stored? e = some (cString buf.bytes) := by rw [stored?, act]
        obtain ⟨literal, fits⟩ := itself _ text
        have printed := sprintf_of_notMem args literal
        have moved : access e.source e.act = some (e.out, e.target) := taken
        rw [act, access, systemNameStore_eq, printed] at moved
        dsimp only at moved
        rw [if_pos fits] at moved
        have target : e.source.store 0 (cString buf.bytes ++ [0]) = e.target :=
          congrArg Prod.snd (Option.some.inj moved)
        rw [text, Option.some_or, Option.getD_some, shows_iff, ← target,
          systemNameShow_store _ fits, cString_eq_self (noNul_cString buf.bytes)]

end LearningKernel.Sysfstest
