/-
# Led.Copies -- the drivers copied from `02_led`

`03_newchrled` and `04_dtsled` repeat the accesses of `02_led` but for the last:
under the comment "close led" they write `~(0x1 << 0)` to BSRR.
`close_led_agrees_iff` says when that comes to the same: only where the latches of
the other pins were set already and some text was decisive.
-/
import LearningKernel.Led.Registers

namespace LearningKernel.Led

open LearningKernel.Theory LearningKernel.Theory.BitField

set_option autoImplicit false

/-- The latches of pins 1 to 15 are set. -/
def OthersSet (b : Board) : Prop := ∀ pin, 1 ≤ pin → pin < 16 → b.latches.getLsbD pin = true

theorem getLsbD_allButPi0 {pin : Nat} (low : 1 ≤ pin) (high : pin < 16) :
    (~~~1#16).getLsbD pin = true := by
  rw [BitVec.getLsbD_not, getLsbD_eq_false (n := 1) (by decide) low]
  simp [high]

/-- The comment says "close led"; the value resets latch 0 and sets the others. -/
theorem newchrledInit_eq (b : Board) : newchrledInit b = configured (~~~1#16) b := by
  have resets : field 16 1 (~~~(0x1#32 <<< 0)) = BitVec.allOnes 16 := by decide
  have sets : field 16 0 (~~~(0x1#32 <<< 0)) = ~~~1#16 := by decide
  rw [newchrledInit, configure_eq, resets, sets, update_all]

theorem execute_newchrledInit (texts : List (List UInt8)) (b : Board) :
    execute newchrledInit texts b =
      configured (setPi0 ((latest asked texts).getD false) (~~~1#16)) b := by
  rw [execute_eq, newchrledInit_eq]
  cases latest asked texts with
  | none =>
      have lit : ~~~1#16 = setPi0 false (~~~1#16) := by decide
      show configured (~~~1#16) b = configured (setPi0 false (~~~1#16)) b
      rw [← lit]
  | some level => rfl

theorem configured_inj {latches latches' : BitVec 16} {b : Board} :
    configured latches b = configured latches' b ↔ latches = latches' := by
  constructor
  · intro same
    exact congrArg Board.latches same
  · rintro rfl
    rfl

/-- A text is decisive if its number is 0 or 1. -/
theorem asked_ne_none {sta : List UInt8} : asked sta ≠ none ↔ strtoul sta = 0 ∨ strtoul sta = 1 := by
  unfold asked ledOn ledOff
  by_cases on : strtoul sta = 1
  · simp [on]
  · by_cases off : strtoul sta = 0
    · simp [off]
    · simp [on, off]

theorem setPi0_allButPi0_iff {asks : Option Bool} {b : Board} :
    setPi0 (asks.getD false) (~~~1#16) = setPi0 (asks.getD true) b.latches ↔
      OthersSet b ∧ asks ≠ none := by
  constructor
  · intro same
    have bit (pin : Nat) := congrArg (fun latches : BitVec 16 => latches.getLsbD pin) same
    refine ⟨?_, ?_⟩
    · intro pin low high
      have other : pin ≠ 0 := by omega
      have here := bit pin
      simp only [getLsbD_setPi0_other other] at here
      rw [← here]
      exact getLsbD_allButPi0 low high
    · rintro rfl
      have here := bit 0
      simp only [getLsbD_setPi0_zero] at here
      cases here
  · rintro ⟨others, decisive⟩
    obtain ⟨level, rfl⟩ := Option.ne_none_iff_exists'.1 decisive
    apply BitVec.eq_of_getLsbD_eq
    intro pin high
    by_cases zero : pin = 0
    · subst zero
      rw [getLsbD_setPi0_zero, getLsbD_setPi0_zero]
      rfl
    · have low : 1 ≤ pin := Nat.one_le_iff_ne_zero.2 zero
      rw [getLsbD_setPi0_other zero, getLsbD_setPi0_other zero, getLsbD_allButPi0 low high,
        others pin low high]

/-- How an initialisation compares with `02_led` on the same texts. -/
structure AgreesExactly (init : Board → Board) (texts : List (List UInt8)) (b : Board) : Prop where
  agrees : execute init texts b = execute ledInit texts b ↔
    OthersSet b ∧ ∃ sta ∈ texts, strtoul sta = 0 ∨ strtoul sta = 1
  /-- PI0 is active low: the LED is on after the initialisation. -/
  lit : (init b).latches.getLsbD 0 = false
  others : (∀ pin, pin ≠ 0 → (execute init texts b).latches.getLsbD pin = b.latches.getLsbD pin) ↔
    OthersSet b

theorem newchrledInit_agreesExactly (texts : List (List UInt8)) (b : Board) :
    AgreesExactly newchrledInit texts b where
  agrees := by
    rw [execute_newchrledInit, execute_ledInit, configured_inj, setPi0_allButPi0_iff, Ne,
      latest_eq_none_iff]
    simp only [not_forall, ← asked_ne_none, exists_prop, Ne]
  lit := by
    rw [newchrledInit_eq]
    show (~~~1#16).getLsbD 0 = false
    decide
  others := by
    rw [execute_newchrledInit]
    constructor
    · intro kept pin low high
      have here := kept pin (by omega)
      rw [configured, getLsbD_setPi0_other (by omega), getLsbD_allButPi0 low high] at here
      exact here.symm
    · intro others pin other
      rw [configured, getLsbD_setPi0_other other]
      by_cases high : pin < 16
      · rw [getLsbD_allButPi0 (Nat.one_le_iff_ne_zero.2 other) high,
          others pin (Nat.one_le_iff_ne_zero.2 other) high]
      · rw [BitVec.getLsbD_of_ge _ _ (Nat.le_of_not_lt high),
          BitVec.getLsbD_of_ge _ _ (Nat.le_of_not_lt high)]

/-- **The copies.**  `03_newchrled` and `04_dtsled` end as `02_led` does exactly
if the other latches were set before and some text is decisive; they start with
the LED on, and set every other latch. -/
theorem close_led_agrees_iff (texts : List (List UInt8)) (b : Board) :
    AgreesExactly newchrledInit texts b ∧ AgreesExactly dtsledInit texts b :=
  ⟨newchrledInit_agreesExactly texts b, newchrledInit_agreesExactly texts b⟩

/-- From a board of zeros, without a text, the two differ. -/
theorem close_led_differs :
    let b : Board := ⟨0, 0, 0, 0, 0, 0⟩
    execute newchrledInit [] b ≠ execute ledInit [] b ∧
      execute dtsledInit [] b ≠ execute ledInit [] b := by
  decide

end LearningKernel.Led
