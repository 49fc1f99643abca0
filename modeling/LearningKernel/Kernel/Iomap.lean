/-
# Kernel.Iomap -- mapped device registers

An `Mmio` is what the kernel knows about mapped registers: the live mappings by
virtual address, and the register words by physical address.  `ioremap` answers
with an address of its own choice that is not in use, or with NULL, which is 0;
`iounmap`, `ioread32` and `iowrite32` take an address as it comes and log what
they found there.

`ioremapAll` and `iounmapAll` are several such calls in a row:
`ioremapAll_live`, `ioremapAll_frame`, `iounmapAll_live` and `iounmapAll_log` are
their rules.
-/
import Mathlib.Data.List.Basic
import Mathlib.Logic.Function.Basic
import Mathlib.Tactic.Common

namespace LearningKernel.Kernel

set_option autoImplicit false

/-- A live mapping: for whom it was made, and the physical address behind it. -/
structure Mapping (κ : Type) where
  owner : κ
  pa : Nat
  deriving DecidableEq

inductive TouchKind where
  | read
  | write
  | unmap
  deriving DecidableEq

/-- What was done at a virtual address, and what was found there. -/
structure Touch (κ : Type) where
  kind : TouchKind
  found : Option (Mapping κ)
  deriving DecidableEq

structure Mmio (κ : Type) where
  live : Nat → Option (Mapping κ)
  word : Nat → BitVec 32
  log : List (Touch κ)

namespace Mmio

variable {κ : Type}

/-- `ioremap` answering `pick`; `none` if it cannot answer so. -/
def ioremap (pick : Nat) (mapping : Mapping κ) (m : Mmio κ) : Option (Mmio κ) :=
  if pick = 0 then some m
  else if m.live pick = none then
    some { m with live := Function.update m.live pick (some mapping) }
  else none

def iounmap (va : Nat) (m : Mmio κ) : Mmio κ :=
  { m with live := Function.update m.live va none, log := m.log ++ [⟨.unmap, m.live va⟩] }

/-- The word behind an address, 0 where nothing is mapped. -/
def ioread32 (va : Nat) (m : Mmio κ) : BitVec 32 × Mmio κ :=
  ((m.live va).elim 0 fun mapping => m.word mapping.pa, { m with log := m.log ++ [⟨.read, m.live va⟩] })

def iowrite32 (val : BitVec 32) (va : Nat) (m : Mmio κ) : Mmio κ :=
  { m with
    word := (m.live va).elim m.word fun mapping => Function.update m.word mapping.pa val
    log := m.log ++ [⟨.write, m.live va⟩] }

/-- Mappings made one after the other, with the answers given. -/
def ioremapAll : List (Nat × Mapping κ) → Mmio κ → Option (Mmio κ)
  | [], m => some m
  | (pick, mapping) :: rest, m => (m.ioremap pick mapping).bind (ioremapAll rest)

def iounmapAll (vas : List Nat) (m : Mmio κ) : Mmio κ := vas.foldl (fun m va => m.iounmap va) m

theorem ioremap_live {pick : Nat} {mapping : Mapping κ} {m m' : Mmio κ}
    (made : m.ioremap pick mapping = some m') (mapped : pick ≠ 0) :
    m.live pick = none ∧ m'.live = Function.update m.live pick (some mapping) := by
  rw [ioremap, if_neg mapped] at made
  split at made <;> cases made
  exact ⟨by assumption, rfl⟩

/-- Each new address was free, and what is live now is new or was live before. -/
theorem ioremapAll_live {picks : List (Nat × Mapping κ)} {m m' : Mmio κ}
    (made : ioremapAll picks m = some m') (mapped : ∀ p ∈ picks, p.1 ≠ 0) :
    (∀ p ∈ picks, m.live p.1 = none ∧ m'.live p.1 = some p.2) ∧
      (∀ a, (∀ p ∈ picks, p.1 ≠ a) → m'.live a = m.live a) := by
  induction picks generalizing m with
  | nil =>
      cases made
      simp
  | cons p rest ih =>
      obtain ⟨pick, mapping⟩ := p
      obtain ⟨m₁, first, later⟩ := Option.bind_eq_some_iff.1 made
      obtain ⟨free, now⟩ := ioremap_live first (mapped _ List.mem_cons_self)
      obtain ⟨fresh, others⟩ := ih later fun p member => mapped p (List.mem_cons_of_mem _ member)
      -- the later answers avoid the first, which is live by then
      have apart : ∀ p ∈ rest, p.1 ≠ pick := by
        intro p member same
        have taken := (fresh p member).1
        rw [now, same, Function.update_self] at taken
        cases taken
      constructor
      · intro p member
        rcases List.mem_cons.1 member with rfl | member
        · refine ⟨free, ?_⟩
          rw [others pick apart, now, Function.update_self]
        · refine ⟨?_, (fresh p member).2⟩
          have was := (fresh p member).1
          rwa [now, Function.update_of_ne (apart p member)] at was
      · intro a avoided
        rw [others a fun p member => avoided p (List.mem_cons_of_mem _ member), now,
          Function.update_of_ne (avoided _ List.mem_cons_self).symm]

/-- Mappings touch no register. -/
theorem ioremapAll_frame {picks : List (Nat × Mapping κ)} {m m' : Mmio κ}
    (made : ioremapAll picks m = some m') : m'.word = m.word ∧ m'.log = m.log := by
  induction picks generalizing m with
  | nil =>
      cases made
      exact ⟨rfl, rfl⟩
  | cons p rest ih =>
      obtain ⟨m₁, first, later⟩ := Option.bind_eq_some_iff.1 made
      obtain ⟨word, log⟩ := ih later
      have kept : m₁.word = m.word ∧ m₁.log = m.log := by
        unfold ioremap at first
        split at first
        · cases first
          exact ⟨rfl, rfl⟩
        · split at first <;> cases first
          exact ⟨rfl, rfl⟩
      exact ⟨word.trans kept.1, log.trans kept.2⟩

theorem iounmapAll_live (vas : List Nat) (m : Mmio κ) (a : Nat) :
    (iounmapAll vas m).live a = if a ∈ vas then none else m.live a := by
  induction vas generalizing m with
  | nil => rfl
  | cons va rest ih =>
      show (iounmapAll rest (m.iounmap va)).live a = _
      rw [ih]
      by_cases later : a ∈ rest
      · simp [later]
      · by_cases here : a = va
        · simp [here, iounmap]
        · simp [later, here, iounmap]

/-- Distinct addresses are found as they were before. -/
theorem iounmapAll_log {vas : List Nat} (distinct : vas.Nodup) (m : Mmio κ) :
    (iounmapAll vas m).log = m.log ++ vas.map fun va => ⟨.unmap, m.live va⟩ := by
  induction vas generalizing m with
  | nil => simp [iounmapAll]
  | cons va rest ih =>
      obtain ⟨apart, distinct⟩ := List.nodup_cons.1 distinct
      have kept : rest.map (fun a => (⟨.unmap, (m.iounmap va).live a⟩ : Touch κ)) =
          rest.map fun a => ⟨.unmap, m.live a⟩ := by
        apply List.map_congr_left
        intro a member
        have other : a ≠ va := fun same => apart (same ▸ member)
        simp [iounmap, Function.update_of_ne other]
      show (iounmapAll rest (m.iounmap va)).log = _
      rw [ih distinct, kept]
      simp [iounmap]

end Mmio

end LearningKernel.Kernel
