import Mathlib.Logic.Function.Basic
import Mathlib.Data.List.Basic

/-! A file that mirrors some registers of a bank: writes that go through to both keep the two in
step, and a flush of the file brings the registers it reaches in step with it. -/

namespace Sdrgg.ProofKit

variable {κ ι β : Type*}

/-- The registers that a file mirrors, with the place of each. -/
structure Layout (κ ι : Type*) where
  key : ι → κ
  place : κ → Option ι
  place_eq_some : ∀ {k i}, place k = some i ↔ k = key i

namespace Layout

variable (L : Layout κ ι)

theorem place_key (i : ι) : L.place (L.key i) = some i := L.place_eq_some.mpr rfl

theorem key_inj {i j : ι} : L.key i = L.key j ↔ i = j := by
  constructor
  · intro h
    have hi := L.place_key i
    rw [h, L.place_key] at hi
    exact (Option.some.inj hi).symm
  · intro h
    rw [h]

def Mirrors (regs : κ → β) (file : ι → β) : Prop := ∀ i, regs (L.key i) = file i

section Writes

variable [DecidableEq κ] [DecidableEq ι] {regs : κ → β} {file : ι → β}

/-- The file after a write of `v` to register `k`. -/
def writeThrough (file : ι → β) (k : κ) (v : β) : ι → β :=
  match L.place k with
  | some i => Function.update file i v
  | none => file

theorem mirrors_write (h : L.Mirrors regs file) (k : κ) (v : β) :
    L.Mirrors (Function.update regs k v) (L.writeThrough file k v) := by
  intro i
  cases hk : L.place k with
  | none =>
    have hne : L.key i ≠ k := by
      intro heq
      rw [← heq, L.place_key] at hk
      cases hk
    simp only [writeThrough, hk, Function.update_of_ne hne]
    exact h i
  | some j =>
    obtain rfl := L.place_eq_some.mp hk
    simp only [writeThrough, hk]
    by_cases hij : i = j
    · rw [hij, Function.update_self, Function.update_self]
    · rw [Function.update_of_ne (mt L.key_inj.mp hij), Function.update_of_ne hij]
      exact h i

omit [DecidableEq κ] in
/-- Writing what the file holds leaves the file. -/
theorem writeThrough_self (file : ι → β) (i : ι) :
    L.writeThrough file (L.key i) (file i) = file := by
  rw [writeThrough, L.place_key]
  exact Function.update_eq_self i file

/-- The registers after the places `l` of the file have been written to them. -/
def flush (file : ι → β) (regs : κ → β) (l : List ι) : κ → β :=
  l.foldl (fun regs i => Function.update regs (L.key i) (file i)) regs

theorem flush_key (l : List ι) (i : ι) :
    L.flush file regs l (L.key i) = if i ∈ l then file i else regs (L.key i) := by
  induction l generalizing regs with
  | nil => rfl
  | cons j l ih =>
    refine (@ih (Function.update regs (L.key j) (file j))).trans ?_
    by_cases hij : i = j
    · subst hij
      simp
    · simp [hij, Function.update_of_ne (mt L.key_inj.mp hij)]

/-- A flush brings the registers in step exactly when those it leaves out are in step already. -/
theorem mirrors_flush_iff (l : List ι) :
    L.Mirrors (L.flush file regs l) file ↔ ∀ i, i ∉ l → regs (L.key i) = file i := by
  simp only [Mirrors, flush_key, ite_eq_left_iff]

end Writes

end Layout

end Sdrgg.ProofKit
