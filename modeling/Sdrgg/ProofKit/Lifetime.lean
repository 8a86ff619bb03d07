import Sdrgg.ProofKit.Run
import Mathlib.Logic.Function.Basic

/-! Resources that are acquired, used and released.  `Touch.apply` follows one resource of each name
through a trace, and gives `none` when one is acquired again, or used or released while it is not
held. -/

namespace Sdrgg.ProofKit

/-- What has become of a resource. -/
inductive Stage where
  | absent
  | held
  | released
deriving DecidableEq, Repr

inductive Touch (ρ : Type*) where
  | acquire (r : ρ)
  | use (r : ρ)
  | release (r : ρ)
deriving DecidableEq, Repr

variable {ρ : Type*} [DecidableEq ρ]

/-- The stages of all resources after one more touch. -/
def Touch.apply (f : ρ → Stage) : Touch ρ → Option (ρ → Stage)
  | .acquire r => if f r = .absent then some (Function.update f r .held) else none
  | .use r => if f r = .held then some f else none
  | .release r => if f r = .held then some (Function.update f r .released) else none

/-- How often a resource in this stage has been acquired. -/
def Stage.acquired : Stage → Nat
  | .absent => 0
  | .held | .released => 1

/-- How often a resource in this stage has been released. -/
def Stage.given : Stage → Nat
  | .absent | .held => 0
  | .released => 1

theorem Touch.apply_count {f g : ρ → Stage} {t : Touch ρ} (h : t.apply f = some g) (r : ρ) :
    (g r).acquired = (f r).acquired + (if t = .acquire r then 1 else 0) ∧
      (g r).given = (f r).given + if t = .release r then 1 else 0 := by
  cases t with
  | acquire q =>
    simp only [apply] at h
    split at h
    · rename_i habsent
      obtain rfl := Option.some_inj.mp h
      by_cases hq : q = r
      · subst hq
        simp [habsent, Stage.acquired, Stage.given]
      · simp [hq, Ne.symm hq]
    · cases h
  | use q =>
    simp only [apply] at h
    split at h
    · obtain rfl := Option.some_inj.mp h
      simp
    · cases h
  | release q =>
    simp only [apply] at h
    split at h
    · rename_i hheld
      obtain rfl := Option.some_inj.mp h
      by_cases hq : q = r
      · subst hq
        simp [hheld, Stage.acquired, Stage.given]
      · simp [hq, Ne.symm hq]
    · cases h

/-- The stages count the touches. -/
theorem count_touches {f g : ρ → Stage} {trace : List (Touch ρ)}
    (h : run Touch.apply f trace = some g) (r : ρ) :
    (g r).acquired = (f r).acquired + trace.count (.acquire r) ∧
      (g r).given = (f r).given + trace.count (.release r) := by
  induction trace generalizing f with
  | nil =>
    obtain rfl := Option.some_inj.mp h
    exact ⟨rfl, rfl⟩
  | cons t trace ih =>
    obtain ⟨u, hu, hrest⟩ := Option.bind_eq_some_iff.mp h
    obtain ⟨hacquired, hgiven⟩ := ih hrest
    obtain ⟨hacquire, hrelease⟩ := Touch.apply_count hu r
    simp only [List.count_cons, beq_iff_eq]
    omega

/-- In a trace from the start, every resource is acquired at most once, used and released only while
it is held, and given back once if it was acquired. -/
structure RolledBack (trace : List (Touch ρ)) : Prop where
  ordered : ∃ g, run Touch.apply (fun _ => .absent) trace = some g
  once : ∀ r, trace.count (.acquire r) ≤ 1
  released : ∀ r, trace.count (.release r) = trace.count (.acquire r)

/-- In a trace from the start, every resource is acquired once and none is released. -/
structure AllHeld (trace : List (Touch ρ)) : Prop where
  ordered : ∃ g, run Touch.apply (fun _ => .absent) trace = some g
  acquired : ∀ r, trace.count (.acquire r) = 1
  unreleased : ∀ r, trace.count (.release r) = 0

section Traces

variable {g : ρ → Stage} {trace : List (Touch ρ)}

theorem rolledBack_of_run (h : run Touch.apply (fun _ => .absent) trace = some g)
    (hnone : ∀ r, g r ≠ .held) : RolledBack trace := by
  have hcount := count_touches h
  simp only [Stage.acquired, Stage.given, Nat.zero_add] at hcount
  refine ⟨⟨g, h⟩, fun r => ?_, fun r => ?_⟩
  · rw [← (hcount r).1]
    cases g r <;> decide
  · rw [← (hcount r).1, ← (hcount r).2]
    cases hr : g r with
    | absent | released => rfl
    | held => exact absurd hr (hnone r)

theorem allHeld_of_run (h : run Touch.apply (fun _ => .absent) trace = some g)
    (hall : ∀ r, g r = .held) : AllHeld trace := by
  have hcount := count_touches h
  simp only [Stage.acquired, Stage.given, Nat.zero_add, hall] at hcount
  exact ⟨⟨g, h⟩, fun r => (hcount r).1.symm, fun r => (hcount r).2.symm⟩

/-- All resources are held behind such a trace. -/
theorem AllHeld.run_eq (h : AllHeld trace) :
    run Touch.apply (fun _ => .absent) trace = some fun _ => .held := by
  obtain ⟨g, hg⟩ := h.ordered
  rw [hg, Option.some_inj]
  funext r
  obtain ⟨hacquired, hgiven⟩ := count_touches hg r
  rw [h.acquired r] at hacquired
  rw [h.unreleased r] at hgiven
  cases hr : g r with
  | absent => simp [hr, Stage.acquired] at hacquired
  | held => rfl
  | released => simp [hr, Stage.given] at hgiven

end Traces

end Sdrgg.ProofKit
