import Mathlib.Order.Nat

/-! Loops that take one item of a backlog on each turn and end on the turn that finds none.  More
items may arrive before every turn, so such a loop need not end; how long it lasts is a matter of
how many have arrived. -/

namespace Sdrgg.ProofKit

variable {σ ι : Type*} {turn : σ → ι → Option σ} {backlog : σ → Nat} {arrivals : ι → Nat} {s : σ}
  {is : Nat → ι}

/-- The state after `n` turns with the inputs `is`, and `none` when one of them ended the loop. -/
def turns (turn : σ → ι → Option σ) (is : Nat → ι) (s : σ) : Nat → Option σ
  | 0 => some s
  | n + 1 => (turns turn is s n).bind fun t => turn t (is n)

/-- Every turn of the loop from `s` that finds an item takes it, and one that finds none ends the
loop. -/
structure Drains (turn : σ → ι → Option σ) (backlog : σ → Nat) (arrivals : ι → Nat) (is : Nat → ι)
    (s : σ) : Prop where
  ends : ∀ n t, turns turn is s n = some t →
    (turn t (is n) = none ↔ backlog t + arrivals (is n) = 0)
  takes : ∀ n t u, turns turn is s n = some t → turn t (is n) = some u →
    backlog u + 1 = backlog t + arrivals (is n)

/-- The items that have arrived when the loop looks for the `j + 1`-st. -/
def arrived (backlog : σ → Nat) (arrivals : ι → Nat) (is : Nat → ι) (s : σ) : Nat → Nat
  | 0 => backlog s + arrivals (is 0)
  | j + 1 => arrived backlog arrivals is s j + arrivals (is (j + 1))

section Draining

variable (h : Drains turn backlog arrivals is s)

include h

/-- What the loop has taken and what it can take add up to what has arrived. -/
theorem Drains.balance {n : Nat} {t : σ} (ht : turns turn is s n = some t) :
    backlog t + arrivals (is n) + n = arrived backlog arrivals is s n := by
  induction n generalizing t with
  | zero =>
    obtain rfl := Option.some_inj.mp ht
    rfl
  | succ n ih =>
    obtain ⟨u, hu, hturn⟩ := Option.bind_eq_some_iff.mp ht
    have hbalance := ih hu
    have htake := h.takes n u t hu hturn
    rw [arrived]
    omega

theorem Drains.ends_iff {n : Nat} {t : σ} (ht : turns turn is s n = some t) :
    turn t (is n) = none ↔ arrived backlog arrivals is s n ≤ n := by
  rw [h.ends n t ht, ← h.balance ht]
  omega

/-- The loop takes `n` turns when an item is there for each of them. -/
theorem Drains.lasts_iff (n : Nat) : (∃ t, turns turn is s n = some t) ↔
    ∀ j < n, j < arrived backlog arrivals is s j := by
  induction n with
  | zero => simp [turns]
  | succ n ih =>
    constructor
    · rintro ⟨t, ht⟩ j hj
      obtain ⟨u, hu, hturn⟩ := Option.bind_eq_some_iff.mp ht
      rcases Nat.lt_succ_iff_lt_or_eq.mp hj with hlt | rfl
      · exact ih.mp ⟨u, hu⟩ j hlt
      · refine Nat.lt_of_not_le fun hle => ?_
        rw [(h.ends_iff hu).mpr hle] at hturn
        exact absurd hturn (by simp)
    · intro hall
      obtain ⟨u, hu⟩ := ih.mpr fun j hj => hall j (Nat.lt_succ_of_lt hj)
      have hgoes : turn u (is n) ≠ none := fun hend =>
        absurd ((h.ends_iff hu).mp hend) (Nat.not_le.mpr (hall n (Nat.lt_succ_self n)))
      obtain ⟨t, ht⟩ := Option.ne_none_iff_exists'.mp hgoes
      exact ⟨t, Option.bind_eq_some_iff.mpr ⟨u, hu, ht⟩⟩

/-- The loop ends within `d` turns exactly when, at one of them, it has taken all that has
arrived. -/
theorem Drains.ends_within_iff (d : Nat) :
    (∃ n ≤ d, ∃ t, turns turn is s n = some t ∧ turn t (is n) = none) ↔
      ∃ j ≤ d, arrived backlog arrivals is s j ≤ j := by
  constructor
  · rintro ⟨n, hn, t, ht, hend⟩
    exact ⟨n, hn, (h.ends_iff ht).mp hend⟩
  · intro hex
    -- the first such turn is one that the loop reaches
    have hfirst := Nat.find_spec hex
    obtain ⟨t, ht⟩ := (h.lasts_iff (Nat.find hex)).mpr fun j hj => by
      have hnot := Nat.find_min hex hj
      have hle : j ≤ d := (Nat.le_of_lt hj).trans hfirst.1
      exact Nat.lt_of_not_le fun hdone => hnot ⟨hle, hdone⟩
    exact ⟨Nat.find hex, hfirst.1, t, ht, (h.ends_iff ht).mpr hfirst.2⟩

end Draining

end Sdrgg.ProofKit
