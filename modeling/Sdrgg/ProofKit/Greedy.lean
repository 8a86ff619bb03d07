import Mathlib.Algebra.Group.Nat.Defs
import Mathlib.Data.List.Basic
import Mathlib.Tactic.Common

/-! Greedy expansions: a number is taken apart into given weights, each of which is used at most
once.  A weight comes off when the number is greater than it, so that something is always left. -/

namespace Sdrgg.ProofKit

/-- The digits of the greedy expansion of a number, and what they leave of it. -/
def expand : List Nat → Nat → List Bool × Nat
  | [], x => ([], x)
  | w :: ws, x =>
    if w < x then (true :: (expand ws (x - w)).1, (expand ws (x - w)).2)
    else (false :: (expand ws x).1, (expand ws x).2)

/-- The sum of the weights with a digit. -/
def digitSum : List Nat → List Bool → Nat
  | w :: ws, d :: ds => (if d then w else 0) + digitSum ws ds
  | _, _ => 0

theorem expand_sum (ws : List Nat) (x : Nat) :
    digitSum ws (expand ws x).1 + (expand ws x).2 = x := by
  induction ws generalizing x with
  | nil => exact Nat.zero_add x
  | cons w ws ih =>
    rw [expand]
    split
    · have := ih (x - w)
      simp only [digitSum, if_true]
      omega
    · simpa [digitSum] using ih x

theorem length_expand (ws : List Nat) (x : Nat) : (expand ws x).1.length = ws.length := by
  induction ws generalizing x with
  | nil => rfl
  | cons w ws ih =>
    rw [expand]
    split <;> simp [ih]

/-- A number that no weight is below stays as it is. -/
theorem expand_of_le {ws : List Nat} {x : Nat} (h : ∀ w ∈ ws, x ≤ w) :
    (expand ws x).2 = x ∧ ∀ vs, digitSum vs (expand ws x).1 = 0 := by
  induction ws with
  | nil => exact ⟨rfl, fun vs => by cases vs <;> rfl⟩
  | cons w ws ih =>
    obtain ⟨hrest, hsum⟩ := ih fun v hv => h v (List.mem_cons_of_mem w hv)
    rw [expand, if_neg (Nat.not_lt.mpr (h w List.mem_cons_self))]
    refine ⟨hrest, fun vs => ?_⟩
    cases vs with
    | nil => rfl
    | cons v vs => simp [digitSum, hsum vs]

/-! ### Truncated halves -/

/-- `n` halvings of `d` from `d / 2 ^ i` on, each rounded down. -/
def halves (d : Nat) : Nat → Nat → List Nat
  | _, 0 => []
  | i, n + 1 => d / 2 ^ i :: halves d (i + 1) n

theorem half_le (d i : Nat) : 2 * (d / 2 ^ (i + 1)) ≤ d / 2 ^ i := by
  rw [Nat.pow_succ, ← Nat.div_div_eq_div_mul]
  omega

theorem le_half (d i : Nat) : d / 2 ^ i ≤ 2 * (d / 2 ^ (i + 1)) + 1 := by
  rw [Nat.pow_succ, ← Nat.div_div_eq_div_mul]
  omega

theorem le_of_mem_halves {d i n w : Nat} (h : w ∈ halves d i n) : d / 2 ^ (i + n) ≤ w := by
  induction n generalizing i with
  | zero => cases h
  | succ n ih =>
    rw [show i + (n + 1) = i + 1 + n by omega]
    rcases List.mem_cons.mp h with rfl | h
    · exact Nat.div_le_div_left (Nat.pow_le_pow_right (by decide) (by omega)) (Nat.two_pow_pos i)
    · exact ih h

/-- A half is at least all that come after it together, the last of them twice. -/
theorem digitSum_halves_le (d i n : Nat) (ds : List Bool) :
    digitSum (halves d (i + 1) n) ds + d / 2 ^ (i + n) ≤ d / 2 ^ i := by
  induction n generalizing i ds with
  | zero =>
    cases ds <;> simp [halves, digitSum]
  | succ n ih =>
    have hhalf := half_le d i
    rw [show i + (n + 1) = i + 1 + n by omega]
    cases ds with
    | nil =>
      have := ih (i + 1) []
      simp only [halves, digitSum] at this ⊢
      omega
    | cons b ds =>
      have := ih (i + 1) ds
      simp only [halves, digitSum]
      split <;> omega

/-- The greedy expansion into halves finds any digits that leave no more than the last half. -/
theorem expand_digitSum {d i n r : Nat} {ds : List Bool} (hlen : ds.length = n) (hpos : 0 < r)
    (hr : r ≤ d / 2 ^ (i + n)) :
    expand (halves d (i + 1) n) (digitSum (halves d (i + 1) n) ds + r) = (ds, r) := by
  induction n generalizing i ds with
  | zero =>
    obtain rfl := List.length_eq_zero_iff.mp hlen
    simp [halves, expand, digitSum]
  | succ n ih =>
    obtain ⟨b, ds, rfl⟩ := List.exists_cons_of_length_eq_add_one hlen
    rw [show i + (n + 1) = i + 1 + n by omega] at hr
    have hih := @ih (i + 1) ds (by simpa using hlen) hr
    have hle := digitSum_halves_le d (i + 1) n ds
    rw [halves, expand]
    cases b with
    | true =>
      simp only [digitSum, if_true]
      rw [if_pos (by omega), show d / 2 ^ (i + 1) + digitSum (halves d (i + 1 + 1) n) ds + r -
        d / 2 ^ (i + 1) = digitSum (halves d (i + 1 + 1) n) ds + r by omega, hih]
    | false =>
      simp only [digitSum, Bool.false_eq_true, if_false, Nat.zero_add]
      rw [if_neg (by omega), hih]

/-- Each halving loses at most one unit. -/
theorem expand_halves_le {d i n x : Nat} (h : x ≤ d / 2 ^ i + i) :
    (expand (halves d (i + 1) n) x).2 ≤ d / 2 ^ (i + n) + (i + n) := by
  induction n generalizing i x with
  | zero => exact h
  | succ n ih =>
    have hhalf := le_half d i
    rw [halves, expand, show i + (n + 1) = i + 1 + n by omega]
    split
    · exact ih (by omega)
    · exact ih (by omega)

theorem half_scale (d : Nat) {m i : Nat} (h : i ≤ m) :
    2 ^ m * (d / 2 ^ i) ≤ d * (2 ^ m / 2 ^ i) ∧
      d * (2 ^ m / 2 ^ i) ≤ 2 ^ m * (d / 2 ^ i) + 2 ^ m := by
  have hexact : 2 ^ i * (2 ^ m / 2 ^ i) = 2 ^ m := Nat.mul_div_cancel' (Nat.pow_dvd_pow 2 h)
  have hdiv := Nat.div_add_mod d (2 ^ i)
  have hmod := Nat.mod_lt d (Nat.two_pow_pos i)
  generalize 2 ^ m / 2 ^ i = w at hexact ⊢
  have hd : d * w = 2 ^ m * (d / 2 ^ i) + d % 2 ^ i * w := by
    calc d * w = (2 ^ i * (d / 2 ^ i) + d % 2 ^ i) * w := by rw [hdiv]
      _ = 2 ^ i * w * (d / 2 ^ i) + d % 2 ^ i * w := by rw [Nat.add_mul, Nat.mul_right_comm]
      _ = 2 ^ m * (d / 2 ^ i) + d % 2 ^ i * w := by rw [hexact]
  have hrest : d % 2 ^ i * w ≤ 2 ^ i * w := Nat.mul_le_mul_right w (Nat.le_of_lt hmod)
  rw [hexact] at hrest
  omega

/-- The same digits for the halves of a power of two, which are exact. -/
theorem digitSum_scale (d m i n : Nat) (ds : List Bool) (h : i + n ≤ m + 1) :
    2 ^ m * digitSum (halves d i n) ds ≤ d * digitSum (halves (2 ^ m) i n) ds ∧
      d * digitSum (halves (2 ^ m) i n) ds ≤ 2 ^ m * (digitSum (halves d i n) ds + n) := by
  induction n generalizing i ds with
  | zero => cases ds <;> simp [halves, digitSum]
  | succ n ih =>
    cases ds with
    | nil => simp [halves, digitSum]
    | cons b ds =>
      obtain ⟨hlow, hhigh⟩ := ih (i + 1) ds (by omega)
      simp only [halves, digitSum]
      obtain ⟨hfirst, hround⟩ := half_scale d (show i ≤ m by omega)
      cases b with
      | true =>
        simp only [if_true, Nat.mul_add]
        rw [Nat.mul_add] at hhigh
        constructor
        · omega
        · rw [Nat.mul_one]
          omega
      | false =>
        simp only [Bool.false_eq_true, if_false, Nat.zero_add, Nat.mul_add]
        rw [Nat.mul_add] at hhigh
        exact ⟨hlow, by omega⟩

end Sdrgg.ProofKit
