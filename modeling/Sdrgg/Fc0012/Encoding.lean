import Sdrgg.Fc0012.Accuracy
import Mathlib.Tactic.Linarith
import Mathlib.Tactic.Ring

/-! The ratio of the FC0012 and its encoding: which accepted ratios are in their fields, and how far
the integer and the fraction together are from the VCO. -/

namespace Sdrgg.Fc0012

open ProofKit

/-! ### The fields of a ratio -/

/-- A quotient and a remainder within the bounds of the hardware that add up to a ratio. -/
def FieldsOf (fields : UInt8 × UInt8) (total : Nat) : Prop :=
  11 ≤ fields.1.toNat ∧ fields.1.toNat ≤ 31 ∧ 2 ≤ fields.2.toNat ∧ fields.2.toNat ≤ 15 ∧
    8 * fields.1.toNat + fields.2.toNat = total

instance (fields : UInt8 × UInt8) (total : Nat) : Decidable (FieldsOf fields total) :=
  inferInstanceAs (Decidable (_ ∧ _ ∧ _ ∧ _ ∧ _))

/-- The ratios whose bytes wrap around into the bounds: the smallest, from which eight is borrowed
that is not there, and those from 504, 760 and 1016 on, whose remainder loses 256. -/
def Wraps (n : Nat) : Prop :=
  n < 2 ∨ 504 ≤ n ∧ n < 520 ∨ 760 ≤ n ∧ n < 776 ∨ 1016 ≤ n ∧ n < 1032

instance (n : Nat) : Decidable (Wraps n) := inferInstanceAs (Decidable (_ ∨ _ ∨ _ ∨ _))

/-- The fields of a feasible ratio hold it unless the bytes wrap around. -/
theorem ratioFields_wraps {total : UInt16} (h : total.toNat < 1200) :
    (ratioFeasible total = true → FieldsOf (ratioFields total) total.toNat) ↔
      ¬Wraps total.toNat := by
  obtain ⟨q, a, hdecomposed, hclamped⟩ := toNat_ratioFields h
  rw [ratioFeasible_iff]
  unfold FieldsOf Wraps
  generalize (ratioFields total).1.toNat = quotient at *
  generalize (ratioFields total).2.toNat = remainder at *
  generalize total.toNat = n at *
  obtain hdecomposed | hdecomposed := hdecomposed <;> obtain hclamped | hclamped := hclamped <;> omega

/-- The frequencies whose ratio wraps around. -/
def WrapsAt (freqHz : Nat) : Prop :=
  freqHz < 225000 ∨ 1812600000 ≤ freqHz ∧ freqHz < 1870200000 ∨
    2734200000 ≤ freqHz ∧ freqHz < 2791800000 ∨ 3655800000 ≤ freqHz ∧ freqHz < 3713400000

theorem wraps_iff (freqHz : UInt32) :
    Wraps ((freqHz.toNat * multiplierFor freqHz.toNat + 7200000) / 14400000) ↔
      WrapsAt freqHz.toNat := by
  have hlt := freqHz.toNat_lt
  have hranges := vco_ranges freqHz
  unfold Wraps WrapsAt
  generalize freqHz.toNat * multiplierFor freqHz.toNat = vco at hranges ⊢
  omega

theorem ratio_lt (freqHz : UInt32) :
    (freqHz.toNat * multiplierFor freqHz.toNat + 7200000) / 14400000 < 1200 := by
  have hlt := freqHz.toNat_lt
  have hranges := vco_ranges freqHz
  omega

/-- What `execute_tuning_session` solves for a frequency. -/
theorem solution (freqHz : UInt32) : ∃ total frac,
    computeRawRatio (deriveMultiplier freqHz).vcoHz (28800000 / 2) = some total ∧
      total.toNat = ((deriveMultiplier freqHz).vcoHz.toNat + 7200000) / 14400000 ∧
      fracWord (deriveMultiplier freqHz).vcoHz (28800000 / 2) = some frac ∧
      normalizeRatio total (deriveMultiplier freqHz).vcoHz (28800000 / 2) =
        some ⟨total, (ratioFields total).1, (ratioFields total).2, frac, ratioFeasible total⟩ := by
  have hhalf : (28800000 / 2 : UInt32) = 14400000 := by decide
  have hlt := freqHz.toNat_lt
  have hranges := vco_ranges freqHz
  have hvco := (deriveMultiplier_eq freqHz).1
  obtain ⟨total, htotal, hnat⟩ := @toNat_computeRawRatio (deriveMultiplier freqHz).vcoHz (by omega)
  obtain ⟨frac, hfrac⟩ := @fracWord_of_half 14400000 (by decide) (deriveMultiplier freqHz).vcoHz
  rw [hhalf]
  exact ⟨total, frac, htotal, hnat, hfrac, by rw [normalizeRatio, hfrac]; rfl⟩

/-- The solution for a frequency is feasible only with the ratio in its fields. -/
def RatioEncoded (freqHz : UInt32) : Prop :=
  ∃ total sol, computeRawRatio (deriveMultiplier freqHz).vcoHz (28800000 / 2) = some total ∧
    normalizeRatio total (deriveMultiplier freqHz).vcoHz (28800000 / 2) = some sol ∧
    (sol.feasible = true →
      11 ≤ sol.nQuotient.toNat ∧ sol.nQuotient.toNat ≤ 31 ∧ 2 ≤ sol.aRemainder.toNat ∧
        sol.aRemainder.toNat ≤ 15 ∧
        8 * sol.nQuotient.toNat + sol.aRemainder.toNat = sol.totalDivider.toNat ∧
        sol.totalDivider.toNat = ((deriveMultiplier freqHz).vcoHz.toNat + 7200000) / 14400000)

/-- With the crystal of 28.8 MHz an accepted tuning encodes its ratio, rounded, exactly when the
bytes do not wrap around. -/
theorem ratio_encoded_iff (freqHz : UInt32) : RatioEncoded freqHz ↔ ¬WrapsAt freqHz.toNat := by
  obtain ⟨total, frac, htotal, hnat, hfrac, hsol⟩ := solution freqHz
  have hlt : total.toNat < 1200 := by
    rw [hnat, (deriveMultiplier_eq freqHz).1]
    exact ratio_lt freqHz
  have htable := ratioFields_wraps hlt
  have hwraps := wraps_iff freqHz
  rw [← (deriveMultiplier_eq freqHz).1, ← hnat] at hwraps
  rw [← hwraps, ← htable]
  constructor
  · rintro ⟨other, sol, hother, hnormal, h⟩ hfeasible
    obtain rfl := Option.some_inj.mp (htotal.symm.trans hother)
    obtain rfl := Option.some_inj.mp (hsol.symm.trans hnormal)
    obtain ⟨hn, hmax, ha, hbound, hsum, -⟩ := h hfeasible
    exact ⟨hn, hmax, ha, hbound, hsum⟩
  · intro h
    refine ⟨total, _, htotal, hsol, fun hfeasible => ?_⟩
    obtain ⟨hn, hmax, ha, hbound, hsum⟩ := h hfeasible
    exact ⟨hn, hmax, ha, hbound, hsum, hnat⟩

/-- At 0 Hz the ratio is zero and the fields are 31 and 8. -/
theorem ratio_wraps_at_zero :
    (computeRawRatio (deriveMultiplier 0).vcoHz (28800000 / 2)).bind
        (normalizeRatio · (deriveMultiplier 0).vcoHz (28800000 / 2)) =
      some ⟨0, 31, 8, 0, true⟩ := by
  decide +kernel

/-! ### The integer and the fraction -/

theorem toInt_toInt16 (x : UInt16) :
    x.toInt16.toInt = if x.toNat < 32768 then (x.toNat : Int) else x.toNat - 65536 := by
  have hlt := x.toNat_lt
  change x.toBitVec.toInt = _
  rw [BitVec.toInt_eq_toNat_cond]
  change (if 2 * x.toNat < 2 ^ 16 then (x.toNat : Int) else x.toNat - (2 ^ 16 : Nat)) = _
  split_ifs <;> omega

/-- The fractional word as a signed number: the fraction, or the fraction less one from a half on. -/
theorem toInt_fracWord {vcoHz : UInt64} {frac : UInt16} (h : fracWord vcoHz 14400000 = some frac) :
    frac.toInt16.toInt = (vcoHz.toNat % 14400000 / 1000 * 512 / 225 : Nat) -
      if vcoHz.toNat % 14400000 < 7200000 then (0 : Int) else 32768 := by
  rw [toInt_toInt16, toNat_fracWord h]
  split_ifs <;> omega

/-- The conversions to 16 bits and the shift in 32 bits, of a VCO and its residual. -/
theorem conversions_fit (freqHz : UInt32) :
    let vco := (deriveMultiplier freqHz).vcoHz.toNat
    vco / 14400000 + 1 < 2 ^ 16 ∧ vco % 14400000 / 1000 < 2 ^ 16 ∧
      vco % 14400000 / 1000 * 2 ^ 15 < 2 ^ 31 ∧
      vco % 14400000 / 1000 * 2 ^ 15 / 14400 + 2 ^ 15 < 2 ^ 16 := by
  have hlt := freqHz.toNat_lt
  have hranges := vco_ranges freqHz
  rw [← (deriveMultiplier_eq freqHz).1] at hranges
  generalize (deriveMultiplier freqHz).vcoHz.toNat = vco at hranges ⊢
  dsimp only
  omega

/-- The VCO that an integer and a signed fraction decode to, against the one they are from. -/
theorem decoded_vco_sub {vco total : Nat} {frac rest : Int}
    (h : 64 * vco - 28125 * (32768 * (total : Int) + frac) = rest) :
    (vco : ℚ) - 14400000 * (total + frac / 32768) = rest / 64 := by
  have hcast := congrArg (Int.cast : Int → ℚ) h
  push_cast at hcast
  rw [← hcast]
  ring

/-- The VCO of a frequency is above the one that its integer and its fraction decode to by less than
1440 Hz: the integer is rounded up exactly where the fraction turns negative, and no conversion loses
a bit. -/
theorem decoded_vco_below (freqHz : UInt32) :
    ∃ total sol, computeRawRatio (deriveMultiplier freqHz).vcoHz (28800000 / 2) = some total ∧
      normalizeRatio total (deriveMultiplier freqHz).vcoHz (28800000 / 2) = some sol ∧
      let vco := (deriveMultiplier freqHz).vcoHz.toNat
      0 ≤ (vco : ℚ) - 14400000 * (total.toNat + sol.fracWord.toInt16.toInt / 32768) ∧
      (vco : ℚ) - 14400000 * (total.toNat + sol.fracWord.toInt16.toInt / 32768) < 1440 ∧
      (total.toNat = vco / 14400000 + 1 ↔ 7200000 ≤ vco % 14400000) ∧
      (sol.fracWord.toInt16.toInt < 0 ↔ 7200000 ≤ vco % 14400000) ∧
      vco / 14400000 + 1 < 2 ^ 16 ∧ vco % 14400000 / 1000 < 2 ^ 16 ∧
      vco % 14400000 / 1000 * 2 ^ 15 < 2 ^ 31 ∧
      vco % 14400000 / 1000 * 2 ^ 15 / 14400 + 2 ^ 15 < 2 ^ 16 := by
  obtain ⟨total, frac, htotal, hnat, hfrac, hsol⟩ := solution freqHz
  have hhalf : (28800000 / 2 : UInt32) = 14400000 := by decide
  rw [hhalf] at hfrac
  have hsigned := toInt_fracWord hfrac
  have hrest := ratio_rest hnat
  rw [← hsigned] at hrest
  have hgap := decoded_vco_sub hrest
  generalize hrestHz : 64 * ((deriveMultiplier freqHz).vcoHz.toNat % 14400000 % 1000) +
    125 * (62 * ((deriveMultiplier freqHz).vcoHz.toNat % 14400000 / 1000) % 225) = rest at hgap
  have hlt : rest < 64 * 1440 := by omega
  refine ⟨total, _, htotal, hsol, ?_, ?_, by omega, ?_, conversions_fit freqHz⟩
  · rw [hgap]
    positivity
  · have hcast : (rest : ℚ) < 64 * 1440 := by exact_mod_cast hlt
    rw [hgap, div_lt_iff₀ (by positivity)]
    push_cast
    linarith
  · change frac.toInt16.toInt < 0 ↔ 7200000 ≤ (deriveMultiplier freqHz).vcoHz.toNat % 14400000
    rw [hsigned]
    split_ifs <;> omega

end Sdrgg.Fc0012
