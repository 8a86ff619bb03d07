import Sdrgg.Core.Reported
import Sdrgg.Rtl.Resample
import Mathlib.Algebra.Order.Field.Basic
import Mathlib.Algebra.Order.Field.Rat
import Mathlib.Tactic.FieldSimp
import Mathlib.Tactic.LinearCombination
import Mathlib.Tactic.Positivity

/-! The three places that derive a reference frequency from the crystal and its correction, each
against the corrected crystal. -/

namespace Sdrgg.Sdr

open ProofKit Usb Rtl

/-- What uses the crystal as its reference. -/
inductive Consumer where
  | synthesiser
  | ratioEngine
  | resampler
deriving DecidableEq, Repr

/-- The reference frequency that a consumer derives: the PLL of the R820T has it in kHz, and the
FC0012 as half the crystal. -/
def Consumer.referenceHz (b : BasebandState) : Consumer → Option Nat
  | .synthesiser =>
    some ((R820t.referenceKhz ⟨0, b.oscillatorHz, b.freqOffsetPpm⟩).toNat * 1000)
  | .ratioEngine => some ((b.oscillatorHz / 2).toNat * 2)
  | .resampler => (correctedXtal b).map UInt32.toNat

/-- The frequency of the crystal with its correction. -/
def exactXtal (b : BasebandState) : ℚ :=
  b.oscillatorHz.toNat * (1000000 + b.freqOffsetPpm.toInt) / 1000000

/-- The reference of a consumer is within one part in a million of the corrected crystal. -/
def Consumer.Within (b : BasebandState) (consumer : Consumer) : Prop :=
  ∃ hz, consumer.referenceHz b = some hz ∧ |(hz : ℚ) - exactXtal b| ≤ exactXtal b / 1000000

section Crystal

variable {b : BasebandState} (hosc : b.oscillatorHz = 28800000)

include hosc

theorem exactXtal_eq : exactXtal b =
    ((28800000 * (1000000 + b.freqOffsetPpm.toInt) : Int) : ℚ) / 1000000 := by
  rw [exactXtal, hosc, show (28800000 : UInt32).toNat = 28800000 from rfl]
  push_cast
  rfl

/-- The distance in millionths of a Hz. -/
theorem within_iff {hz : Nat} :
    |(hz : ℚ) - exactXtal b| ≤ exactXtal b / 1000000 ↔
      1000000 * |(1000000 * hz : Int) - 28800000 * (1000000 + b.freqOffsetPpm.toInt)| ≤
        28800000 * (1000000 + b.freqOffsetPpm.toInt) := by
  have hxtal := exactXtal_eq hosc
  generalize (28800000 : Int) * (1000000 + b.freqOffsetPpm.toInt) = exact at hxtal ⊢
  have hdist : (hz : ℚ) - exactXtal b = ((1000000 * hz - exact : Int) : ℚ) / 1000000 := by
    rw [hxtal]
    push_cast
    field_simp
  have hpos : (0 : ℚ) < 1000000 := by positivity
  rw [hdist, hxtal, abs_div, ← Int.cast_abs, abs_of_pos hpos, div_div,
    div_le_div_iff₀ hpos (mul_pos hpos hpos)]
  generalize |(1000000 * hz : Int) - exact| = d
  norm_cast
  omega

section Consumers

variable (hpos : 0 < 1000000 + b.freqOffsetPpm.toInt)
  (hfits : 28800000 * (1000000 + b.freqOffsetPpm.toInt) < 1000000 * 2 ^ 32)

include hpos hfits

/-- The reference of the R820T is the corrected crystal rounded down to a kHz. -/
theorem toNat_referenceKhz :
    ((R820t.referenceKhz ⟨0, b.oscillatorHz, b.freqOffsetPpm⟩).toNat : Int) =
      28800 * (1000000 + b.freqOffsetPpm.toInt) / 1000000 := by
  have hcrystal : (((28800000 : UInt32) / 1000).toNat : Int) = 28800 := by decide
  unfold R820t.referenceKhz
  dsimp only
  rw [hosc, hcrystal]
  split
  · rw [Int.tdiv_eq_ediv_of_nonneg (by omega), toNat_ofInt (by omega) (by omega)]
  · rename_i hppm
    rw [show b.freqOffsetPpm = 0 by simpa using hppm, hcrystal]
    rfl

/-- What the resampler loses below a Hz counts when little is left of the crystal. -/
theorem resampler_within_iff : Consumer.resampler.Within b ↔
    1000000 * (28800000 * (1000000 + b.freqOffsetPpm.toInt) % 1000000) ≤
      28800000 * (1000000 + b.freqOffsetPpm.toInt) := by
  have hlt : crystalHz b.freqOffsetPpm < 2 ^ 32 := by
    unfold crystalHz
    omega
  obtain ⟨xtal, hxtal, hnat⟩ := toNat_correctedXtal hosc (Int.le_of_lt hpos) hlt
  rw [crystalHz] at hnat
  rw [Consumer.Within, Consumer.referenceHz, hxtal]
  simp only [Option.map_some, Option.some_inj, exists_eq_left']
  rw [within_iff hosc, hnat, abs_of_nonpos (by omega)]
  omega

/-- What the R820T loses below a kHz counts. -/
theorem synthesiser_within_iff : Consumer.synthesiser.Within b ↔
    1000000 * (28800 * (1000000 + b.freqOffsetPpm.toInt) % 1000000) ≤
      28800 * (1000000 + b.freqOffsetPpm.toInt) := by
  have hkhz := toNat_referenceKhz hosc hpos hfits
  rw [Consumer.Within, Consumer.referenceHz]
  simp only [Option.some_inj, exists_eq_left']
  rw [within_iff hosc]
  push_cast
  rw [hkhz, abs_of_nonpos (by omega)]
  omega

omit hfits in
/-- The FC0012 does not correct its reference. -/
theorem ratioEngine_within_iff : Consumer.ratioEngine.Within b ↔
    b.freqOffsetPpm = 0 ∨ b.freqOffsetPpm = 1 := by
  have hcrystal : ((28800000 : UInt32) / 2).toNat * 2 = 28800000 := by decide
  rw [Consumer.Within, Consumer.referenceHz, hosc, hcrystal]
  simp only [Option.some_inj, exists_eq_left']
  rw [within_iff hosc, ← Int32.toInt_inj, ← Int32.toInt_inj, Int32.toInt_zero, Int32.toInt_one]
  generalize b.freqOffsetPpm.toInt = ppm at hpos ⊢
  rcases abs_cases ((1000000 * (28800000 : Nat) : Int) - 28800000 * (1000000 + ppm)) with
    ⟨habs, hsign⟩ | ⟨habs, hsign⟩ <;> rw [habs] <;> omega

end Consumers

end Crystal

/-- After every history of a device, the three consumers agree with a correction that leaves the
crystal a frequency of 32 bits exactly when it is of no or of one part in a million. -/
theorem references_within_iff {caps : TunerCaps} (hcaps : caps ∈ implementedCaps) {env : Env}
    {w0 w w' : World} {calls : List ApiCall} {ppm : Int32}
    (hopen : Opened caps.tunerType caps.i2cAddr caps.ifFreqHz w0)
    (hrun : run (apiStep env) w0 calls = some w)
    (hset : setFreqCorrection ppm env w = (.ok (), w')) (hpos : 0 < exactXtal w'.dev.baseband)
    (hfits : exactXtal w'.dev.baseband < 2 ^ 32) :
    (∀ consumer : Consumer, consumer.Within w'.dev.baseband) ↔ ppm = 0 ∨ ppm = 1 := by
  obtain ⟨hosc, hppm⟩ := setFreqCorrection_baseband hcaps (hopen.footed hcaps) hrun hset
  have hexact : exactXtal w'.dev.baseband =
      ((28800000 * (1000000 + ppm.toInt) : Int) : ℚ) / 1000000 := by
    rw [exactXtal_eq hosc, hppm]
  have hmillion : (0 : ℚ) < 1000000 := by positivity
  rw [hexact] at hpos hfits
  rw [div_lt_iff₀ hmillion] at hfits
  have hpos : 0 < 1000000 + w'.dev.baseband.freqOffsetPpm.toInt := by
    rw [hppm]
    have hmicro := (div_pos_iff_of_pos_right hmillion).mp hpos
    norm_cast at hmicro
    omega
  have hfits : 28800000 * (1000000 + w'.dev.baseband.freqOffsetPpm.toInt) < 1000000 * 2 ^ 32 := by
    rw [hppm, Int.mul_comm 1000000 (2 ^ 32)]
    exact_mod_cast hfits
  rw [← hppm, ← ratioEngine_within_iff hosc hpos]
  refine ⟨fun h => h .ratioEngine, fun h consumer => ?_⟩
  have hsmall : w'.dev.baseband.freqOffsetPpm.toInt = 0 ∨
      w'.dev.baseband.freqOffsetPpm.toInt = 1 := by
    obtain h | h := (ratioEngine_within_iff hosc hpos).mp h <;> rw [h] <;> simp
  cases consumer with
  | synthesiser => exact (synthesiser_within_iff hosc hpos hfits).mpr (by omega)
  | ratioEngine => exact h
  | resampler => exact (resampler_within_iff hosc hpos hfits).mpr (by omega)

theorem references_within_one : ∃ w',
    setFreqCorrection 1 steadyEnv openedR820t = (.ok (), w') ∧
    ∀ consumer : Consumer, consumer.Within w'.dev.baseband := by
  have hset : setFreqCorrection 1 steadyEnv openedR820t = (.ok (), _) := rfl
  have hnone : run (apiStep steadyEnv) openedR820t [] = some openedR820t := rfl
  have hcaps : r820tCaps ∈ implementedCaps := by simp [implementedCaps]
  refine ⟨_, hset, (references_within_iff hcaps openedR820t_opened hnone hset ?_ ?_).mpr
    (.inr rfl)⟩ <;> decide +kernel

/-- With a correction of 20 parts in a million the crystal is at 28.800576 MHz, which only the
resampler takes it for. -/
theorem references_apart :
    let b := (setFreqCorrection 20 steadyEnv openedR820t).2.dev.baseband
    exactXtal b = 28800576 ∧ Consumer.synthesiser.referenceHz b = some 28800000 ∧
      Consumer.ratioEngine.referenceHz b = some 28800000 ∧
      Consumer.resampler.referenceHz b = some 28800576 ∧
      ¬|(28800000 : ℚ) - 28800576| ≤ 28800576 / 1000000 := by
  refine ⟨?_, ?_, ?_, ?_, ?_⟩ <;> decide +kernel

end Sdrgg.Sdr
