import Sdrgg.Core.History
import Sdrgg.Core.Reported
import Sdrgg.Rtl.Resample

/-! The sample rates that `set_sample_rate` accepts against the ones that it programs. -/

namespace Sdrgg.Sdr

open ProofKit Usb Rtl

/-- `set_sample_rate` returns, the ratio in its registers is that of the crystal by the rate, and the
rate that is recorded is within one Hz. -/
def RateProgrammed (c : Chip) (env : Env) (w : World) (rateHz : UInt32) : Prop :=
  ∃ w', Rtl.setSampleRate rateHz env w = (.ok (), w') ∧
    Decodes (decodedRatio (ratioRegs (page1 c w'))) w.dev.baseband.oscillatorHz.toNat
      rateHz.toNat ∧
    |(w'.dev.tuning.samplingRateHz.toNat : Int) - rateHz.toNat| ≤ 1

section Rates

variable {c : Chip} {env : Env} {w w' : World} {rateHz : UInt32}

theorem applyRate_ratio {q : Resampling} (h : applyRate q env w = (.ok (), w')) :
    ratioRegs (page1 c w') = ratioBytes q.ratio := by
  obtain ⟨_, u, -, h⟩ := Act.bind_eq_ok.mp h
  rw [Act.bind_of_ok (device_apply env u)] at h
  split at h
  · obtain ⟨_, v, -, h⟩ := Act.bind_eq_ok.mp h
    exact rateTail_ratio h
  · exact rateTail_ratio h

theorem applyRate_achieved {q : Resampling} (h : applyRate q env w = (.ok (), w')) :
    w'.dev.tuning.samplingRateHz = q.achievedHz := by
  have hconfig := applyRate_ok h
  have hrate : (rated w.config q).tuning.samplingRateHz = q.achievedHz := by
    unfold rated
    split <;> rfl
  rw [← hrate, ← hconfig]
  rfl

theorem correctedXtal_crystal {b : BasebandState} (hosc : b.oscillatorHz = 28800000)
    (hppm : b.freqOffsetPpm = 0) : correctedXtal b = some 28800000 := by
  rw [correctedXtal, if_neg (not_not.mpr hppm), hosc]

theorem resampling_crystal (hosc : w.dev.baseband.oscillatorHz = 28800000)
    (hppm : w.dev.baseband.freqOffsetPpm = 0) :
    resampling w.dev.baseband rateHz = resampleFrom rateHz 28800000 := by
  rw [resampling, correctedXtal_crystal hosc hppm, Option.bind_some]

theorem resampleFrom_ratio {xtal : UInt32} {q : Resampling} (h : resampleFrom rateHz xtal = some q) :
    q.ratio = resamplerRatio xtal rateHz := by
  rw [resampleFrom] at h
  split at h
  · cases h
  · rw [← Option.some.inj h]

/-- What a rate leaves in the registers and in the record, with the crystal as it is. -/
theorem setSampleRate_leaves (hosc : w.dev.baseband.oscillatorHz = 28800000)
    (hppm : w.dev.baseband.freqOffsetPpm = 0) (haccept : rateAccepted rateHz = true)
    (h : Rtl.setSampleRate rateHz env w = (.ok (), w')) :
    decodedRatio (ratioRegs (page1 c w')) =
        (if exactRatio 28800000 rateHz.toNat < 2 ^ 27 then exactRatio 28800000 rateHz.toNat
          else exactRatio 28800000 rateHz.toNat + 2 ^ 28) ∧
      w'.dev.tuning.samplingRateHz.toNat = exactRate 28800000 rateHz.toNat := by
  cases hq : resampling w.dev.baseband rateHz with
  | none =>
    rw [setSampleRate_undefined haccept hq] at h
    cases h
  | some q =>
    rw [setSampleRate_accepted haccept hq] at h
    rw [resampling_crystal hosc hppm] at hq
    rw [applyRate_ratio h, applyRate_achieved h, resampleFrom_ratio hq, resampleFrom_eq hq,
      achievedRate_exact]
    exact ⟨decodedRatio_resampler, rfl⟩

end Rates

/-- After every history of a device without a correction, an accepted rate is the rate programmed
exactly when it is above 225 kHz and at most 300 kHz, or above 900 kHz. -/
theorem rate_programmed_iff {caps : TunerCaps} (hcaps : caps ∈ implementedCaps) {env : Env}
    (henv : env.Succeeds) {w0 w : World} {calls : List ApiCall}
    (hopen : Opened caps.tunerType caps.i2cAddr caps.ifFreqHz w0)
    (hrun : run (apiStep env) w0 calls = some w) (hppm : w.dev.baseband.freqOffsetPpm = 0)
    (c : Chip) {rateHz : UInt32} (haccept : rateAccepted rateHz = true) :
    RateProgrammed c env w rateHz ↔
      225000 < rateHz.toNat ∧ rateHz.toNat ≤ 300000 ∨ 900000 < rateHz.toNat := by
  have hosc : w.dev.baseband.oscillatorHz = 28800000 :=
    (run_footed hcaps (hopen.footed hcaps) hrun).oscillator
  have hcrystal : (28800000 : UInt32).toNat = 28800000 := rfl
  obtain ⟨hlo, hhi⟩ : 225000 ≤ rateHz.toNat ∧ rateHz.toNat ≤ 3200000 := by
    simpa [rateAccepted, UInt32.le_iff_toNat_le] using haccept
  have hdecodes := @decodes_crystal_iff rateHz.toNat (by omega)
  unfold RateProgrammed
  rw [hosc, hcrystal]
  constructor
  · rintro ⟨w', hset, hratio, -⟩
    rw [(setSampleRate_leaves hosc hppm haccept hset).1] at hratio
    exact hdecodes.mp hratio
  · intro hrate
    have hratio := hdecodes.mpr hrate
    have hexact : exactRate 28800000 rateHz.toNat = rateHz.toNat := by
      obtain ⟨hfirst, hlast⟩ | hhigh := hrate
      · exact exactRate_first hfirst hlast
      · exact exactRate_eq hhigh hhi
    have hdefined : (resampling w.dev.baseband rateHz).isSome := by
      refine (resampling_isSome (correctedXtal_crystal hosc hppm)).mpr fun hzero => ?_
      rw [hcrystal] at hzero
      rw [exactRate, hzero] at hexact
      simp at hexact
      omega
    obtain ⟨q, hq⟩ := Option.isSome_iff_exists.mp hdefined
    obtain ⟨w', hw'⟩ := total_applyRate henv (q := q) hosc
    rw [← setSampleRate_accepted haccept hq] at hw'
    obtain ⟨hregs, hrecord⟩ := setSampleRate_leaves (c := c) hosc hppm haccept hw'
    refine ⟨w', hw', hregs ▸ hratio, ?_⟩
    rw [hrecord, hexact]
    simp

theorem rate_programmed_at : RateProgrammed blankChip steadyEnv openedR820t 2400000 := by
  have hnone : run (apiStep steadyEnv) openedR820t [] = some openedR820t := rfl
  have hcaps : r820tCaps ∈ implementedCaps := by simp [implementedCaps]
  exact (rate_programmed_iff hcaps steadyEnv_succeeds openedR820t_opened hnone rfl blankChip
    (by decide)).mpr (by decide)

/-- A request for 800 kHz programs 288 kHz, since bit 27 of its ratio is taken for bit 28 too. -/
theorem rate_misprogrammed :
    (Rtl.setSampleRate 800000 steadyEnv openedR820t).1 = .ok () ∧
      (Rtl.setSampleRate 800000 steadyEnv openedR820t).2.dev.tuning.samplingRateHz = 288000 ∧
      decodedRatio (ratioRegs (page1 blankChip
        (Rtl.setSampleRate 800000 steadyEnv openedR820t).2)) =
          28800000 * 2 ^ 22 / 800000 + 2 ^ 28 := by
  decide +kernel

end Sdrgg.Sdr
