import Sdrgg.Core.Reported
import Sdrgg.R820t.Reference
import Sdrgg.Rtl.Resample

/-! Where the arithmetic of tuning and of sample rates faults for a frequency correction. -/

namespace Sdrgg.Sdr

open ProofKit Usb Rtl

/-! ### The PLL of the R820T -/

/-- What `set_pll` has to solve for an LO. -/
def pllRequest (b : BasebandState) (loHz : UInt32) : R820t.SynthRequest :=
  ⟨loHz, b.oscillatorHz, b.freqOffsetPpm⟩

/-- `set_pll` to an LO never divides by zero, and subtracts thirteen from no smaller integer. -/
def PllFaultless (w : World) (loHz : UInt32) : Prop :=
  (∀ env, (R820t.setPll loHz env w).1 ≠ .error .trap) ∧
    ∀ candidates chosen,
      R820t.enumerateCandidates (pllRequest w.dev.baseband loHz) = some candidates →
        R820t.rankAndSelect (candidates.map (R820t.normalizeSpurAvoidance
          (R820t.referenceKhz (pllRequest w.dev.baseband loHz)))) = some chosen →
            13 ≤ chosen.nInteger.toNat

theorem defined_acquireLock : Defined R820t.acquireLock := by
  grind [R820t.acquireLock, R820t.probeLockStatus]

/-- `set_pll` traps where its computation does, whatever the transfers do. -/
theorem setPll_trap_iff {w : World} {loHz : UInt32} {env : Env} :
    (R820t.setPll loHz env w).1 ≠ .error .trap ↔
      ∃ candidates, R820t.enumerateCandidates (pllRequest w.dev.baseband loHz) = some candidates ∧
        ∀ chosen, R820t.rankAndSelect (candidates.map (R820t.normalizeSpurAvoidance
          (R820t.referenceKhz (pllRequest w.dev.baseband loHz)))) = some chosen →
            ∃ enc, R820t.packPllSolution chosen
              (R820t.referenceKhz (pllRequest w.dev.baseband loHz)) = some enc := by
  unfold pllRequest
  simp only [R820t.setPll, R820t.programPll, device, Act.bind_apply, Act.get_apply,
    Act.modify_apply, Act.pure_apply]
  cases hc : R820t.enumerateCandidates
      ⟨loHz, w.dev.baseband.oscillatorHz, w.dev.baseband.freqOffsetPpm⟩ with
  | none => simp [Act.ofOption]
  | some candidates =>
    simp only [Act.ofOption, Act.pure_apply, Option.some_inj, exists_eq_left']
    generalize R820t.referenceKhz
      ⟨loHz, w.dev.baseband.oscillatorHz, w.dev.baseband.freqOffsetPpm⟩ = ref
    cases hchosen : R820t.rankAndSelect
        (candidates.map (R820t.normalizeSpurAvoidance ref)) with
    | none => simp
    | some chosen =>
      simp only [Option.some_inj, forall_eq']
      cases R820t.packPllSolution chosen ref with
      | none => simp [Act.bind_apply]
      | some enc =>
        refine iff_of_true ?_ ⟨enc, rfl⟩
        have hdefined := (R820t.defined_lowerIntents (R820t.composeSynthIntents enc)).bind
          fun _ => defined_acquireLock
        exact hdefined env _

theorem pllFaultless_iff {w : World} {loHz : UInt32} :
    PllFaultless w loHz ↔ R820t.Faultless (pllRequest w.dev.baseband loHz) := by
  constructor
  · rintro ⟨htrap, hinteger⟩
    obtain ⟨candidates, hc, hpack⟩ := setPll_trap_iff.mp (htrap steadyEnv)
    exact ⟨candidates, hc, fun chosen hchosen =>
      ⟨hinteger candidates chosen hc hchosen, hpack chosen hchosen⟩⟩
  · rintro ⟨candidates, hc, hchosen⟩
    refine ⟨fun env => setPll_trap_iff.mpr ⟨candidates, hc, fun chosen h => (hchosen chosen h).2⟩,
      fun other chosen hother h => ?_⟩
    rw [hc] at hother
    obtain rfl := Option.some_inj.mp hother
    exact (hchosen chosen h).1

/-- After every history of an R820T and every correction, `set_pll` computes without a fault for a
frequency exactly when the LO target is programmable. -/
theorem setPll_faultless_iff {env : Env} {w0 w w' : World} {calls : List ApiCall} {ppm : Int32}
    (hopen : OpenedR820t w0) (hrun : run (apiStep env) w0 calls = some w)
    (hset : setFreqCorrection ppm env w = (.ok (), w')) (freqHz : UInt32) :
    PllFaultless w' (freqHz + w'.dev.tuning.ifOffsetHz) ↔
      R820t.Programmable ppm ((freqHz + w'.dev.tuning.ifOffsetHz).toNat / 1000) := by
  have hcaps : r820tCaps ∈ implementedCaps := by simp [implementedCaps]
  obtain ⟨hosc, hppm⟩ := setFreqCorrection_baseband hcaps (hopen.footed hcaps) hrun hset
  rw [pllFaultless_iff, R820t.faultless_iff hosc, pllRequest, hppm]

/-- With a correction of 20 parts in a million `set_pll` computes without a fault for 100 MHz. -/
theorem setPll_faultless_at :
    let w := (setFreqCorrection 20 steadyEnv openedR820t).2
    PllFaultless w (100000000 + w.dev.tuning.ifOffsetHz) := by
  have hnone : run (apiStep steadyEnv) openedR820t [] = some openedR820t := rfl
  have htarget : (100000000 + (setFreqCorrection 20 steadyEnv openedR820t).2.dev.tuning.ifOffsetHz :
      UInt32).toNat / 1000 = 103570 := by decide +kernel
  have hkhz : (R820t.correctedKhz 20).toNat = 28800 := by decide
  have hset : setFreqCorrection 20 steadyEnv openedR820t =
      (.ok (), (setFreqCorrection 20 steadyEnv openedR820t).2) := rfl
  refine (setPll_faultless_iff openedR820t_opened hnone hset 100000000).mpr ?_
  rw [htarget]
  intro _ _
  refine ⟨by decide, by decide, ?_⟩
  rw [hkhz, R820t.stuck_iff]
  decide +kernel

/-- A correction by minus a million parts leaves a reference of zero to divide by.  One by half a
million leaves 43,200 kHz, and a fraction of 1,352 kHz gets stuck. -/
theorem setPll_faults :
    (setFreqCorrection (-1000000) steadyEnv openedR820t).1 = .ok () ∧
      (R820t.setPll 103570000 steadyEnv
        (setFreqCorrection (-1000000) steadyEnv openedR820t).2).1 = .error .trap ∧
      (setFreqCorrection 500000 steadyEnv openedR820t).1 = .ok () ∧
      (R820t.setPll 907876000 steadyEnv
        (setFreqCorrection 500000 steadyEnv openedR820t).2).1 = .error .trap := by
  decide +kernel

/-! ### The resampler -/

section Rates

variable {env : Env} {w : World}

theorem setIfFreq_ne_trap (hosc : w.dev.baseband.oscillatorHz = 28800000) (ifFreqHz : UInt32) :
    (setIfFreq ifFreqHz env w).1 ≠ .error .trap := by
  obtain ⟨word, hword⟩ := ncoWord_crystal ifFreqHz
  have hwrites : Defined (do
      submitDemodWrite 1 0x19 ((word >>> 16) &&& 0x3F).toUInt32.toUInt16 1
      submitDemodWrite 1 0x1A ((word >>> 8) &&& 0xFF).toUInt32.toUInt16 1
      submitDemodWrite 1 0x1B (word &&& 0xFF).toUInt32.toUInt16 1 : DevM Unit) := by
    grind
  have hnco : (programNco ifFreqHz env w).1 ≠ .error .trap := by
    rw [programNco, Act.bind_of_ok (device_apply env w), hosc, hword]
    exact hwrites env w
  refine bind_ne_trap hnco fun _ u _ => ?_
  exact fun h => by cases h

theorem setBandwidth_ne_trap (hosc : w.dev.baseband.oscillatorHz = 28800000) (bwKhz : UInt32) :
    (R820t.setBandwidth bwKhz env w).1 ≠ .error .trap := by
  refine bind_ne_trap (R820t.defined_lowerIntents _ env w) fun _ u hu => ?_
  refine setIfFreq_ne_trap ?_ _
  rw [← hosc]
  exact congrArg (fun c => c.baseband.oscillatorHz) ((R820t.keeps_lowerIntents _).world hu)

theorem rateTail_ne_trap (hosc : w.dev.baseband.oscillatorHz = 28800000) (ratio : UInt32) :
    ((do programRatio ratio; reprogramIf : DevM Unit) env w).1 ≠ .error .trap := by
  have hratio : Defined (programRatio ratio) := by
    grind [programRatio]
  refine bind_ne_trap (hratio env w) fun _ u hu => ?_
  have huosc : u.dev.baseband.oscillatorHz = 28800000 := by
    rw [← hosc]
    exact congrArg (fun c => c.baseband.oscillatorHz) ((keeps_programRatio ratio).world hu)
  rw [reprogramIf, Act.bind_of_ok (device_apply env u)]
  split
  · exact setIfFreq_ne_trap huosc _
  · exact fun h => by cases h

/-- Once its setting is computed, a rate is applied without a trap. -/
theorem applyRate_ne_trap (hosc : w.dev.baseband.oscillatorHz = 28800000) (q : Resampling) :
    (applyRate q env w).1 ≠ .error .trap := by
  obtain ⟨_, u, hu⟩ : ∃ x u, modifyTuning (fun t => { t with samplingRateHz := q.achievedHz }) env w
      = (.ok x, u) := ⟨_, _, rfl⟩
  have huosc : u.dev.baseband.oscillatorHz = 28800000 := by
    rw [← hosc]
    exact congrArg (fun c => c.baseband.oscillatorHz) (noteRate_ok hu).1
  rw [applyRate, Act.bind_of_ok hu, Act.bind_of_ok (device_apply env u)]
  split
  · refine bind_ne_trap (setBandwidth_ne_trap huosc _) fun _ v hv => rateTail_ne_trap ?_ _
    rw [← huosc]
    exact congrArg (fun c => c.baseband.oscillatorHz) (R820t.setBandwidth_ok hv)
  · exact rateTail_ne_trap huosc _

theorem setSampleRate_ne_trap (hosc : w.dev.baseband.oscillatorHz = 28800000) {rateHz : UInt32}
    (haccept : rateAccepted rateHz = true) (h : RateFaultless w.dev.baseband rateHz) :
    (Rtl.setSampleRate rateHz env w).1 ≠ .error .trap := by
  have hxtal : ∃ xtal, correctedXtal w.dev.baseband = some xtal := by
    unfold correctedXtal
    split
    · rename_i hppm
      exact ⟨_, if_pos (h.sum hppm)⟩
    · exact ⟨_, rfl⟩
  obtain ⟨xtal, hxtal⟩ := hxtal
  have hq : resampling w.dev.baseband rateHz =
      some ⟨resamplerRatio xtal rateHz, achievedRate xtal (resamplerRatio xtal rateHz)⟩ := by
    rw [resampling, hxtal, Option.bind_some, resampleFrom]
    exact if_neg (h.divisors.2 xtal hxtal)
  rw [setSampleRate_accepted haccept hq]
  exact applyRate_ne_trap hosc _

end Rates

/-- After every history of a device and every correction, `set_sample_rate` computes an accepted
rate without a fault exactly when the corrected crystal can be resampled to it. -/
theorem setSampleRate_faultless_iff {caps : TunerCaps} (hcaps : caps ∈ implementedCaps) {env : Env}
    {w0 w w' : World} {calls : List ApiCall} {ppm : Int32}
    (hopen : Opened caps.tunerType caps.i2cAddr caps.ifFreqHz w0)
    (hrun : run (apiStep env) w0 calls = some w)
    (hset : setFreqCorrection ppm env w = (.ok (), w')) {rateHz : UInt32}
    (haccept : rateAccepted rateHz = true) :
    (RateFaultless w'.dev.baseband rateHz ∧
        ∀ other, (Rtl.setSampleRate rateHz other w').1 ≠ .error .trap) ↔
      Resamplable ppm rateHz.toNat := by
  obtain ⟨hosc, hppm⟩ := setFreqCorrection_baseband hcaps (hopen.footed hcaps) hrun hset
  have hiff := rateFaultless_iff hosc haccept
  rw [hppm] at hiff
  rw [← hiff]
  exact ⟨fun h => h.1, fun h => ⟨h, fun other => setSampleRate_ne_trap hosc haccept h⟩⟩

/-- With a correction of 20 parts in a million there is no fault at 2.4 MSPS. -/
theorem setSampleRate_faultless_at :
    RateFaultless (setFreqCorrection 20 steadyEnv openedR820t).2.dev.baseband 2400000 := by
  have hnone : run (apiStep steadyEnv) openedR820t [] = some openedR820t := rfl
  have hset : setFreqCorrection 20 steadyEnv openedR820t =
      (.ok (), (setFreqCorrection 20 steadyEnv openedR820t).2) := rfl
  have hcaps : r820tCaps ∈ implementedCaps := by simp [implementedCaps]
  have haccept : rateAccepted 2400000 = true := by decide
  exact ((setSampleRate_faultless_iff hcaps openedR820t_opened hnone hset haccept).mpr
    ⟨by decide, by decide, by decide⟩).1

/-- Without a correction the lowest rate, and 450 kHz, leave a ratio of zero to divide by; and the
largest correction does not fit the sum. -/
theorem setSampleRate_faults :
    (setFreqCorrection 0 steadyEnv openedR820t).1 = .ok () ∧
      (Rtl.setSampleRate 225000 steadyEnv (setFreqCorrection 0 steadyEnv openedR820t).2).1 =
        .error .trap ∧
      (Rtl.setSampleRate 450000 steadyEnv (setFreqCorrection 0 steadyEnv openedR820t).2).1 =
        .error .trap ∧
      (setFreqCorrection 2147483647 steadyEnv openedR820t).1 = .ok () ∧
      (Rtl.setSampleRate 2400000 steadyEnv
        (setFreqCorrection 2147483647 steadyEnv openedR820t).2).1 = .error .trap := by
  decide +kernel

end Sdrgg.Sdr
