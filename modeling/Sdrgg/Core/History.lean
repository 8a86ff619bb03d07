import Sdrgg.Core.Nco
import Sdrgg.Core.Shadow

/-! What a sample rate inherits on an R820T: the bandwidth fields and the IF of the last rate that
selected them, or those of the power-up. -/

namespace Sdrgg.Sdr

open ProofKit Usb Rtl

/-- The IF of a device, bit 4 of tuner register 0x0A and the bandwidth field of register 0x0B. -/
structure BandState where
  ifOffsetHz : UInt32
  filter : UInt8
  lowPass : UInt8
deriving DecidableEq, Repr

def bandState (c : Chip) (w : World) : BandState :=
  ⟨w.dev.tuning.ifOffsetHz, tunerReg c w 0x0A &&& 0x10, tunerReg c w 0x0B &&& 0xEF⟩

/-- The band of an opened device. -/
def powerUpBand : BandState := ⟨3570000, 0x10, 0x6C⟩

/-- The band that a resampler setting selects. -/
def settingBand (q : Resampling) : BandState :=
  let s := R820t.bandwidthSetting (q.achievedHz / 1000)
  ⟨q.ifHz, s.reg0a &&& 0x10, s.reg0b &&& 0xEF⟩

/-- The band that a rate selects, when it reaches 2 MSPS. -/
def rateBand (b : BasebandState) (rateHz : UInt32) : Option BandState :=
  (resampling b rateHz).bind fun q => if q.achievedHz ≥ 2000000 then some (settingBand q) else none

/-- The band after a history of rates. -/
def inheritedBand (b : BasebandState) (rates : List UInt32) : BandState :=
  rates.foldl (fun band rateHz => (rateBand b rateHz).getD band) powerUpBand

/-! ### Fields of the tuner -/

section Fields

variable {c : Chip} {env : Env} {w u w' : World}

theorem field_masked (a b m : UInt8) : ((a &&& ~~~m) ||| (b &&& m)) &&& m = b &&& m := by
  apply UInt8.toBitVec_inj.mp
  ext i
  simp
  grind

theorem tunerReg_other {reg val other : UInt8} (hne : other ≠ reg)
    (h : tunerView c u = R820t.wroteThrough (tunerView c w) reg val) :
    tunerReg c u other = tunerReg c w other := by
  change (tunerView c u).i2c (tunerView c u).identity.tunerBusAddr other = _
  rw [h]
  simp [R820t.wroteThrough, TunerView.framed, i2cWritten, written, Function.update_of_ne hne]
  rfl

/-- A field of a mirrored register after its modification. -/
theorem rmw_field {i : Fin 27} {val mask : UInt8} (hw : R820t.InStep c w)
    (h : tunerRmw (R820t.shadowLayout.key i) val mask env w = (.ok (), u)) :
    tunerReg c u (R820t.shadowLayout.key i) &&& mask = val &&& mask ∧
      ∀ other, other ≠ R820t.shadowLayout.key i → tunerReg c u other = tunerReg c w other := by
  rw [R820t.tunerRmw_r820t hw.isR820t (R820t.shadowLayout.place_key i)] at h
  have hview := R820t.tunerWriteReg_ok (c := c) hw.isR820t h
  refine ⟨?_, fun other hne => tunerReg_other hne hview⟩
  rw [R820t.tunerReg_wroteThrough hview, field_masked]

/-- The bandwidth fields after a `set_bandwidth`. -/
theorem setBandwidth_fields {bwKhz : UInt32} (hw : R820t.InStep c w)
    (h : R820t.setBandwidth bwKhz env w = (.ok (), w')) :
    tunerReg c w' 0x0A &&& 0x10 = (R820t.bandwidthSetting bwKhz).reg0a &&& 0x10 ∧
      tunerReg c w' 0x0B &&& 0xEF = (R820t.bandwidthSetting bwKhz).reg0b &&& 0xEF := by
  obtain ⟨_, u, hu, h⟩ := Act.bind_eq_ok.mp h
  obtain ⟨_, v, hv, hu⟩ := Act.bind_eq_ok.mp hu
  obtain ⟨_, x, hx, hu⟩ := Act.bind_eq_ok.mp hu
  cases hu
  have hview := (keepsTuner_setIfFreq (c := c) _).world h
  have hsame (reg : UInt8) : tunerReg c w' reg = tunerReg c u reg :=
    congrArg (fun t : TunerView => t.i2c t.identity.tunerBusAddr reg) hview
  have hfirst : tunerRmw (R820t.shadowLayout.key 5) (R820t.bandwidthSetting bwKhz).reg0a 0x10 env w =
      (.ok (), v) := hv
  have hsecond : tunerRmw (R820t.shadowLayout.key 6) (R820t.bandwidthSetting bwKhz).reg0b 0xEF env
      v = (.ok (), u) := hx
  have hvw := (R820t.inStep_tunerRmw _ _ _).world hw hfirst
  obtain ⟨h0a, -⟩ := rmw_field hw hfirst
  obtain ⟨h0b, hother⟩ := rmw_field hvw hsecond
  rw [hsame, hsame]
  refine ⟨?_, h0b⟩
  rw [hother 0x0A (by decide)]
  exact h0a

theorem keepsTuner_programRatio (ratio : UInt32) : Keeps (tunerView c) (programRatio ratio) :=
  (keepsTuner_submitDemodWrite _ _ _ _).bind fun _ =>
    (keepsTuner_submitDemodWrite _ _ _ _).bind fun _ =>
      (keepsTuner_submitDemodWrite _ _ _ _).bind fun _ => keepsTuner_submitDemodWrite _ _ _ _

theorem keepsTuner_rateTail (ratio : UInt32) :
    Keeps (tunerView c) (do programRatio ratio; reprogramIf) := by
  refine (keepsTuner_programRatio ratio).bind fun _ => keepsTuner_device.bind fun dev => ?_
  split
  · exact keepsTuner_setIfFreq _
  · exact Keeps.pure _

end Fields

/-! ### One rate -/

section Rates

variable {c : Chip} {env : Env} {w u w' : World} {q : Resampling}

theorem tunerReg_view (h : tunerView c u = tunerView c w) (reg : UInt8) :
    tunerReg c u reg = tunerReg c w reg :=
  congrArg (fun t : TunerView => t.i2c t.identity.tunerBusAddr reg) h

/-- The last steps of a rate program its ratio and leave the fields of the tuner. -/
theorem rateTail_ratio {ratio : UInt32}
    (h : (do programRatio ratio; reprogramIf : DevM Unit) env w = (.ok (), w')) :
    ratioRegs (page1 c w') = ratioBytes ratio := by
  obtain ⟨_, v, hv, h⟩ := Act.bind_eq_ok.mp h
  have hratio : ratioRegs (page1 c v) = ratioBytes ratio := by
    rw [programRatio_page1 hv, ratioRegs_withRatio]
  rw [reprogramIf, Act.bind_of_ok (device_apply env v)] at h
  split at h
  · obtain ⟨word, -, hpage⟩ := setIfFreq_page1 (c := c) h
    rw [hpage, ratioRegs_withNco, hratio]
  · cases h
    exact hratio

/-- What a rate leaves of the fields of the tuner. -/
theorem applyRate_fields (hw : R820t.InStep c w) (h : applyRate q env w = (.ok (), w')) :
    R820t.InStep c w' ∧ ratioRegs (page1 c w') = ratioBytes q.ratio ∧
      (tunerReg c w' 0x0A &&& 0x10, tunerReg c w' 0x0B &&& 0xEF) =
        if q.achievedHz ≥ 2000000 then ((settingBand q).filter, (settingBand q).lowPass)
        else (tunerReg c w 0x0A &&& 0x10, tunerReg c w 0x0B &&& 0xEF) := by
  obtain ⟨_, u, hu, h⟩ := Act.bind_eq_ok.mp h
  have huview : tunerView c u = tunerView c w := (keepsTuner_modifyTuning _).world hu
  have hustep : R820t.InStep c u := by
    rw [R820t.InStep, huview]
    exact hw
  have hclass : u.dev.identity.tunerClass.isR820t = true := hustep.isR820t
  have hband : needsBandwidth u.dev.identity q.achievedHz = decide (q.achievedHz ≥ 2000000) := by
    rw [needsBandwidth, hclass, Bool.true_and]
  rw [Act.bind_of_ok (device_apply env u), hband] at h
  by_cases hge : q.achievedHz ≥ 2000000
  · simp only [hge, decide_true, if_true] at h
    obtain ⟨_, v, hv, h⟩ := Act.bind_eq_ok.mp h
    have hview := (keepsTuner_rateTail (c := c) q.ratio).world h
    obtain ⟨h0a, h0b⟩ := setBandwidth_fields hustep hv
    refine ⟨?_, rateTail_ratio h, ?_⟩
    · rw [R820t.InStep, hview]
      exact (R820t.inStep_setBandwidth _).world hustep hv
    · rw [if_pos hge, tunerReg_view hview, tunerReg_view hview, h0a, h0b]
      rfl
  · simp only [hge, decide_false, Bool.false_eq_true, if_false] at h
    have hview := ((keepsTuner_rateTail (c := c) q.ratio).world h).trans huview
    refine ⟨?_, rateTail_ratio h, ?_⟩
    · rw [R820t.InStep, hview]
      exact hw
    · rw [if_neg hge, tunerReg_view hview, tunerReg_view hview]

/-- An R820T in step with its shadow file, with the band `band`. -/
structure Tuned (c : Chip) (b : BasebandState) (band : BandState) (w : World) : Prop where
  inStep : R820t.InStep c w
  baseband : w.dev.baseband = b
  bandState : bandState c w = band

/-- What a rate leaves: its band or else that of before, and its ratio. -/
theorem Tuned.setSampleRate {b : BasebandState} {band : BandState} {rateHz hz : UInt32}
    (hw : Tuned c b band w) (h : Sdr.setSampleRate rateHz env w = (.ok hz, w')) :
    Tuned c b ((rateBand b rateHz).getD band) w' ∧ NcoEncodes c w' ∧
      ∃ q, resampling b rateHz = some q ∧ ratioRegs (page1 c w') = ratioBytes q.ratio := by
  obtain ⟨-, q', hq', hconfig⟩ := setSampleRate_ok h
  obtain ⟨-, q, u, v, hq, hu, hv, hx⟩ := setSampleRate_applies h
  obtain rfl := Option.some_inj.mp (hq.symm.trans hq')
  rw [hw.baseband] at hq
  have huview : tunerView c u = tunerView c w := (keepsTuner_modifyTuning _).world hu
  have hview : tunerView c w' = tunerView c v := (keepsTuner_modifyTuning _).world hx
  have hpage : page1 c w' = page1 c v := (keepsPage1_modifyDevice _).world hx
  have hustep : R820t.InStep c u := by
    rw [R820t.InStep, huview]
    exact hw.inStep
  obtain ⟨hstep, hratio, hfields⟩ := applyRate_fields hustep hv
  rw [← tunerReg_view hview, ← tunerReg_view hview, tunerReg_view huview, tunerReg_view huview]
    at hfields
  have hclass : w.dev.identity.tunerClass.isR820t = true := hw.inStep.isR820t
  refine ⟨⟨?_, ?_, ?_⟩, setSampleRate_encodes h, q, hq, by rw [hpage, hratio]⟩
  · rw [R820t.InStep, hview]
    exact hstep
  · have hrated : (rated w.config q).baseband = w.config.baseband := by
      unfold rated
      split <;> rfl
    exact (congrArg Config.baseband hconfig).trans (hrated.trans hw.baseband)
  · have hif : w'.dev.tuning.ifOffsetHz = (rated w.config q).tuning.ifOffsetHz :=
      congrArg (fun c => c.tuning.ifOffsetHz) hconfig
    have hband : needsBandwidth w.config.identity q.achievedHz =
        decide (q.achievedHz ≥ 2000000) := by
      rw [needsBandwidth, World.config_identity, hclass, Bool.true_and]
    rw [rateBand, hq, Option.bind_some, ← hw.bandState]
    unfold Sdr.bandState
    rw [hif, rated, hband]
    by_cases hge : q.achievedHz ≥ 2000000
    · rw [if_pos hge] at hfields
      obtain ⟨h0a, h0b⟩ := Prod.mk.inj hfields
      simp only [hge, decide_true, if_true, Option.getD_some]
      rw [h0a, h0b]
      rfl
    · rw [if_neg hge] at hfields
      obtain ⟨h0a, h0b⟩ := Prod.mk.inj hfields
      simp only [hge, decide_false, Bool.false_eq_true, if_false, Option.getD_none]
      rw [h0a, h0b]
      rfl

theorem Tuned.run {b : BasebandState} {band : BandState} {rates : List UInt32}
    (hw : Tuned c b band w)
    (h : ProofKit.run (configStep env) w (rates.map .setSampleRate) = some w') :
    Tuned c b (rates.foldl (fun band rateHz => (rateBand b rateHz).getD band) band) w' := by
  induction rates generalizing w band with
  | nil =>
    cases h
    exact hw
  | cons rateHz rates ih =>
    obtain ⟨u, hu, h⟩ := Option.bind_eq_some_iff.mp h
    obtain ⟨hz, hu⟩ := perform_setSampleRate (configStep_eq_some.mp hu)
    exact ih (hw.setSampleRate hu).1 h

/-- An R820T that `open_path` returns, with its frequency correction set. -/
theorem bringUp_tuned {w0 : World} {ppm : Int32} (hblank : w0.dev = blankDevice)
    (hopen : bringUp env w0 = (.ok (), w)) (hfamily : w.dev.identity.tunerClass = .r820t)
    (hppm : setFreqCorrection ppm env w = (.ok (), u)) :
    Tuned c ⟨28800000, ppm⟩ powerUpBand u := by
  obtain ⟨_, v, hv, hdiscover⟩ := Act.bind_eq_ok.mp hopen
  have hbase : v.dev.baseband = ⟨28800000, 0⟩ := by
    rw [show v.dev.baseband = { w0.dev.baseband with oscillatorHz := 28800000 } from
      congrArg Config.baseband (init_ok hv), hblank]
    rfl
  have hwbase : w.dev.baseband = ⟨28800000, 0⟩ := by
    obtain h | h := discover_ok hdiscover <;> exact (congrArg Config.baseband h).trans hbase
  obtain ⟨-, x, hx⟩ | ⟨hclass, -⟩ := discover_family hdiscover
  · have hif : w.dev.tuning.ifOffsetHz = 3570000 :=
      congrArg (fun c => c.tuning.ifOffsetHz) (activate_r820t_ok hx)
    obtain ⟨_, y, -, hx⟩ := Act.bind_eq_ok.mp hx
    obtain ⟨_, z, hz, hx⟩ := Act.bind_eq_ok.mp hx
    obtain ⟨_, t, ht, hx⟩ := Act.bind_eq_ok.mp hx
    cases hx
    have hinit : R820t.init env z = (.ok (), w) := ht
    have hzclass : z.dev.identity.tunerClass.isR820t = true := by
      rw [← show w.dev.identity = z.dev.identity from
        congrArg Config.identity (R820t.keeps_init.world hinit), hfamily]
      rfl
    have hstep : R820t.InStep c w := R820t.inStep_init hzclass hinit
    have h0a : tunerReg c w 0x0A = 0xD6 :=
      (hstep.mirrors 5).trans (R820t.init_file (by decide) hzclass hinit)
    have h0b : tunerReg c w 0x0B = 0x6C :=
      (hstep.mirrors 6).trans (R820t.init_file (by decide) hzclass hinit)
    have hband : Sdr.bandState c w = powerUpBand := by
      unfold Sdr.bandState
      rw [hif, h0a, h0b]
      decide
    cases hppm
    exact ⟨hstep, congrArg (fun b : BasebandState => { b with freqOffsetPpm := ppm }) hwbase, hband⟩
  · exact absurd (hfamily.symm.trans hclass) (by decide)

end Rates

/-- What `set_sample_rate` programs is the same on two devices: the IF, the NCO and the ratio, and
the bandwidth fields of the tuner. -/
structure SameRate (cA cB : Chip) (wA wB : World) : Prop where
  ifOffset : wA.dev.tuning.ifOffsetHz = wB.dev.tuning.ifOffsetHz
  nco : nco (page1 cA wA) = nco (page1 cB wB)
  ratio : ratioRegs (page1 cA wA) = ratioRegs (page1 cB wB)
  filter : tunerReg cA wA 0x0A &&& 0x10 = tunerReg cB wB 0x0A &&& 0x10
  lowPass : tunerReg cA wA 0x0B &&& 0xEF = tunerReg cB wB 0x0B &&& 0xEF

/-- What a history of rates and a final one leave. -/
theorem Tuned.last {c : Chip} {env : Env} {b : BasebandState} {w u : World} {rates : List UInt32}
    {rateHz : UInt32} (hw : Tuned c b powerUpBand w)
    (h : ProofKit.run (configStep env) w ((rates ++ [rateHz]).map .setSampleRate) = some u) :
    Tuned c b ((rateBand b rateHz).getD (inheritedBand b rates)) u ∧ NcoEncodes c u ∧
      ∃ q, resampling b rateHz = some q ∧ ratioRegs (page1 c u) = ratioBytes q.ratio := by
  rw [List.map_append, run_append] at h
  obtain ⟨v, hv, h⟩ := Option.bind_eq_some_iff.mp h
  obtain ⟨t, ht, h⟩ := Option.bind_eq_some_iff.mp h
  obtain rfl := Option.some_inj.mp h
  obtain ⟨hz, hlast⟩ := perform_setSampleRate (configStep_eq_some.mp ht)
  exact (hw.run hv).setSampleRate hlast

/-- Devices whose NCOs hold the words of their IFs and whose ratios are the same are programmed the
same when their bands are. -/
theorem sameRate_iff {cA cB : Chip} {wA wB : World} {b : BasebandState} {bandA bandB : BandState}
    (hA : Tuned cA b bandA wA) (hB : Tuned cB b bandB wB) (hncoA : NcoEncodes cA wA)
    (hncoB : NcoEncodes cB wB) (hratio : ratioRegs (page1 cA wA) = ratioRegs (page1 cB wB)) :
    SameRate cA cB wA wB ↔ bandA = bandB := by
  rw [← hA.bandState, ← hB.bandState]
  constructor
  · intro h
    rw [bandState, bandState, h.ifOffset, h.filter, h.lowPass]
  · intro h
    obtain ⟨hif, h0a, h0b⟩ := BandState.mk.inj h
    obtain ⟨wordA, hwordA, hA'⟩ := hncoA
    obtain ⟨wordB, hwordB, hB'⟩ := hncoB
    rw [hA.baseband, hif] at hwordA
    rw [hB.baseband] at hwordB
    obtain rfl := Option.some_inj.mp (hwordA.symm.trans hwordB)
    exact ⟨hif, hA'.trans hB'.symm, hratio, h0a, h0b⟩

/-- Two R820Ts with one frequency correction are programmed the same by a final rate exactly when it
selects its band itself or the two histories left the same one. -/
theorem sample_rate_history {cA cB : Chip} {envA envB : Env} {oA oB vA vB wA wB uA uB : World}
    {ppm : Int32} (ratesA ratesB : List UInt32) (rateHz : UInt32)
    (hblankA : oA.dev = blankDevice) (hblankB : oB.dev = blankDevice)
    (hopenA : bringUp envA oA = (.ok (), vA)) (hopenB : bringUp envB oB = (.ok (), vB))
    (hfamilyA : vA.dev.identity.tunerClass = .r820t)
    (hfamilyB : vB.dev.identity.tunerClass = .r820t)
    (hppmA : setFreqCorrection ppm envA vA = (.ok (), wA))
    (hppmB : setFreqCorrection ppm envB vB = (.ok (), wB))
    (hrunA : run (configStep envA) wA ((ratesA ++ [rateHz]).map .setSampleRate) = some uA)
    (hrunB : run (configStep envB) wB ((ratesB ++ [rateHz]).map .setSampleRate) = some uB) :
    SameRate cA cB uA uB ↔
      (rateBand ⟨28800000, ppm⟩ rateHz).isSome ∨
        inheritedBand ⟨28800000, ppm⟩ ratesA = inheritedBand ⟨28800000, ppm⟩ ratesB := by
  obtain ⟨hA, hncoA, qA, hqA, hratioA⟩ :=
    (bringUp_tuned (c := cA) hblankA hopenA hfamilyA hppmA).last hrunA
  obtain ⟨hB, hncoB, qB, hqB, hratioB⟩ :=
    (bringUp_tuned (c := cB) hblankB hopenB hfamilyB hppmB).last hrunB
  obtain rfl := Option.some_inj.mp (hqA.symm.trans hqB)
  rw [sameRate_iff hA hB hncoA hncoB (hratioA.trans hratioB.symm)]
  rcases rateBand ⟨28800000, ppm⟩ rateHz with _ | band <;> simp

/-- The R820T that a steady kernel opens. -/
def steadyR820t : World := (bringUp steadyEnv blankWorld).2

theorem steadyR820t_eq : bringUp steadyEnv blankWorld = (.ok (), steadyR820t) :=
  Prod.fst_eq_iff.mp (by decide +kernel)

theorem steadyR820t_family : steadyR820t.dev.identity.tunerClass = .r820t := by decide +kernel

theorem setFreqCorrection_same {ppm : Int32} {w : World} (h : w.dev.baseband.freqOffsetPpm = ppm)
    (env : Env) : setFreqCorrection ppm env w = (.ok (), w) := by
  rw [← h]
  rfl

theorem steadyR820t_ppm : steadyR820t.dev.baseband.freqOffsetPpm = 0 := by decide +kernel

theorem sample_rate_history_low : ∃ uA uB : World,
    run (configStep steadyEnv) steadyR820t [.setSampleRate 1024000] = some uA ∧
    run (configStep steadyEnv) steadyR820t [.setSampleRate 2048000, .setSampleRate 1024000] =
      some uB ∧
    ¬SameRate blankChip blankChip uA uB := by
  have hA : (run (configStep steadyEnv) steadyR820t [.setSampleRate 1024000]).isSome := by
    decide +kernel
  have hB : (run (configStep steadyEnv) steadyR820t
      [.setSampleRate 2048000, .setSampleRate 1024000]).isSome := by
    decide +kernel
  obtain ⟨uA, huA⟩ := Option.isSome_iff_exists.mp hA
  obtain ⟨uB, huB⟩ := Option.isSome_iff_exists.mp hB
  have hppm := setFreqCorrection_same steadyR820t_ppm steadyEnv
  refine ⟨uA, uB, huA, huB, ?_⟩
  rw [sample_rate_history [] [2048000] 1024000 rfl rfl steadyR820t_eq steadyR820t_eq
    steadyR820t_family steadyR820t_family hppm hppm huA huB]
  decide +kernel

/-- At 1.024 MSPS one device has the IF of the power-up, the other one that of the 2.048 MSPS it was
set to before. -/
theorem sample_rate_inherited :
    (run (configStep steadyEnv) steadyR820t [.setSampleRate 1024000]).map
        (fun u => (u.dev.tuning.samplingRateHz, u.dev.tuning.ifOffsetHz)) =
      some (1024000, 3570000) ∧
    (run (configStep steadyEnv) steadyR820t [.setSampleRate 2048000, .setSampleRate 1024000]).map
        (fun u => (u.dev.tuning.samplingRateHz, u.dev.tuning.ifOffsetHz)) =
      some (1024000, 1625000) := by
  constructor <;> decide +kernel

end Sdrgg.Sdr
