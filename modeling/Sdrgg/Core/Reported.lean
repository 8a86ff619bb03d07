import Sdrgg.Core.Agreement
import Sdrgg.Core.Caps
import Sdrgg.Core.Writes
import Sdrgg.Fc0012.Chip

/-! The frequency that `set_frequency` reports against the LO that the registers of the PLL stand
for. -/

namespace Sdrgg.Sdr

open ProofKit Usb Rtl

/-! ### Histories of a device -/

/-- The calls of the configuration API. -/
inductive ApiCall where
  | config (call : ConfigCall)
  | setFreqCorrection (ppm : Int32)
deriving DecidableEq, Repr

def ApiCall.perform : ApiCall → DevM Unit
  | .config call => call.perform
  | .setFreqCorrection ppm => Sdr.setFreqCorrection ppm

/-- The world after a call, whatever it returned. -/
def apiStep (env : Env) (w : World) (call : ApiCall) : Option World :=
  match call.perform env w with
  | (.error .trap, _) => none
  | (_, w') => some w'

/-- A device of a family on its crystal, with one of the family's IFs. -/
structure Footed (caps : TunerCaps) (c : Config) : Prop where
  identity : c.identity = ⟨caps.tunerType, caps.i2cAddr⟩
  oscillator : c.baseband.oscillatorHz = 28800000
  lowIf : c.tuning.ifOffsetHz.toNat ≤ 4570000
  zeroIf : caps.tunerType = .fc0012 → c.tuning.ifOffsetHz = 0

section Histories

variable {caps : TunerCaps} {env : Env} {w w' : World}

theorem Opened.footed (hcaps : caps ∈ implementedCaps)
    (h : Opened caps.tunerType caps.i2cAddr caps.ifFreqHz w) : Footed caps w.config := by
  simp only [implementedCaps, List.mem_cons, List.not_mem_nil, or_false] at hcaps
  refine ⟨h.identity, h.oscillator, ?_, fun hfc => ?_⟩
  · rw [World.config_tuning, h.ifOffset]
    obtain rfl | rfl := hcaps <;> decide
  · rw [World.config_tuning, h.ifOffset]
    obtain rfl | rfl := hcaps
    · cases hfc
    · rfl

theorem Footed.noteRate {c : Config} (h : Footed caps c) (rateHz : UInt32) (rc : Int32) :
    Footed caps (noteRate c rateHz rc) :=
  ⟨h.identity, h.oscillator, h.lowIf, h.zeroIf⟩

theorem Footed.withRate {c : Config} (h : Footed caps c) (rateHz : UInt32) :
    Footed caps (c.withRate rateHz) :=
  ⟨h.identity, h.oscillator, h.lowIf, h.zeroIf⟩

theorem Footed.rated {c : Config} (h : Footed caps c) (hcaps : caps ∈ implementedCaps)
    {rateHz : UInt32} {q : Resampling} (hq : resampling c.baseband rateHz = some q) :
    Footed caps (rated c q) := by
  simp only [implementedCaps, List.mem_cons, List.not_mem_nil, or_false] at hcaps
  obtain rfl | rfl := hcaps
  · obtain ⟨xtal, hxtal, -⟩ := Option.bind_eq_some_iff.mp hq
    have hclass : c.identity.tunerClass.isR820t = true := by
      rw [h.identity]
      rfl
    refine ⟨(rated_identity c q).trans h.identity, ?_, ?_, fun hfc => absurd hfc (by decide)⟩
    · rw [rated_baseband]
      exact h.oscillator
    · obtain ⟨-, hif⟩ | ⟨khz, hkhz, hif⟩ := rated_ifOffset hclass hxtal hq
      · rw [hif]
        exact h.lowIf
      · have := selectedIf_le hkhz
        omega
  · have hband : needsBandwidth c.identity q.achievedHz = false := by
      rw [h.identity]
      rfl
    rw [Rtl.rated, hband, if_neg (by decide)]
    exact h.withRate _

theorem Footed.of_setSampleRate {rateHz : UInt32} {x : Except (Fault SdrggError) UInt32}
    (h : Footed caps w.config) (hcaps : caps ∈ implementedCaps) (htrap : x ≠ .error .trap)
    (hrun : setSampleRate rateHz env w = (x, w')) : Footed caps w'.config := by
  rcases x with (e | _) | hz
  · obtain ⟨-, hw'⟩ | ⟨-, q, hq, hw' | ⟨hw', -⟩⟩ := setSampleRate_error hrun
    · rw [hw']
      exact h.noteRate _ _
    · rw [hw']
      exact (h.withRate _).noteRate _ _
    · rw [hw']
      exact (h.rated hcaps hq).noteRate _ _
  · exact absurd rfl htrap
  · obtain ⟨-, q, hq, hw'⟩ := setSampleRate_ok hrun
    rw [hw']
    exact (h.rated hcaps hq).noteRate _ _

theorem setFrequency_off {freqHz : UInt32} {x : Except (Fault SdrggError) UInt32}
    (hrun : setFrequency freqHz env w = (x, w')) :
    w'.dev.identity = w.dev.identity ∧ w'.dev.baseband = w.dev.baseband ∧
      w'.dev.tuning.ifOffsetHz = w.dev.tuning.ifOffsetHz := by
  have hoff : OffTuning fun c => (c.identity, c.baseband, c.tuning.ifOffsetHz) :=
    ⟨fun _ _ => rfl, fun _ _ => rfl, fun _ _ => rfl, fun _ _ => rfl⟩
  obtain ⟨hidentity, heq⟩ := Prod.mk.inj ((hoff.keeps_setFrequency freqHz).world hrun)
  obtain ⟨hbaseband, hif⟩ := Prod.mk.inj heq
  exact ⟨hidentity, hbaseband, hif⟩

theorem Footed.of_setFrequency {freqHz : UInt32} {x : Except (Fault SdrggError) UInt32}
    (h : Footed caps w.config) (hrun : setFrequency freqHz env w = (x, w')) :
    Footed caps w'.config := by
  obtain ⟨hidentity, hbaseband, hif⟩ := setFrequency_off hrun
  refine ⟨hidentity.trans h.identity, ?_, ?_, fun hfc => hif.trans (h.zeroIf hfc)⟩
  · rw [World.config_baseband, hbaseband]
    exact h.oscillator
  · rw [World.config_tuning, hif]
    exact h.lowIf

theorem Footed.of_setGain {gainTenthDb : Int32} {x : Except (Fault SdrggError) Unit}
    (h : Footed caps w.config) (htrap : x ≠ .error .trap)
    (hrun : setGain gainTenthDb env w = (x, w')) : Footed caps w'.config := by
  rcases x with (e | _) | _
  · rw [setGain_error hrun]
    exact h
  · exact absurd rfl htrap
  · rw [setGain_ok hrun]
    exact ⟨h.identity, h.oscillator, h.lowIf, h.zeroIf⟩

/-- Every call leaves a device of its family with one of the family's IFs. -/
theorem apiStep_footed {call : ApiCall} (hcaps : caps ∈ implementedCaps)
    (h : Footed caps w.config) (hstep : apiStep env w call = some w') : Footed caps w'.config := by
  unfold apiStep at hstep
  rcases hrun : call.perform env w with ⟨x, u⟩
  rw [hrun] at hstep
  obtain ⟨htrap, rfl⟩ : x ≠ .error .trap ∧ u = w' := by
    rcases x with (e | _) | _
    · exact ⟨by simp, Option.some_inj.mp hstep⟩
    · cases hstep
    · exact ⟨by simp, Option.some_inj.mp hstep⟩
  rcases call with (freqHz | rateHz | gainTenthDb) | ppm
  · obtain ⟨y, hy, -⟩ := Act.discard_eq hrun
    exact h.of_setFrequency hy
  · obtain ⟨y, hy, hfault⟩ := Act.discard_eq hrun
    exact h.of_setSampleRate hcaps (fun htrap' => htrap (hfault _ htrap')) hy
  · exact h.of_setGain htrap hrun
  · cases hrun
    exact ⟨h.identity, h.oscillator, h.lowIf, h.zeroIf⟩

/-- So does every history of calls. -/
theorem run_footed {calls : List ApiCall} (hcaps : caps ∈ implementedCaps)
    (h : Footed caps w.config) (hrun : run (apiStep env) w calls = some w') :
    Footed caps w'.config := by
  induction calls generalizing w with
  | nil =>
    cases hrun
    exact h
  | cons call calls ih =>
    obtain ⟨u, hu, hrest⟩ := Option.bind_eq_some_iff.mp hrun
    exact ih (apiStep_footed hcaps h hu) hrest

/-- A correction after a history of calls has the nominal crystal to correct. -/
theorem setFreqCorrection_baseband {calls : List ApiCall} {ppm : Int32} {v : World}
    (hcaps : caps ∈ implementedCaps) (h : Footed caps w.config)
    (hrun : run (apiStep env) w calls = some w') (hset : setFreqCorrection ppm env w' = (.ok (), v)) :
    v.dev.baseband.oscillatorHz = 28800000 ∧ v.dev.baseband.freqOffsetPpm = ppm := by
  have hfooted := run_footed hcaps h hrun
  cases hset
  exact ⟨hfooted.oscillator, rfl⟩

end Histories

/-! ### The LO in the registers -/

/-- The LO that the PLL registers of the tuner stand for. -/
def decodedLo (c : Chip) (w : World) : ℚ :=
  if w.dev.identity.tunerClass = .fc0012 then
    Fc0012.loHz w.dev.baseband.oscillatorHz.toNat (tunerReg c w)
  else (R820t.pllFields (tunerReg c w)).loHz w.dev.baseband.oscillatorHz.toNat

/-- The frequencies for which the LO lies within one Hz of what is asked of it. -/
def OnGrid (w : World) (freqHz : UInt32) : Prop :=
  if w.dev.identity.tunerClass = .fc0012 then Fc0012.OnGrid freqHz.toNat
  else R820t.OnGrid (freqHz + w.dev.tuning.ifOffsetHz).toNat

section Registers

variable {c : Chip} {env : Env} {w w' : World} {freqHz hz : UInt32}

theorem keepsTuner_pauseBulk (dev : Device) : Keeps (tunerView c) (pauseBulk dev) := by
  unfold pauseBulk
  split
  · exact keepsTuner_stopBulk.ignore
  · exact Keeps.pure _

theorem keepsTuner_resumeBulk (dev : Device) : Keeps (tunerView c) (resumeBulk dev) := by
  unfold resumeBulk
  split
  · exact keepsTuner_startBulk.ignore
  · exact Keeps.pure _

/-- What `set_frequency` reports, and the tuning that it has made. -/
theorem setFrequency_tunes (h : setFrequency freqHz env w = (.ok hz, w')) :
    hz = freqHz ∧ ∃ u v, tune freqHz env u = (.ok (), v) ∧
      u.config = { w.config with tuning := { w.dev.tuning with requestedFreqHz := freqHz } } ∧
      tunerView c u = tunerView c w ∧ tunerView c w' = tunerView c v := by
  obtain ⟨_, u, hu, h⟩ := Act.bind_eq_ok.mp h
  rw [Act.bind_of_ok (device_apply env u)] at h
  obtain ⟨_, v, hv, h⟩ := Act.bind_eq_ok.mp h
  obtain ⟨rc, x, hx, h⟩ := Act.bind_eq_ok.mp h
  have hconfig := ((keeps_pauseBulk u.dev).world hv).trans (requestFreq_ok hu)
  obtain ⟨rfl, -⟩ := finishFreq_ok h
  obtain ⟨_, y, hy, h⟩ := Act.bind_eq_ok.mp h
  obtain ⟨_, z, hz, h⟩ := Act.bind_eq_ok.mp h
  cases h
  obtain ⟨_, -, htune⟩ | ⟨_, hrc, -⟩ := Act.attempt_eq_ok.mp hx
  · refine ⟨rfl, v, x, htune, hconfig, ?_, ?_⟩
    · have hrequest : tunerView c u = tunerView c w := by
        cases hu
        rfl
      rw [← hrequest]
      exact (keepsTuner_pauseBulk _).world hv
    · have hcommit : tunerView c y = tunerView c x := by
        cases hy
        rfl
      rw [← hcommit]
      exact (keepsTuner_resumeBulk _).world hz
  · cases hrc

theorem tunerReg_of_view {u : World} (h : tunerView c w = tunerView c u) :
    tunerReg c w = tunerReg c u :=
  congrArg TunerView.regs h

/-- The PLL of an R820T after a tuning, against the LO that the tuning asks for. -/
theorem loHz_r820t {lo : UInt32} {enc : R820t.PllEncoding} {regs : UInt8 → UInt8}
    (henc : R820t.encodingFor ⟨28800000, 0⟩ lo = some enc) (h : R820t.Holds regs enc) :
    |(R820t.pllFields regs).loHz 28800000 - lo.toNat| ≤ 1 ↔ R820t.OnGrid lo.toNat := by
  have hkhz : (28800000 : UInt32) / 1000 = 28800 := by decide
  have href : R820t.referenceKhz ⟨lo, 28800000, 0⟩ = 28800 :=
    (R820t.referenceKhz_of_ppm rfl).trans hkhz
  obtain ⟨candidates, hc, henc⟩ := Option.bind_eq_some_iff.mp henc
  obtain ⟨chosen, hchosen, henc⟩ := Option.bind_eq_some_iff.mp henc
  dsimp only at hchosen henc
  rw [href] at hchosen henc
  obtain ⟨horder, hsum⟩ := R820t.synthesis href hc hchosen henc h rfl
  exact R820t.loHz_within_iff horder hsum

/-- What the tuning of an R820T leaves of the LO it asks for. -/
theorem tune_r820t {ifHz : UInt32} (hclass : w.dev.identity.tunerClass.isR820t = true)
    (hbaseband : w.dev.baseband = ⟨28800000, 0⟩)
    (h : R820t.setFreq freqHz ifHz env w = (.ok (), w')) :
    |(R820t.pllFields (tunerReg c w')).loHz 28800000 - (freqHz + ifHz).toNat| ≤ 1 ↔
      R820t.OnGrid (freqHz + ifHz).toNat := by
  rw [R820t.setFreq_seen] at h
  obtain ⟨locked, u, hu, h⟩ := Act.bind_eq_ok.mp h
  cases h
  obtain ⟨enc, henc, hwrote⟩ := R820t.setFreqSeen_wrote (c := c) hclass hu
  rw [hbaseband] at henc
  exact loHz_r820t henc hwrote.holds

/-- What the tuning of an FC0012 leaves. -/
theorem tune_fc0012 (hosc : w.dev.baseband.oscillatorHz = 28800000)
    (h : Fc0012.setFreq freqHz env w = (.ok (), w')) :
    |Fc0012.loHz 28800000 (Fc0012.chipRegs c w') - freqHz.toNat| ≤ 1 ↔
      Fc0012.OnGrid freqHz.toNat := by
  have hhalf : w.dev.baseband.oscillatorHz / 2 = 14400000 := by
    rw [hosc]
    decide
  obtain ⟨total, sol, htotal, hsol, hfeasible, hholds⟩ := Fc0012.setFreq_ok (c := c) h
  rw [hhalf] at htotal hsol
  exact Fc0012.loHz_within_iff htotal hsol hfeasible hholds

theorem abs_offset {f ifHz sum : Nat} (h : sum = f + ifHz) (lo : ℚ) :
    |(f : ℚ) - (lo - ifHz)| = |lo - sum| := by
  rw [h, abs_sub_comm, sub_sub, Nat.cast_add, add_comm (ifHz : ℚ)]

/-- What is reported lies within one Hz of what the registers stand for exactly on the grid. -/
theorem setFrequency_within_iff {caps : TunerCaps} (hcaps : caps ∈ implementedCaps)
    (hfooted : Footed caps w.config) (hppm : w.dev.baseband.freqOffsetPpm = 0)
    (h : setFrequency freqHz env w = (.ok hz, w')) :
    |(hz.toNat : ℚ) - (decodedLo c w' - w'.dev.tuning.ifOffsetHz.toNat)| ≤ 1 ↔
      OnGrid w freqHz := by
  obtain ⟨rfl, u, v, htune, hconfig, -, hview⟩ := setFrequency_tunes (c := c) h
  obtain ⟨hidentity, hbaseband, hif⟩ := setFrequency_off h
  have hxtal : w.dev.baseband = ⟨28800000, 0⟩ := by
    rw [← hppm, ← hfooted.oscillator]
    rfl
  have hubaseband : u.dev.baseband = ⟨28800000, 0⟩ :=
    (congrArg Config.baseband hconfig).trans hxtal
  have huif : u.dev.tuning.ifOffsetHz = w.dev.tuning.ifOffsetHz :=
    congrArg (fun c => c.tuning.ifOffsetHz) hconfig
  have huclass : u.dev.identity = w.dev.identity := congrArg Config.identity hconfig
  have hregs := tunerReg_of_view hview
  have hwidentity : w.dev.identity = ⟨caps.tunerType, caps.i2cAddr⟩ := hfooted.identity
  rw [tune, Act.bind_of_ok (device_apply env u), huclass] at htune
  rw [decodedLo, OnGrid, hidentity, hbaseband, hif, hxtal]
  simp only [implementedCaps, List.mem_cons, List.not_mem_nil, or_false] at hcaps
  obtain rfl | rfl := hcaps
  · have hclass : w.dev.identity.tunerClass = .r820t := congrArg DeviceIdentity.tunerClass hwidentity
    have hne : w.dev.identity.tunerClass ≠ .fc0012 := by
      rw [hclass]
      decide
    rw [if_neg hne, huif] at htune
    rw [if_neg hne, if_neg hne, hregs]
    have hsum : (hz + w.dev.tuning.ifOffsetHz).toNat = _ :=
      toNat_loTarget hfooted.lowIf (R820t.setFreq_ok htune).2.1
    rw [abs_offset hsum]
    exact tune_r820t (by rw [huclass, hclass]; rfl) hubaseband htune
  · have hclass : w.dev.identity.tunerClass = .fc0012 :=
      congrArg DeviceIdentity.tunerClass hwidentity
    have hzero : w.dev.tuning.ifOffsetHz = 0 := hfooted.zeroIf rfl
    have hchip : tunerReg c w' = Fc0012.chipRegs c v := by
      have haddr : w'.dev.identity.tunerBusAddr = 0xC6 := by
        rw [hidentity, hwidentity]
        rfl
      rw [tunerReg_eq, TunerView.regs, show (tunerView c w').identity.tunerBusAddr = 0xC6 from haddr,
        hview]
      rfl
    have hsum : hz.toNat = hz.toNat + w.dev.tuning.ifOffsetHz.toNat := by
      rw [hzero]
      rfl
    rw [if_pos hclass] at htune
    rw [if_pos hclass, if_pos hclass, hchip, abs_offset hsum]
    exact tune_fc0012 (congrArg BasebandState.oscillatorHz hubaseband) htune

end Registers

/-- Over every history of a device, a frequency that is set without correction is reported to within
the advertised step of what the registers of the PLL stand for exactly when it lies on the grid. -/
theorem reported_within_step {c : Chip} {env : Env} {caps : TunerCaps}
    (hcaps : caps ∈ implementedCaps) {w0 w w' : World} {calls : List ApiCall}
    (hopen : Opened caps.tunerType caps.i2cAddr caps.ifFreqHz w0)
    (hrun : run (apiStep env) w0 calls = some w) (hppm : w.dev.baseband.freqOffsetPpm = 0)
    {freqHz hz : UInt32} (h : setFrequency freqHz env w = (.ok hz, w')) :
    |(hz.toNat : ℚ) - (decodedLo c w' - w'.dev.tuning.ifOffsetHz.toNat)| ≤ caps.pllStepHz.toNat ↔
      OnGrid w freqHz := by
  have hstep : caps.pllStepHz = 1 := by
    have hmem := hcaps
    simp only [implementedCaps, List.mem_cons, List.not_mem_nil, or_false] at hmem
    obtain rfl | rfl := hmem <;> rfl
  rw [hstep, UInt32.toNat_one, Nat.cast_one]
  exact setFrequency_within_iff hcaps (run_footed hcaps (hopen.footed hcaps) hrun) hppm h

/-- At 100.05 MHz the ratio of an FC0012 is exact. -/
theorem reported_within_step_exact : ∃ w', setFrequency 100050000 steadyEnv openedFc0012 =
      (.ok 100050000, w') ∧
    |((100050000 : UInt32).toNat : ℚ) -
      (decodedLo blankChip w' - w'.dev.tuning.ifOffsetHz.toNat)| ≤ fc0012Caps.pllStepHz.toNat := by
  have hset : (setFrequency 100050000 steadyEnv openedFc0012).1 = .ok 100050000 := by
    decide +kernel
  have hrun : setFrequency 100050000 steadyEnv openedFc0012 = (.ok 100050000, _) :=
    Prod.fst_eq_iff.mp hset
  have hnone : run (apiStep steadyEnv) openedFc0012 [] = some openedFc0012 := rfl
  refine ⟨_, hrun, (reported_within_step (by simp [implementedCaps]) openedFc0012_opened hnone rfl
    hrun).mpr ?_⟩
  have hclass : openedFc0012.dev.identity.tunerClass = .fc0012 := rfl
  rw [OnGrid, if_pos hclass]
  unfold Fc0012.OnGrid
  decide +kernel

/-- An R820T that is asked for 918.23 MHz receives 918.03 MHz, and an FC0012 misses 100 MHz by six
Hz; both report what they were asked for. -/
theorem reported_off :
    (setFrequency 918230000 steadyEnv openedR820t).1 = .ok 918230000 ∧
    decodedLo blankChip (setFrequency 918230000 steadyEnv openedR820t).2 -
      (setFrequency 918230000 steadyEnv openedR820t).2.dev.tuning.ifOffsetHz.toNat = 918030000 ∧
    r820tCaps.pllStepHz = 1 ∧
    (setFrequency 100000000 steadyEnv openedFc0012).1 = .ok 100000000 ∧
    decodedLo blankChip (setFrequency 100000000 steadyEnv openedFc0012).2 -
      (setFrequency 100000000 steadyEnv openedFc0012).2.dev.tuning.ifOffsetHz.toNat =
        100000000 - 3125 / 512 ∧
    fc0012Caps.pllStepHz = 1 := by
  refine ⟨?_, ?_, rfl, ?_, ?_, rfl⟩ <;> decide +kernel

end Sdrgg.Sdr
