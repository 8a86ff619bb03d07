import Sdrgg.Fc0012.Accuracy
import Sdrgg.Fc0012.Codec
import Sdrgg.Rtl.Chip

/-! The registers of an FC0012 after its wire accesses and its tuning sessions. -/

namespace Sdrgg.Fc0012

open ProofKit Usb Rtl

/-- The registers of the tuner at the address of the FC0012. -/
def chipRegs (c : Chip) (w : World) : UInt8 → UInt8 := (chip c w).i2c 0xC6

/-- The registers after the commands of a list. -/
def commanded (cmds : List WireCmd) (regs : UInt8 → UInt8) : UInt8 → UInt8 :=
  cmds.foldl (fun regs cmd => Function.update regs cmd.location cmd.content) regs

section Wire

variable {c : Chip} {env : Env} {w w' : World}

theorem keepsRegs_of_tuner {α : Type} {m : DevM α} (h : Keeps (tunerView c) m) :
    Keeps (chipRegs c) m :=
  h.comp fun t => t.i2c 0xC6

theorem wireWrite_ok {location content : UInt8}
    (h : wireWrite location content env w = (.ok (), w')) :
    chipRegs c w' = Function.update (chipRegs c w) location content := by
  obtain ⟨_, u, hu, h⟩ := Act.bind_eq_ok.mp h
  have hopen := (keepsRegs_of_tuner (c := c) (keepsTuner_enableI2cRepeater true).ignore).world hu
  rw [← hopen, chipRegs, controlWrite_ok h]
  exact Function.update_self (0xC6 : UInt16) _ (chip c u).i2c

theorem wireWrite_error {location content : UInt8} {e : Fault SdrggError}
    (h : wireWrite location content env w = (.error e, w')) : chipRegs c w' = chipRegs c w := by
  have hopen := keepsRegs_of_tuner (c := c) (keepsTuner_enableI2cRepeater true).ignore
  obtain h | ⟨_, u, hu, h⟩ := Act.bind_eq_fault.mp h
  · exact hopen.world h
  · rw [← hopen.world hu, chipRegs, controlWrite_error h]
    rfl

/-- A wire write leaves the other registers, whether it arrives or not. -/
theorem keepsReg_wireWrite {location content reg : UInt8} (h : reg ≠ location) :
    Keeps (fun w => chipRegs c w reg) (wireWrite location content) := by
  intro env w
  rcases hrun : wireWrite location content env w with ⟨e | _, u⟩
  · exact congrFun (wireWrite_error hrun) reg
  · exact (congrFun (wireWrite_ok hrun) reg).trans (Function.update_of_ne h _ _)

theorem keepsRegs_wireRead (location content : UInt8) :
    Keeps (chipRegs c) (wireRead location content) := by
  have hselect : Keeps (tunerView c) (controlWrite 0xC6 0x0610 [location]) :=
    keepsTuner_controlWrite fun c => Function.update_eq_self (0xC6 : UInt16) c.i2c
  exact keepsRegs_of_tuner ((keepsTuner_enableI2cRepeater true).ignore.bind fun _ =>
    hselect.bind fun _ => (keepsTuner_controlRead _ _ _ _).bind fun _ => Keeps.pure _)

theorem dispatchCommands_ok {cmds : List WireCmd}
    (h : dispatchCommands cmds env w = (.ok (), w')) :
    chipRegs c w' = commanded cmds (chipRegs c w) := by
  induction cmds generalizing w with
  | nil =>
    cases h
    rfl
  | cons cmd cmds ih =>
    obtain ⟨_, u, hu, h⟩ := Act.bind_eq_ok.mp h
    rw [ih h, wireWrite_ok hu]
    rfl

end Wire

/-! ### Tuning sessions -/

section Sessions

variable {c : Chip} {env : Env} {w w' : World}

/-- The calibration writes registers 0x0E and 0x06 at most. -/
theorem keepsReg_runCalibrationPolicy {bwReg reg : UInt8} {elevatedBias : Bool}
    (htrigger : reg ≠ 0x0E) (hbias : reg ≠ 0x06) :
    Keeps (fun w => chipRegs c w reg) (runCalibrationPolicy bwReg elevatedBias) := by
  have hpulse : Keeps (fun w => chipRegs c w reg) triggerCalibration :=
    (keepsReg_wireWrite htrigger).ignore.bind fun _ => (keepsReg_wireWrite htrigger).ignore
  refine hpulse.bind fun _ => Keeps.bind ?_ fun raw => ?_
  · exact Keeps.orElse ((keepsRegs_wireRead _ _).comp fun regs => regs reg) 0
  · dsimp only
    split
    · exact Keeps.pure _
    · exact (keepsReg_wireWrite hbias).ignore.bind fun _ => hpulse.bind fun _ => Keeps.pure _

/-- Bit 1 of the VCO register says which half of the multipliers is used. -/
theorem bias_bandwidth (bwReg : UInt8) :
    (bwReg &&& ~~~0x08) &&& 0x02 = bwReg &&& 0x02 ∧ (bwReg ||| 0x08) &&& 0x02 = bwReg &&& 0x02 := by
  have hall : ∀ n < 256, (UInt8.ofNat n &&& ~~~0x08) &&& 0x02 = UInt8.ofNat n &&& 0x02 ∧
      (UInt8.ofNat n ||| 0x08) &&& 0x02 = UInt8.ofNat n &&& 0x02 := by
    decide +kernel
  simpa using hall bwReg.toNat bwReg.toNat_lt

theorem biasCorrection_bandwidth {bwReg corrected : UInt8} {elevatedBias : Bool}
    {verdict : CalibrationVerdict} (h : biasCorrection bwReg elevatedBias verdict = some corrected) :
    corrected &&& 0x02 = bwReg &&& 0x02 := by
  obtain ⟨hlower, hraise⟩ := bias_bandwidth bwReg
  cases verdict with
  | locked => cases h
  | overCeiling =>
    cases elevatedBias with
    | false => cases h
    | true =>
      obtain rfl := Option.some_inj.mp h
      exact hlower
  | underFloor =>
    cases elevatedBias with
    | true => cases h
    | false =>
      obtain rfl := Option.some_inj.mp h
      exact hraise

/-- A write of the VCO register that keeps its bit 1 keeps that of the chip. -/
theorem keepsBandwidth_wireWrite {content bandwidth : UInt8} (h : content &&& 0x02 = bandwidth) :
    Preserves env (fun w => chipRegs c w 0x06 &&& 0x02 = bandwidth) (wireWrite 0x06 content) := by
  intro w hw
  rcases hrun : wireWrite 0x06 content env w with ⟨e | _, u⟩
  · change chipRegs c u 0x06 &&& 0x02 = bandwidth
    rw [wireWrite_error hrun]
    exact hw
  · change chipRegs c u 0x06 &&& 0x02 = bandwidth
    rw [wireWrite_ok hrun, Function.update_self]
    exact h

theorem keepsBandwidth_runCalibrationPolicy {bwReg bandwidth : UInt8} {elevatedBias : Bool}
    (h : bwReg &&& 0x02 = bandwidth) :
    Preserves env (fun w => chipRegs c w 0x06 &&& 0x02 = bandwidth)
      (runCalibrationPolicy bwReg elevatedBias) := by
  have hkept {α : Type} {m : DevM α} (hm : Keeps (fun w => chipRegs c w 0x06) m) :
      Preserves env (fun w => chipRegs c w 0x06 &&& 0x02 = bandwidth) m :=
    hm.preserves fun w w' heq hw => heq ▸ hw
  have hwrite : Keeps (fun w => chipRegs c w 0x06) triggerCalibration :=
    (keepsReg_wireWrite (by decide)).ignore.bind fun _ => (keepsReg_wireWrite (by decide)).ignore
  refine (hkept hwrite).bind fun _ => Preserves.bind ?_ fun raw => ?_
  · exact hkept (Keeps.orElse ((keepsRegs_wireRead _ _).comp fun regs => regs 0x06) 0)
  · dsimp only
    split
    · exact Preserves.pure _
    · rename_i corrected hcorrected
      exact (keepsBandwidth_wireWrite
        ((biasCorrection_bandwidth hcorrected).trans h)).ignore.bind fun _ =>
          (hkept hwrite).bind fun _ => Preserves.pure _

theorem bwComposed_bandwidth (plan : MultiplierSelection) :
    bwComposed plan &&& 0x02 = deriveBandwidthBase plan.multiplierIndex &&& 0x02 := by
  unfold bwComposed deriveBandwidthBase
  by_cases hodd : plan.multiplierIndex &&& 1 ≠ 0
  · rw [if_pos hodd]
    cases plan.elevatedBias <;> decide
  · rw [if_neg hodd]
    cases plan.elevatedBias <;> decide

/-- A session leaves its plan and its solution in the registers. -/
theorem stageSession_ok {plan : MultiplierSelection} {sol : PllRatioSolution}
    (h : stageSession plan sol env w = (.ok (), w')) : Holds (chipRegs c w') plan sol := by
  obtain ⟨_, u, hu, h⟩ := Act.bind_eq_ok.mp h
  obtain ⟨_, v, hv, h⟩ := Act.bind_eq_ok.mp h
  cases h
  have hcmds := dispatchCommands_ok (c := c) hu
  have hkept {reg : UInt8} (htrigger : reg ≠ 0x0E) (hbias : reg ≠ 0x06) :
      chipRegs c w' reg = chipRegs c u reg :=
    (keepsReg_runCalibrationPolicy htrigger hbias).world hv
  refine ⟨?_, ?_, ?_, ?_, ?_, ?_⟩
  · rw [hkept (by decide) (by decide), hcmds]
    rfl
  · rw [hkept (by decide) (by decide), hcmds]
    rfl
  · rw [hkept (by decide) (by decide), hcmds]
    rfl
  · rw [hkept (by decide) (by decide), hcmds]
    rfl
  · rw [hkept (by decide) (by decide), hcmds]
    rfl
  · refine (keepsBandwidth_runCalibrationPolicy (bwComposed_bandwidth plan)).world ?_ hv
    rw [hcmds]
    exact bwComposed_bandwidth plan

/-- What a session that succeeds has solved, and that the registers hold it. -/
theorem executeTuningSession_ok {freqHz : UInt32}
    (h : executeTuningSession freqHz env w = (.ok (), w')) :
    ∃ total sol,
      computeRawRatio (deriveMultiplier freqHz).vcoHz (w.dev.baseband.oscillatorHz / 2) =
        some total ∧
      normalizeRatio total (deriveMultiplier freqHz).vcoHz (w.dev.baseband.oscillatorHz / 2) =
        some sol ∧
      sol.feasible = true ∧ Holds (chipRegs c w') (deriveMultiplier freqHz) sol := by
  rw [executeTuningSession, Act.bind_of_ok (device_apply env w)] at h
  split at h
  · cases h
  · obtain ⟨total, u, hu, h⟩ := Act.bind_eq_ok.mp h
    obtain ⟨htotal, rfl⟩ := Act.ofOption_eq_ok.mp hu
    obtain ⟨sol, v, hv, h⟩ := Act.bind_eq_ok.mp h
    obtain ⟨hsol, rfl⟩ := Act.ofOption_eq_ok.mp hv
    cases hfeasible : sol.feasible with
    | false =>
      rw [hfeasible] at h
      cases h
    | true =>
      rw [hfeasible] at h
      exact ⟨total, sol, htotal, hsol, hfeasible, stageSession_ok h⟩

theorem setFreq_ok {freqHz : UInt32} (h : setFreq freqHz env w = (.ok (), w')) :
    ∃ total sol,
      computeRawRatio (deriveMultiplier freqHz).vcoHz (w.dev.baseband.oscillatorHz / 2) =
        some total ∧
      normalizeRatio total (deriveMultiplier freqHz).vcoHz (w.dev.baseband.oscillatorHz / 2) =
        some sol ∧
      sol.feasible = true ∧ Holds (chipRegs c w') (deriveMultiplier freqHz) sol := by
  obtain ⟨_, u, hu, h⟩ := Act.bind_eq_ok.mp h
  obtain ⟨_, v, hv, hu⟩ := Act.bind_eq_ok.mp hu
  cases h
  have hbaseband : v.dev.baseband = w.dev.baseband :=
    congrArg Config.baseband ((keeps_prepareFreq freqHz).world hv)
  have hsession := executeTuningSession_ok (c := c) hu
  rw [hbaseband] at hsession
  exact hsession

end Sessions

end Sdrgg.Fc0012
