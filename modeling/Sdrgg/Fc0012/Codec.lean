import Sdrgg.Fc0012.Ratio
import Sdrgg.Rtl.Registers

/-! The FC0012 codec: wire accesses, cold start, tuning sessions with their VCO calibration, and
gain states. -/

namespace Sdrgg.Fc0012

open ProofKit Usb Rtl

/-! ### Wire accesses -/

/-- `wire_write`, which does not look at what opening the repeater returned. -/
def wireWrite (location content : UInt8) : DevM Unit := do
  Act.ignore (enableI2cRepeater true)
  controlWrite 0xC6 0x0610 [location, content]

/-- `wire_read` into the caller's variable `content`. -/
def wireRead (location content : UInt8) : DevM UInt8 := do
  Act.ignore (enableI2cRepeater true)
  controlWrite 0xC6 0x0610 [location]
  let data ← controlRead 0xC6 0x0600 1 [content]
  return data.headD content

/-- `wire_cmd`. -/
structure WireCmd where
  location : UInt8
  content : UInt8
deriving DecidableEq, Repr

def dispatchCommands (cmds : List WireCmd) : DevM Unit :=
  cmds.forM fun cmd => wireWrite cmd.location cmd.content

/-! ### Cold start -/

def rfFrontendCmds : List WireCmd := [⟨0x01, 0x05⟩, ⟨0x02, 0x10⟩, ⟨0x03, 0x00⟩, ⟨0x04, 0x00⟩]

def synthesizerIdleCmds : List WireCmd :=
  [⟨0x05, 0x0F⟩, ⟨0x06, 0x00⟩, ⟨0x07, 0x20⟩, ⟨0x0A, 0xB8⟩, ⟨0x0E, 0x00⟩]

def agcLoopCmds : List WireCmd := [⟨0x08, 0xFF⟩, ⟨0x09, 0x6E⟩, ⟨0x0C, 0xFE⟩, ⟨0x0D, 0x02⟩]

def outputRoutingCmds : List WireCmd :=
  [ ⟨0x0B, 0x82⟩, ⟨0x0F, 0x00⟩, ⟨0x10, 0x00⟩, ⟨0x11, 0x00⟩, ⟨0x12, 0x1F⟩, ⟨0x13, 0x00⟩,
    ⟨0x14, 0x00⟩, ⟨0x15, 0x04⟩ ]

def initCapabilities : List (List WireCmd) :=
  [rfFrontendCmds, synthesizerIdleCmds, agcLoopCmds, outputRoutingCmds]

def applyInitCapabilities : DevM Unit := initCapabilities.forM dispatchCommands

/-- One reset of the tuner by a pin, and whether the chip identity is read after it. -/
def probeGpio (gpio : UInt8) : DevM Bool := do
  setGpioOutput gpio
  setGpioBit gpio true
  setGpioBit gpio false
  match ← Act.attempt (wireRead 0x00 0) with
  | .ok chipId => return chipId = 0xA1
  | .error _ => return false

def detect : DevM Unit := do
  Act.ignore (enableI2cRepeater true)
  Act.ignore (controlWrite 0x00 0x0610 [0])
  Act.ignore (enableI2cRepeater false)
  if ← probeGpio 4 then pure ()
  else if ← probeGpio 7 then pure ()
  else Act.fail .io

def init : DevM Unit := do
  setGpioOutput 6
  applyInitCapabilities
  Act.ignore (wireWrite 0x0D 0x0A)
  Act.ignore (wireWrite 0x13 0x02)

/-! ### Tuning sessions -/

inductive CalibrationVerdict where
  | locked
  | overCeiling
  | underFloor
deriving DecidableEq, Repr

structure CalibrationOutcome where
  rawCode : UInt8
  verdict : CalibrationVerdict
  biasAdjusted : Bool
deriving DecidableEq, Repr

def classifyCalibration (rawCode : UInt8) : CalibrationVerdict :=
  if rawCode > 0x3C then .overCeiling else if rawCode < 0x02 then .underFloor else .locked

/-- The corrected VCO register, when the verdict asks for a correction. -/
def biasCorrection (bwReg : UInt8) (elevatedBias : Bool) : CalibrationVerdict → Option UInt8
  | .locked => none
  | .overCeiling => if elevatedBias then some (bwReg &&& ~~~0x08) else none
  | .underFloor => if elevatedBias then none else some (bwReg ||| 0x08)

def triggerCalibration : DevM Unit := do
  Act.ignore (wireWrite 0x0E 0x80)
  Act.ignore (wireWrite 0x0E 0x00)

/-- `run_calibration_policy`, whose transfers may all fail unnoticed. -/
def runCalibrationPolicy (bwReg : UInt8) (elevatedBias : Bool) : DevM CalibrationOutcome := do
  triggerCalibration
  let raw ← Act.orElse (wireRead 0x0E 0) 0
  let rawCode := raw &&& 0x3F
  let verdict := classifyCalibration rawCode
  match biasCorrection bwReg elevatedBias verdict with
  | none => return ⟨rawCode, verdict, false⟩
  | some bwReg =>
    Act.ignore (wireWrite 0x06 bwReg)
    triggerCalibration
    return ⟨rawCode, verdict, true⟩

/-- The VCO register of a tuning session. -/
def bwComposed (plan : MultiplierSelection) : UInt8 :=
  let bw := deriveBandwidthBase plan.multiplierIndex
  let bw := if plan.elevatedBias then bw ||| 0x08 else bw
  ((bw ||| 0x20) &&& 0x3F) ||| 0x80

def tuningCmds (plan : MultiplierSelection) (sol : PllRatioSolution) : List WireCmd :=
  let packed := packRatio sol
  [ ⟨0x01, packed.regRemainder⟩, ⟨0x02, packed.regQuotient⟩, ⟨0x03, packed.regFracMsb⟩,
    ⟨0x04, packed.regFracLsb⟩, ⟨0x05, deriveDividerEncoding plan.multiplierIndex ||| 0x07⟩,
    ⟨0x06, bwComposed plan⟩ ]

/-- The stage and calibrate phases of a session. -/
def stageSession (plan : MultiplierSelection) (sol : PllRatioSolution) : DevM Unit := do
  dispatchCommands (tuningCmds plan sol)
  let _ ← runCalibrationPolicy (bwComposed plan) plan.elevatedBias

def executeTuningSession (freqHz : UInt32) : DevM Unit := do
  let dev ← device
  let halfXtal := dev.baseband.oscillatorHz / 2
  let plan := deriveMultiplier freqHz
  if !plan.valid then Act.fail .param
  else
    let rawRatio ← Act.ofOption (computeRawRatio plan.vcoHz halfXtal)
    let sol ← Act.ofOption (normalizeRatio rawRatio plan.vcoHz halfXtal)
    if !sol.feasible then Act.fail .param else stageSession plan sol

/-- What `set_freq` does before its session, without a look at the results. -/
def prepareFreq (freqHz : UInt32) : DevM Unit := do
  -- block 1 is the USB block: of the three writes only the second reaches the demodulator
  Act.ignore (demodWrite 1 0xB1 0x1B)
  Act.ignore (demodWrite 0 0x08 0xCD)
  Act.ignore (demodWrite 1 0x15 0x00)
  setGpioBit 6 (freqHz > 300000000)

/-- The transfers of `set_freq`. -/
def programFreq (freqHz : UInt32) : DevM Unit := do
  prepareFreq freqHz
  executeTuningSession freqHz

def setFreq (freqHz : UInt32) : DevM Unit := do
  programFreq freqHz
  modifyTuning fun t => { t with centerFreqHz := freqHz }

/-! ### Gain -/

/-- `gain_capability`. -/
structure GainCapability where
  floorTenthDb : Int32
  hwCode : UInt8
deriving DecidableEq, Repr

def gainStates : List GainCapability :=
  [⟨-99, 0x02⟩, ⟨-40, 0x00⟩, ⟨71, 0x08⟩, ⟨179, 0x17⟩, ⟨192, 0x10⟩]

/-- The last state of the leading ones whose floor is reached, or else the first. -/
def resolveGainState (requestedTenthDb : Int32) : GainCapability :=
  (gainStates.tail.takeWhile fun state => requestedTenthDb ≥ state.floorTenthDb).getLastD ⟨-99, 0x02⟩

def setGain (gainTenthDb : Int32) : DevM Unit := do
  let lnaOvr ← wireRead 0x0D 0
  if lnaOvr &&& 0x08 = 0 then wireWrite 0x0D (lnaOvr ||| 0x08)
  let buf ← uninitialised 1
  let current ← wireRead 0x13 (buf.headD 0)
  wireWrite 0x13 ((current &&& 0xE0) ||| (resolveGainState gainTenthDb).hwCode)

def setAutoGain : DevM Unit := do
  let lnaOvr ← wireRead 0x0D 0
  wireWrite 0x0D (lnaOvr &&& ~~~0x08)

/-! ### What the operations leave alone -/

section Frames

@[grind ←] theorem keeps_wireWrite (location content : UInt8) :
    Keeps World.config (wireWrite location content) := by
  grind [wireWrite]

@[grind ←] theorem keeps_wireRead (location content : UInt8) :
    Keeps World.config (wireRead location content) := by
  grind [wireRead]

@[grind ←] theorem keeps_dispatchCommands (cmds : List WireCmd) :
    Keeps World.config (dispatchCommands cmds) :=
  Keeps.forM cmds fun _ _ => keeps_wireWrite _ _

@[grind ←] theorem keeps_applyInitCapabilities : Keeps World.config applyInitCapabilities :=
  Keeps.forM _ fun _ _ => keeps_dispatchCommands _

@[grind ←] theorem keeps_probeGpio (gpio : UInt8) : Keeps World.config (probeGpio gpio) := by
  grind [probeGpio]

@[grind ←] theorem keeps_detect : Keeps World.config detect := by
  grind [detect]

@[grind ←] theorem keeps_init : Keeps World.config init := by
  grind [init]

@[grind ←] theorem keeps_triggerCalibration : Keeps World.config triggerCalibration := by
  grind [triggerCalibration]

@[grind ←] theorem keeps_runCalibrationPolicy (bwReg : UInt8) (elevatedBias : Bool) :
    Keeps World.config (runCalibrationPolicy bwReg elevatedBias) := by
  grind [runCalibrationPolicy]

@[grind ←] theorem keeps_stageSession (plan : MultiplierSelection) (sol : PllRatioSolution) :
    Keeps World.config (stageSession plan sol) := by
  grind [stageSession]

@[grind ←] theorem keeps_executeTuningSession (freqHz : UInt32) :
    Keeps World.config (executeTuningSession freqHz) := by
  grind [executeTuningSession]

@[grind ←] theorem keeps_prepareFreq (freqHz : UInt32) :
    Keeps World.config (prepareFreq freqHz) := by
  grind [prepareFreq]

@[grind ←] theorem keeps_programFreq (freqHz : UInt32) :
    Keeps World.config (programFreq freqHz) := by
  grind [programFreq]

@[grind ←] theorem keeps_setGain (gainTenthDb : Int32) :
    Keeps World.config (setGain gainTenthDb) := by
  grind [setGain]

@[grind ←] theorem keeps_setAutoGain : Keeps World.config setAutoGain := by
  grind [setAutoGain]

theorem setFreq_fault {freqHz : UInt32} {env : Env} {w w' : World} {e : Fault SdrggError}
    (h : setFreq freqHz env w = (.error e, w')) : w'.config = w.config := by
  obtain hu | ⟨_, u, -, h⟩ := Act.bind_eq_fault.mp h
  · exact (keeps_programFreq freqHz).world hu
  · cases h

end Frames

/-! ### Start-up does not trap -/

@[grind ←] theorem defined_wireWrite (location content : UInt8) :
    Defined (wireWrite location content) := by
  grind [wireWrite]

@[grind ←] theorem defined_wireRead (location content : UInt8) :
    Defined (wireRead location content) := by
  grind [wireRead]

@[grind ←] theorem defined_dispatchCommands (cmds : List WireCmd) :
    Defined (dispatchCommands cmds) :=
  Defined.forM cmds fun _ _ => defined_wireWrite _ _

@[grind ←] theorem defined_probeGpio (gpio : UInt8) : Defined (probeGpio gpio) := by
  grind [probeGpio]

theorem defined_detect : Defined detect := by
  grind [detect]

theorem defined_init : Defined init := by
  grind [init, applyInitCapabilities]

/-! ### Tuning succeeds when its transfers do and the ratio is feasible -/

section Succeeds

variable {env : Env} (h : env.Accepts)

include h

theorem total_wireWrite {location content : UInt8} : Total env (wireWrite location content) :=
  (total_enableI2cRepeater h).ignore.bind fun _ => total_tunerTransfer h

theorem total_wireRead {location content : UInt8} : Total env (wireRead location content) :=
  (total_enableI2cRepeater h).ignore.bind fun _ => (total_tunerTransfer h).bind fun _ =>
    (total_controlRead h).bind fun _ => .pure _

theorem total_dispatchCommands {cmds : List WireCmd} : Total env (dispatchCommands cmds) :=
  Total.forM cmds fun _ _ => total_wireWrite h

theorem total_runCalibrationPolicy {bwReg : UInt8} {elevatedBias : Bool} :
    Total env (runCalibrationPolicy bwReg elevatedBias) := by
  have htrigger : Total env triggerCalibration :=
    (total_wireWrite h).ignore.bind fun _ => (total_wireWrite h).ignore
  refine htrigger.bind fun _ => ((total_wireRead h).orElse 0).bind fun raw => ?_
  dsimp only
  split
  · exact .pure _
  · exact (total_wireWrite h).ignore.bind fun _ => htrigger.bind fun _ => .pure _

theorem total_stageSession {plan : MultiplierSelection} {sol : PllRatioSolution} :
    Total env (stageSession plan sol) :=
  (total_dispatchCommands h).bind fun _ => (total_runCalibrationPolicy h).bind fun _ => .pure _

/-- A session succeeds exactly when the ratio of its frequency is feasible. -/
theorem executeTuningSession_iff {w : World} {freqHz : UInt32}
    (hosc : w.dev.baseband.oscillatorHz = 28800000) (hlo : 22000000 ≤ freqHz.toNat)
    (hhi : freqHz.toNat ≤ 948600000) :
    (∃ w', executeTuningSession freqHz env w = (.ok (), w')) ↔ freqHz.toNat < 948600000 := by
  obtain ⟨total, sol, htotal, hsol, hfeasible⟩ := solution_feasible hlo hhi
  have hhalf : w.dev.baseband.oscillatorHz / 2 = 14400000 := by
    rw [hosc]
    decide
  have hsession : executeTuningSession freqHz env w =
      (if !sol.feasible then Act.fail .param else stageSession (deriveMultiplier freqHz) sol :
        DevM Unit) env w := by
    have hratio : Act.ofOption (computeRawRatio (deriveMultiplier freqHz).vcoHz 14400000) env w =
        ((.ok total, w) : Except (Fault SdrggError) UInt16 × World) :=
      Act.ofOption_eq_ok.mpr ⟨htotal, rfl⟩
    have hnormal : Act.ofOption (normalizeRatio total (deriveMultiplier freqHz).vcoHz 14400000)
        env w = ((.ok sol, w) : Except (Fault SdrggError) PllRatioSolution × World) :=
      Act.ofOption_eq_ok.mpr ⟨hsol, rfl⟩
    rw [executeTuningSession, Act.bind_of_ok (device_apply env w), hhalf, deriveMultiplier_valid,
      if_neg (by decide), Act.bind_of_ok hratio, Act.bind_of_ok hnormal]
  rw [hsession, ← hfeasible]
  cases sol.feasible with
  | false => simp
  | true =>
    obtain ⟨_, u, hu⟩ := @total_stageSession env h (deriveMultiplier freqHz) sol w
    exact iff_of_true ⟨u, hu⟩ rfl

theorem total_prepareFreq {freqHz : UInt32} : Total env (prepareFreq freqHz) :=
  (total_submitBlockWrite h (.inl rfl)).ignore.bind fun _ =>
    (total_submitDemodWrite h (by decide)).ignore.bind fun _ =>
      (total_submitBlockWrite h (.inl rfl)).ignore.bind fun _ => total_setGpioBit h

theorem setFreq_iff {w : World} {freqHz : UInt32}
    (hosc : w.dev.baseband.oscillatorHz = 28800000) (hlo : 22000000 ≤ freqHz.toNat)
    (hhi : freqHz.toNat ≤ 948600000) :
    (∃ w', setFreq freqHz env w = (.ok (), w')) ↔ freqHz.toNat < 948600000 := by
  obtain ⟨_, u, hu⟩ := @total_prepareFreq env h freqHz w
  have hconfig := congrArg Config.baseband ((keeps_prepareFreq freqHz).world hu)
  simp only [World.config_baseband] at hconfig
  rw [← executeTuningSession_iff h (w := u) (by rw [hconfig, hosc]) hlo hhi]
  constructor
  · rintro ⟨w', hset⟩
    obtain ⟨_, v, hprogram, -⟩ := Act.bind_eq_ok.mp hset
    exact ⟨v, (Act.bind_of_ok hu).symm.trans hprogram⟩
  · rintro ⟨v, hv⟩
    exact ⟨_, Act.bind_of_ok (m := programFreq freqHz) ((Act.bind_of_ok hu).trans hv)⟩

end Succeeds

end Sdrgg.Fc0012
