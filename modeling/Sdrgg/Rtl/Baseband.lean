import Sdrgg.R820t.Codec
import Mathlib.Algebra.Group.Int.Defs

/-! The baseband engine: the boot phases, the IF modes of the tuner families, and the sample rate
with its resampler ratio. -/

namespace Sdrgg.Rtl

open ProofKit Usb

/-! ### Boot -/

def fabric (domain : RegDomain) (offset payload : UInt16) (width : UInt8) : RegDescriptor :=
  ⟨domain, 0, offset, payload, width⟩

def demodReg (page reg : UInt8) (payload : UInt16) (width : UInt8) : RegDescriptor :=
  ⟨.demodInternal, page, reg.toUInt16, payload, width⟩

def specUsbAttach : List RegDescriptor := [fabric .usbFabric 0x2000 0x09 1]

def specEndpointSetup : List RegDescriptor :=
  [fabric .usbFabric 0x2158 0x0002 2, fabric .usbFabric 0x2148 0x1002 2]

def specDemodPowerup : List RegDescriptor :=
  [fabric .systemFabric 0x300B 0x22 1, fabric .systemFabric 0x3000 0xE8 1]

def specDdcInitialize : List RegDescriptor :=
  [ demodReg 1 0x01 0x14 1, demodReg 1 0x01 0x10 1, demodReg 1 0x15 0x00 1,
    demodReg 1 0x16 0x0000 2 ] ++
  (List.range 6).map fun k => demodReg 1 (0x16 + k.toUInt8) 0x00 1

def specSignalMode : List RegDescriptor :=
  [ demodReg 0 0x19 0x05 1, demodReg 1 0x93 0xF0 1, demodReg 1 0x94 0x0F 1, demodReg 1 0x11 0x00 1,
    demodReg 1 0x04 0x00 1, demodReg 0 0x61 0x60 1, demodReg 0 0x06 0x80 1, demodReg 1 0xB1 0x1B 1,
    demodReg 0 0x0D 0x83 1 ]

def specR820tIfMode : List RegDescriptor :=
  [demodReg 1 0xB1 0x1A 1, demodReg 0 0x08 0x4D 1, demodReg 1 0x15 0x01 1]

def specFc0012IfMode : List RegDescriptor :=
  [demodReg 1 0xB1 0x1B 1, demodReg 0 0x08 0xCD 1, demodReg 1 0x15 0x00 1]

def filterKernel : List Int16 :=
  [-54, -36, -41, -40, -32, -14, 14, 53, 101, 156, 215, 273, 327, 372, 404, 421]

/-- The assignments of `deploy_filter_coefficients` to its buffer: the first eight taps as bytes, the
others as pairs of 12-bit values. -/
def coefficientWrites (kernel : List Int16) : List (Nat × UInt8) :=
  let tap (k : Nat) : Int32 := (kernel.getD k 0).toInt32
  (List.range 8).map (fun k => (k, (tap k).toUInt32.toUInt8)) ++
  [0, 2, 4, 6].flatMap fun k =>
    let a := tap (8 + k)
    let b := tap (8 + k + 1)
    [ (8 + k * 3 / 2, (a >>> 4).toUInt32.toUInt8),
      (8 + k * 3 / 2 + 1, ((a <<< 4) ||| ((b >>> 8) &&& 0x0F)).toUInt32.toUInt8),
      (8 + k * 3 / 2 + 2, b.toUInt32.toUInt8) ]

/-- The twenty bytes of the packed coefficients. -/
def packCoefficients (kernel : List Int16) : List UInt8 :=
  (coefficientWrites kernel).foldl (fun packed entry => packed.set entry.1 entry.2)
    (List.replicate 20 0)

def deployFilterCoefficients : DevM Unit :=
  (List.range 20).forM fun k =>
    submitDemodWrite 1 (0x1C + k.toUInt8) ((packCoefficients filterKernel).getD k 0).toUInt16 1

/-- The first boot phase, with one reset of the device when it fails. -/
def usbAttach : DevM Unit := do
  match ← Act.attempt (applyDescriptors specUsbAttach) with
  | .ok _ => pure ()
  | .error _ =>
    let _ ← ioctl .reset
    let _ ← ioctl (.claimInterface 0)
    applyDescriptors specUsbAttach

/-- The transfers of `rtl::init`. -/
def boot : DevM Unit := do
  usbAttach
  applyDescriptors specEndpointSetup
  applyDescriptors specDemodPowerup
  applyDescriptors specDdcInitialize
  deployFilterCoefficients
  applyDescriptors specSignalMode

/-- `rtl::init`. -/
def init : DevM Unit := do
  boot
  modifyDevice fun d => { d with baseband.oscillatorHz := 28800000 }

/-- `rtl::deinit`. -/
def deinit : DevM Unit := do
  Act.ignore stopBulk
  Act.ignore (submitBlockWrite 2 0x3000 0x20 1)

def configureR820t : DevM Unit := do
  let dev ← device
  if dev.identity.tunerClass.isR820t then
    applyDescriptors specR820tIfMode
    setIfFreq 3570000

def configureFc0012 : DevM Unit := do
  applyDescriptors specFc0012IfMode
  setIfFreq 0

/-! ### Sample rate -/

/-- The crystal frequency with its correction, where `1000000 + freq_offset_ppm` is an `int32_t`. -/
def correctedXtal (b : BasebandState) : Option UInt32 :=
  if b.freqOffsetPpm ≠ 0 then
    let factor := 1000000 + b.freqOffsetPpm.toInt
    if factor < 2 ^ 31 then
      some (UInt32.ofInt (((b.oscillatorHz.toNat : Int) * factor).tdiv 1000000))
    else none
  else some b.oscillatorHz

def resamplerRatio (xtal rateHz : UInt32) : UInt32 :=
  (xtal.toUInt64 * 0x400000 / rateHz.toUInt64).toUInt32 &&& 0x0FFFFFFC

def effectiveRatio (ratio : UInt32) : UInt32 := ratio ||| ((ratio &&& 0x08000000) <<< 1)

def achievedRate (xtal ratio : UInt32) : UInt32 :=
  (xtal.toUInt64 * 0x400000 / (effectiveRatio ratio).toUInt64).toUInt32

/-- The resampler setting for a rate: the ratio and the rate achieved with it. -/
structure Resampling where
  ratio : UInt32
  achievedHz : UInt32
deriving DecidableEq, Repr

/-- The setting for a rate, where it does not divide by zero. -/
def resampleFrom (rateHz xtal : UInt32) : Option Resampling :=
  let ratio := resamplerRatio xtal rateHz
  if effectiveRatio ratio = 0 then none else some ⟨ratio, achievedRate xtal ratio⟩

/-- The resampler setting that `set_sample_rate` computes, where its arithmetic is defined. -/
def resampling (b : BasebandState) (rateHz : UInt32) : Option Resampling :=
  (correctedXtal b).bind (resampleFrom rateHz)

/-- The ratio registers and the reset of the digital down-converter. -/
def programRatio (ratio : UInt32) : DevM Unit := do
  submitDemodWrite 1 0x9F ((ratio >>> 16) &&& 0xFFFF).toUInt16 2
  submitDemodWrite 1 0xA1 (ratio &&& 0xFFFF).toUInt16 2
  submitDemodWrite 1 0x01 0x14 1
  submitDemodWrite 1 0x01 0x10 1

/-- The NCO after the reset. -/
def reprogramIf : DevM Unit := do
  let dev ← device
  if dev.tuning.ifOffsetHz > 0 then setIfFreq dev.tuning.ifOffsetHz

/-- An R820T gets a new bandwidth and IF for a rate of 2 MSPS or more. -/
def needsBandwidth (identity : DeviceIdentity) (achievedHz : UInt32) : Bool :=
  identity.tunerClass.isR820t && achievedHz ≥ 2000000

/-- `rtl::set_sample_rate` for an accepted rate, from its first side effect on. -/
def applyRate (r : Resampling) : DevM Unit := do
  modifyTuning fun t => { t with samplingRateHz := r.achievedHz }
  let dev ← device
  if needsBandwidth dev.identity r.achievedHz then R820t.setBandwidth (r.achievedHz / 1000)
  programRatio r.ratio
  reprogramIf

/-- The rates that `rtl::set_sample_rate` accepts. -/
def rateAccepted (rateHz : UInt32) : Bool := 225000 ≤ rateHz && rateHz ≤ 3200000

def setSampleRate (rateHz : UInt32) : DevM Unit := do
  if !rateAccepted rateHz then Act.fail .param
  else
    let dev ← device
    let r ← Act.ofOption (resampling dev.baseband rateHz)
    applyRate r

/-! ### What the operations leave alone -/

@[grind ←] theorem keeps_deployFilterCoefficients :
    Keeps World.config deployFilterCoefficients := by
  grind [deployFilterCoefficients]

@[grind ←] theorem keeps_usbAttach : Keeps World.config usbAttach := by
  grind [usbAttach]

@[grind ←] theorem keeps_boot : Keeps World.config boot := by
  grind [boot]

@[grind ←] theorem keeps_programRatio (ratio : UInt32) : Keeps World.config (programRatio ratio) := by
  grind [programRatio]

/-- Programming the NCO again leaves the IF as it is. -/
@[grind ←] theorem keeps_reprogramIf : Keeps World.config reprogramIf := by
  intro env w
  rw [reprogramIf, Act.bind_of_ok (device_apply env w)]
  split
  · rcases h : setIfFreq w.dev.tuning.ifOffsetHz env w with ⟨e | _, u⟩
    · exact setIfFreq_fault h
    · exact setIfFreq_ok h
  · rfl

/-- The IF that a rate of 2 MSPS or more selects on an R820T. -/
def Resampling.ifHz (r : Resampling) : UInt32 :=
  (R820t.bandwidthSetting (r.achievedHz / 1000)).ifFreqKhz * 1000

/-- The configuration with a resampler setting applied. -/
def rated (c : Config) (r : Resampling) : Config :=
  if needsBandwidth c.identity r.achievedHz then (c.withRate r.achievedHz).withIf r.ifHz
  else c.withRate r.achievedHz

theorem noteRate_ok {hz : UInt32} {env : Env} {w u : World} {x : Unit}
    (h : modifyTuning (fun t => { t with samplingRateHz := hz }) env w = (.ok x, u)) :
    u.config = w.config.withRate hz ∧ u.dev.identity = w.dev.identity := by
  cases h
  exact ⟨rfl, rfl⟩

/-- The last steps of `applyRate`. -/
theorem keeps_rateTail (ratio : UInt32) :
    Keeps World.config (do programRatio ratio; reprogramIf) := by
  grind

theorem applyRate_ok {r : Resampling} {env : Env} {w w' : World}
    (h : applyRate r env w = (.ok (), w')) : w'.config = rated w.config r := by
  obtain ⟨_, u, hu, h⟩ := Act.bind_eq_ok.mp h
  obtain ⟨hconfig, hidentity⟩ := noteRate_ok hu
  rw [Act.bind_of_ok (device_apply env u), hidentity] at h
  rw [rated, World.config_identity, ← hconfig]
  split at h
  · rename_i hband
    obtain ⟨_, v, hv, h⟩ := Act.bind_eq_ok.mp h
    rw [if_pos hband, (keeps_rateTail r.ratio).world h]
    exact R820t.setBandwidth_ok hv
  · rename_i hband
    rw [if_neg hband]
    exact (keeps_rateTail r.ratio).world h

/-- A rate that fails to be applied is in the configuration all the same, and so may the IF be. -/
theorem applyRate_fault {r : Resampling} {env : Env} {w w' : World} {e : Fault SdrggError}
    (h : applyRate r env w = (.error e, w')) :
    w'.config = w.config.withRate r.achievedHz ∨
      w'.config = rated w.config r ∧
        (needsBandwidth w.dev.identity r.achievedHz = true →
          (ncoWord w.dev.baseband.oscillatorHz r.ifHz).isSome) := by
  obtain hu | ⟨_, u, hu, h⟩ := Act.bind_eq_fault.mp h
  · cases hu
  obtain ⟨hconfig, hidentity⟩ := noteRate_ok hu
  rw [Act.bind_of_ok (device_apply env u), hidentity] at h
  have hbaseband : u.dev.baseband = w.dev.baseband := congrArg Config.baseband hconfig
  rw [rated, World.config_identity, ← hconfig, ← hbaseband]
  split at h
  · rename_i hband
    obtain hv | ⟨_, v, hv, h⟩ := Act.bind_eq_fault.mp h
    · exact .inl (R820t.setBandwidth_fault hv)
    · refine .inr ⟨?_, fun _ => R820t.setBandwidth_word hv⟩
      rw [if_pos hband, (keeps_rateTail r.ratio).world h]
      exact R820t.setBandwidth_ok hv
  · exact .inl ((keeps_rateTail r.ratio).world h)

theorem setSampleRate_rejected {rateHz : UInt32} (h : rateAccepted rateHz = false) (env : Env)
    (w : World) : setSampleRate rateHz env w = (.error (.error .param), w) := by
  rw [setSampleRate, h]
  rfl

theorem setSampleRate_accepted {rateHz : UInt32} (h : rateAccepted rateHz = true) {r : Resampling}
    {env : Env} {w : World} (hr : resampling w.dev.baseband rateHz = some r) :
    setSampleRate rateHz env w = applyRate r env w := by
  rw [setSampleRate, h]
  refine (Act.bind_of_ok (device_apply env w)).trans ?_
  rw [hr]
  rfl

/-- Where the arithmetic of the resampler is undefined, the call does not return. -/
theorem setSampleRate_undefined {rateHz : UInt32} (h : rateAccepted rateHz = true)
    {env : Env} {w : World} (hr : resampling w.dev.baseband rateHz = none) :
    setSampleRate rateHz env w = (.error .trap, w) := by
  rw [setSampleRate, h]
  refine (Act.bind_of_ok (device_apply env w)).trans ?_
  rw [hr]
  rfl

/-! ### The boot does not trap -/

@[grind ←] theorem defined_deployFilterCoefficients : Defined deployFilterCoefficients := by
  grind [deployFilterCoefficients]

@[grind ←] theorem defined_usbAttach : Defined usbAttach := by
  grind [usbAttach]

theorem defined_boot : Defined boot := by
  grind [boot]

theorem defined_init : Defined init := defined_boot.bind fun _ => defined_modifyDevice _

theorem defined_deinit : Defined deinit := by
  grind [deinit, stopBulk]

/-- The IF mode of an R820T can be set when the oscillator runs at its nominal frequency. -/
theorem configureR820t_defined {env : Env} {w : World}
    (hosc : w.dev.baseband.oscillatorHz = 28800000) :
    (configureR820t env w).1 ≠ .error .trap := by
  rw [configureR820t, Act.bind_of_ok (device_apply env w)]
  split
  · refine bind_ne_trap (defined_applyDescriptors _ env w) fun _ u hu => ?_
    have hconfig := congrArg Config.baseband ((keeps_applyDescriptors _).world hu)
    simp only [World.config_baseband] at hconfig
    have hword : ncoWord u.dev.baseband.oscillatorHz 3570000 = some (-519918) := by
      rw [hconfig, hosc]
      decide +kernel
    exact setIfFreq_defined hword
  · nofun

theorem defined_configureFc0012 : Defined configureFc0012 := fun env w =>
  bind_ne_trap (defined_applyDescriptors _ env w) fun _ _ _ => setIfFreq_defined rfl

end Sdrgg.Rtl
