import Sdrgg.R820t.Synth
import Sdrgg.Rtl.Registers
import Mathlib.Data.List.FinRange

/-! The R820T codec: the power-up image, the RF path of a frequency, register intents and their
lowering, PLL lock, gain stages and filter bandwidth. -/

namespace Sdrgg.R820t

open ProofKit Usb Rtl

/-! ### The power-up image -/

/-- `powerup::frontend_defaults` to `powerup::output_defaults`, in the order of the merges. -/
def powerupDefaults : List (UInt8 × UInt8) :=
  [ (0x05, 0x83), (0x06, 0x32), (0x07, 0x75),
    (0x08, 0xC0), (0x09, 0x40), (0x0A, 0xD6), (0x0B, 0x6C),
    (0x0C, 0xE5), (0x0D, 0x63), (0x0E, 0x75), (0x0F, 0x68),
    (0x10, 0x6C), (0x11, 0x83), (0x12, 0x80), (0x13, 0x00), (0x14, 0x0F), (0x15, 0x00),
    (0x16, 0xC0),
    (0x17, 0x30), (0x18, 0x48), (0x19, 0xCC), (0x1A, 0x60), (0x1B, 0x00),
    (0x1C, 0x54), (0x1D, 0xAE), (0x1E, 0x4A), (0x1F, 0xC0) ]

def mergeContributor (regmap : Fin 27 → UInt8) (entries : List (UInt8 × UInt8)) :
    Fin 27 → UInt8 :=
  entries.foldl (fun map entry =>
    match shadowIndex entry.1 with
    | some i => Function.update map i entry.2
    | none => map) regmap

def composePowerupImage : Fin 27 → UInt8 := mergeContributor (fun _ => 0) powerupDefaults

/-! ### Register intents -/

inductive IntentKind where
  | setField
  | assignFull
  | settleDelay
deriving DecidableEq, Repr

structure RegIntent where
  action : IntentKind
  target : UInt8
  value : UInt8
  fieldMask : UInt8
deriving DecidableEq, Repr

/-- `iseq_push`, on a sequence of at most 32 intents. -/
def iseqPush (seq : List RegIntent) (intent : RegIntent) : List RegIntent :=
  if seq.length ≥ 32 then seq else seq ++ [intent]

/-- The sequence that pushing `intents` one after the other builds. -/
def iseq (intents : List RegIntent) : List RegIntent := intents.foldl iseqPush []

def pushFull (target value : UInt8) : RegIntent := ⟨.assignFull, target, value, 0xFF⟩

def pushField (target value mask : UInt8) : RegIntent := ⟨.setField, target, value, mask⟩

def lowerIntent (intent : RegIntent) : DevM Unit :=
  if intent.action = .settleDelay then pure ()
  else if intent.fieldMask = 0xFF ∨ intent.action = .assignFull then
    tunerWriteReg intent.target intent.value
  else tunerRmw intent.target intent.value intent.fieldMask

def lowerIntents (seq : List RegIntent) : DevM Unit := seq.forM lowerIntent

def composeDormancyIntents : List RegIntent :=
  iseq
    [ pushFull 0x06 0xB1, pushFull 0x05 0x03, pushFull 0x07 0x3A, pushFull 0x08 0x40,
      pushFull 0x09 0xC0, pushFull 0x0A 0x36, pushFull 0x0C 0x35, pushFull 0x0F 0x68,
      pushFull 0x11 0x03, pushFull 0x17 0xF4, pushFull 0x19 0x0C ]

/-! ### RF path -/

inductive RfPathFamily where
  | lowPassCoupled
  | directThrough
  | highBypass
deriving DecidableEq, Repr

/-- `rf_routing_plan`, with the tracking band by its number. -/
structure RfRoutingPlan where
  family : RfPathFamily
  band : Nat
deriving DecidableEq, Repr

/-- The upper ends in MHz of the tracking bands, all but the last. -/
def bandEdges : List UInt32 :=
  [50, 55, 60, 65, 70, 80, 90, 100, 110, 120, 140, 180, 220, 250, 280, 310, 450, 588, 650]

def classifyRfPath (freqHz : UInt32) : RfRoutingPlan :=
  let mhz := freqHz / 1000000
  { family :=
      if mhz < 80 then .lowPassCoupled else if mhz < 310 then .directThrough else .highBypass
    band := bandEdges.findIdx (mhz < ·) }

structure PathEncoding where
  drainBias : UInt8
  muxSelector : UInt8
  trackingTap : UInt8
deriving DecidableEq, Repr

def tapByBand : List UInt8 :=
  [ 0xA0, 0x80, 0x60, 0x40, 0x20, 0x00, 0x60, 0x40, 0x20, 0x00,
    0xE0, 0xC0, 0xA0, 0x80, 0x60, 0x40, 0x00, 0x00, 0x00, 0x00 ]

def lowerRoutingPlan (plan : RfRoutingPlan) : PathEncoding :=
  let trackingTap := tapByBand.getD plan.band 0x00
  match plan.family with
  | .lowPassCoupled => ⟨0x08, 0x02, trackingTap⟩
  | .directThrough => ⟨0x00, if plan.band = 15 then 0x40 else 0x41, trackingTap⟩
  | .highBypass => ⟨0x00, if plan.band ≥ 18 then 0x40 else 0x41, trackingTap⟩

def composePathIntents (enc : PathEncoding) : List RegIntent :=
  iseq
    [ pushField 0x17 enc.drainBias 0x08, pushField 0x1A enc.muxSelector 0xC3,
      pushFull 0x1B enc.trackingTap, pushField 0x10 0x00 0x0B ]

def composeSynthIntents (enc : PllEncoding) : List RegIntent :=
  iseq
    [ pushField 0x1A 0x00 0x0C, pushField 0x12 0x80 0xE0, pushField 0x10 enc.divField 0xE0,
      pushFull 0x14 enc.niSiPacked, pushField 0x12 enc.modeField 0x08,
      pushFull 0x16 enc.sdmHi, pushFull 0x15 enc.sdmLo ]

/-! ### The analog profile after lock -/

/-- `analog_profile`, whose fields `lower_analog_profile` copies into `analog_encoding`. -/
structure AnalogProfile where
  detectorSensitivity : UInt8
  rfCeilingPolicy : UInt8
  pumpDriveMode : UInt8
  drainRoutingMode : UInt8
  filterCurrentMode : UInt8
  lnaHeadroom : UInt8
  tailControl : UInt8
  lnaAgcThreshold : UInt8
  mixerAgcThreshold : UInt8
deriving DecidableEq, Repr

def sdrReceptionProfile : AnalogProfile :=
  { detectorSensitivity := 0xE5
    rfCeilingPolicy := 0x24
    pumpDriveMode := 0x38
    drainRoutingMode := 0x30
    filterCurrentMode := 0x40
    lnaHeadroom := 0x00
    tailControl := 0x00
    lnaAgcThreshold := 0x53
    mixerAgcThreshold := 0x75 }

def composeAnalogIntents (profile : AnalogProfile) : List RegIntent :=
  iseq
    [ pushField 0x1D profile.detectorSensitivity 0xC7, pushField 0x1C profile.rfCeilingPolicy 0xF8,
      pushField 0x11 profile.pumpDriveMode 0x38, pushField 0x17 profile.drainRoutingMode 0x30,
      pushField 0x0A profile.filterCurrentMode 0x60, pushField 0x05 profile.lnaHeadroom 0x80,
      pushField 0x1F profile.tailControl 0x80,
      pushFull 0x0D profile.lnaAgcThreshold, pushFull 0x0E profile.mixerAgcThreshold ]

/-! ### Gain -/

/-- `gain_profile`. -/
structure GainProfile where
  totalTenthDb : Int32
  lnaIndex : UInt8
  mixerIndex : UInt8
  vgaIndex : UInt8
deriving DecidableEq, Repr

def manualGainProfiles : List GainProfile :=
  [ ⟨0, 0, 0, 8⟩, ⟨9, 1, 0, 8⟩, ⟨14, 1, 1, 8⟩, ⟨27, 2, 1, 8⟩, ⟨37, 2, 2, 8⟩, ⟨77, 3, 2, 8⟩,
    ⟨87, 3, 3, 8⟩, ⟨125, 4, 3, 8⟩, ⟨144, 4, 4, 8⟩, ⟨157, 5, 4, 8⟩, ⟨166, 5, 5, 8⟩, ⟨197, 6, 5, 8⟩,
    ⟨207, 6, 6, 8⟩, ⟨229, 7, 6, 8⟩, ⟨254, 7, 7, 8⟩, ⟨280, 8, 7, 8⟩, ⟨297, 8, 8, 8⟩, ⟨328, 9, 8, 8⟩,
    ⟨338, 9, 9, 8⟩, ⟨364, 10, 9, 8⟩, ⟨372, 10, 10, 8⟩, ⟨386, 11, 10, 8⟩, ⟨402, 11, 11, 8⟩,
    ⟨421, 12, 11, 8⟩, ⟨434, 12, 12, 8⟩, ⟨439, 13, 12, 8⟩, ⟨445, 13, 13, 8⟩, ⟨480, 14, 13, 8⟩,
    ⟨496, 15, 14, 8⟩ ]

def selectGainProfile (targetTenthDb : Int32) : Option GainProfile :=
  if targetTenthDb < 0 then none
  else (manualGainProfiles.find? fun profile => targetTenthDb ≤ profile.totalTenthDb).or
    manualGainProfiles.getLast?

/-- `set_lna_gain`, with `compose_assignment` for the LNA stage. -/
def setLnaGain (index : Int32) : DevM Unit :=
  if index < 0 then tunerRmw 0x05 0x00 0x10
  else tunerRmw 0x05 (0x10 ||| (if index > 0x0F then 0x0F else index).toUInt32.toUInt8) 0x1F

def setMixerGain (index : Int32) : DevM Unit :=
  if index < 0 then tunerRmw 0x07 0x10 0x10
  else tunerRmw 0x07 (0x10 ||| (if index > 15 then 15 else index).toUInt32.toUInt8) 0x1F

def setVgaGain (index : Int32) : DevM Unit :=
  let index := if index < 0 then 0 else index
  tunerRmw 0x0C (if index > 15 then 15 else index).toUInt32.toUInt8 0x9F

/-! ### Lock -/

def probeLockStatus : DevM Bool := do
  let readback ← tunerRead 0x00 3
  return readback.getD 2 0 &&& 0x40 ≠ 0

def acquireLock : DevM Unit := do
  let locked ← probeLockStatus
  if !locked then
    tunerRmw 0x12 0x60 0xE0
    let locked ← probeLockStatus
    if !locked then Act.fail .pll
  tunerRmw 0x1A 0x08 0x08

/-! ### The operations -/

def detect : DevM Unit := do
  let probeData ← tunerRead 0x00 5
  if probeData.getD 0 0 = 0x00 ∧ probeData.getD 1 0 = 0x00 ∧ probeData.getD 2 0 = 0x00 then
    Act.fail .nodev
  else modifyDevice fun d => { d with identity.tunerClass := .r820t }

/-- One write of the flush of the register file. -/
def flushRegister (i : Fin 27) : DevM Unit := do
  let dev ← device
  tunerWriteReg (0x05 + UInt8.ofNat i) (dev.shadow.r820tFile i)

def init : DevM Unit := do
  modifyDevice fun d => { d with shadow := ⟨composePowerupImage⟩ }
  (List.finRange 27).forM flushRegister
  setLnaGain (-1)
  setMixerGain (-1)
  setVgaGain 11

def standby : DevM Unit := lowerIntents composeDormancyIntents

def setMux (freqHz : UInt32) : DevM Unit :=
  lowerIntents (composePathIntents (lowerRoutingPlan (classifyRfPath freqHz)))

/-- `set_pll` after its request has been noted. -/
def programPll (freqHz : UInt32) : DevM Unit := do
  let dev ← device
  let req : SynthRequest := ⟨freqHz, dev.baseband.oscillatorHz, dev.baseband.freqOffsetPpm⟩
  let candidates ← Act.ofOption (enumerateCandidates req)
  match rankAndSelect (candidates.map (normalizeSpurAvoidance (referenceKhz req))) with
  | none => Act.fail .pll
  | some chosen =>
    let enc ← Act.ofOption (packPllSolution chosen (referenceKhz req))
    lowerIntents (composeSynthIntents enc)
    acquireLock

def setPll (freqHz : UInt32) : DevM Unit := do
  Act.modify fun w => { w with loRequested := some freqHz }
  programPll freqHz

def setFreq (freqHz ifFreqHz : UInt32) : DevM Unit := do
  let loTarget := freqHz + ifFreqHz
  setMux loTarget
  setPll loTarget
  lowerIntents (composeAnalogIntents sdrReceptionProfile)

/-! ### Filter bandwidth -/

def ifLowPassBwTable : List UInt32 := [1700, 1600, 1550, 1450, 1200, 900, 700, 550, 450, 350]

/-- The registers and the IF that `set_bandwidth` computes. -/
structure BandwidthSetting where
  reg0a : UInt8
  reg0b : UInt8
  ifFreqKhz : UInt32
deriving DecidableEq, Repr

/-- What `set_bandwidth` has worked out of a narrow bandwidth before the low-pass table. -/
structure NarrowBand where
  workingBwKhz : UInt32
  ifFreqKhz : UInt32
  realBwKhz : UInt32
  reg0b : UInt8

def narrowBand (bwKhz : UInt32) : NarrowBand :=
  let s : NarrowBand :=
    if bwKhz > 1700 + 350 then ⟨bwKhz - 380, 2300 + 380, 380, 0x80⟩
    else ⟨bwKhz, 2300, 0, 0x80 ||| 0x20⟩
  if s.workingBwKhz > 1700 then
    ⟨s.workingBwKhz - 350, s.ifFreqKhz + 350, s.realBwKhz + 350, s.reg0b⟩
  else { s with reg0b := s.reg0b ||| 0x40 }

def bandwidthSetting (bwKhz : UInt32) : BandwidthSetting :=
  if bwKhz > 7000 then ⟨0x10, 0x0B, 4570⟩
  else if bwKhz > 6000 then ⟨0x10, 0x2A, 4570⟩
  else if bwKhz > 1700 + 350 + 380 then ⟨0x10, 0x6B, 3570⟩
  else
    let s := narrowBand bwKhz
    -- the last entry not below the bandwidth, the first when all are
    let index := ifLowPassBwTable.findIdx (s.workingBwKhz > ·) - 1
    let realBwKhz := s.realBwKhz + ifLowPassBwTable.getD index 0
    ⟨0x00, s.reg0b ||| (15 - UInt8.ofNat index), s.ifFreqKhz - realBwKhz / 2⟩

def setBandwidth (bwKhz : UInt32) : DevM Unit := do
  let s := bandwidthSetting bwKhz
  lowerIntents (iseq [pushField 0x0A s.reg0a 0x10, pushField 0x0B s.reg0b 0xEF])
  setIfFreq (s.ifFreqKhz * 1000)

/-! ### What the operations leave alone -/

section Frames

@[grind ←] theorem keeps_lowerIntent (intent : RegIntent) :
    Keeps World.config (lowerIntent intent) := by
  grind [lowerIntent]

@[grind ←] theorem keeps_lowerIntents (seq : List RegIntent) :
    Keeps World.config (lowerIntents seq) := by
  grind [lowerIntents]

@[grind ←] theorem keeps_setLnaGain (index : Int32) : Keeps World.config (setLnaGain index) := by
  grind [setLnaGain]

@[grind ←] theorem keeps_setMixerGain (index : Int32) :
    Keeps World.config (setMixerGain index) := by
  grind [setMixerGain]

@[grind ←] theorem keeps_setVgaGain (index : Int32) : Keeps World.config (setVgaGain index) := by
  grind [setVgaGain]

@[grind ←] theorem keeps_probeLockStatus : Keeps World.config probeLockStatus := by
  grind [probeLockStatus]

@[grind ←] theorem keeps_acquireLock : Keeps World.config acquireLock := by
  grind [acquireLock]

@[grind ←] theorem keeps_flushRegister (i : Fin 27) : Keeps World.config (flushRegister i) := by
  grind [flushRegister]

theorem keeps_init : Keeps World.config init := by
  refine Keeps.bind (Keeps.modify fun _ => rfl) fun _ => ?_
  grind

@[grind ←] theorem keeps_setMux (freqHz : UInt32) : Keeps World.config (setMux freqHz) :=
  keeps_lowerIntents _

@[grind ←] theorem keeps_programPll (freqHz : UInt32) : Keeps World.config (programPll freqHz) := by
  grind [programPll]

/-- `set_pll` notes its request and changes nothing else of the configuration. -/
theorem setPll_config (freqHz : UInt32) (env : Env) (w : World) :
    (setPll freqHz env w).2.config = { w.config with loRequested := some freqHz } :=
  keeps_programPll freqHz env _

theorem setFreq_config (freqHz ifFreqHz : UInt32) (env : Env) (w : World) :
    (setFreq freqHz ifFreqHz env w).2.config = w.config ∨
      (setFreq freqHz ifFreqHz env w).2.config =
        { w.config with loRequested := some (freqHz + ifFreqHz) } := by
  rcases hmux : setMux (freqHz + ifFreqHz) env w with ⟨e | _, u⟩
  · left
    rw [setFreq, Act.bind_of_error hmux]
    exact (keeps_setMux _).world hmux
  · right
    have hpll := setPll_config (freqHz + ifFreqHz) env u
    rw [(keeps_setMux _).world hmux] at hpll
    rw [setFreq, Act.bind_of_ok hmux, ← hpll]
    rcases hset : setPll (freqHz + ifFreqHz) env u with ⟨e | _, v⟩
    · rw [Act.bind_of_error hset]
    · rw [Act.bind_of_ok hset]
      exact keeps_lowerIntents _ env v

theorem setFreq_tuning (freqHz ifFreqHz : UInt32) :
    Keeps (fun w => w.dev.tuning) (setFreq freqHz ifFreqHz) := by
  intro env w
  obtain h | h := setFreq_config freqHz ifFreqHz env w <;> exact congrArg Config.tuning h

theorem programPll_ok {freqHz : UInt32} {env : Env} {w w' : World}
    (h : programPll freqHz env w = (.ok (), w')) :
    27657 ≤ freqHz.toNat / 1000 ∧ freqHz.toNat / 1000 < 1770000 := by
  obtain ⟨dev, u, -, h⟩ := Act.bind_eq_ok.mp h
  obtain ⟨candidates, v, hc, h⟩ := Act.bind_eq_ok.mp h
  rw [← enumerateCandidates_ne_nil (Act.ofOption_eq_ok.mp hc).1]
  rintro rfl
  cases h

/-- A frequency is set when the PLL has a solution for it. -/
theorem setFreq_ok {freqHz ifFreqHz : UInt32} {env : Env} {w w' : World}
    (h : setFreq freqHz ifFreqHz env w = (.ok (), w')) :
    w'.config = { w.config with loRequested := some (freqHz + ifFreqHz) } ∧
      27657 ≤ (freqHz + ifFreqHz).toNat / 1000 ∧ (freqHz + ifFreqHz).toNat / 1000 < 1770000 := by
  obtain ⟨_, u, hmux, h⟩ := Act.bind_eq_ok.mp h
  obtain ⟨_, v, hpll, h⟩ := Act.bind_eq_ok.mp h
  have hconfig := setPll_config (freqHz + ifFreqHz) env u
  rw [hpll, (keeps_setMux _).world hmux] at hconfig
  exact ⟨((keeps_lowerIntents _).world h).trans hconfig, programPll_ok hpll⟩

/-- `set_bandwidth` ends with the IF of the bandwidth programmed. -/
theorem setBandwidth_ok {bwKhz : UInt32} {env : Env} {w w' : World}
    (h : setBandwidth bwKhz env w = (.ok (), w')) :
    w'.config = w.config.withIf ((bandwidthSetting bwKhz).ifFreqKhz * 1000) := by
  obtain ⟨_, u, hu, h⟩ := Act.bind_eq_ok.mp h
  rw [setIfFreq_ok h, (keeps_lowerIntents _).world hu]

theorem setBandwidth_word {bwKhz : UInt32} {env : Env} {w w' : World}
    (h : setBandwidth bwKhz env w = (.ok (), w')) :
    (ncoWord w.dev.baseband.oscillatorHz ((bandwidthSetting bwKhz).ifFreqKhz * 1000)).isSome := by
  obtain ⟨_, u, hu, h⟩ := Act.bind_eq_ok.mp h
  rw [← show u.dev.baseband = w.dev.baseband from
    congrArg Config.baseband ((keeps_lowerIntents _).world hu)]
  exact setIfFreq_word h

theorem setBandwidth_fault {bwKhz : UInt32} {env : Env} {w w' : World} {e : Fault SdrggError}
    (h : setBandwidth bwKhz env w = (.error e, w')) : w'.config = w.config := by
  obtain hu | ⟨_, u, hu, h⟩ := Act.bind_eq_fault.mp h
  · exact (keeps_lowerIntents _).world hu
  · exact (setIfFreq_fault h).trans ((keeps_lowerIntents _).world hu)

end Frames

/-! ### Start-up and standby do not trap -/

@[grind ←] theorem defined_lowerIntents (seq : List RegIntent) : Defined (lowerIntents seq) := by
  grind [lowerIntents, lowerIntent]

@[grind ←] theorem defined_setLnaGain (index : Int32) : Defined (setLnaGain index) := by
  grind [setLnaGain]

@[grind ←] theorem defined_setMixerGain (index : Int32) : Defined (setMixerGain index) := by
  grind [setMixerGain]

@[grind ←] theorem defined_setVgaGain (index : Int32) : Defined (setVgaGain index) := by
  grind [setVgaGain]

@[grind ←] theorem defined_detect : Defined detect := by
  grind [detect]

theorem defined_init : Defined init := by
  grind [init, flushRegister]

theorem defined_standby : Defined standby := defined_lowerIntents _

/-! ### The operations succeed when their transfers do -/

section Succeeds

variable {env : Env} (h : env.Accepts)

include h

theorem total_lowerIntents {seq : List RegIntent} (hseq : ∀ i ∈ seq, i.target.toNat < 32) :
    Total env (lowerIntents seq) := by
  refine Total.forM seq fun intent hi => ?_
  unfold lowerIntent
  split
  · exact .pure _
  · split
    · exact total_tunerWriteReg h
    · exact total_tunerRmw h (hseq intent hi)

theorem total_setMux {freqHz : UInt32} : Total env (setMux freqHz) :=
  total_lowerIntents h (by simp [composePathIntents, iseq, iseqPush, pushField, pushFull])

theorem total_setBandwidth {w : World} {bwKhz : UInt32} {word : Int32}
    (hword : ncoWord w.dev.baseband.oscillatorHz ((bandwidthSetting bwKhz).ifFreqKhz * 1000) =
      some word) :
    ∃ w', setBandwidth bwKhz env w = (.ok (), w') := by
  obtain ⟨_, u, hu⟩ := @total_lowerIntents env h (iseq
    [pushField 0x0A (bandwidthSetting bwKhz).reg0a 0x10,
      pushField 0x0B (bandwidthSetting bwKhz).reg0b 0xEF]) (by simp [iseq, iseqPush, pushField]) w
  have hconfig := congrArg Config.baseband ((keeps_lowerIntents _).world hu)
  simp only [World.config_baseband] at hconfig
  rw [← hconfig] at hword
  obtain ⟨v, hv⟩ := total_setIfFreq h hword
  exact ⟨v, (Act.bind_of_ok hu).trans hv⟩

/-- The status bytes of an R820T are those of one transfer with their bits reversed. -/
theorem tunerReadTransfers_status {w : World} {data : List UInt8}
    (hclass : w.dev.identity.tunerClass.isR820t = true) (hlen : data.length = 3) :
    ∃ bytes, bytes.length = 3 ∧
      env.kernel w.log (.read w.dev.identity.tunerBusAddr 0x0600 3) = .done bytes ∧
      ∃ w', tunerReadTransfers 0x00 data env w = (.ok (bytes.map bitrev8), w') := by
  have hfc : w.dev.identity.tunerClass.isFc001x = false := by
    revert hclass
    cases w.dev.identity.tunerClass <;> decide
  obtain ⟨bytes, hbytes, hresp, u, hu⟩ := @controlRead_full env h w.dev.identity.tunerBusAddr
    0x0600 3 ((List.range 32).map (env.stack w.log)) w
  refine ⟨bytes, hbytes, hresp, u, ?_⟩
  have hbytes : bytes.length = 3 := hbytes
  rw [tunerReadTransfers, Act.bind_of_ok (device_apply env w)]
  simp only [hfc, hclass, hlen, Bool.false_eq_true, if_false, if_true]
  rw [if_neg (by decide), Act.bind_of_ok (uninitialised_apply 32 env w)]
  refine (Act.bind_of_ok hu).trans ?_
  have hraw : ∀ rest, ((bytes ++ rest).drop (0x00 : UInt8).toNat).take 3 = bytes := fun rest =>
    (List.take_append_of_le_length (Nat.le_of_eq hbytes.symm)).trans
      (List.take_of_length_le (Nat.le_of_eq hbytes))
  rw [hraw]
  rfl

theorem probeLockStatus_locked (hlock : env.Locked) {w : World}
    (hclass : w.dev.identity.tunerClass.isR820t = true) :
    ∃ w', probeLockStatus env w = (.ok true, w') := by
  obtain ⟨_, u, hu⟩ := @total_enableI2cRepeater env h true w
  have hidentity := congrArg Config.identity ((keeps_enableI2cRepeater true).world hu)
  simp only [World.config_identity] at hidentity
  rw [← hidentity] at hclass
  obtain ⟨bytes, hlen, hresp, v, hv⟩ := @tunerReadTransfers_status env h u
    ((List.range (3 : UInt8).toNat).map (env.stack w.log)) hclass (by simp)
  obtain ⟨_, x, hx⟩ := (@total_enableI2cRepeater env h false).ignore v
  have hread : tunerRead 0x00 3 env w = (.ok (bytes.map bitrev8), x) := by
    rw [tunerRead, Act.bind_of_ok (uninitialised_apply _ env w), Act.bind_of_ok hu, Act.closing,
      Act.bind_of_ok (Act.attempt_of_ok hv), Act.bind_of_ok hx]
    rfl
  refine ⟨x, ?_⟩
  rw [probeLockStatus, Act.bind_of_ok hread]
  have hbit := hlock _ _ _ _ hresp bytes[2] (by simp)
  simp [List.getD_eq_getElem?_getD, hlen, hbit]

theorem total_acquireLock (hlock : env.Locked) {w : World}
    (hclass : w.dev.identity.tunerClass.isR820t = true) :
    ∃ w', acquireLock env w = (.ok (), w') := by
  obtain ⟨u, hu⟩ := probeLockStatus_locked h hlock hclass
  obtain ⟨_, v, hv⟩ := @total_tunerRmw env h 0x1A 0x08 0x08 (by decide) u
  exact ⟨v, (Act.bind_of_ok hu).trans hv⟩

/-- The PLL is programmed when the target has a candidate and the tuner reports lock. -/
theorem total_programPll (hlock : env.Locked) {w : World} {freqHz : UInt32}
    (hclass : w.dev.identity.tunerClass.isR820t = true)
    (hosc : w.dev.baseband.oscillatorHz = 28800000) (hppm : w.dev.baseband.freqOffsetPpm = 0)
    (hlo : 27657 ≤ freqHz.toNat / 1000) (hhi : freqHz.toNat / 1000 < 1770000) :
    ∃ w', programPll freqHz env w = (.ok (), w') := by
  have hkhz : (28800000 / 1000 : UInt32) = 28800 := by decide
  have href : referenceKhz ⟨freqHz, 28800000, 0⟩ = 28800 := (referenceKhz_of_ppm rfl).trans hkhz
  obtain ⟨candidates, hc⟩ := @enumerateCandidates_of_ref
    ⟨freqHz, 28800000, 0⟩ (by rw [href]; decide)
  have hne := (enumerateCandidates_ne_nil hc).mpr ⟨hlo, hhi⟩
  obtain ⟨chosen, hchosen⟩ := @rankAndSelect_of_ne_nil
    (candidates.map (normalizeSpurAvoidance 28800)) (by simpa using hne)
  obtain ⟨enc, henc⟩ := @packPllSolution_of_ref 28800 (by decide) chosen
  obtain ⟨_, u, hu⟩ := @total_lowerIntents env h (composeSynthIntents enc)
    (by simp [composeSynthIntents, iseq, iseqPush, pushField, pushFull]) w
  have hidentity := congrArg Config.identity ((keeps_lowerIntents _).world hu)
  simp only [World.config_identity] at hidentity
  rw [← hidentity] at hclass
  obtain ⟨v, hv⟩ := total_acquireLock h hlock hclass
  refine ⟨v, ?_⟩
  simp only [programPll, device, Act.bind_apply, Act.get_apply, Act.pure_apply, hosc, hppm, hc,
    href, hchosen, henc, Act.ofOption, hu, hv]

/-- `set_freq` succeeds when its LO target has a candidate and the tuner reports lock. -/
theorem total_setFreq (hlock : env.Locked) {w : World} {freqHz ifFreqHz : UInt32}
    (hclass : w.dev.identity.tunerClass.isR820t = true)
    (hosc : w.dev.baseband.oscillatorHz = 28800000) (hppm : w.dev.baseband.freqOffsetPpm = 0)
    (hlo : 27657 ≤ (freqHz + ifFreqHz).toNat / 1000)
    (hhi : (freqHz + ifFreqHz).toNat / 1000 < 1770000) :
    ∃ w', setFreq freqHz ifFreqHz env w = (.ok (), w') := by
  obtain ⟨_, u, hu⟩ := @total_setMux env h (freqHz + ifFreqHz) w
  have hconfig := (keeps_setMux _).world hu
  have hidentity := congrArg Config.identity hconfig
  have hbaseband := congrArg Config.baseband hconfig
  simp only [World.config_identity, World.config_baseband] at hidentity hbaseband
  obtain ⟨v, hv⟩ := @total_programPll env h hlock
    { u with loRequested := some (freqHz + ifFreqHz) } (freqHz + ifFreqHz) (hidentity ▸ hclass)
    (hbaseband ▸ hosc) (hbaseband ▸ hppm) hlo hhi
  obtain ⟨_, x, hx⟩ := @total_lowerIntents env h (composeAnalogIntents sdrReceptionProfile)
    (by decide) v
  refine ⟨x, ?_⟩
  rw [setFreq, Act.bind_of_ok hu]
  exact (Act.bind_of_ok (m := setPll (freqHz + ifFreqHz)) hv).trans hx

end Succeeds

end Sdrgg.R820t
