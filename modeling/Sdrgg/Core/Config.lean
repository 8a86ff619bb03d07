import Sdrgg.Rtl.Baseband
import Sdrgg.Fc0012.Codec

/-! The configuration API over the tuner families: the bring-up of a device, and the calls that set
its frequency, sample rate and gain. -/

namespace Sdrgg.Sdr

open ProofKit Usb Rtl

/-! ### Tuner families -/

def r820tApplyGain (gainTenthDb : Int32) : DevM Unit :=
  match R820t.selectGainProfile gainTenthDb with
  | none => Act.fail .param
  | some profile => do
    R820t.setLnaGain profile.lnaIndex.toUInt32.toInt32
    R820t.setMixerGain profile.mixerIndex.toUInt32.toInt32
    R820t.setVgaGain profile.vgaIndex.toUInt32.toInt32

def r820tApplyAuto : DevM Unit := do
  R820t.setLnaGain (-1)
  R820t.setMixerGain (-1)
  R820t.setVgaGain 11

/-- `tuner_family_contract`. -/
structure FamilyContract where
  family : TunerType
  busAddr : UInt16
  probe : DevM Unit
  prepareBaseband : DevM Unit
  startup : DevM Unit
  applyGain : Int32 → DevM Unit
  applyAutoGain : DevM Unit

def r820tContract : FamilyContract :=
  { family := .r820t
    busAddr := 0x34
    probe := R820t.detect
    prepareBaseband := configureR820t
    startup := R820t.init
    applyGain := r820tApplyGain
    applyAutoGain := r820tApplyAuto }

def fc0012Contract : FamilyContract :=
  { family := .fc0012
    busAddr := 0xC6
    probe := Fc0012.detect
    prepareBaseband := configureFc0012
    startup := Fc0012.init
    applyGain := Fc0012.setGain
    applyAutoGain := Fc0012.setAutoGain }

def familyContracts : List FamilyContract := [r820tContract, fc0012Contract]

def activeContract (tunerClass : TunerType) : Option FamilyContract :=
  familyContracts.find? fun contract => contract.family = tunerClass

/-! ### Bring-up -/

/-- What follows the successful probe of a family in `open_path`. -/
def activate (contract : FamilyContract) : DevM Unit := do
  modifyDevice fun d => { d with identity.tunerClass := contract.family }
  contract.prepareBaseband
  contract.startup
  if contract.family.isFc001x then Act.ignore (enableI2cRepeater true)

/-- The discovery of the tuner family in `open_path`: the first family whose probe succeeds is
activated, and no other is tried when that fails. -/
def discover : List FamilyContract → DevM Unit
  | [] => Act.fail .nodev
  | contract :: rest => do
    modifyDevice fun d => { d with identity.tunerBusAddr := contract.busAddr }
    match ← Act.attempt contract.probe with
    | .ok _ => activate contract
    | .error _ => discover rest

/-- The phases of `open_path` that talk to the device, from its claim to its registration. -/
def bringUp : DevM Unit := do
  Rtl.init
  discover familyContracts

/-- A device as `open_path` allocates it. -/
def blankDevice : Device :=
  { identity := ⟨.unknown, 0⟩
    baseband := ⟨28800000, 0⟩
    shadow := ⟨fun _ => 0⟩
    tuning := ⟨0, 0, 0, 0, 0, 0, 0, 0⟩
    streamActive := false
    usbErrorCount := 0
    health := .ok }

/-- A device that has been brought up with the tuner of a family and not been configured since, but
for its frequency correction perhaps. -/
structure Opened (family : TunerType) (busAddr : UInt16) (ifHz : UInt32) (w : World) : Prop where
  identity : w.dev.identity = ⟨family, busAddr⟩
  oscillator : w.dev.baseband.oscillatorHz = 28800000
  ifOffset : w.dev.tuning.ifOffsetHz = ifHz
  untuned : w.loRequested = none

abbrev OpenedR820t : World → Prop := Opened .r820t 0x34 3570000

abbrev OpenedFc0012 : World → Prop := Opened .fc0012 0xC6 0

theorem init_ok {env : Env} {w w' : World} (h : Rtl.init env w = (.ok (), w')) :
    w'.config =
      { w.config with baseband := { w.dev.baseband with oscillatorHz := 28800000 } } := by
  obtain ⟨_, u, hu, h⟩ := Act.bind_eq_ok.mp h
  have hconfig := keeps_boot.world hu
  cases h
  rw [← hconfig, ← show u.dev.baseband = w.dev.baseband from congrArg Config.baseband hconfig]
  rfl

/-- The configuration with another tuner behind the repeater. -/
def withTuner (c : Config) (identity : DeviceIdentity) : Config := { c with identity }

theorem setTuner_ok {f : DeviceIdentity → DeviceIdentity} {env : Env} {w w' : World} {x : Unit}
    (h : modifyDevice (fun d => { d with identity := f d.identity }) env w = (.ok x, w')) :
    w'.config = withTuner w.config (f w.dev.identity) := by
  cases h
  rfl

theorem configureR820t_ok {env : Env} {w w' : World}
    (hclass : w.dev.identity.tunerClass = .r820t) (h : configureR820t env w = (.ok (), w')) :
    w'.config = w.config.withIf 3570000 := by
  rw [configureR820t, Act.bind_of_ok (device_apply env w), hclass] at h
  obtain ⟨_, u, hu, h⟩ := Act.bind_eq_ok.mp h
  rw [setIfFreq_ok h, (keeps_applyDescriptors _).world hu]

theorem configureFc0012_ok {env : Env} {w w' : World} (h : configureFc0012 env w = (.ok (), w')) :
    w'.config = w.config.withIf 0 := by
  obtain ⟨_, u, hu, h⟩ := Act.bind_eq_ok.mp h
  rw [setIfFreq_ok h, (keeps_applyDescriptors _).world hu]

theorem activate_r820t_ok {env : Env} {w w' : World}
    (h : activate r820tContract env w = (.ok (), w')) :
    w'.config =
      (withTuner w.config { w.dev.identity with tunerClass := .r820t }).withIf 3570000 := by
  obtain ⟨_, u, hu, h⟩ := Act.bind_eq_ok.mp h
  obtain ⟨_, v, hv, h⟩ := Act.bind_eq_ok.mp h
  obtain ⟨_, x, hx, h⟩ := Act.bind_eq_ok.mp h
  cases h
  have hu := setTuner_ok (f := fun i => { i with tunerClass := .r820t }) hu
  have hclass : u.dev.identity.tunerClass = .r820t := congrArg (·.identity.tunerClass) hu
  rw [R820t.keeps_init.world hx, configureR820t_ok hclass hv, hu]

theorem activate_fc0012_ok {env : Env} {w w' : World}
    (h : activate fc0012Contract env w = (.ok (), w')) :
    w'.config = (withTuner w.config { w.dev.identity with tunerClass := .fc0012 }).withIf 0 := by
  obtain ⟨_, u, hu, h⟩ := Act.bind_eq_ok.mp h
  obtain ⟨_, v, hv, h⟩ := Act.bind_eq_ok.mp h
  obtain ⟨_, x, hx, h⟩ := Act.bind_eq_ok.mp h
  have hu := setTuner_ok (f := fun i => { i with tunerClass := .fc0012 }) hu
  have hgate : Keeps World.config (Act.ignore (enableI2cRepeater true)) := by
    grind
  rw [hgate.world h, Fc0012.keeps_init.world hx, configureFc0012_ok hv, hu]

theorem detect_r820t_ok {env : Env} {w w' : World} (h : R820t.detect env w = (.ok (), w')) :
    w'.config = withTuner w.config { w.dev.identity with tunerClass := .r820t } := by
  obtain ⟨bytes, u, hu, h⟩ := Act.bind_eq_ok.mp h
  have hconfig := (keeps_tunerRead _ _).world hu
  split at h
  · cases h
  · rw [setTuner_ok (f := fun i => { i with tunerClass := .r820t }) h, hconfig,
      show u.dev.identity = _ from congrArg Config.identity hconfig]
    rfl

theorem detect_r820t_error {env : Env} {w w' : World} {e : Fault SdrggError}
    (h : R820t.detect env w = (.error e, w')) : w'.config = w.config := by
  obtain h | ⟨bytes, u, hu, h⟩ := Act.bind_eq_fault.mp h
  · exact (keeps_tunerRead _ _).world h
  · split at h
    · cases h
      exact (keeps_tunerRead _ _).world hu
    · cases h

/-- A discovery that succeeds ends with the activation of one of its families, in a world with what
the trials of the families leave. -/
theorem discover_activates {I : World → Prop} {contracts : List FamilyContract} {env : Env}
    {w w' : World} (hmodify : ∀ f, Preserves env I (modifyDevice f))
    (hprobe : ∀ contract ∈ contracts, Preserves env I contract.probe) (hw : I w)
    (h : discover contracts env w = (.ok (), w')) :
    ∃ contract ∈ contracts, ∃ v, I v ∧ activate contract env v = (.ok (), w') := by
  induction contracts generalizing w with
  | nil => cases h
  | cons contract rest ih =>
    obtain ⟨hfirst, hrest⟩ := List.forall_mem_cons.mp hprobe
    obtain ⟨_, u, hu, h⟩ := Act.bind_eq_ok.mp h
    obtain ⟨out, v, hv, h⟩ := Act.bind_eq_ok.mp h
    have hIv : I v := hfirst.attempt.world ((hmodify _).world hw hu) hv
    cases out with
    | ok _ => exact ⟨contract, List.mem_cons_self, v, hIv, h⟩
    | error e =>
      obtain ⟨other, hmem, hactivate⟩ := ih hrest hIv h
      exact ⟨other, List.mem_cons_of_mem _ hmem, hactivate⟩

/-- What the discovery of the tuner family leaves. -/
theorem discover_ok {env : Env} {w w' : World}
    (h : discover familyContracts env w = (.ok (), w')) :
    w'.config = (withTuner w.config ⟨.r820t, 0x34⟩).withIf 3570000 ∨
      w'.config = (withTuner w.config ⟨.fc0012, 0xC6⟩).withIf 0 := by
  obtain ⟨_, u, hu, h⟩ := Act.bind_eq_ok.mp h
  have hu := setTuner_ok (f := fun i => { i with tunerBusAddr := 0x34 }) hu
  obtain ⟨x, v, hv, h⟩ := Act.bind_eq_ok.mp h
  obtain ⟨_, rfl, hprobe⟩ | ⟨e, rfl, hprobe⟩ := Act.attempt_eq_ok.mp hv
  · left
    have hv := detect_r820t_ok hprobe
    rw [hu, show u.dev.identity = _ from congrArg Config.identity hu] at hv
    rw [activate_r820t_ok h, hv, show v.dev.identity = _ from congrArg Config.identity hv]
    rfl
  · right
    have hv := (detect_r820t_error hprobe).trans hu
    obtain ⟨_, x, hx, h⟩ := Act.bind_eq_ok.mp h
    have hx := setTuner_ok (f := fun i => { i with tunerBusAddr := 0xC6 }) hx
    obtain ⟨y, z, hz, h⟩ := Act.bind_eq_ok.mp h
    have hconfig := (Fc0012.keeps_detect.attempt.world hz).trans hx
    cases y with
    | error e => cases h
    | ok y =>
      rw [activate_fc0012_ok h, hconfig,
        show z.dev.identity = _ from congrArg Config.identity hconfig, hv]
      rfl

/-- A device that the bring-up returns is open with one of the two tuners, and uncorrected. -/
theorem bringUp_opened {env : Env} {w w' : World} (hblank : w.dev = blankDevice)
    (hlo : w.loRequested = none) (h : bringUp env w = (.ok (), w')) :
    (OpenedR820t w' ∨ OpenedFc0012 w') ∧ w'.dev.baseband.freqOffsetPpm = 0 := by
  obtain ⟨_, u, hu, h⟩ := Act.bind_eq_ok.mp h
  have hconfig : u.config = { w.config with baseband := ⟨28800000, 0⟩ } := by
    rw [init_ok hu, hblank]
    rfl
  have hopened {family : TunerType} {busAddr : UInt16} {ifHz : UInt32}
      (hw' : w'.config = (withTuner u.config ⟨family, busAddr⟩).withIf ifHz) :
      Opened family busAddr ifHz w' ∧ w'.dev.baseband.freqOffsetPpm = 0 := by
    rw [hconfig] at hw'
    exact ⟨{
      identity := congrArg Config.identity hw'
      oscillator := congrArg (·.baseband.oscillatorHz) hw'
      ifOffset := congrArg (·.tuning.ifOffsetHz) hw'
      untuned := (congrArg Config.loRequested hw').trans hlo },
      congrArg (·.baseband.freqOffsetPpm) hw'⟩
  obtain hw' | hw' := discover_ok h
  · exact ⟨.inl (hopened hw').1, (hopened hw').2⟩
  · exact ⟨.inr (hopened hw').1, (hopened hw').2⟩

/-- The family of the tuner decides which activation a discovery has ended with. -/
theorem discover_family {env : Env} {w w' : World}
    (h : discover familyContracts env w = (.ok (), w')) :
    (w'.dev.identity.tunerClass = .r820t ∧ ∃ v, activate r820tContract env v = (.ok (), w')) ∨
      (w'.dev.identity.tunerClass = .fc0012 ∧
        ∃ v, activate fc0012Contract env v = (.ok (), w')) := by
  obtain ⟨contract, hmem, v, -, hv⟩ := discover_activates (I := fun _ => True)
    (fun _ _ _ => trivial) (fun _ _ _ _ => trivial) trivial h
  simp only [familyContracts, List.mem_cons, List.not_mem_nil, or_false] at hmem
  obtain rfl | rfl := hmem
  · exact .inl ⟨congrArg (fun c => c.identity.tunerClass) (activate_r820t_ok hv), v, hv⟩
  · exact .inr ⟨congrArg (fun c => c.identity.tunerClass) (activate_fc0012_ok hv), v, hv⟩

/-- The discovery does not trap after the boot. -/
theorem discover_defined {env : Env} {w : World} (hosc : w.dev.baseband.oscillatorHz = 28800000) :
    (discover familyContracts env w).1 ≠ .error .trap := by
  have hgate : ∀ contract : FamilyContract,
      Defined (if contract.family.isFc001x then Act.ignore (enableI2cRepeater true) else pure ()) := by
    grind
  have hfc0012 : Defined (discover [fc0012Contract]) := by
    refine (defined_modifyDevice _).bind fun _ => Fc0012.defined_detect.attempt.bind fun out => ?_
    cases out with
    | error e => exact Defined.fail _
    | ok _ =>
      exact (defined_modifyDevice _).bind fun _ => defined_configureFc0012.bind fun _ =>
        Fc0012.defined_init.bind fun _ => hgate fc0012Contract
  refine bind_ne_trap (by nofun) fun _ u hu => ?_
  refine bind_ne_trap (R820t.defined_detect.attempt env u) fun out v hv => ?_
  cases out with
  | error e => exact hfc0012 env v
  | ok x =>
    refine bind_ne_trap (by nofun) fun _ y hmodify => ?_
    obtain ⟨_, -, hprobe⟩ | ⟨_, hfalse, -⟩ := Act.attempt_eq_ok.mp hv
    · have hy : y.dev.baseband.oscillatorHz = 28800000 := by
        have hbaseband := congrArg Config.baseband (detect_r820t_ok hprobe)
        cases hu
        cases hmodify
        rw [← hosc]
        exact congrArg BasebandState.oscillatorHz hbaseband
      exact bind_ne_trap (configureR820t_defined hy) fun _ z _ =>
        (R820t.defined_init.bind fun _ => hgate r820tContract) env z
    · cases hfalse

/-! ### Configuration calls -/

/-- `sdr::set_freq_correction`. -/
def setFreqCorrection (ppm : Int32) : DevM Unit :=
  modifyDevice fun d => { d with baseband.freqOffsetPpm := ppm }

/-- `sdr::set_digital_agc`. -/
def setDigitalAgc (enable : Bool) : DevM Unit :=
  demodWrite 0 0x0019 (if enable then 0x25 else 0x05)

def needBulkPause (dev : Device) : Bool := dev.streamActive && dev.identity.tunerClass.isFc001x

def pauseBulk (dev : Device) : DevM Unit :=
  if needBulkPause dev then Act.ignore stopBulk else pure ()

def resumeBulk (dev : Device) : DevM Unit :=
  if needBulkPause dev then Act.ignore startBulk else pure ()

/-- The tuning of `set_frequency` by the family of the device. -/
def tune (freqHz : UInt32) : DevM Unit := do
  let dev ← device
  if dev.identity.tunerClass = .fc0012 then Fc0012.setFreq freqHz
  else R820t.setFreq freqHz dev.tuning.ifOffsetHz

/-- The outcome of a tuning, with the frequency committed when it succeeded. -/
def commitFreq (freqHz : UInt32) (rc : Except SdrggError Unit) : DevM Unit := do
  modifyTuning fun t => { t with lastFreqResult := resultCode rc }
  match rc with
  | .ok _ => modifyTuning fun t => { t with centerFreqHz := freqHz }
  | .error _ => pure ()

/-- The steps of `set_frequency` after the tuning. -/
def finishFreq (freqHz : UInt32) (dev : Device) (rc : Except SdrggError Unit) : DevM UInt32 := do
  commitFreq freqHz rc
  resumeBulk dev
  Act.ofExcept rc
  return freqHz

/-- `sdr::set_frequency`, with the value that it stores through `actual_hz`. -/
def setFrequency (freqHz : UInt32) : DevM UInt32 := do
  modifyTuning fun t => { t with requestedFreqHz := freqHz }
  let dev ← device
  pauseBulk dev
  let rc ← Act.attempt (tune freqHz)
  finishFreq freqHz dev rc

/-- `sdr::set_sample_rate`, with the value that it stores through `actual_hz`. -/
def setSampleRate (rateHz : UInt32) : DevM UInt32 := do
  modifyTuning fun t => { t with requestedRateHz := rateHz }
  let rc ← Act.attempt (Rtl.setSampleRate rateHz)
  modifyTuning fun t => { t with lastRateResult := resultCode rc }
  Act.ofExcept rc
  let dev ← device
  return dev.tuning.samplingRateHz

/-- `SDRGG_GAIN_AUTO`. -/
def gainAuto : Int32 := -1

/-- The gain of `set_gain` by the contract of the device. -/
def applyGain (contract : FamilyContract) (gainTenthDb : Int32) : DevM Unit :=
  if gainTenthDb = gainAuto then contract.applyAutoGain else contract.applyGain gainTenthDb

def commitGain (gainTenthDb : Int32) : Except SdrggError Unit → DevM Unit
  | .ok _ => modifyTuning fun t => { t with gainPolicy := gainTenthDb }
  | .error _ => pure ()

/-- The steps of `set_gain` after the gain has been applied. -/
def finishGain (gainTenthDb : Int32) (dev : Device) (rc : Except SdrggError Unit) : DevM Unit := do
  commitGain gainTenthDb rc
  resumeBulk dev
  Act.ofExcept rc

/-- `sdr::set_gain`. -/
def setGain (gainTenthDb : Int32) : DevM Unit := do
  let dev ← device
  match activeContract dev.identity.tunerClass with
  | none => Act.fail .param
  | some contract =>
    pauseBulk dev
    let rc ← Act.attempt (applyGain contract gainTenthDb)
    finishGain gainTenthDb dev rc

/-! ### What the calls leave alone -/

@[grind ←] theorem keeps_pauseBulk (dev : Device) : Keeps World.config (pauseBulk dev) := by
  grind [pauseBulk]

@[grind ←] theorem keeps_resumeBulk (dev : Device) : Keeps World.config (resumeBulk dev) := by
  grind [resumeBulk]

theorem keeps_applyGain {contract : FamilyContract} (hcontract : contract ∈ familyContracts)
    (gainTenthDb : Int32) : Keeps World.config (applyGain contract gainTenthDb) := by
  have hgain : Keeps World.config (r820tApplyGain gainTenthDb) := by
    grind [r820tApplyGain]
  have hauto : Keeps World.config r820tApplyAuto := by
    grind [r820tApplyAuto]
  simp only [familyContracts, List.mem_cons, List.not_mem_nil, or_false] at hcontract
  unfold applyGain
  obtain rfl | rfl := hcontract <;> split
  · exact hauto
  · exact hgain
  · exact Fc0012.keeps_setAutoGain
  · exact Fc0012.keeps_setGain gainTenthDb

section Preserves

variable {env : Env} {I : World → Prop}

theorem preserves_pauseBulk (hstop : Preserves env I stopBulk) (dev : Device) :
    Preserves env I (pauseBulk dev) := by
  unfold pauseBulk
  split
  · exact hstop.ignore
  · exact Preserves.pure _

theorem preserves_resumeBulk (hstart : Preserves env I startBulk) (dev : Device) :
    Preserves env I (resumeBulk dev) := by
  unfold resumeBulk
  split
  · exact hstart.ignore
  · exact Preserves.pure _

/-- The stream is paused for a setting and resumed behind it, when the outcome has been committed. -/
theorem preserves_paused {α : Type} {m : DevM Unit} {commit : Except SdrggError Unit → DevM Unit}
    {k : Except SdrggError Unit → DevM α} (hstop : Preserves env I stopBulk)
    (hstart : Preserves env I startBulk) (hm : Preserves env I m)
    (hcommit : ∀ rc, Preserves env I (commit rc)) (hk : ∀ rc, Preserves env I (k rc))
    (dev : Device) : Preserves env I (do
      pauseBulk dev
      let rc ← Act.attempt m
      commit rc
      resumeBulk dev
      k rc) :=
  (preserves_pauseBulk hstop dev).bind fun _ => hm.attempt.bind fun rc => (hcommit rc).bind fun _ =>
    (preserves_resumeBulk hstart dev).bind fun _ => hk rc

theorem preserves_setFrequency {freqHz : UInt32} (hstop : Preserves env I stopBulk)
    (hstart : Preserves env I startBulk)
    (hrequest : Preserves env I (modifyTuning fun t => { t with requestedFreqHz := freqHz }))
    (htune : Preserves env I (tune freqHz))
    (hcommit : ∀ rc, Preserves env I (commitFreq freqHz rc)) :
    Preserves env I (setFrequency freqHz) :=
  hrequest.bind fun _ => Preserves.bind (fun _ hw => hw) fun dev =>
    preserves_paused hstop hstart htune hcommit
      (fun rc => (Preserves.ofExcept rc).bind fun _ => Preserves.pure _) dev

/-- A resampler setting preserves what its writes do. -/
theorem preserves_applyRate {q : Resampling} (hnote : ∀ f, Preserves env I (modifyTuning f))
    (hband : ∀ w, I w → needsBandwidth w.dev.identity q.achievedHz = true →
      Preserves env I (R820t.setBandwidth (q.achievedHz / 1000)))
    (htail : Preserves env I (do programRatio q.ratio; reprogramIf)) :
    Preserves env I (applyRate q) := by
  refine (hnote _).bind fun _ w hw => ?_
  rw [Act.bind_of_ok (device_apply env w)]
  split
  · rename_i hneeds
    exact (hband w hw hneeds).bind (fun _ => htail) w hw
  · exact htail w hw

/-- A rate that is not accepted is only noted. -/
theorem preserves_setSampleRate {rateHz : UInt32} (hnote : ∀ f, Preserves env I (modifyTuning f))
    (hrate : ∀ w q, I w → rateAccepted rateHz = true → resampling w.dev.baseband rateHz = some q →
      Preserves env I (applyRate q)) : Preserves env I (setSampleRate rateHz) := by
  have hset : Preserves env I (Rtl.setSampleRate rateHz) := by
    intro w hw
    cases haccepted : rateAccepted rateHz with
    | false =>
      rw [setSampleRate_rejected haccepted]
      exact hw
    | true =>
      cases hq : resampling w.dev.baseband rateHz with
      | none =>
        rw [setSampleRate_undefined haccepted hq]
        exact hw
      | some q =>
        rw [setSampleRate_accepted haccepted hq]
        exact hrate w q hw haccepted hq w hw
  exact (hnote _).bind fun _ => hset.attempt.bind fun rc => (hnote _).bind fun _ =>
    (Preserves.ofExcept rc).bind fun _ => Preserves.bind (fun _ hw => hw) fun _ => Preserves.pure _

/-- A property that what stands around a setting preserves: the notes in the tuning context, and the
stop and the start of the endpoint. -/
structure Around (env : Env) (I : World → Prop) : Prop where
  note : ∀ f, Preserves env I (modifyTuning f)
  stop : Preserves env I stopBulk
  start : Preserves env I startBulk

variable (h : Around env I)

include h

/-- A frequency preserves what the tuning does. -/
theorem Around.preserves_setFrequency {freqHz : UInt32} (htune : Preserves env I (tune freqHz)) :
    Preserves env I (setFrequency freqHz) := by
  refine Sdr.preserves_setFrequency h.stop h.start (h.note _) htune fun rc => ?_
  cases rc with
  | ok _ => exact (h.note _).bind fun _ => h.note _
  | error e => exact (h.note _).bind fun _ => Preserves.pure _

/-- A gain preserves what the gain of the device's family does. -/
theorem Around.preserves_setGain {gainTenthDb : Int32}
    (happly : ∀ w contract, I w → activeContract w.dev.identity.tunerClass = some contract →
      Preserves env I (applyGain contract gainTenthDb)) : Preserves env I (setGain gainTenthDb) := by
  intro w hw
  rw [setGain, Act.bind_of_ok (device_apply env w)]
  rcases hcontract : activeContract w.dev.identity.tunerClass with _ | contract
  · exact hw
  · refine preserves_paused h.stop h.start (happly w contract hw hcontract) (fun rc => ?_)
      (fun rc => Preserves.ofExcept rc) w.dev w hw
    cases rc with
    | ok _ => exact h.note _
    | error e => exact Preserves.pure _

end Preserves

/-- A part of the configuration that `set_frequency` does not write. -/
structure OffTuning {κ : Type} (f : Config → κ) : Prop where
  loRequested : ∀ (c : Config) (lo : Option UInt32), f { c with loRequested := lo } = f c
  requested : ∀ (c : Config) (hz : UInt32),
    f { c with tuning := { c.tuning with requestedFreqHz := hz } } = f c
  result : ∀ (c : Config) (rc : Int32),
    f { c with tuning := { c.tuning with lastFreqResult := rc } } = f c
  center : ∀ (c : Config) (hz : UInt32),
    f { c with tuning := { c.tuning with centerFreqHz := hz } } = f c

section OffTuning

variable {κ : Type} {f : Config → κ} (h : OffTuning f)

include h

theorem OffTuning.keeps_tune (freqHz : UInt32) : Keeps (fun w => f w.config) (tune freqHz) := by
  refine (keeps_device.comp f).bind fun dev => ?_
  split
  · exact ((Fc0012.keeps_programFreq _).comp f).bind fun _ =>
      Keeps.modify fun w => h.center w.config freqHz
  · refine ((R820t.keeps_setMux _).comp f).bind fun _ => Keeps.bind ?_ fun _ =>
      (R820t.keeps_lowerIntents _).comp f
    exact Keeps.bind (Keeps.modify fun w => h.loRequested w.config _) fun _ =>
      (R820t.keeps_programPll _).comp f

theorem OffTuning.keeps_commitFreq (freqHz : UInt32) (rc : Except SdrggError Unit) :
    Keeps (fun w => f w.config) (commitFreq freqHz rc) := by
  refine Keeps.bind (Keeps.modify fun w => h.result w.config _) fun _ => ?_
  cases rc with
  | ok _ => exact Keeps.modify fun w => h.center w.config freqHz
  | error e => exact Keeps.pure _

theorem OffTuning.keeps_setFrequency (freqHz : UInt32) :
    Keeps (fun w => f w.config) (setFrequency freqHz) := by
  refine Keeps.of_preserves fun env k => ?_
  refine preserves_setFrequency ((keeps_stopBulk.comp f).value k) ((keeps_startBulk.comp f).value k)
    ?_ ((h.keeps_tune freqHz).value k) fun rc => (h.keeps_commitFreq freqHz rc).value k
  exact Keeps.value (Keeps.modify fun w => h.requested w.config freqHz) k

end OffTuning

theorem keepsIdentity_tune (freqHz : UInt32) : Keeps (fun w => w.dev.identity) (tune freqHz) :=
  OffTuning.keeps_tune (f := fun c => c.identity)
    ⟨fun _ _ => rfl, fun _ _ => rfl, fun _ _ => rfl, fun _ _ => rfl⟩ freqHz

/-- A tuning that fails leaves the tuning context as it was. -/
theorem tune_fault {freqHz : UInt32} {env : Env} {w w' : World} {e : Fault SdrggError}
    (h : tune freqHz env w = (.error e, w')) : w'.dev.tuning = w.dev.tuning := by
  rw [tune, Act.bind_of_ok (device_apply env w)] at h
  split at h
  · exact congrArg Config.tuning (Fc0012.setFreq_fault h)
  · exact (R820t.setFreq_tuning _ _).world h

/-- A device without an FC0012 is tuned by the R820T code, to the frequency and its IF. -/
theorem tune_ok {freqHz : UInt32} {env : Env} {w w' : World}
    (hclass : w.dev.identity.tunerClass ≠ .fc0012) (h : tune freqHz env w = (.ok (), w')) :
    w'.config = { w.config with loRequested := some (freqHz + w.dev.tuning.ifOffsetHz) } ∧
      27657 ≤ (freqHz + w.dev.tuning.ifOffsetHz).toNat / 1000 ∧
        (freqHz + w.dev.tuning.ifOffsetHz).toNat / 1000 < 1770000 := by
  rw [tune, Act.bind_of_ok (device_apply env w), if_neg hclass] at h
  exact R820t.setFreq_ok h

theorem commitFreq_error {freqHz : UInt32} {e : SdrggError} {env : Env} {w w' : World} {x : Unit}
    (h : commitFreq freqHz (.error e) env w = (.ok x, w')) :
    w'.dev.tuning = { w.dev.tuning with lastFreqResult := e.code } := by
  cases h
  rfl

theorem commitFreq_ok {freqHz : UInt32} {y x : Unit} {env : Env} {w w' : World}
    (h : commitFreq freqHz (.ok y) env w = (.ok x, w')) :
    w'.config =
      { w.config with
        tuning := { w.dev.tuning with centerFreqHz := freqHz, lastFreqResult := 0 } } := by
  cases h
  rfl

theorem finishFreq_ok {freqHz hz : UInt32} {dev : Device} {rc : Except SdrggError Unit} {env : Env}
    {w w' : World} (h : finishFreq freqHz dev rc env w = (.ok hz, w')) :
    rc = .ok () ∧ w'.config =
      { w.config with
        tuning := { w.dev.tuning with centerFreqHz := freqHz, lastFreqResult := 0 } } := by
  obtain ⟨_, u, hu, h⟩ := Act.bind_eq_ok.mp h
  obtain ⟨_, v, hv, h⟩ := Act.bind_eq_ok.mp h
  obtain ⟨_, x, hx, h⟩ := Act.bind_eq_ok.mp h
  obtain ⟨rfl, rfl⟩ := Act.ofExcept_eq_ok.mp hx
  cases h
  exact ⟨rfl, ((keeps_resumeBulk dev).world hv).trans (commitFreq_ok hu)⟩

theorem pauseBulk_ne_error {dev : Device} {env : Env} {w w' : World} {e : SdrggError} :
    pauseBulk dev env w ≠ (.error (.error e), w') := by
  unfold pauseBulk
  split
  · exact Act.ignore_ne_error
  · nofun

theorem resumeBulk_ne_error {dev : Device} {env : Env} {w w' : World} {e : SdrggError} :
    resumeBulk dev env w ≠ (.error (.error e), w') := by
  unfold resumeBulk
  split
  · exact Act.ignore_ne_error
  · nofun

theorem finishFreq_error {freqHz : UInt32} {dev : Device} {rc : Except SdrggError Unit} {env : Env}
    {w w' : World} {e : SdrggError}
    (h : finishFreq freqHz dev rc env w = (.error (.error e), w')) :
    rc = .error e ∧ w'.dev.tuning = { w.dev.tuning with lastFreqResult := e.code } := by
  obtain h | ⟨_, u, hu, h⟩ := Act.bind_eq_fault.mp h
  · cases rc <;> cases h
  obtain h | ⟨_, v, hv, h⟩ := Act.bind_eq_fault.mp h
  · exact absurd h resumeBulk_ne_error
  obtain h | ⟨_, x, -, h⟩ := Act.bind_eq_fault.mp h
  · obtain ⟨rfl, rfl⟩ := Act.ofExcept_eq_error.mp h
    exact ⟨rfl, (congrArg Config.tuning ((keeps_resumeBulk dev).world hv)).trans
      (commitFreq_error hu)⟩
  · cases h

/-- The state in which `set_frequency` tunes. -/
theorem requestFreq_ok {freqHz : UInt32} {env : Env} {w u : World} {x : Unit}
    (h : modifyTuning (fun t => { t with requestedFreqHz := freqHz }) env w = (.ok x, u)) :
    u.config = { w.config with tuning := { w.dev.tuning with requestedFreqHz := freqHz } } := by
  cases h
  rfl

/-- What a successful `set_frequency` leaves on a device without an FC0012. -/
theorem setFrequency_ok {freqHz hz : UInt32} {env : Env} {w w' : World}
    (hclass : w.dev.identity.tunerClass ≠ .fc0012)
    (h : setFrequency freqHz env w = (.ok hz, w')) :
    w'.config =
        { w.config with
          tuning :=
            { w.dev.tuning with
              requestedFreqHz := freqHz, centerFreqHz := freqHz, lastFreqResult := 0 }
          loRequested := some (freqHz + w.dev.tuning.ifOffsetHz) } ∧
      27657 ≤ (freqHz + w.dev.tuning.ifOffsetHz).toNat / 1000 ∧
        (freqHz + w.dev.tuning.ifOffsetHz).toNat / 1000 < 1770000 := by
  obtain ⟨_, u, hu, h⟩ := Act.bind_eq_ok.mp h
  rw [Act.bind_of_ok (device_apply env u)] at h
  obtain ⟨_, v, hv, h⟩ := Act.bind_eq_ok.mp h
  obtain ⟨rc, x, hx, h⟩ := Act.bind_eq_ok.mp h
  have hconfig := ((keeps_pauseBulk u.dev).world hv).trans (requestFreq_ok hu)
  have hif : v.dev.tuning.ifOffsetHz = w.dev.tuning.ifOffsetHz :=
    congrArg (fun c => c.tuning.ifOffsetHz) hconfig
  have hidentity : v.dev.identity = w.dev.identity := congrArg Config.identity hconfig
  obtain ⟨rfl, hfinish⟩ := finishFreq_ok h
  obtain ⟨_, -, htune⟩ | ⟨_, hrc, -⟩ := Act.attempt_eq_ok.mp hx
  · obtain ⟨hx, hlo⟩ := tune_ok (hidentity ▸ hclass) htune
    rw [hif] at hx hlo
    refine ⟨?_, hlo⟩
    rw [hfinish, show x.dev.tuning = _ from congrArg Config.tuning hx, hx, hconfig]
  · cases hrc

/-- What a `set_frequency` that reports an error leaves of the tuning context. -/
theorem setFrequency_error {freqHz : UInt32} {env : Env} {w w' : World} {e : SdrggError}
    (h : setFrequency freqHz env w = (.error (.error e), w')) :
    w'.dev.tuning =
      { w.dev.tuning with requestedFreqHz := freqHz, lastFreqResult := e.code } := by
  obtain h | ⟨_, u, hu, h⟩ := Act.bind_eq_fault.mp h
  · cases h
  rw [Act.bind_of_ok (device_apply env u)] at h
  obtain h | ⟨_, v, hv, h⟩ := Act.bind_eq_fault.mp h
  · exact absurd h pauseBulk_ne_error
  obtain h | ⟨rc, x, hx, h⟩ := Act.bind_eq_fault.mp h
  · exact absurd h Act.attempt_ne_error
  have hconfig := ((keeps_pauseBulk u.dev).world hv).trans (requestFreq_ok hu)
  obtain ⟨rfl, hfinish⟩ := finishFreq_error h
  obtain ⟨_, hrc, -⟩ | ⟨_, -, htune⟩ := Act.attempt_eq_ok.mp hx
  · cases hrc
  · rw [hfinish, tune_fault htune, show v.dev.tuning = _ from congrArg Config.tuning hconfig]

theorem requestRate_ok {rateHz : UInt32} {env : Env} {w u : World} {x : Unit}
    (h : modifyTuning (fun t => { t with requestedRateHz := rateHz }) env w = (.ok x, u)) :
    u.config = { w.config with tuning := { w.dev.tuning with requestedRateHz := rateHz } } := by
  cases h
  rfl

theorem noteRateResult_ok {rc : Int32} {env : Env} {w u : World} {x : Unit}
    (h : modifyTuning (fun t => { t with lastRateResult := rc }) env w = (.ok x, u)) :
    u.config = { w.config with tuning := { w.dev.tuning with lastRateResult := rc } } := by
  cases h
  rfl

/-- The configuration with the request and the outcome of a `set_sample_rate` noted. -/
def noteRate (c : Config) (rateHz : UInt32) (rc : Int32) : Config :=
  { c with tuning := { c.tuning with requestedRateHz := rateHz, lastRateResult := rc } }

/-- A setting is applied to the same effect whether or not its request has been noted. -/
theorem rated_request {c d e : Config} {q : Resampling} {rateHz : UInt32} {rc : Int32}
    (hd : d = { c with tuning := { c.tuning with requestedRateHz := rateHz } })
    (he : e = { rated d q with tuning := { (rated d q).tuning with lastRateResult := rc } }) :
    e = noteRate (rated c q) rateHz rc := by
  subst hd he
  unfold rated
  dsimp only
  split <;> rfl

theorem resampling_request {w u : World} {rateHz : UInt32}
    (h : u.config = { w.config with tuning := { w.dev.tuning with requestedRateHz := rateHz } }) :
    resampling u.dev.baseband rateHz = resampling w.dev.baseband rateHz := by
  rw [show u.dev.baseband = w.dev.baseband from congrArg Config.baseband h]

/-- A successful `set_sample_rate` takes a resampler setting and applies it. -/
theorem setSampleRate_applies {rateHz hz : UInt32} {env : Env} {w w' : World}
    (h : setSampleRate rateHz env w = (.ok hz, w')) :
    rateAccepted rateHz = true ∧ ∃ q u v, resampling w.dev.baseband rateHz = some q ∧
      modifyTuning (fun t => { t with requestedRateHz := rateHz }) env w = (.ok (), u) ∧
      applyRate q env u = (.ok (), v) ∧
      modifyTuning (fun t => { t with lastRateResult := 0 }) env v = (.ok (), w') := by
  obtain ⟨_, u, hu, h⟩ := Act.bind_eq_ok.mp h
  obtain ⟨rc, v, hv, h⟩ := Act.bind_eq_ok.mp h
  obtain ⟨_, x, hx, h⟩ := Act.bind_eq_ok.mp h
  obtain ⟨_, y, hy, h⟩ := Act.bind_eq_ok.mp h
  obtain ⟨rfl, rfl⟩ := Act.ofExcept_eq_ok.mp hy
  cases h
  obtain ⟨_, -, hrate⟩ | ⟨_, hrc, -⟩ := Act.attempt_eq_ok.mp hv
  · cases haccept : rateAccepted rateHz with
    | false =>
      rw [setSampleRate_rejected haccept] at hrate
      cases hrate
    | true =>
      cases hq : resampling u.dev.baseband rateHz with
      | none =>
        rw [setSampleRate_undefined haccept hq] at hrate
        cases hrate
      | some q =>
        rw [setSampleRate_accepted haccept hq] at hrate
        exact ⟨rfl, q, u, v, (resampling_request (requestRate_ok hu)).symm.trans hq, hu, hrate, hx⟩
  · cases hrc

/-- What a successful `set_sample_rate` leaves. -/
theorem setSampleRate_ok {rateHz hz : UInt32} {env : Env} {w w' : World}
    (h : setSampleRate rateHz env w = (.ok hz, w')) :
    rateAccepted rateHz = true ∧ ∃ q, resampling w.dev.baseband rateHz = some q ∧
      w'.config = noteRate (rated w.config q) rateHz 0 := by
  obtain ⟨haccept, q, u, v, hq, hu, hv, hw'⟩ := setSampleRate_applies h
  refine ⟨haccept, q, hq, rated_request (requestRate_ok hu) ?_⟩
  rw [← applyRate_ok hv]
  exact noteRateResult_ok hw'

/-- What a `set_sample_rate` that reports an error leaves. -/
theorem setSampleRate_error {rateHz : UInt32} {env : Env} {w w' : World} {e : SdrggError}
    (h : setSampleRate rateHz env w = (.error (.error e), w')) :
    (rateAccepted rateHz = false ∧ w'.config = noteRate w.config rateHz e.code) ∨
      rateAccepted rateHz = true ∧ ∃ q, resampling w.dev.baseband rateHz = some q ∧
        (w'.config = noteRate (w.config.withRate q.achievedHz) rateHz e.code ∨
          w'.config = noteRate (rated w.config q) rateHz e.code ∧
            (needsBandwidth w.dev.identity q.achievedHz = true →
              (ncoWord w.dev.baseband.oscillatorHz q.ifHz).isSome)) := by
  obtain h | ⟨_, u, hu, h⟩ := Act.bind_eq_fault.mp h
  · cases h
  obtain h | ⟨rc, v, hv, h⟩ := Act.bind_eq_fault.mp h
  · exact absurd h Act.attempt_ne_error
  obtain h | ⟨_, x, hx, h⟩ := Act.bind_eq_fault.mp h
  · cases h
  obtain h | ⟨_, y, -, h⟩ := Act.bind_eq_fault.mp h
  · obtain ⟨rfl, rfl⟩ := Act.ofExcept_eq_error.mp h
    have hrequest := requestRate_ok hu
    have hresult := noteRateResult_ok hx
    obtain ⟨_, hrc, -⟩ | ⟨e', he, hrate⟩ := Act.attempt_eq_ok.mp hv
    · cases hrc
    cases he
    cases haccept : rateAccepted rateHz with
    | false =>
      rw [setSampleRate_rejected haccept] at hrate
      cases hrate
      refine .inl ⟨rfl, ?_⟩
      rw [hresult, hrequest, show u.dev.tuning = _ from congrArg Config.tuning hrequest]
      rfl
    | true =>
      cases hq : resampling u.dev.baseband rateHz with
      | none =>
        rw [setSampleRate_undefined haccept hq] at hrate
        cases hrate
      | some q =>
        rw [setSampleRate_accepted haccept hq] at hrate
        refine .inr ⟨rfl, q, (resampling_request hrequest).symm.trans hq, ?_⟩
        obtain hv | ⟨hv, hword⟩ := applyRate_fault hrate
        · left
          rw [hresult, show v.dev.tuning = _ from congrArg Config.tuning hv, hv, hrequest]
          rfl
        · rw [show u.dev.identity = w.dev.identity from congrArg Config.identity hrequest,
            show u.dev.baseband = w.dev.baseband from congrArg Config.baseband hrequest] at hword
          refine .inr ⟨rated_request hrequest ?_, hword⟩
          rw [← hv]
          exact hresult
  · cases h

/-! ### Gain -/

theorem activeContract_mem {tunerClass : TunerType} {contract : FamilyContract}
    (h : activeContract tunerClass = some contract) : contract ∈ familyContracts :=
  List.mem_of_find?_eq_some h

theorem commitGain_ok {gainTenthDb : Int32} {y x : Unit} {env : Env} {w w' : World}
    (h : commitGain gainTenthDb (.ok y) env w = (.ok x, w')) :
    w'.config = { w.config with tuning := { w.dev.tuning with gainPolicy := gainTenthDb } } := by
  cases h
  rfl

/-- What a successful `set_gain` leaves. -/
theorem setGain_ok {gainTenthDb : Int32} {env : Env} {w w' : World}
    (h : setGain gainTenthDb env w = (.ok (), w')) :
    w'.config = { w.config with tuning := { w.dev.tuning with gainPolicy := gainTenthDb } } := by
  rw [setGain, Act.bind_of_ok (device_apply env w)] at h
  rcases hcontract : activeContract w.dev.identity.tunerClass with _ | contract <;>
    rw [hcontract] at h
  · cases h
  · obtain ⟨_, u, hu, h⟩ := Act.bind_eq_ok.mp h
    obtain ⟨rc, v, hv, h⟩ := Act.bind_eq_ok.mp h
    obtain ⟨_, x, hx, h⟩ := Act.bind_eq_ok.mp h
    obtain ⟨_, y, hy, h⟩ := Act.bind_eq_ok.mp h
    obtain ⟨rfl, rfl⟩ := Act.ofExcept_eq_ok.mp h
    have happly := keeps_applyGain (activeContract_mem hcontract) gainTenthDb
    have hconfig := (happly.attempt.world hv).trans ((keeps_pauseBulk _).world hu)
    rw [(keeps_resumeBulk _).world hy, commitGain_ok hx, hconfig,
      show v.dev.tuning = _ from congrArg Config.tuning hconfig]
    rfl

/-- A `set_gain` that reports an error leaves the configuration as it was. -/
theorem setGain_error {gainTenthDb : Int32} {env : Env} {w w' : World} {e : SdrggError}
    (h : setGain gainTenthDb env w = (.error (.error e), w')) : w'.config = w.config := by
  rw [setGain, Act.bind_of_ok (device_apply env w)] at h
  rcases hcontract : activeContract w.dev.identity.tunerClass with _ | contract <;>
    rw [hcontract] at h
  · cases h
    rfl
  · obtain h | ⟨_, u, hu, h⟩ := Act.bind_eq_fault.mp h
    · exact absurd h pauseBulk_ne_error
    obtain h | ⟨rc, v, hv, h⟩ := Act.bind_eq_fault.mp h
    · exact absurd h Act.attempt_ne_error
    have happly := keeps_applyGain (activeContract_mem hcontract) gainTenthDb
    have hconfig := (happly.attempt.world hv).trans ((keeps_pauseBulk _).world hu)
    obtain h | ⟨_, x, hx, h⟩ := Act.bind_eq_fault.mp h
    · cases rc <;> cases h
    obtain h | ⟨_, y, hy, h⟩ := Act.bind_eq_fault.mp h
    · exact absurd h resumeBulk_ne_error
    obtain ⟨rfl, rfl⟩ := Act.ofExcept_eq_error.mp h
    cases hx
    exact ((keeps_resumeBulk _).world hy).trans hconfig

/-! ### Sequences of calls -/

inductive ConfigCall where
  | setFrequency (freqHz : UInt32)
  | setSampleRate (rateHz : UInt32)
  | setGain (gainTenthDb : Int32)
deriving DecidableEq, Repr

/-- A call, without the value that it stores for its caller. -/
def ConfigCall.perform : ConfigCall → DevM Unit
  | .setFrequency freqHz => do
    let _ ← Sdr.setFrequency freqHz
    return ()
  | .setSampleRate rateHz => do
    let _ ← Sdr.setSampleRate rateHz
    return ()
  | .setGain gainTenthDb => Sdr.setGain gainTenthDb

/-- The world after a call that returned `SDRGG_OK`. -/
def configStep (env : Env) (w : World) (call : ConfigCall) : Option World :=
  match call.perform env w with
  | (.ok _, w') => some w'
  | (.error _, _) => none

theorem configStep_eq_some {env : Env} {w w' : World} {call : ConfigCall} :
    configStep env w call = some w' ↔ call.perform env w = (.ok (), w') := by
  unfold configStep
  rcases call.perform env w with ⟨e | _, u⟩ <;> simp

theorem perform_setFrequency {freqHz : UInt32} {env : Env} {w w' : World}
    (h : (ConfigCall.setFrequency freqHz).perform env w = (.ok (), w')) :
    ∃ hz, Sdr.setFrequency freqHz env w = (.ok hz, w') := by
  obtain ⟨hz, u, hu, h⟩ := Act.bind_eq_ok.mp h
  cases h
  exact ⟨hz, hu⟩

theorem perform_setSampleRate {rateHz : UInt32} {env : Env} {w w' : World}
    (h : (ConfigCall.setSampleRate rateHz).perform env w = (.ok (), w')) :
    ∃ hz, Sdr.setSampleRate rateHz env w = (.ok hz, w') := by
  obtain ⟨hz, u, hu, h⟩ := Act.bind_eq_ok.mp h
  cases h
  exact ⟨hz, hu⟩

end Sdrgg.Sdr
