import Sdrgg.Core.Programmed
import Sdrgg.Core.Rates
import Sdrgg.Rtl.PowerUp

/-! The pages of the demodulator over runs of calls, of which any transfers may fail: each call writes
registers of its own, and all others hold what the boot and the IF mode of the tuner have left. -/

namespace Sdrgg.R820t

open ProofKit Usb Rtl

section Gate

variable {owned : RegSet} {r : DemodPages} (hgate : owned 0x11 0x01 = true)

include hgate

@[grind ←] theorem outside_lowerIntents (seq : List RegIntent) :
    Keeps (outside owned r) (lowerIntents seq) := by
  grind [lowerIntents, lowerIntent]

@[grind ←] theorem outside_setLnaGain (index : Int32) :
    Keeps (outside owned r) (setLnaGain index) := by
  grind [setLnaGain]

@[grind ←] theorem outside_setMixerGain (index : Int32) :
    Keeps (outside owned r) (setMixerGain index) := by
  grind [setMixerGain]

@[grind ←] theorem outside_setVgaGain (index : Int32) :
    Keeps (outside owned r) (setVgaGain index) := by
  grind [setVgaGain]

@[grind ←] theorem outside_probeLockStatus : Keeps (outside owned r) probeLockStatus := by
  grind [probeLockStatus]

@[grind ←] theorem outside_acquireLock : Keeps (outside owned r) acquireLock := by
  grind [acquireLock]

theorem outside_detect : Keeps (outside owned r) detect := by
  grind [detect]

@[grind ←] theorem outside_flushRegister (i : Fin 27) :
    Keeps (outside owned r) (flushRegister i) := by
  grind [flushRegister]

theorem outside_init : Keeps (outside owned r) init := by
  refine (outside_modifyDevice _).bind fun _ => ?_
  refine (Keeps.forM _ fun i _ => outside_flushRegister hgate i).bind fun _ => ?_
  grind

theorem outside_setFreq (freqHz ifFreqHz : UInt32) :
    Keeps (outside owned r) (setFreq freqHz ifFreqHz) := by
  have hpll (loHz : UInt32) : Keeps (outside owned r) (programPll loHz) := by
    grind [programPll]
  have hset (loHz : UInt32) : Keeps (outside owned r) (setPll loHz) :=
    Keeps.bind (Keeps.modify fun _ => rfl) fun _ => hpll loHz
  exact (outside_lowerIntents hgate _).bind fun _ => (hset _).bind fun _ =>
    outside_lowerIntents hgate _

end Gate

end Sdrgg.R820t

namespace Sdrgg.Fc0012

open ProofKit Usb Rtl

section Gate

variable {owned : RegSet} {r : DemodPages} (hgate : owned 0x11 0x01 = true)

include hgate

@[grind ←] theorem outside_wireWrite (location content : UInt8) :
    Keeps (outside owned r) (wireWrite location content) := by
  grind [wireWrite]

@[grind ←] theorem outside_wireRead (location content : UInt8) :
    Keeps (outside owned r) (wireRead location content) := by
  grind [wireRead]

@[grind ←] theorem outside_dispatchCommands (cmds : List WireCmd) :
    Keeps (outside owned r) (dispatchCommands cmds) :=
  Keeps.forM cmds fun _ _ => outside_wireWrite hgate _ _

theorem outside_detect : Keeps (outside owned r) detect := by
  have hprobe (gpio : UInt8) : Keeps (outside owned r) (probeGpio gpio) := by
    grind [probeGpio]
  grind [detect]

theorem outside_init : Keeps (outside owned r) init := by
  have hcaps : Keeps (outside owned r) applyInitCapabilities :=
    Keeps.forM _ fun _ _ => outside_dispatchCommands hgate _
  grind [init]

@[grind ←] theorem outside_triggerCalibration : Keeps (outside owned r) triggerCalibration := by
  grind [triggerCalibration]

@[grind ←] theorem outside_runCalibrationPolicy (bwReg : UInt8) (elevatedBias : Bool) :
    Keeps (outside owned r) (runCalibrationPolicy bwReg elevatedBias) := by
  grind [runCalibrationPolicy]

theorem outside_executeTuningSession (freqHz : UInt32) :
    Keeps (outside owned r) (executeTuningSession freqHz) := by
  grind [executeTuningSession, stageSession]

@[grind ←] theorem outside_setGain (gainTenthDb : Int32) :
    Keeps (outside owned r) (setGain gainTenthDb) := by
  grind [setGain]

@[grind ←] theorem outside_setAutoGain : Keeps (outside owned r) setAutoGain := by
  grind [setAutoGain]

end Gate

end Sdrgg.Fc0012

namespace Sdrgg.Sdr

open ProofKit Usb Rtl

/-! ### The registers of a call -/

/-- The registers of the demodulator that a call may change. -/
def DeviceCall.demodRegs : DeviceCall → RegSet
  | .setFrequency _ => fun index reg => gateRegs index reg || modeRegs index reg
  | .setSampleRate rateHz => fun index reg =>
    rateAccepted rateHz && (gateRegs index reg || ncoRegs index reg || ratioRegSet index reg)
  | .setGain _ | .resetTuner => gateRegs
  | .setDigitalAgc _ => agcRegs
  | .resetDemod => fun index reg => gateRegs index reg || ncoRegs index reg
  | _ => fun _ _ => false

theorem demodRegs_setSampleRate {rateHz : UInt32} (h : rateAccepted rateHz = true) (index : UInt16)
    (reg : UInt8) : (DeviceCall.setSampleRate rateHz).demodRegs index reg =
      (gateRegs index reg || ncoRegs index reg || ratioRegSet index reg) := by
  change (rateAccepted rateHz && _) = _
  rw [h, Bool.true_and]

section Calls

variable {owned : RegSet} {r : DemodPages}

theorem outside_around {env : Env} (k : DemodPages) :
    Around env (fun w => outside owned r w = k) where
  note f := (outside_modifyTuning f).value k
  stop := outside_stopBulk.value k
  start := outside_startBulk.value k

theorem outside_startStream (outcome : StreamStart) :
    Keeps (outside owned r) (startStream outcome) :=
  Keeps.of_preserves fun _ k => preserves_startStream (outside_startBulk.value k)
    ((outside_modifyDevice _).value k) outcome

/-- Of the writes before a tuning of an FC0012 only that of the mode reaches the demodulator. -/
theorem outside_prepareFreq (hmode : owned 0x10 0x08 = true) (freqHz : UInt32) :
    Keeps (outside owned r) (Fc0012.prepareFreq freqHz) :=
  (outside_block (.inl rfl) _ _ _).ignore.bind fun _ =>
    (outside_demodByte _ (by decide) hmode).ignore.bind fun _ =>
      (outside_block (.inl rfl) _ _ _).ignore.bind fun _ => outside_setGpioBit _ _

theorem outside_setFrequency (hgate : owned 0x11 0x01 = true) (hmode : owned 0x10 0x08 = true)
    (freqHz : UInt32) : Keeps (outside owned r) (setFrequency freqHz) := by
  have htune : Keeps (outside owned r) (tune freqHz) := by
    refine outside_device.bind fun dev => ?_
    split
    · exact ((outside_prepareFreq hmode freqHz).bind fun _ =>
        Fc0012.outside_executeTuningSession hgate freqHz).bind fun _ => outside_modifyTuning _
    · exact R820t.outside_setFreq hgate _ _
  exact Keeps.of_preserves fun _ k => (outside_around k).preserves_setFrequency (htune.value k)

theorem outside_setGain (hgate : owned 0x11 0x01 = true) (gainTenthDb : Int32) :
    Keeps (outside owned r) (setGain gainTenthDb) := by
  have happly {contract : FamilyContract} (hcontract : contract ∈ familyContracts) :
      Keeps (outside owned r) (applyGain contract gainTenthDb) := by
    have hgain : Keeps (outside owned r) (r820tApplyGain gainTenthDb) := by
      grind [r820tApplyGain]
    have hauto : Keeps (outside owned r) r820tApplyAuto := by
      grind [r820tApplyAuto]
    simp only [familyContracts, List.mem_cons, List.not_mem_nil, or_false] at hcontract
    unfold applyGain
    obtain rfl | rfl := hcontract <;> split
    · exact hauto
    · exact hgain
    · exact Fc0012.outside_setAutoGain hgate
    · exact Fc0012.outside_setGain hgate gainTenthDb
  exact Keeps.of_preserves fun _ k => (outside_around k).preserves_setGain fun _ _ _ hcontract =>
    (happly (activeContract_mem hcontract)).value k

/-- A rate writes the registers of the NCO and the ratio, if it is accepted. -/
theorem outside_setSampleRate {rateHz : UInt32}
    (hgate : rateAccepted rateHz = true → owned 0x11 0x01 = true)
    (hnco : rateAccepted rateHz = true → ∀ index reg, ncoRegs index reg = true →
      owned index reg = true)
    (hratio : rateAccepted rateHz = true → ∀ index reg, ratioRegSet index reg = true →
      owned index reg = true) : Keeps (outside owned r) (setSampleRate rateHz) := by
  refine Keeps.of_preserves fun _ k =>
    preserves_setSampleRate (outside_around k).note fun _ q _ haccepted _ => ?_
  have hgate := hgate haccepted
  have hnco := hnco haccepted
  have hband (bwKhz : UInt32) : Keeps (outside owned r) (R820t.setBandwidth bwKhz) :=
    (R820t.outside_lowerIntents hgate _).bind fun _ => outside_setIfFreq hnco _
  have htail (ratio : UInt32) : Keeps (outside owned r) (do programRatio ratio; reprogramIf) :=
    (outside_programRatio hnco hgate (hratio haccepted) ratio).bind fun _ =>
      outside_reprogramIf hnco
  exact preserves_applyRate (outside_around k).note (fun _ _ _ => (hband _).value k)
    ((htail q.ratio).value k)

theorem outside_resetTuner (hgate : owned 0x11 0x01 = true) :
    Keeps (outside owned r) resetTuner := by
  refine outside_device.bind fun dev => ?_
  split
  · split
    · exact Fc0012.outside_init hgate
    · exact Keeps.fail _
  · exact (outside_enableI2cRepeater hgate true).bind fun _ =>
      (Keeps.forM _ fun i _ => R820t.outside_flushRegister hgate i).closing
        (outside_enableI2cRepeater hgate false)

/-- Whatever becomes of a call, it changes no register of the demodulator but its own. -/
theorem perform_alters (call : DeviceCall) : Alters call.demodRegs call.perform := by
  intro r
  cases call with
  | setFrequency freqHz =>
    exact (outside_setFrequency rfl rfl freqHz).bind fun _ => Keeps.pure _
  | setSampleRate rateHz =>
    refine Keeps.bind ?_ fun _ => Keeps.pure _
    have hregs := @demodRegs_setSampleRate rateHz
    refine outside_setSampleRate (fun haccepted => ?_) (fun haccepted index reg h => ?_)
      fun haccepted index reg h => ?_
    · rw [hregs haccepted]
      rfl
    · rw [hregs haccepted, h, Bool.or_true, Bool.true_or]
    · rw [hregs haccepted, h, Bool.or_true]
  | setGain gainTenthDb => exact outside_setGain rfl gainTenthDb
  | setFreqCorrection ppm | stopStream => exact outside_modifyDevice _
  | setDigitalAgc enable => exact outside_demodByte _ (by decide) rfl
  | startStream outcome => exact outside_startStream outcome
  | startBulk => exact outside_startBulk
  | stopBulk => exact outside_stopBulk
  | resetDemod =>
    exact outside_resetDemod (fun index reg h => Bool.or_eq_true_iff.mpr (.inr h)) rfl
  | resetTuner => exact outside_resetTuner rfl

end Calls

/-! ### Runs -/

/-- The NCO holds the word of the device's IF. -/
def NcoShown (r : DemodPages) (w : World) : Prop :=
  ∃ word, ncoWord w.dev.baseband.oscillatorHz w.dev.tuning.ifOffsetHz = some word ∧
    nco (pages r w 0x11) = ncoBytes word

/-- A device with the resampler setting of the last rate, unless that has failed, whether its NCO has
been left with a word, and the gain control of the demodulator. -/
structure Demodulated where
  world : World
  rate : Option Resampling
  ncoSet : Bool
  agc : Bool

/-- After a call that leaves `w`: a rate that is not accepted has done nothing, and a reset of the
demodulator is taken to have cleared the NCO, however it ends. -/
def Demodulated.note (s : Demodulated) (w : World) (done : Bool) : DeviceCall → Demodulated
  | .setSampleRate rateHz =>
    if rateAccepted rateHz then
      { s with
        world := w
        rate := if done then resampling s.world.dev.baseband rateHz else none
        ncoSet := done }
    else { s with world := w }
  | .resetDemod =>
    { s with world := w, ncoSet := s.ncoSet && s.world.dev.tuning.ifOffsetHz = 0 }
  | .setDigitalAgc enable => { s with world := w, agc := if done then enable else s.agc }
  | _ => { s with world := w }

def Demodulated.step (env : Env) : Demodulated → DeviceCall → Option Demodulated :=
  callStep Demodulated.world Demodulated.note env

/-- The demodulator holds what has been set, and else what the boot has left. -/
structure Demodulated.Holds (r : DemodPages) (family : TunerType) (s : Demodulated) : Prop where
  tunerClass : s.world.dev.identity.tunerClass = family
  standing : PagesHold (standingBytes family) (pages r s.world)
  agc : PagesHold [agcByte s.agc] (pages r s.world)
  rate : ∀ q, s.rate = some q → ratioRegs (pages r s.world 0x11) = ratioBytes q.ratio ∧
    s.world.dev.tuning.samplingRateHz = q.achievedHz
  shown : s.ncoSet = true → NcoShown r s.world

section Runs

variable {r : DemodPages} {env : Env} {w w' : World}

/-- The chip whose first page is that of the registers. -/
def pageChip (r : DemodPages) : Chip := ⟨r 0x11, fun _ _ => 0⟩

theorem pages_chip (r : DemodPages) (w : World) : pages r w 0x11 = page1 (pageChip r) w :=
  pages_page1 (pageChip r) r rfl w

theorem ncoShown_iff : NcoShown r w ↔ NcoEncodes (pageChip r) w := by
  rw [NcoShown, NcoEncodes, pages_chip]

/-- A call leaves the registers of page 1 that are not its own. -/
theorem perform_page1 {call : DeviceCall} {x : Except (Fault SdrggError) Unit}
    (h : call.perform env w = (x, w')) {reg : UInt8} (hfree : call.demodRegs 0x11 reg = false) :
    pages r w' 0x11 reg = pages r w 0x11 reg :=
  outside_eq_iff.mp ((perform_alters call r).world h) _ _ hfree

/-- The registers of page 1 that a call without an accepted rate leaves alone. -/
theorem demodRegs_page1 {call : DeviceCall} {reg : UInt8} (hgate : gateRegs 0x11 reg = false)
    (hreset : call = .resetDemod → ncoRegs 0x11 reg = false)
    (hrate : ∀ rateHz, call = .setSampleRate rateHz → rateAccepted rateHz = false) :
    call.demodRegs 0x11 reg = false := by
  cases call with
  | setFrequency freqHz => exact Bool.or_eq_false_iff.mpr ⟨hgate, rfl⟩
  | setSampleRate rateHz =>
    change (rateAccepted rateHz && _) = false
    rw [hrate rateHz rfl, Bool.false_and]
  | setGain _ | resetTuner => exact hgate
  | setDigitalAgc enable => rfl
  | resetDemod => exact Bool.or_eq_false_iff.mpr ⟨hgate, hreset rfl⟩
  | _ => rfl

theorem perform_ratio {call : DeviceCall} {x : Except (Fault SdrggError) Unit}
    (hrate : ∀ rateHz, call = .setSampleRate rateHz → rateAccepted rateHz = false)
    (h : call.perform env w = (x, w')) :
    ratioRegs (pages r w' 0x11) = ratioRegs (pages r w 0x11) := by
  have hreg (reg : UInt8) (hgate : gateRegs 0x11 reg = false) (hnco : ncoRegs 0x11 reg = false) :=
    perform_page1 (r := r) h (demodRegs_page1 hgate (fun _ => hnco) hrate)
  unfold ratioRegs
  rw [hreg 0x9F rfl rfl, hreg 0xA0 rfl rfl, hreg 0xA1 rfl rfl, hreg 0xA2 rfl rfl]

theorem perform_nco {call : DeviceCall} {x : Except (Fault SdrggError) Unit}
    (hreset : call ≠ .resetDemod)
    (hrate : ∀ rateHz, call = .setSampleRate rateHz → rateAccepted rateHz = false)
    (h : call.perform env w = (x, w')) : nco (pages r w' 0x11) = nco (pages r w 0x11) := by
  have hreg (reg : UInt8) (hgate : gateRegs 0x11 reg = false) :=
    perform_page1 (r := r) h (demodRegs_page1 hgate (fun heq => absurd heq hreset) hrate)
  unfold nco
  rw [hreg 0x19 rfl, hreg 0x1A rfl, hreg 0x1B rfl]

/-- A reset of the demodulator leaves an NCO of zero, however far it comes. -/
theorem preserves_resetDemod_zero :
    Preserves env (fun w => nco (page1 (pageChip r) w) = (0, 0, 0)) resetDemod := by
  have hcontrol (val : UInt16) : Preserves env (fun w => nco (page1 (pageChip r) w) = (0, 0, 0))
      (submitDemodWrite 1 0x01 val 1) := by
    intro w hw
    rcases hrun : submitDemodWrite 1 0x01 val 1 env w with ⟨e | _, u⟩
    · change nco (page1 (pageChip r) u) = _
      rw [submitDemodWrite_error hrun]
      exact hw
    · change nco (page1 (pageChip r) u) = _
      rw [submitDemodWrite_page1 hrun]
      by_cases hreset : val.toUInt8 &&& 0x04 = 0
      · rw [demodWritten_gate hreset]
        exact hw
      · rw [demodWritten_reset hreset]
        rfl
  have hread (val : UInt8) : Keeps (page1 (pageChip r)) (demodRead 0 0x0101 val) :=
    keepsPage1_submitDemodRead _ _ _
  exact Preserves.bind (fun _ hw => hw) fun _ =>
    ((hread _).preserves fun _ _ heq hw => heq ▸ hw).bind fun _ =>
      (hcontrol _).bind fun _ => hcontrol _

/-- The mode register holds what the IF mode of the family has left. -/
def ModeShown (r : DemodPages) (family : TunerType) (w : World) : Prop :=
  w.dev.identity.tunerClass = family ∧
    pages r w 0x10 0x08 = if family.isR820t then 0x4D else 0xCD

theorem preserves_mode {α : Type} {m : DevM α} (hm : Keeps (outside gateRegs r) m) {mode : UInt8} :
    Preserves env (fun w => pages r w 0x10 0x08 = mode) m :=
  fun w hw => (outside_eq_iff.mp (hm env w) _ _ rfl).trans hw

theorem modeShown_of_keeps {α : Type} {m : DevM α} {family : TunerType}
    (hidentity : Keeps (fun w => w.dev.identity) m) (hm : Keeps (outside gateRegs r) m) :
    Preserves env (ModeShown r family) m := fun w hw =>
  ⟨(congrArg DeviceIdentity.tunerClass (hidentity env w)).trans hw.1, preserves_mode hm w hw.2⟩

/-- An FC0012 is given its own mode again before each tuning. -/
theorem preserves_prepareFreq (freqHz : UInt32) :
    Preserves env (fun w => pages r w 0x10 0x08 = 0xCD) (Fc0012.prepareFreq freqHz) := by
  have hmode : Preserves env (fun w => pages r w 0x10 0x08 = 0xCD)
      (submitDemodWrite 0 0x08 (0xCD : UInt8).toUInt16 1) := by
    intro w hw
    rcases hrun : submitDemodWrite 0 0x08 (0xCD : UInt8).toUInt16 1 env w with ⟨e | _, u⟩
    · change pages r u 0x10 0x08 = _
      rw [submitDemodWrite_pages_error hrun]
      exact hw
    · change pages r u 0x10 0x08 = _
      rw [submitDemodWrite_pages hrun]
      exact apply_byteWrite_self (pages r w) (by decide)
  exact (preserves_mode (outside_block (.inl rfl) _ _ _)).ignore.bind fun _ =>
    hmode.ignore.bind fun _ => (preserves_mode (outside_block (.inl rfl) _ _ _)).ignore.bind
      fun _ => preserves_mode (outside_setGpioBit _ _)

theorem preserves_setFrequency_mode {family : TunerType} (freqHz : UInt32) :
    Preserves env (ModeShown r family) (setFrequency freqHz) := by
  have haround : Around env (ModeShown r family) := {
    note := fun _ => modeShown_of_keeps (fun _ _ => rfl) (outside_modifyTuning _)
    stop := modeShown_of_keeps (keeps_stopBulk.comp Config.identity) outside_stopBulk
    start := modeShown_of_keeps (keeps_startBulk.comp Config.identity) outside_startBulk }
  refine haround.preserves_setFrequency ?_
  rintro w ⟨hclass, hmode⟩
  refine ⟨(congrArg DeviceIdentity.tunerClass (keepsIdentity_tune freqHz env w)).trans hclass, ?_⟩
  rw [tune, Act.bind_of_ok (device_apply env w), hclass]
  split
  · rename_i hfc0012
    subst hfc0012
    exact (((preserves_prepareFreq freqHz).bind fun _ =>
      preserves_mode (Fc0012.outside_executeTuningSession rfl freqHz)).bind fun _ =>
        preserves_mode (outside_modifyTuning _)) w hmode
  · exact preserves_mode (R820t.outside_setFreq rfl _ _) w hmode

/-- The registers that no call but a frequency writes. -/
theorem standingBytes_spared {family : TunerType} {call : DeviceCall} {b : PageByte}
    (h : b ∈ standingBytes family) (hfreq : ∀ hz, call ≠ .setFrequency hz) :
    call.demodRegs b.index b.reg = false := by
  obtain ⟨hgate, hnco, hratio⟩ := standingBytes_free (List.mem_cons_of_mem _ h)
  have hagc := standingBytes_agc h
  cases call with
  | setFrequency hz => exact absurd rfl (hfreq hz)
  | setSampleRate rateHz =>
    change (rateAccepted rateHz && (gateRegs b.index b.reg || ncoRegs b.index b.reg ||
      ratioRegSet b.index b.reg)) = false
    rw [hgate, hnco, hratio]
    exact Bool.and_false _
  | setGain _ | resetTuner => exact hgate
  | setDigitalAgc enable => exact hagc
  | resetDemod => exact Bool.or_eq_false_iff.mpr ⟨hgate, hnco⟩
  | _ => rfl

/-- What a call leaves of what the boot and the IF mode have written. -/
theorem perform_standing {family : TunerType} {call : DeviceCall}
    {x : Except (Fault SdrggError) Unit} (hclass : w.dev.identity.tunerClass = family)
    (hstanding : PagesHold (standingBytes family) (pages r w)) (h : call.perform env w = (x, w')) :
    PagesHold (standingBytes family) (pages r w') := by
  have houtside := outside_eq_iff.mp ((perform_alters call r).world h)
  intro b hb
  by_cases hfreq : ∃ freqHz, call = .setFrequency freqHz
  · obtain ⟨freqHz, rfl⟩ := hfreq
    obtain ⟨hgate, -, -⟩ := standingBytes_free (List.mem_cons_of_mem _ hb)
    cases hmode : modeRegs b.index b.reg with
    | false =>
      exact (houtside _ _ (Bool.or_eq_false_iff.mpr ⟨hgate, hmode⟩)).trans (hstanding b hb)
    | true =>
      have hshown : ModeShown r family w := ⟨hclass, hstanding _ standingBytes_mode⟩
      obtain ⟨y, hset, -⟩ := Act.discard_eq h
      have hafter := ((preserves_setFrequency_mode freqHz).world hshown hset).2
      obtain ⟨hindex, hreg⟩ : b.index = 0x10 ∧ b.reg = 0x08 := by simpa [modeRegs] using hmode
      have hval := hstanding b hb
      rw [hindex, hreg, hshown.2] at hval
      rw [hindex, hreg, hafter, hval]
  · exact (houtside _ _ (standingBytes_spared hb fun hz heq => hfreq ⟨hz, heq⟩)).trans
      (hstanding b hb)

/-- The gain control of the demodulator is that of the last call for it that succeeded. -/
theorem perform_agc {s : Demodulated} {call : DeviceCall} {x : Except (Fault SdrggError) Unit}
    (hagc : PagesHold [agcByte s.agc] (pages r s.world)) (h : call.perform env s.world = (x, w')) :
    PagesHold [agcByte (s.note w' x.toBool call).agc] (pages r w') := by
  have hother (hcall : call.demodRegs 0x10 0x19 = false)
      (hnote : (s.note w' x.toBool call).agc = s.agc) :
      PagesHold [agcByte (s.note w' x.toBool call).agc] (pages r w') := by
    rw [hnote]
    refine PagesHold.of_outside hagc (fun b hb => ?_) ((perform_alters call r).world h)
    obtain rfl := List.mem_singleton.mp hb
    exact hcall
  cases call with
  | setDigitalAgc enable =>
    change submitDemodWrite 0 0x19 (if enable then 0x25 else 0x05 : UInt8).toUInt16 1 env s.world =
      (x, w') at h
    rcases x with e | _
    · change PagesHold [agcByte s.agc] (pages r w')
      rw [submitDemodWrite_pages_error h]
      exact hagc
    · refine List.forall_mem_singleton.mpr ?_
      change pages r w' 0x10 0x19 = if enable then 0x25 else 0x05
      rw [submitDemodWrite_pages h]
      cases enable <;> exact apply_byteWrite_self (pages r s.world) (by decide)
  | setSampleRate rateHz =>
    refine hother (Bool.and_false (rateAccepted rateHz)) ?_
    unfold Demodulated.note
    dsimp only
    split <;> rfl
  | _ => exact hother rfl rfl

@[simp] theorem Demodulated.note_world (s : Demodulated) (w : World) (done : Bool)
    (call : DeviceCall) : (s.note w done call).world = w := by
  cases call with
  | setSampleRate rateHz =>
    unfold note
    dsimp only
    split <;> rfl
  | _ => rfl

/-- A setting that is remembered behind a call is the one of that call, or has been remembered before
a call that programs none. -/
theorem Demodulated.note_rate {s : Demodulated} {done : Bool} {call : DeviceCall} {q : Resampling}
    (h : (s.note w done call).rate = some q) :
    (∃ rateHz, call = .setSampleRate rateHz ∧ done = true ∧
        resampling s.world.dev.baseband rateHz = some q) ∨
      (s.rate = some q ∧
        ∀ rateHz, call = .setSampleRate rateHz → rateAccepted rateHz = false) := by
  cases call with
  | setSampleRate rateHz =>
    unfold note at h
    by_cases haccepted : rateAccepted rateHz = true
    · simp only [haccepted, if_true] at h
      obtain ⟨hdone, hq⟩ := Option.ite_none_right_eq_some.mp h
      exact .inl ⟨rateHz, rfl, hdone, hq⟩
    · simp only [haccepted, Bool.false_eq_true, if_false] at h
      refine .inr ⟨h, fun hz heq => ?_⟩
      cases heq
      simpa using haccepted
  | _ => exact .inr ⟨h, nofun⟩

theorem Demodulated.note_nco {s : Demodulated} {done : Bool} {call : DeviceCall}
    (h : (s.note w done call).ncoSet = true) :
    (∃ rateHz, call = .setSampleRate rateHz ∧ done = true) ∨
      (call = .resetDemod ∧ s.ncoSet = true ∧ s.world.dev.tuning.ifOffsetHz = 0) ∨
      (s.ncoSet = true ∧ call ≠ .resetDemod ∧
        ∀ rateHz, call = .setSampleRate rateHz → rateAccepted rateHz = false) := by
  cases call with
  | setSampleRate rateHz =>
    unfold note at h
    by_cases haccepted : rateAccepted rateHz = true
    · simp only [haccepted, if_true] at h
      exact .inl ⟨rateHz, rfl, h⟩
    · simp only [haccepted, Bool.false_eq_true, if_false] at h
      refine .inr (.inr ⟨h, nofun, fun hz heq => ?_⟩)
      cases heq
      simpa using haccepted
  | resetDemod =>
    obtain ⟨hset, hif⟩ := Bool.and_eq_true_iff.mp h
    exact .inr (.inl ⟨rfl, hset, of_decide_eq_true hif⟩)
  | _ => exact .inr (.inr ⟨h, nofun, nofun⟩)

/-- What a rate that has been set leaves in the registers of the ratio and in the record. -/
theorem setSampleRate_shown {rateHz hz : UInt32} {q : Resampling}
    (hq : resampling w.dev.baseband rateHz = some q)
    (h : setSampleRate rateHz env w = (.ok hz, w')) :
    ratioRegs (pages r w' 0x11) = ratioBytes q.ratio ∧
      w'.dev.tuning.samplingRateHz = q.achievedHz := by
  obtain ⟨-, q', u, v, hq', -, hv, hw'⟩ := setSampleRate_applies h
  obtain rfl := Option.some_inj.mp (hq.symm.trans hq')
  have hhz : v.dev.tuning.samplingRateHz = q.achievedHz := applyRate_achieved hv
  have hratio : ratioRegs (page1 (pageChip r) v) = ratioBytes q.ratio := applyRate_ratio hv
  rw [pages_chip]
  cases hw'
  exact ⟨hratio, hhz⟩

/-- The NCO of a zero IF holds zero. -/
theorem NcoShown.zero (h : NcoShown r w) (hif : w.dev.tuning.ifOffsetHz = 0) :
    nco (page1 (pageChip r) w) = (0, 0, 0) := by
  obtain ⟨word, hword, hnco⟩ := h
  rw [hif, ncoWord, if_pos rfl] at hword
  obtain rfl := Option.some_inj.mp hword
  rw [← pages_chip, hnco]
  decide

/-- One call. -/
theorem Demodulated.Holds.step {family : TunerType} {s t : Demodulated} {call : DeviceCall}
    (hs : s.Holds r family) (hstep : s.step env call = some t) : t.Holds r family := by
  obtain ⟨x, w', hrun, hx, rfl⟩ := callStep_eq_some hstep
  have hidentity := perform_config (offConfig_identity call) hrun hx
  have hosc := perform_config (offConfig_oscillator call) hrun hx
  have hrated (hrate : ∀ rateHz, call = .setSampleRate rateHz → rateAccepted rateHz = false) :=
    perform_config (offConfig_rate call hrate) hrun hx
  refine ⟨?_, ?_, ?_, fun q hq => ?_, fun hnco => ?_⟩
  · rw [note_world]
    exact (congrArg DeviceIdentity.tunerClass hidentity).trans hs.tunerClass
  · rw [note_world]
    exact perform_standing hs.tunerClass hs.standing hrun
  · rw [note_world]
    exact perform_agc hs.agc hrun
  · rw [note_world]
    obtain ⟨rateHz, rfl, hdone, hresampling⟩ | ⟨hbefore, hrate⟩ := note_rate hq
    · cases x with
      | error e => cases hdone
      | ok _ =>
        obtain ⟨hz, hset⟩ := perform_setSampleRate hrun
        exact setSampleRate_shown hresampling hset
    · obtain ⟨hratio, hhz⟩ := hs.rate q hbefore
      exact ⟨(perform_ratio hrate hrun).trans hratio, (Prod.mk.inj (hrated hrate)).2.trans hhz⟩
  · rw [note_world]
    have hword (hrate : ∀ rateHz, call = .setSampleRate rateHz → rateAccepted rateHz = false)
        (hset : s.ncoSet = true) : ∃ word,
        ncoWord w'.dev.baseband.oscillatorHz w'.dev.tuning.ifOffsetHz = some word ∧
          nco (pages r s.world 0x11) = ncoBytes word := by
      have hif : w'.dev.tuning.ifOffsetHz = s.world.dev.tuning.ifOffsetHz :=
        (Prod.mk.inj (hrated hrate)).1
      have hosc : w'.dev.baseband.oscillatorHz = s.world.dev.baseband.oscillatorHz := hosc
      rw [hif, hosc]
      exact hs.shown hset
    obtain ⟨rateHz, rfl, hdone⟩ | ⟨rfl, hset, hif⟩ | ⟨hset, hreset, hrate⟩ := note_nco hnco
    · cases x with
      | error e => cases hdone
      | ok _ =>
        obtain ⟨hz, hrate⟩ := perform_setSampleRate hrun
        exact ncoShown_iff.mpr (setSampleRate_encodes hrate)
    · have hzero := (hs.shown hset).zero hif
      obtain ⟨word, hword, hnco⟩ := hword (fun _ heq => nomatch heq) hset
      refine ⟨word, hword, ?_⟩
      rw [← hnco, pages_chip, pages_chip, hzero]
      exact preserves_resetDemod_zero.world hzero hrun
    · obtain ⟨word, hword, hnco⟩ := hword hrate hset
      exact ⟨word, hword, (perform_nco hreset hrate hrun).trans hnco⟩

/-! ### The opening -/

/-- What the IF mode of a family leaves, and what an operation that changes nothing but the gate
keeps. -/
def Moded (r : DemodPages) (family : TunerType) (w : World) : Prop :=
  PagesHold (agcByte false :: standingBytes family) (pages r w) ∧ NcoShown r w

theorem moded_of_setIfFreq {family : TunerType} {ifFreqHz : UInt32} {u : World}
    (hboot : PagesHold bootBytes (pages r w))
    (hmode : applyDescriptors (specIfMode family) env w = (.ok (), u))
    (hif : setIfFreq ifFreqHz env u = (.ok (), w')) : Moded r family w' := by
  have hshown : PagesHold (agcByte false :: standingBytes family) (pages r u) :=
    fun b hb => applyDescriptors_shows hboot hmode b (standingBytes_learned hb)
  refine ⟨hshown.of_outside (fun b hb => (standingBytes_free hb).2.1) ?_,
    ncoShown_iff.mpr (setIfFreq_encodes hif)⟩
  exact (outside_setIfFreq (fun _ _ h => h) ifFreqHz).world hif

theorem preserves_moded {family : TunerType} {m : DevM Unit} (hconfig : Keeps World.config m)
    (hm : Keeps (outside gateRegs r) m) : Preserves env (Moded r family) m := by
  rintro w ⟨hshown, word, hword, hnco⟩
  have hregs := outside_eq_iff.mp (hm env w)
  refine ⟨hshown.of_outside (fun b hb => (standingBytes_free hb).1) (hm env w), word, ?_, ?_⟩
  · have hkept := hconfig env w
    rw [← hword]
    exact congrArg (fun c => ncoWord c.baseband.oscillatorHz c.tuning.ifOffsetHz) hkept
  · rw [← hnco]
    unfold nco
    rw [hregs 0x11 0x19 rfl, hregs 0x11 0x1A rfl, hregs 0x11 0x1B rfl]

theorem activate_moded {contract : FamilyContract} (hcontract : contract ∈ familyContracts)
    (hboot : PagesHold bootBytes (pages r w)) (h : activate contract env w = (.ok (), w')) :
    Moded r contract.family w' := by
  simp only [familyContracts, List.mem_cons, List.not_mem_nil, or_false] at hcontract
  obtain ⟨_, u, hu, h⟩ := Act.bind_eq_ok.mp h
  obtain ⟨_, v, hv, h⟩ := Act.bind_eq_ok.mp h
  obtain ⟨_, x, hx, h⟩ := Act.bind_eq_ok.mp h
  have hboot : PagesHold bootBytes (pages r u) := by
    cases hu
    exact hboot
  obtain rfl | rfl := hcontract
  · cases h
    have hclass : u.dev.identity.tunerClass.isR820t = true := by
      cases hu
      rfl
    change configureR820t env u = (.ok _, v) at hv
    rw [configureR820t, Act.bind_of_ok (device_apply env u), if_pos hclass] at hv
    obtain ⟨_, y, hy, hv⟩ := Act.bind_eq_ok.mp hv
    have hmode : Moded r .r820t v := moded_of_setIfFreq hboot hy hv
    exact (preserves_moded R820t.keeps_init (R820t.outside_init rfl)).world hmode hx
  · obtain ⟨_, y, hy, hv⟩ := Act.bind_eq_ok.mp hv
    have hmode : Moded r .fc0012 v := moded_of_setIfFreq hboot hy hv
    have hinit := (preserves_moded Fc0012.keeps_init (Fc0012.outside_init rfl)).world hmode hx
    exact (preserves_moded (keeps_enableI2cRepeater true).ignore
      (outside_enableI2cRepeater rfl true).ignore).world hinit h

/-- The demodulator of a device that has been opened. -/
theorem Demodulated.opened_holds (h : bringUp env ⟨blankDevice, [], none, 0⟩ = (.ok (), w)) :
    (Demodulated.mk w none true false).Holds r w.dev.identity.tunerClass := by
  obtain ⟨_, u, hu, h⟩ := Act.bind_eq_ok.mp h
  obtain ⟨_, v, hv, hu⟩ := Act.bind_eq_ok.mp hu
  have hboot : PagesHold bootBytes (pages r u) := by
    have hshown : PagesHold bootBytes (pages r v) := boot_shows hv
    cases hu
    exact hshown
  have hprobe : ∀ contract ∈ familyContracts,
      Preserves env (fun w => PagesHold bootBytes (pages r w)) contract.probe := by
    intro contract hmem w hw
    have hkept : Keeps (outside gateRegs r) contract.probe := by
      simp only [familyContracts, List.mem_cons, List.not_mem_nil, or_false] at hmem
      obtain rfl | rfl := hmem
      · exact R820t.outside_detect rfl
      · exact Fc0012.outside_detect rfl
    exact hw.of_outside (fun b hb => bootBytes_free hb) (hkept env w)
  obtain ⟨contract, hmem, x, hx, hactivate⟩ :=
    discover_activates (fun _ _ hw => hw) hprobe hboot h
  obtain ⟨hshown, hnco⟩ := activate_moded hmem hx hactivate
  have hclass : w.dev.identity.tunerClass = contract.family := by
    simp only [familyContracts, List.mem_cons, List.not_mem_nil, or_false] at hmem
    obtain rfl | rfl := hmem
    · exact congrArg (fun c => c.identity.tunerClass) (activate_r820t_ok hactivate)
    · exact congrArg (fun c => c.identity.tunerClass) (activate_fc0012_ok hactivate)
  obtain ⟨hagc, hstanding⟩ := List.forall_mem_cons.mp hshown
  rw [hclass]
  refine ⟨hclass, hstanding, List.forall_mem_singleton.mpr hagc, fun q hq => ?_, fun _ => hnco⟩
  cases hq

end Runs

/-- On a device that has been opened, whatever calls follow and whichever of their transfers fail,
the demodulator holds the values of the boot and of the IF mode of its tuner, the ratio of the last
accepted rate and the gain control of the last call for it, as far as these succeeded, and, unless a
rate has failed or `reset_demod` been called at an IF that is not zero since, the NCO the word of the
IF. -/
theorem demodulated_run {r : DemodPages} {env : Env} {w : World} {calls : List DeviceCall}
    {s : Demodulated} (hopen : bringUp env ⟨blankDevice, [], none, 0⟩ = (.ok (), w))
    (hrun : run (Demodulated.step env) ⟨w, none, true, false⟩ calls = some s) :
    s.Holds r w.dev.identity.tunerClass :=
  run_invariant (fun _ _ _ hs hstep => hs.step hstep) (Demodulated.opened_holds hopen) hrun

/-- An R820T at 2.048 MSPS with the gain control of the demodulator on, whose NCO a reset clears. -/
theorem demodulated_run_reset : ∃ w s,
    bringUp steadyEnv ⟨blankDevice, [], none, 0⟩ = (.ok (), w) ∧
    run (Demodulated.step steadyEnv) ⟨w, none, true, false⟩
      [.setSampleRate 2048000, .setDigitalAgc true, .setFrequency 100000000, .resetDemod] = some s ∧
    s.rate.map (fun q => q.achievedHz) = some 2048000 ∧ s.agc = true ∧ s.ncoSet = false ∧
    s.Holds (fun _ _ => 0) .r820t := by
  have hopen : (bringUp steadyEnv ⟨blankDevice, [], none, 0⟩).1 = .ok () := by decide +kernel
  have hclass : (bringUp steadyEnv ⟨blankDevice, [], none, 0⟩).2.dev.identity.tunerClass =
      .r820t := by
    decide +kernel
  have hrun : (run (Demodulated.step steadyEnv)
      ⟨(bringUp steadyEnv ⟨blankDevice, [], none, 0⟩).2, none, true, false⟩
      [.setSampleRate 2048000, .setDigitalAgc true, .setFrequency 100000000, .resetDemod]).map
        (fun s => (s.rate.map fun q => q.achievedHz, s.agc, s.ncoSet)) =
      some (some 2048000, true, false) := by
    decide +kernel
  obtain ⟨s, hs, hasked⟩ := Option.map_eq_some_iff.mp hrun
  obtain ⟨hrate, hset⟩ := Prod.mk.inj hasked
  obtain ⟨hagc, hnco⟩ := Prod.mk.inj hset
  have hopen := Prod.fst_eq_iff.mp hopen
  exact ⟨_, s, hopen, hs, hrate, hagc, hnco, hclass ▸ demodulated_run hopen hs⟩

end Sdrgg.Sdr
