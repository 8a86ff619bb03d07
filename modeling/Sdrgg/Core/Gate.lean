import Sdrgg.Core.Release
import Sdrgg.ProofKit.Run

/-! The repeater gate of an FC0012 over runs of calls: open_path leaves it open, and the FC0012
loses its state when it is closed while a stream is active. -/

namespace Sdrgg.Sdr

open ProofKit Usb Rtl

/-! ### Streams of an FC0012 -/

/-- How far `ring_engine::start` gets, and whether the reader has a buffer to read into. -/
inductive StreamStart where
  | noRing
  | noReader
  | noSubscriber
  | started (reads : Bool)
deriving DecidableEq, Repr

/-- `start_stream` on an FC0012, with what the reader thread sends. -/
def startStream (outcome : StreamStart) : DevM Unit := do
  let dev ← device
  if dev.streamActive then Act.fail .busy
  else match outcome with
    | .noRing => Act.fail .nomem
    | .noReader => Act.fail .io
    | .noSubscriber =>
      Act.ignore startBulk
      Act.fail .io
    | .started reads =>
      modifyDevice fun d => { d with streamActive := true }
      if reads then Act.ignore startBulk

/-- A start of a stream preserves what the mark of the stream and the start of the endpoint do. -/
theorem preserves_startStream {env : Env} {I : World → Prop} (hstart : Preserves env I startBulk)
    (hactive : Preserves env I (modifyDevice fun d => { d with streamActive := true }))
    (outcome : StreamStart) : Preserves env I (startStream outcome) := by
  refine Preserves.bind (fun _ hw => hw) fun dev => ?_
  split
  · exact Preserves.fail _
  · cases outcome with
    | noRing | noReader => exact Preserves.fail _
    | noSubscriber => exact hstart.ignore.bind fun _ => Preserves.fail _
    | started reads =>
      refine hactive.bind fun _ => ?_
      split
      · exact hstart.ignore
      · exact Preserves.pure _

/-- `stop_stream` on an FC0012, whose reader thread leaves without a transfer. -/
def stopStream : DevM Unit := modifyDevice fun d => { d with streamActive := false }

inductive GateCall where
  | setFrequency (freqHz : UInt32)
  | setSampleRate (rateHz : UInt32)
  | setGain (gainTenthDb : Int32)
  | startStream (outcome : StreamStart)
  | stopStream
  | resetDemod
  | tuner (access : TunerAccess)
deriving DecidableEq, Repr

def GateCall.perform : GateCall → DevM Unit
  | .setFrequency freqHz => (ConfigCall.setFrequency freqHz).perform
  | .setSampleRate rateHz => (ConfigCall.setSampleRate rateHz).perform
  | .setGain gainTenthDb => Sdr.setGain gainTenthDb
  | .startStream outcome => Sdr.startStream outcome
  | .stopStream => Sdr.stopStream
  | .resetDemod => Rtl.resetDemod
  | .tuner access => access.perform

/-- The world after a call, whatever it returned. -/
def gateStep (env : Env) (w : World) (call : GateCall) : Option World :=
  match call.perform env w with
  | (.error .trap, _) => none
  | (_, w') => some w'

theorem gateStep_eq_some {env : Env} {w w' : World} {call : GateCall} :
    gateStep env w call = some w' ↔
      ∃ x, call.perform env w = (x, w') ∧ x ≠ .error .trap := by
  unfold gateStep
  rcases call.perform env w with ⟨(e | _) | _, u⟩ <;> simp

/-- A call that leaves the gate open while a stream is active. -/
def KeepsGate (c : Chip) (w : World) : GateCall → Prop
  | .setSampleRate rateHz => w.dev.streamActive = true → rateAccepted rateHz = false
  | .startStream (.started _) => w.dev.streamActive = false → repeaterGate c w = 0x18
  | .tuner _ => w.dev.streamActive = false
  | _ => True

/-! ### Calls that leave an open gate open -/

section Open

variable {c : Chip} {env : Env}

abbrev GateOpen (c : Chip) (w : World) : Prop := repeaterGate c w = 0x18

theorem open_of_keeps {α : Type} {m : DevM α} (h : Keeps (page1 c) m) :
    Preserves env (GateOpen c) m := by
  refine h.preserves fun w w' heq hw => ?_
  rw [GateOpen, repeaterGate, heq]
  exact hw

theorem open_enable : Preserves env (GateOpen c) (enableI2cRepeater true) := by
  intro w hw
  rcases h : enableI2cRepeater true env w with ⟨e | _, u⟩
  · rw [GateOpen, repeaterGate, submitDemodWrite_error h]
    exact hw
  · exact enableI2cRepeater_gate h

theorem open_wireWrite (location content : UInt8) :
    Preserves env (GateOpen c) (Fc0012.wireWrite location content) :=
  open_enable.ignore.bind fun _ => open_of_keeps (keepsPage1_tunerFrame _ _)

theorem open_wireRead (location content : UInt8) :
    Preserves env (GateOpen c) (Fc0012.wireRead location content) :=
  open_enable.ignore.bind fun _ => (open_of_keeps (keepsPage1_tunerFrame _ _)).bind fun _ =>
    (open_of_keeps (keepsPage1_controlRead _ _ _ _)).bind fun _ => Preserves.pure _

theorem open_dispatchCommands (cmds : List Fc0012.WireCmd) :
    Preserves env (GateOpen c) (Fc0012.dispatchCommands cmds) :=
  Preserves.forM cmds fun _ _ => open_wireWrite _ _

theorem open_runCalibrationPolicy (bwReg : UInt8) (elevatedBias : Bool) :
    Preserves env (GateOpen c) (Fc0012.runCalibrationPolicy bwReg elevatedBias) := by
  have htrigger : Preserves env (GateOpen c) Fc0012.triggerCalibration :=
    (open_wireWrite _ _).ignore.bind fun _ => (open_wireWrite _ _).ignore
  refine htrigger.bind fun _ => ((open_wireRead _ _).orElse 0).bind fun raw => ?_
  dsimp only
  split
  · exact Preserves.pure _
  · exact (open_wireWrite _ _).ignore.bind fun _ => htrigger.bind fun _ => Preserves.pure _

theorem open_executeTuningSession (freqHz : UInt32) :
    Preserves env (GateOpen c) (Fc0012.executeTuningSession freqHz) := by
  refine (open_of_keeps keepsPage1_device).bind fun dev => ?_
  dsimp only
  split
  · exact Preserves.fail _
  · refine (Preserves.ofOption _).bind fun rawRatio => (Preserves.ofOption _).bind fun sol => ?_
    split
    · exact Preserves.fail _
    · exact (open_dispatchCommands _).bind fun _ =>
        (open_runCalibrationPolicy _ _).bind fun _ => Preserves.pure _

theorem open_setFreq (freqHz : UInt32) : Preserves env (GateOpen c) (Fc0012.setFreq freqHz) := by
  have hprepare : Keeps (page1 c) (Fc0012.prepareFreq freqHz) :=
    (keepsPage1_submitBlockWrite (.inl rfl) _ _ _).ignore.bind fun _ =>
      (keepsPage1_submitDemodWrite _ _ _).ignore.bind fun _ =>
        (keepsPage1_submitBlockWrite (.inl rfl) _ _ _).ignore.bind fun _ =>
          keepsPage1_setGpioBit _ _
  exact Preserves.bind ((open_of_keeps hprepare).bind fun _ => open_executeTuningSession _) fun _ =>
    open_of_keeps (keepsPage1_modifyDevice _)

theorem open_setGain (gainTenthDb : Int32) :
    Preserves env (GateOpen c) (Fc0012.setGain gainTenthDb) := by
  have hset : Preserves env (GateOpen c) (do
      let buf ← uninitialised 1
      let current ← Fc0012.wireRead 0x13 (buf.headD 0)
      Fc0012.wireWrite 0x13 ((current &&& 0xE0) ||| (Fc0012.resolveGainState gainTenthDb).hwCode)) :=
    (open_of_keeps (keepsPage1_uninitialised _)).bind fun _ =>
      (open_wireRead _ _).bind fun _ => open_wireWrite _ _
  refine (open_wireRead _ _).bind fun lnaOvr => ?_
  split
  · exact (open_wireWrite _ _).bind fun _ => hset
  · exact hset

theorem open_setAutoGain : Preserves env (GateOpen c) Fc0012.setAutoGain :=
  (open_wireRead _ _).bind fun _ => open_wireWrite _ _

/-- The device has an FC0012, and its gate is open. -/
structure FcOpen (c : Chip) (w : World) : Prop where
  family : w.dev.identity.tunerClass = .fc0012
  isOpen : GateOpen c w

theorem fcOpen {α : Type} {m : DevM α} (hidentity : Keeps (fun w => w.dev.identity) m)
    (hopen : Preserves env (GateOpen c) m) : Preserves env (FcOpen c) m := by
  refine fun w hw => ⟨?_, hopen w hw.isOpen⟩
  exact (congrArg DeviceIdentity.tunerClass (hidentity env w)).trans hw.family

theorem fcOpen_around : Around env (FcOpen c) where
  note _ := fcOpen (Keeps.modify fun _ => rfl) (open_of_keeps (keepsPage1_modifyDevice _))
  stop := fcOpen (keeps_stopBulk.comp Config.identity) (open_of_keeps keepsPage1_stopBulk)
  start := fcOpen (keeps_startBulk.comp Config.identity) (open_of_keeps keepsPage1_startBulk)

theorem fcOpen_tune (freqHz : UInt32) : Preserves env (FcOpen c) (tune freqHz) := by
  intro w hw
  have hidentity : Keeps (fun w => w.dev.identity) (Fc0012.setFreq freqHz) :=
    ((Fc0012.keeps_programFreq freqHz).comp Config.identity).bind fun _ =>
      Keeps.modify fun _ => rfl
  rw [tune, Act.bind_of_ok (device_apply env w), if_pos hw.family]
  exact fcOpen hidentity (open_setFreq freqHz) w hw

theorem fcOpen_setFrequency (freqHz : UInt32) : Preserves env (FcOpen c) (setFrequency freqHz) :=
  fcOpen_around.preserves_setFrequency (fcOpen_tune freqHz)

theorem fcOpen_setGain (gainTenthDb : Int32) : Preserves env (FcOpen c) (setGain gainTenthDb) := by
  have hgain : Preserves env (GateOpen c) (applyGain fc0012Contract gainTenthDb) := by
    unfold applyGain
    split
    · exact open_setAutoGain
    · exact open_setGain gainTenthDb
  refine fcOpen_around.preserves_setGain fun w contract hw hcontract => ?_
  rw [hw.family] at hcontract
  obtain rfl : fc0012Contract = contract := Option.some_inj.mp hcontract
  exact fcOpen ((keeps_applyGain (activeContract_mem hcontract) gainTenthDb).comp Config.identity)
    hgain

/-- A reset puts back what it has read. -/
theorem open_resetDemod {w w' : World} (henv : ReadsGate c env) (hw : GateOpen c w)
    (h : resetDemod env w = (.ok (), w')) : GateOpen c w' := by
  obtain ⟨val, hpage, hval⟩ := resetDemod_page1 (c := c) h
  rw [GateOpen, repeaterGate, hpage, withReset_gate, hval henv, hw]
  decide

end Open

/-! ### Calls that close the gate -/

section Closed

variable {c : Chip} {env : Env} (h : env.Succeeds)

abbrev GateClosed (c : Chip) (w : World) : Prop := repeaterGate c w = 0x10

include h

theorem closed_disable : Leaves env (GateClosed c) (enableI2cRepeater false) := by
  intro w x w' hrun _
  obtain ⟨_, u, hu⟩ := @total_enableI2cRepeater env h.accepts false w
  obtain ⟨rfl, rfl⟩ := Prod.mk.inj (hu.symm.trans hrun)
  exact enableI2cRepeater_gate hu

theorem closed_tunerWrite (data : List UInt8) : Leaves env (GateClosed c) (tunerWrite data) :=
  Leaves.bind_total (total_enableI2cRepeater h.accepts) fun _ =>
    leaves_tunerWrite (closed_disable h) data

theorem closed_tunerRead (reg len : UInt8) : Leaves env (GateClosed c) (tunerRead reg len) :=
  Leaves.bind_total (total_uninitialised _) fun _ =>
    Leaves.bind_total (total_enableI2cRepeater h.accepts) fun _ => (closed_disable h).closing

theorem closed_tunerWriteReg (reg val : UInt8) :
    Leaves env (GateClosed c) (tunerWriteReg reg val) :=
  (closed_tunerWrite h _).bind_preserves fun _ => fun _ hw => hw

theorem closed_tunerReadReg (reg : UInt8) : Leaves env (GateClosed c) (tunerReadReg reg) :=
  (closed_tunerRead h reg 1).bind_preserves fun _ => Preserves.pure _

theorem closed_tunerRmw (reg val mask : UInt8) :
    Leaves env (GateClosed c) (tunerRmw reg val mask) := by
  have hread := closed_tunerReadReg (c := c) h reg
  refine Leaves.bind (fun w e w' hfail => ?_) fun _ => closed_tunerWriteReg h _ _
  rw [tunerCurrent, Act.bind_of_ok (device_apply env w)] at hfail
  rcases hreg : shadowIndex reg with _ | i <;> rw [hreg] at hfail
  · exact hread w _ _ hfail (by simp)
  · dsimp only at hfail
    split at hfail
    · cases hfail
    · exact hread w _ _ hfail (by simp)

theorem closed_session {α : Type} (ops : DevM α) : Leaves env (GateClosed c) (session ops) :=
  Leaves.bind_total (total_enableI2cRepeater h.accepts) fun _ =>
    leaves_session (closed_disable h) ops

theorem closed_tunerAccess (access : TunerAccess) :
    Leaves env (GateClosed c) access.perform := by
  cases access with
  | write data => exact closed_tunerWrite h data
  | read reg len => exact (closed_tunerRead h reg len).bind_preserves fun _ => Preserves.pure _
  | writeReg reg val => exact closed_tunerWriteReg h reg val
  | readReg reg => exact (closed_tunerReadReg h reg).bind_preserves fun _ => Preserves.pure _
  | rmw reg val mask => exact closed_tunerRmw h reg val mask
  | writeBatch pairs => exact closed_session h _
  | readBatch regs => exact (closed_session h _).bind_preserves fun _ => Preserves.pure _

omit h in
theorem keepsGate_submitDemodWrite {reg : UInt8} (hreg : reg ≠ 0x01) (val : UInt16) :
    Keeps (repeaterGate c) (submitDemodWrite 1 reg val 1) := by
  intro env w
  rcases hrun : submitDemodWrite 1 reg val 1 env w with ⟨e | _, u⟩
  · exact congrFun (submitDemodWrite_error hrun) 0x01
  · rw [repeaterGate, submitDemodWrite_page1 hrun, demodWritten_byte hreg,
      Function.update_of_ne hreg.symm]
    rfl

omit h in
theorem keepsGate_setIfFreq (ifFreqHz : UInt32) : Keeps (repeaterGate c) (setIfFreq ifFreqHz) := by
  have hdevice : Keeps (repeaterGate c) device := fun _ _ => rfl
  have hnco : Keeps (repeaterGate c) (programNco ifFreqHz) :=
    hdevice.bind fun _ => (Keeps.ofOption _).bind fun _ =>
      (keepsGate_submitDemodWrite (by decide) _).bind fun _ =>
        (keepsGate_submitDemodWrite (by decide) _).bind fun _ =>
          keepsGate_submitDemodWrite (by decide) _
  exact hnco.bind fun _ => Keeps.modify fun _ => rfl

theorem closed_rateTail (ratio : UInt32) :
    Leaves env (GateClosed c) (do programRatio ratio; reprogramIf) := by
  intro w x w' hrun _
  obtain ⟨_, u, hu⟩ := @total_programRatio env h ratio w
  rw [Act.bind_of_ok hu] at hrun
  have hgate : GateClosed c u := by
    rw [GateClosed, repeaterGate, programRatio_page1 hu, withRatio_gate]
  have hif : Keeps (repeaterGate c) reprogramIf := by
    refine Keeps.bind (fun _ _ => rfl) fun dev => ?_
    split
    · exact keepsGate_setIfFreq _
    · exact Keeps.pure _
  exact (hif.world hrun).trans hgate

theorem closed_applyRate {q : Resampling} {w w' : World} {x : Except (Fault SdrggError) Unit}
    (hfamily : w.dev.identity.tunerClass = .fc0012) (hrun : applyRate q env w = (x, w'))
    (hx : x ≠ .error .trap) : GateClosed c w' := by
  obtain ⟨_, u, hu⟩ : ∃ y u, modifyTuning (fun t => { t with samplingRateHz := q.achievedHz }) env w
      = (.ok y, u) := ⟨_, _, rfl⟩
  have hband : needsBandwidth u.dev.identity q.achievedHz = false := by
    rw [(noteRate_ok hu).2, needsBandwidth, hfamily]
    rfl
  rw [applyRate, Act.bind_of_ok hu, Act.bind_of_ok (device_apply env u), hband] at hrun
  exact closed_rateTail h q.ratio u x w' hrun hx

/-- A rate that is accepted closes the gate. -/
theorem closed_setSampleRate {rateHz : UInt32} {w w' : World}
    {x : Except (Fault SdrggError) UInt32} (haccept : rateAccepted rateHz = true)
    (hfamily : w.dev.identity.tunerClass = .fc0012)
    (hrun : setSampleRate rateHz env w = (x, w')) (hx : x ≠ .error .trap) : GateClosed c w' := by
  obtain ⟨_, u, hu⟩ : ∃ y u, modifyTuning (fun t => { t with requestedRateHz := rateHz }) env w
      = (.ok y, u) := ⟨_, _, rfl⟩
  have hufamily : u.dev.identity.tunerClass = .fc0012 :=
    (congrArg (fun c => c.identity.tunerClass) (requestRate_ok hu)).trans hfamily
  rw [setSampleRate, Act.bind_of_ok hu] at hrun
  have hrate : ∀ y v, Rtl.setSampleRate rateHz env u = (y, v) → y ≠ .error .trap →
      GateClosed c v := by
    intro y v hv hy
    cases hq : resampling u.dev.baseband rateHz with
    | none =>
      rw [setSampleRate_undefined haccept hq] at hv
      cases hv
      exact absurd rfl hy
    | some q =>
      rw [setSampleRate_accepted haccept hq] at hv
      exact closed_applyRate h hufamily hv hy
  rcases hv : Rtl.setSampleRate rateHz env u with ⟨(e | _) | y, v⟩
  · have hgate := hrate _ v hv (by simp)
    rw [Act.bind_of_ok (Act.attempt_of_error hv)] at hrun
    cases hrun
    exact hgate
  · have htrap : Act.attempt (Rtl.setSampleRate rateHz) env u = (.error .trap, v) := by
      rw [Act.attempt, hv]
    rw [Act.bind_of_error htrap] at hrun
    cases hrun
    exact absurd rfl hx
  · have hgate := hrate _ v hv (by simp)
    rw [Act.bind_of_ok (Act.attempt_of_ok hv)] at hrun
    cases hrun
    exact hgate

omit h in
/-- A rate that is refused does not reach the device. -/
theorem keepsPage1_setSampleRate {rateHz : UInt32} (haccept : rateAccepted rateHz = false) :
    Keeps (page1 c) (setSampleRate rateHz) := by
  have hrate : Rtl.setSampleRate rateHz = Act.fail .param := by
    simp [Rtl.setSampleRate, haccept]
  refine (keepsPage1_modifyDevice _).bind fun _ => Keeps.bind ?_ fun rc =>
    (keepsPage1_modifyDevice _).bind fun _ => (Keeps.ofExcept rc).bind fun _ =>
      keepsPage1_device.bind fun _ => Keeps.pure _
  rw [hrate]
  exact (Keeps.fail _).attempt

end Closed

/-! ### Steps -/

/-- The tuner of a device, and whether it streams. -/
def standing (w : World) : DeviceIdentity × Bool := (w.dev.identity, w.dev.streamActive)

section Steps

variable {c : Chip} {env : Env} {w w' : World}

theorem keepsStanding_of_config {α : Type} {m : DevM α} (h : Keeps World.config m) :
    Keeps standing m :=
  h.comp fun c => (c.identity, c.streamActive)

theorem keepsStanding_modifyTuning (f : TuningContext → TuningContext) :
    Keeps standing (modifyTuning f) :=
  Keeps.modify fun _ => rfl

theorem keepsStanding_setFrequency (freqHz : UInt32) : Keeps standing (setFrequency freqHz) :=
  OffTuning.keeps_setFrequency (f := fun c => (c.identity, c.streamActive))
    ⟨fun _ _ => rfl, fun _ _ => rfl, fun _ _ => rfl, fun _ _ => rfl⟩ freqHz

theorem standing_around (k : DeviceIdentity × Bool) : Around env (fun w => standing w = k) where
  note f := (keepsStanding_modifyTuning f).value k
  stop := (keepsStanding_of_config keeps_stopBulk).value k
  start := (keepsStanding_of_config keeps_startBulk).value k

theorem keepsStanding_setSampleRate (rateHz : UInt32) : Keeps standing (setSampleRate rateHz) := by
  have hband (bwKhz : UInt32) : Keeps standing (R820t.setBandwidth bwKhz) :=
    (keepsStanding_of_config (R820t.keeps_lowerIntents _)).bind fun _ =>
      (keepsStanding_of_config (keeps_programNco _)).bind fun _ => keepsStanding_modifyTuning _
  refine Keeps.of_preserves fun env k => ?_
  exact preserves_setSampleRate (standing_around k).note fun _ q _ _ _ =>
    preserves_applyRate (standing_around k).note (fun _ _ _ => (hband _).value k)
      ((keepsStanding_of_config (keeps_rateTail q.ratio)).value k)

theorem keepsStanding_setGain (gainTenthDb : Int32) : Keeps standing (setGain gainTenthDb) :=
  Keeps.of_preserves fun _ k => (standing_around k).preserves_setGain fun _ _ _ hcontract =>
    (keepsStanding_of_config (keeps_applyGain (activeContract_mem hcontract) gainTenthDb)).value k

/-- The gate is open whenever the stream is active. -/
def StreamsOpen (c : Chip) (w : World) : Prop := w.dev.streamActive = true → GateOpen c w

theorem keepsStanding_map {α : Type} {m : DevM α} (h : Keeps standing m) :
    Keeps standing (do let _ ← m; return () : DevM Unit) :=
  h.bind fun _ => Keeps.pure _

/-- A call that keeps the standing of the device and an open gate. -/
theorem streamsOpen_of_fcOpen {x : Except (Fault SdrggError) Unit} {m : DevM Unit}
    (hstanding : Keeps standing m) (hopen : Preserves env (FcOpen c) m)
    (hfamily : w.dev.identity.tunerClass = .fc0012) (hw : StreamsOpen c w)
    (hrun : m env w = (x, w')) : StreamsOpen c w' := by
  intro hactive
  have hsame : w'.dev.streamActive = w.dev.streamActive :=
    congrArg Prod.snd (hstanding.world hrun)
  exact (hopen.world ⟨hfamily, hw (hsame ▸ hactive)⟩ hrun).isOpen

/-- A call that closes the gate keeps it open for a stream exactly when there is none. -/
theorem streamsOpen_iff_of_closed (hactive : w'.dev.streamActive = w.dev.streamActive)
    (hgate : GateClosed c w') : StreamsOpen c w' ↔ w.dev.streamActive = false := by
  unfold StreamsOpen
  rw [GateOpen, hgate, hactive]
  cases w.dev.streamActive <;> decide

theorem streamsOpen_startStream {outcome : StreamStart} {x : Except (Fault SdrggError) Unit}
    (hw : StreamsOpen c w) (hrun : startStream outcome env w = (x, w')) :
    StreamsOpen c w' ↔ KeepsGate c w (.startStream outcome) := by
  unfold startStream at hrun
  rw [Act.bind_of_ok (device_apply env w)] at hrun
  cases hactive : w.dev.streamActive with
  | true =>
    rw [hactive] at hrun
    cases hrun
    refine iff_of_true hw ?_
    cases outcome with
    | started reads => exact fun h => absurd (hactive.symm.trans h) (by decide)
    | _ => trivial
  | false =>
    rw [hactive] at hrun
    have hbulk : Keeps (fun w => (standing w, repeaterGate c w)) (Act.ignore startBulk) := by
      intro env w
      exact Prod.ext ((keepsStanding_of_config keeps_startBulk).ignore env w)
        (congrFun (keepsPage1_startBulk.ignore env w) 0x01)
    cases outcome with
    | noRing =>
      cases hrun
      exact iff_of_true hw trivial
    | noReader =>
      cases hrun
      exact iff_of_true hw trivial
    | noSubscriber =>
      have hfail : Keeps (fun w => (standing w, repeaterGate c w)) (do
          Act.ignore startBulk
          Act.fail .io : DevM Unit) := hbulk.bind fun _ => Keeps.fail _
      have hsame := congrArg (fun v => v.1.2) (hfail.world hrun)
      refine iff_of_true (fun h => ?_) trivial
      exact absurd ((hsame.symm.trans h).symm.trans hactive) (by decide)
    | started reads =>
      obtain ⟨_, u, hu⟩ : ∃ y u, modifyDevice (fun d => { d with streamActive := true }) env w =
          (.ok y, u) := ⟨_, _, rfl⟩
      have hrest : Keeps (fun w => (standing w, repeaterGate c w))
          (if reads then Act.ignore startBulk else pure () : DevM Unit) := by
        split
        · exact hbulk
        · exact Keeps.pure _
      simp only [Bool.false_eq_true, if_false] at hrun
      rw [Act.bind_of_ok hu] at hrun
      have hsame := hrest.world hrun
      have hstreams : w'.dev.streamActive = true := by
        cases hu
        exact congrArg (fun v => v.1.2) hsame
      have hgate : repeaterGate c w' = repeaterGate c w := by
        cases hu
        exact congrArg Prod.snd hsame
      unfold StreamsOpen KeepsGate
      rw [GateOpen, hgate, hstreams, hactive]
      simp

/-- From a device with an FC0012 whose gate is open if it streams, a call leads to one exactly when
it keeps the gate. -/
theorem streamsOpen_step {call : GateCall} (h : env.Succeeds) (hreads : ReadsGate c env)
    (hfamily : w.dev.identity.tunerClass = .fc0012) (hw : StreamsOpen c w)
    (hstep : gateStep env w call = some w') :
    w'.dev.identity = w.dev.identity ∧ (StreamsOpen c w' ↔ KeepsGate c w call) := by
  obtain ⟨x, hrun, hx⟩ := gateStep_eq_some.mp hstep
  have hstanding {m : DevM Unit} (hm : Keeps standing m) (hrun : m env w = (x, w')) :
      w'.dev.identity = w.dev.identity ∧ w'.dev.streamActive = w.dev.streamActive :=
    ⟨congrArg Prod.fst (hm.world hrun), congrArg Prod.snd (hm.world hrun)⟩
  cases call with
  | setFrequency freqHz =>
    have hm := keepsStanding_map (keepsStanding_setFrequency freqHz)
    refine ⟨(hstanding hm hrun).1, iff_of_true ?_ trivial⟩
    exact streamsOpen_of_fcOpen hm ((fcOpen_setFrequency freqHz).bind fun _ => Preserves.pure _)
      hfamily hw hrun
  | setSampleRate rateHz =>
    have hm := keepsStanding_map (keepsStanding_setSampleRate rateHz)
    refine ⟨(hstanding hm hrun).1, ?_⟩
    cases haccept : rateAccepted rateHz with
    | false =>
      refine iff_of_true (fun hactive => ?_) fun _ => haccept
      have hpage : Keeps (page1 c) (do let _ ← setSampleRate rateHz; return () : DevM Unit) :=
        (keepsPage1_setSampleRate haccept).bind fun _ => Keeps.pure _
      rw [(hstanding hm hrun).2] at hactive
      exact (open_of_keeps hpage).world (hw hactive) hrun
    | true =>
      have hgate : GateClosed c w' := by
        have hrun : (do let _ ← setSampleRate rateHz; return () : DevM Unit) env w = (x, w') := hrun
        rw [Act.bind_apply] at hrun
        rcases hset : setSampleRate rateHz env w with ⟨e | hz, u⟩ <;> rw [hset] at hrun <;>
          cases hrun
        · refine closed_setSampleRate h haccept hfamily hset ?_
          rintro ⟨rfl⟩
          exact hx rfl
        · exact closed_setSampleRate h haccept hfamily hset (by simp)
      rw [streamsOpen_iff_of_closed (hstanding hm hrun).2 hgate, KeepsGate, haccept]
      simp
  | setGain gainTenthDb =>
    have hm := keepsStanding_setGain gainTenthDb
    refine ⟨(hstanding hm hrun).1, iff_of_true ?_ trivial⟩
    exact streamsOpen_of_fcOpen hm (fcOpen_setGain gainTenthDb) hfamily hw hrun
  | startStream outcome =>
    have hbulk : Keeps (fun w => w.dev.identity) (Act.ignore startBulk) :=
      (keeps_startBulk.comp Config.identity).ignore
    have hidentity : Keeps (fun w => w.dev.identity) (startStream outcome) := by
      refine (keeps_device.comp Config.identity).bind fun dev => ?_
      split
      · exact Keeps.fail _
      · cases outcome with
        | noRing => exact Keeps.fail _
        | noReader => exact Keeps.fail _
        | noSubscriber => exact hbulk.bind fun _ => Keeps.fail _
        | started reads =>
          refine Keeps.bind (Keeps.modify fun _ => rfl) fun _ => ?_
          cases reads with
          | false => exact Keeps.pure _
          | true => exact hbulk
    exact ⟨hidentity.world hrun, streamsOpen_startStream hw hrun⟩
  | stopStream =>
    cases hrun
    exact ⟨rfl, iff_of_true (by nofun) trivial⟩
  | resetDemod =>
    have hm := keepsStanding_of_config keeps_resetDemod
    refine ⟨(hstanding hm hrun).1, iff_of_true (fun hactive => ?_) trivial⟩
    obtain ⟨_, u, hu⟩ := total_resetDemod h.accepts w
    obtain ⟨rfl, rfl⟩ := Prod.mk.inj (hu.symm.trans hrun)
    rw [(hstanding hm hrun).2] at hactive
    exact open_resetDemod hreads (hw hactive) hu
  | tuner access =>
    have hm := keepsStanding_of_config (keeps_tunerAccess access)
    refine ⟨(hstanding hm hrun).1, ?_⟩
    exact streamsOpen_iff_of_closed (hstanding hm hrun).2
      (closed_tunerAccess h access w x w' hrun hx)

end Steps

/-! ### Runs from an opened device -/

section Runs

variable {c : Chip} {env : Env} {w0 w u : World}

theorem activate_gate (henv : env.Succeeds) (h : activate fc0012Contract env w = (.ok (), u)) :
    GateOpen c u := by
  obtain ⟨_, x, -, h⟩ := Act.bind_eq_ok.mp h
  obtain ⟨_, y, -, h⟩ := Act.bind_eq_ok.mp h
  obtain ⟨_, z, -, h⟩ := Act.bind_eq_ok.mp h
  have h : Act.ignore (enableI2cRepeater true) env z = (.ok (), u) := h
  obtain ⟨_, v, hv⟩ := @total_enableI2cRepeater env henv.accepts true z
  have hignore : Act.ignore (enableI2cRepeater true) env z = (.ok (), v) :=
    Act.bind_of_ok (Act.attempt_of_ok hv)
  obtain ⟨-, rfl⟩ := Prod.mk.inj (hignore.symm.trans h)
  exact enableI2cRepeater_gate hv

/-- An FC0012 is opened with its gate open and without a stream. -/
theorem bringUp_fc0012 (henv : env.Succeeds) (hblank : w0.dev = blankDevice)
    (hopen : bringUp env w0 = (.ok (), w)) (hfamily : w.dev.identity.tunerClass = .fc0012) :
    w.dev.streamActive = false ∧ GateOpen c w := by
  obtain ⟨_, v, hv, hdiscover⟩ := Act.bind_eq_ok.mp hopen
  have hgate : GateOpen c w := by
    obtain ⟨hclass, -⟩ | ⟨-, x, hx⟩ := discover_family hdiscover
    · exact absurd (hclass.symm.trans hfamily) (by decide)
    · exact activate_gate henv hx
  refine ⟨?_, hgate⟩
  have hactive : v.dev.streamActive = false := by
    rw [show v.dev.streamActive = w0.dev.streamActive from
      congrArg Config.streamActive (init_ok hv), hblank]
    rfl
  obtain h | h := discover_ok hdiscover <;>
    exact (congrArg Config.streamActive h).trans hactive

/-- On an FC0012 that `open_path` returns, while all transfers succeed, the gate is open in every
state of a run with the stream active exactly when every call of the run keeps it. -/
theorem gate_open_while_streaming {calls : List GateCall} (henv : env.Succeeds)
    (hreads : ReadsGate c env) (hblank : w0.dev = blankDevice)
    (hopen : bringUp env w0 = (.ok (), w)) (hfamily : w.dev.identity.tunerClass = .fc0012)
    (hrun : run (gateStep env) w calls = some u) :
    (∀ pre, pre <+: calls → ∀ v, run (gateStep env) w pre = some v →
        v.dev.streamActive = true → repeaterGate c v = 0x18) ↔
      Along (gateStep env) (KeepsGate c) w calls := by
  have hw := bringUp_fc0012 (c := c) henv hblank hopen hfamily
  refine Along.iff_forall_prefix (I := fun w => w.dev.identity.tunerClass = .fc0012)
    (P := StreamsOpen c) (fun s a t hs hP hstep _ => ?_)
    (fun s a t hs hP hstep => (streamsOpen_step henv hreads hs hP hstep).2) hfamily
    (fun _ => hw.2) hrun
  rw [(streamsOpen_step henv hreads hs hP hstep).1]
  exact hs

end Runs

/-- A kernel with a blank chip behind it, whose FC0012 answers every read with its identity. -/
def fc0012Env : Env :=
  { kernel := fun log t =>
      match t with
      | .read 0x0120 0x0001 1 => .done [(blankChip.after log).demod 0x01]
      | .read 0xC6 0x0600 len => .done (List.replicate len.toNat 0xA1)
      | .read _ _ len => .done (List.replicate len.toNat 0)
      | _ => .done []
    stack := fun _ _ => 0 }

theorem fc0012Env_succeeds : fc0012Env.Succeeds := by
  intro log t
  cases t with
  | write value index data => exact ⟨_, rfl⟩
  | reset => exact ⟨_, rfl⟩
  | claimInterface interface => exact ⟨_, rfl⟩
  | read value index len =>
    unfold fc0012Env
    dsimp only
    split
    · rename_i h
      cases h
      exact ⟨_, rfl, rfl⟩
    · rename_i h
      cases h
      exact ⟨_, rfl, List.length_replicate⟩
    · rename_i h
      cases h
      exact ⟨_, rfl, List.length_replicate⟩
    · rename_i h
      exact absurd rfl (h _ _ _)

/-- The FC0012 that this kernel opens. -/
def openedGate : World := (bringUp fc0012Env blankWorld).2

theorem openedGate_eq : bringUp fc0012Env blankWorld = (.ok (), openedGate) :=
  Prod.fst_eq_iff.mp (by decide +kernel)

theorem openedGate_family : openedGate.dev.identity.tunerClass = .fc0012 := by decide +kernel

/-- A rate that is set before the stream starts closes the gate under it. -/
theorem gate_closed_under_stream :
    (run (gateStep fc0012Env) openedGate
        [.setSampleRate 2048000, .startStream (.started true)]).map
      (fun v => (v.dev.streamActive, repeaterGate blankChip v)) = some (true, 0x10) := by
  decide +kernel

theorem gate_open_while_streaming_rate :
    ¬Along (gateStep fc0012Env) (KeepsGate blankChip) openedGate
      [.setSampleRate 2048000, .startStream (.started true)] := by
  have hlast : (run (gateStep fc0012Env) openedGate
        [.setSampleRate 2048000, .startStream (.started true)]).map
      (fun v => (v.dev.streamActive, repeaterGate blankChip v)) = some (true, 0x10) := by
    decide +kernel
  obtain ⟨u, hu, hv⟩ := Option.map_eq_some_iff.mp hlast
  obtain ⟨hactive, hgate⟩ := Prod.mk.inj hv
  intro halong
  have hopen := (gate_open_while_streaming fc0012Env_succeeds (fun _ => rfl) rfl openedGate_eq
    openedGate_family hu).mpr halong _ (List.prefix_refl _) u hu hactive
  exact absurd (hgate.symm.trans hopen) (by decide)

end Sdrgg.Sdr
