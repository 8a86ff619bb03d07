import Sdrgg.Core.Success
import Sdrgg.ProofKit.Run
import Sdrgg.Rtl.Bus
import Sdrgg.Rtl.Chip
import Sdrgg.Rtl.Session

/-! The I2C transfers of an FC0012 that streams, and the bulk endpoint that is paused around them:
the calls that pause it, and the reset that does not. -/

namespace Sdrgg.Sdr

open ProofKit Usb Rtl

/-! ### The endpoint -/

/-- Whether a transfer writes the control register of the bulk endpoint, and halts it or lets it
run. -/
def endpointHalt : Transfer → Option Bool
  | .write value index data =>
    if value = 0x2148 ∧ index = 0x0110 then some (data ≠ [0x00, 0x00]) else none
  | _ => none

/-- The endpoint, halted or not, after a transfer, which must not be on the I2C bus while it runs. -/
def pauseStep (halted : Bool) (entry : Transfer × Response) : Option Bool :=
  if Transfer.onTunerBus entry.1 ∧ !halted then none
  else match entry.2, endpointHalt entry.1 with
    | .done _, some halts => some halts
    | _, _ => some halted

/-- The kernel has carried out the writes of the endpoint's control register. -/
def EndpointServed (seg : Log) : Prop :=
  ∀ entry ∈ seg, (endpointHalt entry.1).isSome → ¬Response.failed entry.2

/-- An FC0012 that streams.  Since the log `base`, with the endpoint running, every transfer on the
I2C bus has been made while the endpoint was halted, and it is halted now or not, unless the kernel
has failed to write its control register. -/
structure Paced (base : Log) (halted : Bool) (w : World) : Prop where
  tuner : w.dev.identity.tunerClass = .fc0012
  active : w.dev.streamActive = true
  trace : ∃ seg : Log, w.log = seg ++ base ∧
    (EndpointServed seg → run pauseStep false seg.reverse = some halted)

/-- The transfer leaves the endpoint as it is, and may be made then. -/
def Quiet (halted : Bool) (t : Transfer) : Prop :=
  endpointHalt t = none ∧ (Transfer.onTunerBus t = true → halted = true)

section Transfers

variable {base : Log} {env : Env} {halted : Bool}

theorem Quiet.step {t : Transfer} (h : Quiet halted t) (resp : Response) :
    pauseStep halted (t, resp) = some halted := by
  have hallowed : ¬(Transfer.onTunerBus t ∧ !halted) := by
    rintro ⟨hbus, hrunning⟩
    rw [h.2 hbus] at hrunning
    cases hrunning
  rw [pauseStep, if_neg hallowed, h.1]
  cases resp <;> rfl

theorem paced_snoc {w w' : World} {entry : Transfer × Response} {after : Bool}
    (hw : Paced base halted w)
    (hstep : ((endpointHalt entry.1).isSome → ¬Response.failed entry.2) →
      pauseStep halted entry = some after)
    (hlog : w'.log = entry :: w.log) (hidentity : w'.dev.identity = w.dev.identity)
    (hactive : w'.dev.streamActive = w.dev.streamActive) : Paced base after w' := by
  obtain ⟨seg, hseg, hrun⟩ := hw.trace
  refine ⟨hidentity ▸ hw.tuner, hactive ▸ hw.active, entry :: seg, ?_, fun hserved => ?_⟩
  · rw [hlog, hseg, List.cons_append]
  · obtain ⟨hentry, hserved⟩ := List.forall_mem_cons.mp hserved
    rw [List.reverse_cons, run_append, hrun hserved, Option.bind_some, run_cons, hstep hentry]
    rfl

theorem paced_modify {f : Device → Device} (hidentity : ∀ d, (f d).identity = d.identity)
    (hactive : ∀ d, (f d).streamActive = d.streamActive) :
    Preserves env (Paced base halted) (modifyDevice f) :=
  fun w hw => ⟨(hidentity w.dev).symm ▸ hw.tuner, (hactive w.dev).symm ▸ hw.active, hw.trace⟩

@[grind ←] theorem paced_modifyTuning (f : TuningContext → TuningContext) :
    Preserves env (Paced base halted) (modifyTuning f) := paced_modify (fun _ => rfl) fun _ => rfl

@[grind ←] theorem paced_device : Preserves env (Paced base halted) device := fun _ hw => hw

@[grind ←] theorem paced_uninitialised (n : Nat) :
    Preserves env (Paced base halted) (uninitialised n) := fun _ hw => hw

theorem paced_ioctl {t : Transfer} (h : Quiet halted t) :
    Preserves env (Paced base halted) (ioctl t) :=
  fun _ hw => paced_snoc hw (fun _ => h.step _) rfl rfl rfl

theorem noted_active (d : Device) (resp : Response) :
    (d.noted resp).streamActive = d.streamActive := by
  cases resp with
  | done data => rfl
  | fail errno =>
    unfold Device.noted
    dsimp only
    split <;> rfl

@[grind ←] theorem paced_noteResponse (resp : Response) :
    Preserves env (Paced base halted) (noteResponse resp) :=
  fun w hw => ⟨(Device.noted_identity w.dev resp).symm ▸ hw.tuner,
    (noted_active w.dev resp).symm ▸ hw.active, hw.trace⟩

theorem paced_controlWrite {value index : UInt16} {data : List UInt8}
    (h : Quiet halted (.write value index data)) :
    Preserves env (Paced base halted) (controlWrite value index data) := by
  have hioctl : Preserves env (Paced base halted) (ioctl (.write value index data)) :=
    paced_ioctl h
  grind [controlWrite]

theorem paced_controlRead {value index len : UInt16} {buf : List UInt8}
    (h : index = 0x0600 → halted = true) :
    Preserves env (Paced base halted) (controlRead value index len buf) := by
  have hquiet : Quiet halted (.read value index len) :=
    ⟨rfl, fun hbus => h (of_decide_eq_true hbus)⟩
  have hioctl : Preserves env (Paced base halted) (ioctl (.read value index len)) :=
    paced_ioctl hquiet
  grind [controlRead]

/-- The confirmation of a demodulator write is read from no device on the bus. -/
@[grind ←] theorem paced_submitDemodWrite (page reg : UInt8) (val : UInt16) (len : UInt8) :
    Preserves env (Paced base halted) (submitDemodWrite page reg val len) := by
  have hpages : ∀ n < 256, (0x10 : UInt16) ||| (UInt8.ofNat n).toUInt16 ≠ 0x0610 ∧
      (0x10 : UInt16) ||| (UInt8.ofNat n).toUInt16 ≠ 0x0110 := by
    decide +kernel
  have hpage : (0x10 : UInt16) ||| page.toUInt16 ≠ 0x0610 ∧
      (0x10 : UInt16) ||| page.toUInt16 ≠ 0x0110 := by
    simpa using hpages page.toNat page.toNat_lt
  refine (paced_controlWrite ⟨?_, ?_⟩).bind fun _ =>
    (paced_controlRead (fun h => absurd h (by decide))).ignore
  · simp [endpointHalt, hpage.2]
  · simp [Transfer.onTunerBus, hpage.1]

@[grind ←] theorem paced_enableI2cRepeater (enable : Bool) :
    Preserves env (Paced base halted) (enableI2cRepeater enable) :=
  paced_submitDemodWrite _ _ _ _

/-- A block write reaches the endpoint only at its control register. -/
theorem paced_submitBlockWrite {block : UInt8} {addr val : UInt16} {len : UInt8}
    (h : block = 2 ∨ block = 1 ∧ addr ≠ 0x2148) :
    Preserves env (Paced base halted) (submitBlockWrite block addr val len) := by
  have hindex : (block.toUInt16 <<< 8) ||| 0x10 ≠ 0x0610 ∧
      ((block.toUInt16 <<< 8) ||| 0x10 ≠ 0x0110 ∨ addr ≠ 0x2148) := by
    obtain rfl | ⟨rfl, haddr⟩ := h
    · exact ⟨by decide, .inl (by decide)⟩
    · exact ⟨by decide, .inr haddr⟩
  refine paced_controlWrite ⟨?_, ?_⟩
  · unfold endpointHalt
    dsimp only
    rw [if_neg]
    rintro ⟨haddr, hblock⟩
    exact hindex.2.elim (fun hne => hne hblock) fun hne => hne haddr
  · simp [Transfer.onTunerBus, hindex.1]

@[grind ←] theorem paced_updateSystem (addr : UInt16) (r : UInt8) (change : UInt8 → UInt8) :
    Preserves env (Paced base halted) (updateSystem addr r change) := by
  have hread : Preserves env (Paced base halted) (submitBlockRead 2 addr r) :=
    (paced_controlRead (fun h => absurd h (by decide))).bind fun _ => Preserves.pure _
  exact (hread.orElse r).bind fun _ =>
    (paced_submitBlockWrite (.inl rfl)).ignore.bind fun _ => Preserves.pure _

@[grind ←] theorem paced_setGpioBit (gpio : UInt8) (val : Bool) :
    Preserves env (Paced base halted) (setGpioBit gpio val) := by
  grind [setGpioBit]

@[grind ←] theorem paced_programNco (ifFreqHz : UInt32) :
    Preserves env (Paced base halted) (programNco ifFreqHz) := by
  grind [programNco]

/-! ### The endpoint -/

/-- A write of the control register that the kernel carries out takes effect. -/
theorem endpointWrite_paced (data : List UInt8) {w w' : World} {x : Except (Fault SdrggError) Unit}
    {after : Bool} (hw : Paced base halted w)
    (h : controlWrite 0x2148 0x0110 data env w = (x, w'))
    (hafter : x = .ok () → after = decide (data ≠ [0x00, 0x00])) : Paced base after w' := by
  obtain ⟨u, hrun, hlog⟩ := @controlWrite_run env 0x2148 0x0110 data w
  obtain ⟨rfl, rfl⟩ := Prod.mk.inj (h.symm.trans hrun)
  have hconfig := (keeps_controlWrite 0x2148 0x0110 data).world h
  refine paced_snoc hw (fun hserved => ?_) hlog (congrArg Config.identity hconfig)
    (congrArg Config.streamActive hconfig)
  cases hresp : env.kernel w.log (.write 0x2148 0x0110 data) with
  | done bytes =>
    rw [hafter (congrArg Response.outcome hresp)]
    rfl
  | fail errno => exact absurd (congrArg Response.failed hresp) (hserved rfl)

theorem stopBulk_takes :
    Takes env (Paced base halted) (Paced base true) (Act.ignore stopBulk) :=
  Takes.ignore fun _ _ _ hw hrun _ => endpointWrite_paced [0x10, 0x02] hw hrun fun _ => rfl

theorem startBulk_takes :
    Takes env (Paced base halted) (Paced base false) (Act.ignore startBulk) := by
  have hhalt : Takes env (Paced base halted) (Paced base true)
      (submitBlockWrite 1 0x2148 0x1002 2) :=
    fun _ _ _ hw hrun _ => endpointWrite_paced [0x10, 0x02] hw hrun fun _ => rfl
  refine Takes.ignore (hhalt.bind (fun w e w' hw hfail => ?_) fun _ w x w' hw hrun _ => ?_)
  · refine endpointWrite_paced [0x10, 0x02] hw hfail fun hok => ?_
    cases hok
  · exact endpointWrite_paced [0x00, 0x00] hw hrun fun _ => rfl

end Transfers

/-! ### The operations of an FC0012 -/

section Fc0012

variable {base : Log} {env : Env}

@[grind ←] theorem paced_wireWrite (location content : UInt8) :
    Preserves env (Paced base true) (Fc0012.wireWrite location content) :=
  (paced_enableI2cRepeater true).ignore.bind fun _ =>
    paced_controlWrite ⟨by simp [endpointHalt], fun _ => rfl⟩

@[grind ←] theorem paced_wireRead (location content : UInt8) :
    Preserves env (Paced base true) (Fc0012.wireRead location content) :=
  (paced_enableI2cRepeater true).ignore.bind fun _ =>
    (paced_controlWrite ⟨by simp [endpointHalt], fun _ => rfl⟩).bind fun _ =>
      (paced_controlRead fun _ => rfl).bind fun _ => Preserves.pure _

theorem paced_runCalibrationPolicy (bwReg : UInt8) (elevatedBias : Bool) :
    Preserves env (Paced base true) (Fc0012.runCalibrationPolicy bwReg elevatedBias) := by
  have htrigger : Preserves env (Paced base true) Fc0012.triggerCalibration := by
    grind [Fc0012.triggerCalibration]
  grind [Fc0012.runCalibrationPolicy]

theorem paced_executeTuningSession (freqHz : UInt32) :
    Preserves env (Paced base true) (Fc0012.executeTuningSession freqHz) := by
  have hcommands (cmds : List Fc0012.WireCmd) :
      Preserves env (Paced base true) (Fc0012.dispatchCommands cmds) :=
    Preserves.forM cmds fun _ _ => paced_wireWrite _ _
  have hcalibrate := @paced_runCalibrationPolicy base env
  grind [Fc0012.executeTuningSession, Fc0012.stageSession]

theorem paced_prepareFreq (freqHz : UInt32) :
    Preserves env (Paced base true) (Fc0012.prepareFreq freqHz) := by
  have hblock {addr val : UInt16} (haddr : addr ≠ 0x2148) :
      Preserves env (Paced base true) (submitBlockWrite 1 addr val 1) :=
    paced_submitBlockWrite (.inr ⟨rfl, haddr⟩)
  exact (hblock (by decide)).ignore.bind fun _ =>
    (paced_submitDemodWrite _ _ _ _).ignore.bind fun _ =>
      (hblock (by decide)).ignore.bind fun _ => paced_setGpioBit _ _

theorem paced_setFreq (freqHz : UInt32) :
    Preserves env (Paced base true) (Fc0012.setFreq freqHz) :=
  ((paced_prepareFreq freqHz).bind fun _ => paced_executeTuningSession freqHz).bind fun _ =>
    paced_modifyTuning _

theorem paced_applyGain (gainTenthDb : Int32) :
    Preserves env (Paced base true) (applyGain fc0012Contract gainTenthDb) := by
  have hmanual : Preserves env (Paced base true) (Fc0012.setGain gainTenthDb) := by
    grind [Fc0012.setGain]
  have hauto : Preserves env (Paced base true) Fc0012.setAutoGain := by
    grind [Fc0012.setAutoGain]
  unfold applyGain
  split
  · exact hauto
  · exact hmanual

end Fc0012

/-! ### The calls -/

inductive LiveCall where
  | setFrequency (freqHz : UInt32)
  | setSampleRate (rateHz : UInt32)
  | setGain (gainTenthDb : Int32)
  | setFreqCorrection (ppm : Int32)
  | setDigitalAgc (enable : Bool)
  | resetDemod
  | resetTuner
  | resetUsb
  | resetFull
deriving DecidableEq, Repr

def LiveCall.perform : LiveCall → DevM Unit
  | .setFrequency freqHz => (ConfigCall.setFrequency freqHz).perform
  | .setSampleRate rateHz => (ConfigCall.setSampleRate rateHz).perform
  | .setGain gainTenthDb => Sdr.setGain gainTenthDb
  | .setFreqCorrection ppm => Sdr.setFreqCorrection ppm
  | .setDigitalAgc enable => Sdr.setDigitalAgc enable
  | .resetDemod => Rtl.resetDemod
  | .resetTuner => Rtl.resetTuner
  | .resetUsb => Rtl.resetUsb
  | .resetFull => Rtl.resetFull

/-- The world after a call in an environment of its own, whatever it returned. -/
def liveStep (w : World) (call : Env × LiveCall) : Option World :=
  match call.2.perform call.1 w with
  | (.error .trap, _) => none
  | (_, w') => some w'

/-- The transfers that a call makes. -/
def LiveCall.made (call : LiveCall) (env : Env) (w : World) : Log :=
  let after := (call.perform env w).2.log
  after.take (after.length - w.log.length)

/-- A call that does not reset the tuner, and during which the kernel serves the endpoint. -/
def PausesBulk (w : World) (call : Env × LiveCall) : Prop :=
  call.2 ≠ .resetTuner ∧ call.2 ≠ .resetFull ∧ EndpointServed (call.2.made call.1 w)

instance (w : World) (call : Env × LiveCall) : Decidable (PausesBulk w call) :=
  inferInstanceAs (Decidable (_ ∧ _ ∧ ∀ entry ∈ call.2.made call.1 w, _ → _))

section Calls

variable {base : Log} {env : Env}

theorem paced_tune (freqHz : UInt32) : Preserves env (Paced base true) (tune freqHz) := by
  intro w hw
  rw [tune, Act.bind_of_ok (device_apply env w), if_pos hw.tuner]
  exact paced_setFreq freqHz w hw

/-- Operations between a pause and what resumes the endpoint. -/
theorem guarded_takes {dev : Device} (hneed : needBulkPause dev = true)
    {α β : Type} {ops : DevM α} {finish : Except SdrggError α → DevM β}
    (hops : Preserves env (Paced base true) ops)
    (hfinish : ∀ rc, Takes env (Paced base true) (Paced base false) (finish rc)) :
    Takes env (Paced base false) (Paced base false) (do
      pauseBulk dev
      let rc ← Act.attempt ops
      finish rc) := by
  have hpause : pauseBulk dev = Act.ignore stopBulk := if_pos hneed
  rw [hpause]
  exact stopBulk_takes.bind (fun _ _ _ _ hfail => absurd hfail Act.ignore_ne_error) fun _ =>
    hops.attempt.takes.bind (fun _ _ _ _ hfail => absurd hfail Act.attempt_ne_error) hfinish

/-- What resumes the endpoint after the outcome has been committed. -/
theorem resumed_takes {dev : Device} (hneed : needBulkPause dev = true)
    {β : Type} {commit : DevM Unit} {rest : DevM β}
    (hcommit : Preserves env (Paced base true) commit)
    (hquiet : ∀ w e w', commit env w ≠ (.error (.error e), w'))
    (hrest : Preserves env (Paced base false) rest) :
    Takes env (Paced base true) (Paced base false) (do
      commit
      resumeBulk dev
      rest) := by
  have hresume : resumeBulk dev = Act.ignore startBulk := if_pos hneed
  rw [hresume]
  refine hcommit.takes.bind (fun _ _ _ _ hfail => absurd hfail (hquiet _ _ _)) fun _ => ?_
  exact startBulk_takes.bind (fun _ _ _ _ hfail => absurd hfail Act.ignore_ne_error) fun _ =>
    hrest.takes

theorem needBulkPause_of_paced {w : World} {halted : Bool} (hw : Paced base halted w) :
    needBulkPause w.dev = true := by
  rw [needBulkPause, hw.active, hw.tuner]
  rfl

theorem paced_setFrequency (freqHz : UInt32) :
    Takes env (Paced base false) (Paced base false) (setFrequency freqHz) := by
  intro w x w' hw hrun hx
  obtain ⟨u, hu⟩ : ∃ u, modifyTuning (fun t => { t with requestedFreqHz := freqHz }) env w =
      (.ok (), u) := ⟨_, rfl⟩
  have hpaced := (paced_modifyTuning _).world hw hu
  have hneed := needBulkPause_of_paced hpaced
  rw [setFrequency, Act.bind_of_ok hu, Act.bind_of_ok (device_apply env u)] at hrun
  refine guarded_takes hneed (paced_tune freqHz) (fun rc => ?_) u x w' hpaced hrun hx
  refine resumed_takes hneed ?_ (fun w e w' hfail => ?_)
    ((Preserves.ofExcept rc).bind fun _ => Preserves.pure freqHz)
  · refine (paced_modifyTuning _).bind fun _ => ?_
    cases rc with
    | ok _ => exact paced_modifyTuning _
    | error e => exact Preserves.pure _
  · cases rc <;> cases hfail

theorem paced_setGain (gainTenthDb : Int32) :
    Takes env (Paced base false) (Paced base false) (setGain gainTenthDb) := by
  intro w x w' hw hrun hx
  have hneed := needBulkPause_of_paced hw
  have hcontract : activeContract TunerType.fc0012 = some fc0012Contract := rfl
  rw [setGain, Act.bind_of_ok (device_apply env w), hw.tuner, hcontract] at hrun
  refine guarded_takes hneed (paced_applyGain gainTenthDb) (fun rc => ?_) w x w' hw hrun hx
  refine resumed_takes hneed ?_ (fun w e w' hfail => ?_) (Preserves.ofExcept rc)
  · cases rc with
    | ok _ => exact paced_modifyTuning _
    | error e => exact Preserves.pure _
  · cases rc <;> cases hfail

/-- A sample rate sends an FC0012 nothing. -/
theorem paced_setSampleRate (rateHz : UInt32) :
    Preserves env (Paced base false) (setSampleRate rateHz) := by
  refine preserves_setSampleRate paced_modifyTuning fun _ q _ _ _ =>
    preserves_applyRate paced_modifyTuning (fun w hw hneeds => ?_) ?_
  · rw [needsBandwidth, hw.tuner] at hneeds
    cases hneeds
  · have hif (hz : UInt32) : Preserves env (Paced base false) (setIfFreq hz) := by
      grind [setIfFreq]
    have hratio : Preserves env (Paced base false) (programRatio q.ratio) := by
      grind [programRatio]
    have hnco : Preserves env (Paced base false) reprogramIf := by
      grind [reprogramIf]
    exact hratio.bind fun _ => hnco

theorem paced_resetDemod : Preserves env (Paced base false) resetDemod := by
  have hread (buf : UInt8) : Preserves env (Paced base false) (demodRead 0 0x0101 buf) :=
    (paced_controlRead fun h => absurd h (by decide)).bind fun _ => Preserves.pure _
  have hwrite (val : UInt8) : Preserves env (Paced base false) (demodWrite 0 0x0101 val) :=
    paced_submitDemodWrite _ _ _ _
  grind [resetDemod]

theorem paced_resetUsb : Preserves env (Paced base false) resetUsb := by
  have hioctl : Preserves env (Paced base false) (ioctl .reset) :=
    paced_ioctl ⟨rfl, fun h => (nomatch h)⟩
  grind [resetUsb]

/-- A call pauses the endpoint where it has to and leaves it running. -/
theorem paced_perform {call : LiveCall} (htuner : call ≠ .resetTuner) (hfull : call ≠ .resetFull) :
    Takes env (Paced base false) (Paced base false) call.perform := by
  cases call with
  | setFrequency freqHz =>
    exact (paced_setFrequency freqHz).bind
      (fun w e w' hw hfail => paced_setFrequency freqHz w _ w' hw hfail (by simp))
      fun _ => (Preserves.pure _).takes
  | setSampleRate rateHz =>
    exact ((paced_setSampleRate rateHz).bind fun _ => Preserves.pure _).takes
  | setGain gainTenthDb => exact paced_setGain gainTenthDb
  | setFreqCorrection ppm =>
    have hset : Preserves env (Paced base false) (Sdr.setFreqCorrection ppm) :=
      paced_modify (fun _ => rfl) fun _ => rfl
    exact hset.takes
  | setDigitalAgc enable => exact (paced_submitDemodWrite _ _ _ _).takes
  | resetDemod => exact paced_resetDemod.takes
  | resetTuner => exact absurd rfl htuner
  | resetUsb => exact paced_resetUsb.takes
  | resetFull => exact absurd rfl hfull

end Calls

/-- An FC0012 that streams and has been paused, since the log `base`, around its transfers on the I2C
bus. -/
structure Paused (base : Log) (w : World) : Prop where
  tuner : w.dev.identity.tunerClass = .fc0012
  active : w.dev.streamActive = true
  trace : ∃ seg, w.log = seg ++ base ∧ run pauseStep false seg.reverse = some false

/-- One call. -/
theorem Paused.step {base : Log} {w w' : World} {call : Env × LiveCall} (h : Paused base w)
    (hcall : PausesBulk w call) (hstep : liveStep w call = some w') : Paused base w' := by
  obtain ⟨env, call⟩ := call
  obtain ⟨htuner, hfull, hserved⟩ := hcall
  have hrun : ∃ x, call.perform env w = (x, w') ∧ x ≠ .error .trap := by
    unfold liveStep at hstep
    rcases hrun : call.perform env w with ⟨(e | _) | _, u⟩ <;>
      simp only [hrun, Option.some_inj, reduceCtorEq] at hstep <;>
      exact ⟨_, by rw [hstep], by simp⟩
  obtain ⟨x, hrun, hx⟩ := hrun
  have hpaced : Paced w.log false w' :=
    paced_perform htuner hfull w x w' ⟨h.tuner, h.active, [], rfl, fun _ => rfl⟩ hrun hx
  obtain ⟨seg, hseg, hquiet⟩ := hpaced.trace
  have hmade : call.made env w = seg := by
    rw [LiveCall.made, hrun]
    simp [hseg]
  obtain ⟨pre, hpre, hbefore⟩ := h.trace
  refine ⟨hpaced.tuner, hpaced.active, seg ++ pre, by rw [hseg, hpre, List.append_assoc], ?_⟩
  rw [List.reverse_append, run_append, hbefore]
  exact hquiet (hmade ▸ hserved)

/-- In every run of calls on an FC0012 that streams, none of which resets the tuner and during which
the kernel serves the endpoint, every transfer on the I2C bus is made while the endpoint is paused,
and every call leaves it running. -/
theorem paused_while_streaming {w0 w : World} {calls : List (Env × LiveCall)}
    (htuner : w0.dev.identity.tunerClass = .fc0012) (hactive : w0.dev.streamActive = true)
    (hcalls : Along liveStep PausesBulk w0 calls) (hrun : run liveStep w0 calls = some w) :
    ∃ seg, w.log = seg ++ w0.log ∧ run pauseStep false seg.reverse = some false :=
  (hcalls.invariant (fun _ _ _ hw hcall hstep => hw.step hcall hstep)
    ⟨htuner, hactive, [], rfl, rfl⟩ hrun : Paused w0.log w).trace

/-- An FC0012 that streams. -/
def streamingFc0012 : World :=
  { openedFc0012 with dev := { openedFc0012.dev with streamActive := true } }

theorem paused_while_streaming_tuned : ∃ w,
    run liveStep streamingFc0012 [(steadyEnv, .setFrequency 100000000), (steadyEnv, .setGain 192)] =
      some w ∧
    w.log ≠ [] ∧ ∃ seg, w.log = seg ++ [] ∧ run pauseStep false seg.reverse = some false := by
  have hrun : (run liveStep streamingFc0012
      [(steadyEnv, .setFrequency 100000000), (steadyEnv, .setGain 192)]).map
        (fun w => w.log.isEmpty) = some false := by
    decide +kernel
  obtain ⟨w, hw, hlog⟩ := Option.map_eq_some_iff.mp hrun
  refine ⟨w, hw, ?_, paused_while_streaming rfl rfl (by decide +kernel) hw⟩
  rintro hnil
  rw [hnil] at hlog
  cases hlog

/-- A kernel that fails every write of the endpoint's control register but one made at the very
start. -/
def jammedEnv : Env :=
  { steadyEnv with
    kernel := fun log t =>
      match t with
      | .write 0x2148 _ _ => if log.isEmpty then .done [] else .fail .other
      | _ => steadyEnv.kernel log t }

/-- A reset of the tuner reaches it while the endpoint runs, and a `set_frequency` whose resumption
fails reports success over a halted endpoint. -/
theorem reset_unpaused :
    (resetTuner steadyEnv streamingFc0012).1 = .ok () ∧
    run pauseStep false (resetTuner steadyEnv streamingFc0012).2.log.reverse = none ∧
    (setFrequency 100000000 jammedEnv streamingFc0012).1 = .ok 100000000 ∧
    run pauseStep false (setFrequency 100000000 jammedEnv streamingFc0012).2.log.reverse =
      some true := by
  refine ⟨?_, ?_, ?_, ?_⟩ <;> decide +kernel

end Sdrgg.Sdr
