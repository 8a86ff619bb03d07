import Sdrgg.Core.Config

/-! Configuration calls that succeed: what the transfers and the state of a device must be for a
call to return `SDRGG_OK`. -/

namespace Sdrgg.Sdr

open ProofKit Usb Rtl

/-! ### Sample rate -/

/-- The NCO has a word for every IF on a crystal of 28.8 MHz. -/
theorem ncoWord_crystal (ifFreqHz : UInt32) : ∃ word, ncoWord 28800000 ifFreqHz = some word := by
  have hlt := ifFreqHz.toNat_lt
  have hword : Int32.ofNat (ifFreqHz.toNat * 2 ^ 22 / 28800000) ≠ Int32.minValue := by
    intro heq
    have hint := congrArg Int32.toInt heq
    rw [Int32.toInt_ofNat_of_lt (by omega)] at hint
    have hmin : Int32.minValue.toInt = -2147483648 := by decide
    omega
  unfold ncoWord
  by_cases hzero : ifFreqHz = 0
  · exact ⟨0, if_pos hzero⟩
  · rw [if_neg hzero, if_neg (by decide)]
    exact ⟨_, if_neg hword⟩

section Succeeds

variable {env : Env}

theorem total_ratioWrite (h : env.Succeeds) {page reg : UInt8} {val : UInt16} {len : UInt8} :
    Total env (submitDemodWrite page reg val len) :=
  (total_controlWrite_of_done fun log => h log (.write _ _ _)).bind fun _ =>
    (total_controlRead h.accepts).ignore

theorem total_programRatio (h : env.Succeeds) {ratio : UInt32} :
    Total env (programRatio ratio) :=
  (total_ratioWrite h).bind fun _ => (total_ratioWrite h).bind fun _ =>
    (total_ratioWrite h).bind fun _ => total_ratioWrite h

theorem total_reprogramIf (h : env.Accepts) {w : World}
    (hosc : w.dev.baseband.oscillatorHz = 28800000) :
    ∃ w', reprogramIf env w = (.ok (), w') := by
  rw [reprogramIf, Act.bind_of_ok (device_apply env w)]
  split
  · obtain ⟨word, hword⟩ := ncoWord_crystal w.dev.tuning.ifOffsetHz
    exact total_setIfFreq h (hosc ▸ hword)
  · exact ⟨w, rfl⟩

theorem total_rateTail (h : env.Succeeds) {ratio : UInt32} {w : World}
    (hosc : w.dev.baseband.oscillatorHz = 28800000) :
    ∃ w', (do programRatio ratio; reprogramIf : DevM Unit) env w = (.ok (), w') := by
  obtain ⟨_, u, hu⟩ := @total_programRatio env h ratio w
  have hbaseband := congrArg Config.baseband ((keeps_programRatio ratio).world hu)
  obtain ⟨v, hv⟩ := total_reprogramIf h.accepts (w := u)
    ((congrArg BasebandState.oscillatorHz hbaseband).trans hosc)
  exact ⟨v, (Act.bind_of_ok hu).trans hv⟩

theorem total_applyRate (h : env.Succeeds) {q : Resampling} {w : World}
    (hosc : w.dev.baseband.oscillatorHz = 28800000) :
    ∃ w', applyRate q env w = (.ok (), w') := by
  obtain ⟨_, u, hu⟩ : ∃ x u, modifyTuning (fun t => { t with samplingRateHz := q.achievedHz }) env w
      = (.ok x, u) := ⟨_, _, rfl⟩
  have huosc : u.dev.baseband.oscillatorHz = 28800000 := by
    rw [← hosc]
    exact congrArg (fun c => c.baseband.oscillatorHz) (noteRate_ok hu).1
  rw [applyRate, Act.bind_of_ok hu, Act.bind_of_ok (device_apply env u)]
  split
  · obtain ⟨word, hword⟩ := ncoWord_crystal
      ((R820t.bandwidthSetting (q.achievedHz / 1000)).ifFreqKhz * 1000)
    obtain ⟨v, hv⟩ := R820t.total_setBandwidth h.accepts (huosc ▸ hword)
    have hvosc : v.dev.baseband.oscillatorHz = 28800000 := by
      rw [← huosc]
      exact congrArg (fun c => c.baseband.oscillatorHz) (R820t.setBandwidth_ok hv)
    obtain ⟨x, hx⟩ := @total_rateTail env h q.ratio v hvosc
    exact ⟨x, (Act.bind_of_ok hv).trans hx⟩
  · exact total_rateTail h huosc

/-- A rate is set when its resampler setting is defined. -/
theorem total_setSampleRate (h : env.Succeeds) {rateHz : UInt32} {w : World}
    (hosc : w.dev.baseband.oscillatorHz = 28800000) (haccept : rateAccepted rateHz = true)
    (hdefined : (resampling w.dev.baseband rateHz).isSome) :
    ∃ hz w', setSampleRate rateHz env w = (.ok hz, w') := by
  obtain ⟨q, hq⟩ := Option.isSome_iff_exists.mp hdefined
  obtain ⟨_, u, hu⟩ : ∃ x u, modifyTuning (fun t => { t with requestedRateHz := rateHz }) env w
      = (.ok x, u) := ⟨_, _, rfl⟩
  have hconfig := requestRate_ok hu
  rw [← resampling_request hconfig] at hq
  obtain ⟨v, hv⟩ := total_applyRate h (q := q) (w := u)
    ((congrArg (fun c => c.baseband.oscillatorHz) hconfig).trans hosc)
  rw [← setSampleRate_accepted haccept hq] at hv
  rw [setSampleRate, Act.bind_of_ok hu, Act.bind_of_ok (Act.attempt_of_ok hv)]
  exact ⟨_, _, rfl⟩

/-! ### Frequency -/

theorem total_pauseBulk (h : env.Accepts) {dev : Device} : Total env (pauseBulk dev) := by
  unfold pauseBulk
  split
  · exact (total_stopBulk h).ignore
  · exact .pure _

theorem total_resumeBulk (h : env.Accepts) {dev : Device} : Total env (resumeBulk dev) := by
  unfold resumeBulk
  split
  · exact (total_startBulk h).ignore
  · exact .pure _

/-- The steps after a tuning that succeeded. -/
theorem total_finishFreq (h : env.Accepts) {freqHz : UInt32} {dev : Device} {w : World} :
    ∃ w', finishFreq freqHz dev (.ok ()) env w = (.ok freqHz, w') := by
  obtain ⟨_, u, hu⟩ : ∃ x u, commitFreq freqHz (.ok ()) env w = (.ok x, u) := ⟨_, _, rfl⟩
  obtain ⟨_, v, hv⟩ := @total_resumeBulk env h dev u
  exact ⟨v, by rw [finishFreq, Act.bind_of_ok hu, Act.bind_of_ok hv]; rfl⟩

/-- `set_frequency` succeeds exactly when the tuning does, on the device that its request and the
pause leave. -/
theorem setFrequency_iff (h : env.Accepts) {freqHz : UInt32} {w : World} :
    ∃ v, v.config = { w.config with tuning := { w.dev.tuning with requestedFreqHz := freqHz } } ∧
      ((∃ hz w', setFrequency freqHz env w = (.ok hz, w')) ↔
        ∃ x, tune freqHz env v = (.ok (), x)) := by
  obtain ⟨_, u, hu⟩ : ∃ x u, modifyTuning (fun t => { t with requestedFreqHz := freqHz }) env w
      = (.ok x, u) := ⟨_, _, rfl⟩
  obtain ⟨_, v, hv⟩ := @total_pauseBulk env h u.dev u
  refine ⟨v, ((keeps_pauseBulk _).world hv).trans (requestFreq_ok hu), ?_⟩
  rw [setFrequency, Act.bind_of_ok hu, Act.bind_of_ok (device_apply env u), Act.bind_of_ok hv]
  constructor
  · rintro ⟨hz, w', hset⟩
    obtain ⟨rc, x, hx, hset⟩ := Act.bind_eq_ok.mp hset
    obtain ⟨rfl, -⟩ := finishFreq_ok hset
    obtain ⟨_, -, htune⟩ | ⟨_, hrc, -⟩ := Act.attempt_eq_ok.mp hx
    · exact ⟨x, htune⟩
    · cases hrc
  · rintro ⟨x, hx⟩
    obtain ⟨w', hw'⟩ := @total_finishFreq env h freqHz u.dev x
    exact ⟨freqHz, w', (Act.bind_of_ok (Act.attempt_of_ok hx)).trans hw'⟩

/-- A frequency is set on an R820T when its LO target has a candidate and the tuner reports lock. -/
theorem total_setFrequency (h : env.Accepts) (hlock : env.Locked) {freqHz : UInt32} {w : World}
    (hclass : w.dev.identity.tunerClass.isR820t = true)
    (hosc : w.dev.baseband.oscillatorHz = 28800000) (hppm : w.dev.baseband.freqOffsetPpm = 0)
    (hlo : 27657 ≤ (freqHz + w.dev.tuning.ifOffsetHz).toNat / 1000)
    (hhi : (freqHz + w.dev.tuning.ifOffsetHz).toNat / 1000 < 1770000) :
    ∃ hz w', setFrequency freqHz env w = (.ok hz, w') := by
  obtain ⟨v, hconfig, hiff⟩ := @setFrequency_iff env h freqHz w
  rw [hiff]
  have hidentity : v.dev.identity = w.dev.identity := congrArg Config.identity hconfig
  have hbaseband : v.dev.baseband = w.dev.baseband := congrArg Config.baseband hconfig
  have hif : v.dev.tuning.ifOffsetHz = w.dev.tuning.ifOffsetHz :=
    congrArg (fun c => c.tuning.ifOffsetHz) hconfig
  rw [tune, Act.bind_of_ok (device_apply env v), hidentity, if_neg, hif]
  · exact R820t.total_setFreq h hlock (hidentity ▸ hclass) (hbaseband ▸ hosc) (hbaseband ▸ hppm)
      hlo hhi
  · intro hfc
    rw [hfc] at hclass
    cases hclass

end Succeeds

/-! ### A device whose transfers succeed -/

/-- A kernel that carries out every transfer and reads bytes of ones, the lock bit among them. -/
def steadyEnv : Env :=
  { kernel := fun _ t =>
      match t with
      | .read _ _ len => .done (List.replicate len.toNat 0xFF)
      | _ => .done []
    stack := fun _ _ => 0 }

theorem steadyEnv_succeeds : steadyEnv.Succeeds := by
  intro log t
  cases t with
  | read value index len => exact ⟨_, rfl, List.length_replicate⟩
  | write value index data => exact ⟨_, rfl⟩
  | reset => exact ⟨_, rfl⟩
  | claimInterface interface => exact ⟨_, rfl⟩

theorem steadyEnv_locked : steadyEnv.Locked := by
  intro log value len data hread byte hbyte
  obtain rfl : List.replicate len.toNat 0xFF = data := Response.done.inj hread
  obtain rfl := List.eq_of_mem_replicate (List.mem_of_getElem? hbyte)
  decide

/-- A device before its bring-up has made a transfer. -/
def blankWorld : World := ⟨blankDevice, [], none, 0⟩

/-- A device of a family as the bring-up leaves it, before any transfer is looked at. -/
def openedWorld (identity : DeviceIdentity) (ifHz : UInt32) : World :=
  { dev :=
      { blankDevice with
        identity
        shadow := ⟨R820t.composePowerupImage⟩
        tuning := { blankDevice.tuning with ifOffsetHz := ifHz } }
    log := []
    loRequested := none
    hotplugEvents := 0 }

def openedR820t : World := openedWorld ⟨.r820t, 0x34⟩ 3570000

def openedFc0012 : World := openedWorld ⟨.fc0012, 0xC6⟩ 0

theorem openedR820t_opened : OpenedR820t openedR820t := ⟨rfl, rfl, rfl, rfl⟩

theorem openedFc0012_opened : OpenedFc0012 openedFc0012 := ⟨rfl, rfl, rfl, rfl⟩

end Sdrgg.Sdr
