import Sdrgg.Core.Gate
import Sdrgg.Core.Recovery

/-! The calls on an open device, and what they leave of its configuration. -/

namespace Sdrgg.Sdr

open ProofKit Usb Rtl

/-- The calls on a device, and the transfers by which the reader thread of an R820T starts and stops
its endpoint. -/
inductive DeviceCall where
  | setFrequency (freqHz : UInt32)
  | setSampleRate (rateHz : UInt32)
  | setGain (gainTenthDb : Int32)
  | setFreqCorrection (ppm : Int32)
  | setDigitalAgc (enable : Bool)
  | startStream (outcome : StreamStart)
  | stopStream
  | startBulk
  | stopBulk
  | resetDemod
  | resetTuner
deriving DecidableEq, Repr

def DeviceCall.perform : DeviceCall → DevM Unit
  | .setFrequency freqHz => (ConfigCall.setFrequency freqHz).perform
  | .setSampleRate rateHz => (ConfigCall.setSampleRate rateHz).perform
  | .setGain gainTenthDb => Sdr.setGain gainTenthDb
  | .setFreqCorrection ppm => Sdr.setFreqCorrection ppm
  | .setDigitalAgc enable => Sdr.setDigitalAgc enable
  | .startStream outcome => Sdr.startStream outcome
  | .stopStream => Sdr.stopStream
  | .startBulk => Rtl.startBulk
  | .stopBulk => Rtl.stopBulk
  | .resetDemod => Rtl.resetDemod
  | .resetTuner => Rtl.resetTuner

/-- A call, whatever it returns, on a state that `note`s the world it leaves and whether it succeeded. -/
def callStep {σ : Type} (world : σ → World) (note : σ → World → Bool → DeviceCall → σ) (env : Env)
    (s : σ) (call : DeviceCall) : Option σ :=
  match call.perform env (world s) with
  | (.error .trap, _) => none
  | (x, w) => some (note s w x.toBool call)

theorem callStep_eq_some {σ : Type} {world : σ → World} {note : σ → World → Bool → DeviceCall → σ}
    {env : Env} {s t : σ} {call : DeviceCall} (h : callStep world note env s call = some t) :
    ∃ x w, call.perform env (world s) = (x, w) ∧ x ≠ .error .trap ∧ t = note s w x.toBool call := by
  unfold callStep at h
  rcases hrun : call.perform env (world s) with ⟨(e | _) | _, u⟩ <;> rw [hrun] at h
  · exact ⟨_, u, rfl, nofun, (Option.some_inj.mp h).symm⟩
  · cases h
  · exact ⟨_, u, rfl, nofun, (Option.some_inj.mp h).symm⟩

/-! ### What a call leaves of the configuration -/

/-- A part of the configuration that a call does not change. -/
def DeviceCall.OffConfig {κ : Type} (f : Config → κ) : DeviceCall → Prop
  | .setFrequency _ => OffTuning f
  | .setSampleRate rateHz =>
    (∀ c hz rc, f (noteRate c hz rc) = f c) ∧
      (rateAccepted rateHz = true → ∀ c hz, f (c.withRate hz) = f c ∧ f (c.withIf hz) = f c)
  | .setGain _ => ∀ c gain, f { c with tuning := { c.tuning with gainPolicy := gain } } = f c
  | .setFreqCorrection _ => ∀ c ppm,
    f { c with baseband := { c.baseband with freqOffsetPpm := ppm } } = f c
  | .startStream _ | .stopStream => ∀ c active, f { c with streamActive := active } = f c
  | _ => True

section Config

variable {κ : Type} {f : Config → κ} {env : Env} {w w' : World}

/-- A start of a stream changes nothing of the configuration but whether one is active. -/
theorem keeps_startStream (hf : ∀ c active, f { c with streamActive := active } = f c)
    (outcome : StreamStart) : Keeps (fun w => f w.config) (startStream outcome) :=
  Keeps.of_preserves fun _ k => preserves_startStream ((keeps_startBulk.comp f).value k)
    (Keeps.value (fun _ w => hf w.config true) k) outcome

theorem setSampleRate_off {rateHz : UInt32} (hf : (DeviceCall.setSampleRate rateHz).OffConfig f)
    {x : Except (Fault SdrggError) UInt32} (h : setSampleRate rateHz env w = (x, w'))
    (hx : x ≠ .error .trap) : f w'.config = f w.config := by
  obtain ⟨hnote, hrate⟩ := hf
  have hrated (haccepted : rateAccepted rateHz = true) (q : Resampling) :
      f (rated w.config q) = f w.config := by
    unfold rated
    split
    · rw [(hrate haccepted _ _).2, (hrate haccepted _ _).1]
    · exact (hrate haccepted _ _).1
  rcases x with (e | _) | hz
  · obtain ⟨-, h⟩ | ⟨haccepted, q, -, h | ⟨h, -⟩⟩ := setSampleRate_error h
    · rw [h, hnote]
    · rw [h, hnote, (hrate haccepted _ _).1]
    · rw [h, hnote, hrated haccepted]
  · exact absurd rfl hx
  · obtain ⟨haccepted, q, -, h⟩ := setSampleRate_ok h
    rw [h, hnote, hrated haccepted]

/-- A call leaves the parts of the configuration that are not its own. -/
theorem perform_config {call : DeviceCall} (hf : call.OffConfig f)
    {x : Except (Fault SdrggError) Unit} (h : call.perform env w = (x, w'))
    (hx : x ≠ .error .trap) : f w'.config = f w.config := by
  have hkept (heq : w'.config = w.config) : f w'.config = f w.config := congrArg f heq
  cases call with
  | setFrequency freqHz =>
    obtain ⟨y, hset, -⟩ := Act.discard_eq h
    exact (OffTuning.keeps_setFrequency hf freqHz).world hset
  | setSampleRate rateHz =>
    obtain ⟨y, hset, hfault⟩ := Act.discard_eq h
    exact setSampleRate_off hf hset fun htrap => hx (hfault _ htrap)
  | setGain gainTenthDb =>
    rcases x with (e | _) | _
    · exact hkept (setGain_error h)
    · exact absurd rfl hx
    · rw [setGain_ok h]
      exact hf w.config gainTenthDb
  | setFreqCorrection ppm =>
    cases h
    exact hf w.config ppm
  | stopStream =>
    cases h
    exact hf w.config false
  | setDigitalAgc enable => exact hkept ((keeps_demodWrite 0 0x0019 _).world h)
  | startStream outcome => exact (keeps_startStream hf outcome).world h
  | startBulk => exact hkept (keeps_startBulk.world h)
  | stopBulk => exact hkept (keeps_stopBulk.world h)
  | resetDemod => exact hkept (keeps_resetDemod.world h)
  | resetTuner => exact hkept (keeps_resetTuner.world h)

end Config

section Parts

variable (call : DeviceCall)

theorem offConfig_identity : call.OffConfig fun c => c.identity := by
  cases call with
  | setFrequency freqHz => exact ⟨fun _ _ => rfl, fun _ _ => rfl, fun _ _ => rfl, fun _ _ => rfl⟩
  | setSampleRate rateHz => exact ⟨fun _ _ _ => rfl, fun _ _ _ => ⟨rfl, rfl⟩⟩
  | _ => first | exact True.intro | exact fun _ _ => rfl

theorem offConfig_oscillator : call.OffConfig fun c => c.baseband.oscillatorHz := by
  cases call with
  | setFrequency freqHz => exact ⟨fun _ _ => rfl, fun _ _ => rfl, fun _ _ => rfl, fun _ _ => rfl⟩
  | setSampleRate rateHz => exact ⟨fun _ _ _ => rfl, fun _ _ _ => ⟨rfl, rfl⟩⟩
  | _ => first | exact True.intro | exact fun _ _ => rfl

theorem offConfig_center (h : ∀ hz, call ≠ .setFrequency hz) :
    call.OffConfig fun c => c.tuning.centerFreqHz := by
  cases call with
  | setFrequency freqHz => exact absurd rfl (h freqHz)
  | setSampleRate rateHz => exact ⟨fun _ _ _ => rfl, fun _ _ _ => ⟨rfl, rfl⟩⟩
  | _ => first | exact True.intro | exact fun _ _ => rfl

theorem offConfig_gain (h : ∀ gain, call ≠ .setGain gain) :
    call.OffConfig fun c => c.tuning.gainPolicy := by
  cases call with
  | setFrequency freqHz => exact ⟨fun _ _ => rfl, fun _ _ => rfl, fun _ _ => rfl, fun _ _ => rfl⟩
  | setSampleRate rateHz => exact ⟨fun _ _ _ => rfl, fun _ _ _ => ⟨rfl, rfl⟩⟩
  | setGain gainTenthDb => exact absurd rfl (h gainTenthDb)
  | _ => first | exact True.intro | exact fun _ _ => rfl

/-- The IF and the rate, which a rate that is not accepted leaves as they are. -/
theorem offConfig_rate (h : ∀ rateHz, call = .setSampleRate rateHz → rateAccepted rateHz = false) :
    call.OffConfig fun c => (c.tuning.ifOffsetHz, c.tuning.samplingRateHz) := by
  cases call with
  | setFrequency freqHz => exact ⟨fun _ _ => rfl, fun _ _ => rfl, fun _ _ => rfl, fun _ _ => rfl⟩
  | setSampleRate rateHz =>
    refine ⟨fun _ _ _ => rfl, fun haccepted => ?_⟩
    rw [h rateHz rfl] at haccepted
    cases haccepted
  | _ => first | exact True.intro | exact fun _ _ => rfl

end Parts

end Sdrgg.Sdr
