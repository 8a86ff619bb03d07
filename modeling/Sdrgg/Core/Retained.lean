import Sdrgg.Core.Programmed

/-! The settings of an R820T over runs of calls, of which any transfers may fail: whatever becomes of
an operation, it has made masked writes within the bits that it owns, through the shadow file. -/

namespace Sdrgg.R820t

open ProofKit Usb Rtl

/-! ### Operations within their bits -/

/-- Whatever becomes of the operation on an R820T, it has made writes within `owned`. -/
def Writes {α : Type} (owned : Fin 27 → UInt8) (m : DevM α) : Prop :=
  ∀ c env w, w.dev.identity.tunerClass.isR820t = true →
    ∃ ws, Within owned ws ∧ Wrote ws (tunerView c w) (tunerView c (m env w).2)

section Rules

variable {α β : Type} {owned : Fin 27 → UInt8} {m : DevM α} {k : α → DevM β}

theorem writes_of_keeps (h : ∀ c, Keeps (tunerView c) m) : Writes owned m := by
  intro c env w _
  refine ⟨[], nofun, ?_⟩
  rw [h c env w]
  exact .refl _

theorem Writes.pure (a : α) : Writes owned (pure a : DevM α) := writes_of_keeps fun _ => Keeps.pure a

theorem Writes.fail (e : SdrggError) : Writes owned (Act.fail e : DevM α) :=
  writes_of_keeps fun _ => Keeps.fail e

theorem Writes.ofOption (o : Option α) : Writes owned (Act.ofOption o : DevM α) := by
  cases o <;> exact writes_of_keeps fun _ _ _ => rfl

theorem Writes.bind (hm : Writes owned m) (hk : ∀ a, Writes owned (k a)) :
    Writes owned (m >>= k) := by
  intro c env w hw
  obtain ⟨ws, hwithin, hwrote⟩ := hm c env w hw
  rw [Act.bind_apply]
  rcases hrun : m env w with ⟨e | a, u⟩ <;> rw [hrun] at hwrote
  · exact ⟨ws, hwithin, hwrote⟩
  · obtain ⟨vs, hrest, hwrote'⟩ := hk a c env u (hwrote.isR820t hw)
    exact ⟨ws ++ vs, hwithin.append hrest, hwrote.trans hwrote'⟩

theorem Writes.mono {owned' : Fin 27 → UInt8} (hm : Writes owned m)
    (h : ∀ i, owned i &&& ~~~owned' i = 0) : Writes owned' m := by
  intro c env w hw
  obtain ⟨ws, hwithin, hwrote⟩ := hm c env w hw
  refine ⟨ws, fun v hv => and_eq_zero_iff.mpr fun k hk => ?_, hwrote⟩
  have hin := and_eq_zero_iff.mp (hwithin v hv) k hk
  have howned : bit (owned v.place) k = true := by
    simpa [bit, bit_lt hk] using hin
  exact and_eq_zero_iff.mp (h v.place) k howned

/-- A masked write of a mirrored register. -/
theorem writes_tunerRmw {i : Fin 27} {val mask : UInt8} (h : mask &&& ~~~owned i = 0) :
    Writes owned (tunerRmw (shadowLayout.key i) val mask) := by
  intro c env w hw
  rcases hrun : tunerRmw (shadowLayout.key i) val mask env w with ⟨e | _, u⟩
  · refine ⟨[], nofun, ?_⟩
    rw [tunerRmw_error hrun]
    exact .refl _
  · exact ⟨_, List.forall_mem_singleton.mpr h, tunerRmw_wrote hw hrun⟩

theorem writes_tunerWriteReg {i : Fin 27} {val : UInt8} (h : 0xFF &&& ~~~owned i = 0) :
    Writes owned (tunerWriteReg (shadowLayout.key i) val) := by
  intro c env w hw
  rcases hrun : tunerWriteReg (shadowLayout.key i) val env w with ⟨e | _, u⟩
  · refine ⟨[], nofun, ?_⟩
    rw [tunerWriteReg_error hrun]
    exact .refl _
  · exact ⟨_, List.forall_mem_singleton.mpr h, tunerWriteReg_wrote hw hrun⟩

/-- A sequence of intents that is cut short has made the writes before. -/
theorem writes_lowerIntents {seq : List RegIntent} (hseq : Mirrored seq)
    (h : Within owned (seqWrites seq)) : Writes owned (lowerIntents seq) := by
  induction seq with
  | nil => exact Writes.pure _
  | cons intent seq ih =>
    obtain ⟨⟨haction, hsome⟩, hrest⟩ := List.forall_mem_cons.mp hseq
    obtain ⟨i, hi⟩ := Option.isSome_iff_exists.mp hsome
    have hcons : seqWrites (intent :: seq) = intent.write i :: seqWrites seq := by
      simp [seqWrites, hi]
    rw [hcons] at h
    obtain ⟨hfirst, htail⟩ := List.forall_mem_cons.mp h
    refine Writes.bind ?_ fun _ => ih hrest htail
    have hkey : intent.target = shadowLayout.key i := shadowIndex_eq_some.mp hi
    rw [lowerIntent, if_neg haction, hkey]
    unfold RegIntent.write at hfirst
    split
    · rename_i hfull
      rw [if_pos hfull] at hfirst
      exact writes_tunerWriteReg hfirst
    · rename_i hfield
      rw [if_neg hfield] at hfirst
      exact writes_tunerRmw hfirst

end Rules

/-! ### The operations -/

theorem writes_setLnaGain (index : Int32) : Writes SettingKind.lnaGain.owned (setLnaGain index) := by
  unfold setLnaGain
  split
  · exact writes_tunerRmw (i := 0) (by decide)
  · exact writes_tunerRmw (i := 0) (by decide)

theorem writes_setMixerGain (index : Int32) :
    Writes SettingKind.mixerGain.owned (setMixerGain index) := by
  unfold setMixerGain
  split
  · exact writes_tunerRmw (i := 2) (by decide)
  · exact writes_tunerRmw (i := 2) (by decide)

theorem writes_setVgaGain (index : Int32) : Writes SettingKind.vgaGain.owned (setVgaGain index) :=
  writes_tunerRmw (i := 7) (by decide)

theorem writes_setBandwidth (bwKhz : UInt32) :
    Writes SettingKind.bandwidth.owned (setBandwidth bwKhz) := by
  refine Writes.bind (writes_lowerIntents ?_ ?_) fun _ =>
    writes_of_keeps fun _ => keepsTuner_setIfFreq _
  · simp [Mirrored, iseq, iseqPush, pushField]
    decide
  · have hwrites : seqWrites (iseq [pushField 0x0A (bandwidthSetting bwKhz).reg0a 0x10,
        pushField 0x0B (bandwidthSetting bwKhz).reg0b 0xEF]) = bandwidthWrites bwKhz := by
      simp [seqWrites, iseq, iseqPush, pushField, RegIntent.write, shadowIndex, bandwidthWrites]
    rw [hwrites]
    simp [Within, bandwidthWrites]
    decide

theorem writes_path (enc : PathEncoding) :
    Writes SettingKind.freq.owned (lowerIntents (composePathIntents enc)) := by
  refine writes_lowerIntents (mirrored_path enc) ?_
  rw [seqWrites_path]
  simp [Within]
  decide

theorem writes_synth (enc : PllEncoding) :
    Writes SettingKind.freq.owned (lowerIntents (composeSynthIntents enc)) := by
  refine writes_lowerIntents (mirrored_synth enc) ?_
  rw [seqWrites_synth]
  simp [Within]
  decide

theorem writes_analog : Writes SettingKind.freq.owned
    (lowerIntents (composeAnalogIntents sdrReceptionProfile)) := by
  refine writes_lowerIntents (mirrored_analog _) ?_
  unfold Within
  decide +kernel

theorem writes_acquireLock : Writes SettingKind.freq.owned acquireLock := by
  have hprobe : Writes SettingKind.freq.owned probeLockStatus :=
    writes_of_keeps fun _ => keepsTuner_probeLockStatus
  have hlocked : Writes SettingKind.freq.owned (tunerRmw 0x1A 0x08 0x08) :=
    writes_tunerRmw (i := 21) (by decide)
  refine hprobe.bind fun locked => ?_
  split
  · refine (writes_tunerRmw (i := 13) (by decide)).bind fun _ => hprobe.bind fun locked => ?_
    split
    · exact (Writes.fail _).bind fun _ => hlocked
    · exact hlocked
  · exact hlocked

theorem writes_setFreq (freqHz ifFreqHz : UInt32) :
    Writes SettingKind.freq.owned (setFreq freqHz ifFreqHz) := by
  have hpll (loHz : UInt32) : Writes SettingKind.freq.owned (programPll loHz) := by
    refine (writes_of_keeps fun _ => keepsTuner_device).bind fun dev =>
      (Writes.ofOption _).bind fun candidates => ?_
    split
    · exact Writes.fail _
    · exact (Writes.ofOption _).bind fun enc => (writes_synth enc).bind fun _ => writes_acquireLock
  have hset (loHz : UInt32) : Writes SettingKind.freq.owned (setPll loHz) :=
    Writes.bind (writes_of_keeps fun _ _ _ => rfl) fun _ => hpll loHz
  exact (writes_path _).bind fun _ => (hset _).bind fun _ => writes_analog

/-- The bits of the three gain stages. -/
def gainOwned (i : Fin 27) : UInt8 :=
  SettingKind.lnaGain.owned i ||| SettingKind.mixerGain.owned i ||| SettingKind.vgaGain.owned i

/-- The bits of all settings. -/
def settable (i : Fin 27) : UInt8 :=
  SettingKind.freq.owned i ||| gainOwned i ||| SettingKind.bandwidth.owned i

theorem writes_stages (lna mixer vga : Int32) : Writes gainOwned (do
    setLnaGain lna
    setMixerGain mixer
    setVgaGain vga) :=
  ((writes_setLnaGain lna).mono (by decide +kernel)).bind fun _ =>
    ((writes_setMixerGain mixer).mono (by decide +kernel)).bind fun _ =>
      (writes_setVgaGain vga).mono (by decide +kernel)

/-! ### What writes within their bits keep -/

theorem pll_unowned (enc : PllEncoding) {w : FieldWrite (Fin 27)} (hw : w ∈ pllWrites enc) :
    w.mask &&& gainOwned w.place = 0 ∧ w.mask &&& SettingKind.bandwidth.owned w.place = 0 := by
  simp only [pllWrites, List.mem_cons, List.not_mem_nil, or_false] at hw
  obtain rfl | rfl | rfl | rfl | rfl := hw <;> dsimp only <;> decide +kernel

theorem gain_unowned (x : GainIndices) {w : FieldWrite (Fin 27)} (hw : w ∈ x.writes) :
    w.mask &&& SettingKind.freq.owned w.place = 0 ∧
      w.mask &&& SettingKind.bandwidth.owned w.place = 0 := by
  simp only [GainIndices.writes, lnaWrites, mixerWrites, vgaWrites, List.mem_append] at hw
  obtain (hw | hw) | hw := hw
  · split at hw <;> obtain rfl := List.mem_singleton.mp hw <;> dsimp only <;> decide +kernel
  · split at hw <;> obtain rfl := List.mem_singleton.mp hw <;> dsimp only <;> decide +kernel
  · obtain rfl := List.mem_singleton.mp hw
    dsimp only
    decide +kernel

/-- A property of the shadow file that writes within some bits keep. -/
def Stable (owned : Fin 27 → UInt8) (Q : (Fin 27 → UInt8) → Prop) : Prop :=
  ∀ ws file, Within owned ws → Q file → Q (applyAll ws file)

theorem stable_pll (enc : PllEncoding) : Stable gainOwned (ReadsBack (pllWrites enc)) ∧
    Stable SettingKind.bandwidth.owned (ReadsBack (pllWrites enc)) :=
  ⟨fun _ _ hws hback => hback.of_within hws fun _ hw => (pll_unowned enc hw).1,
    fun _ _ hws hback => hback.of_within hws fun _ hw => (pll_unowned enc hw).2⟩

theorem stable_gain (x : GainIndices) : Stable SettingKind.freq.owned (ReadsBack x.writes) ∧
    Stable SettingKind.bandwidth.owned (ReadsBack x.writes) :=
  ⟨fun _ _ hws hback => hback.of_within hws fun _ hw => (gain_unowned x hw).1,
    fun _ _ hws hback => hback.of_within hws fun _ hw => (gain_unowned x hw).2⟩

theorem stable_nothing (Q : (Fin 27 → UInt8) → Prop) : Stable (fun _ => 0) Q := by
  intro ws file hws hQ
  have hfile : applyAll ws file = file := by
    funext i
    have hfull (b : UInt8) : b &&& 0xFF = b := UInt8.and_neg_one
    have hframe : applyAll ws file i &&& 0xFF = file i &&& 0xFF := hws.frame UInt8.and_zero file
    rwa [hfull, hfull] at hframe
  rw [hfile]
  exact hQ

/-- The file holds the power-up image outside the settings. -/
def Based (file : Fin 27 → UInt8) : Prop :=
  ∀ i, file i &&& ~~~settable i = composePowerupImage i &&& ~~~settable i

theorem stable_based : Stable SettingKind.freq.owned Based ∧ Stable gainOwned Based ∧
    Stable SettingKind.bandwidth.owned Based := by
  have hall : ∀ i, ~~~settable i &&& SettingKind.freq.owned i = 0 ∧
      ~~~settable i &&& gainOwned i = 0 ∧
      ~~~settable i &&& SettingKind.bandwidth.owned i = 0 := by
    decide +kernel
  have hstable {owned : Fin 27 → UInt8} (h : ∀ i, ~~~settable i &&& owned i = 0) :
      Stable owned Based := by
    intro ws file hws hbased i
    rw [hws.frame (h i)]
    exact hbased i
  exact ⟨hstable fun i => (hall i).1, hstable fun i => (hall i).2.1, hstable fun i => (hall i).2.2⟩

end Sdrgg.R820t

namespace Sdrgg.Sdr

open ProofKit Usb Rtl R820t

/-- The device has an R820T, its shadow file is in step with the chip and has a property. -/
def OnR820t (c : Chip) (Q : (Fin 27 → UInt8) → Prop) (w : World) : Prop :=
  w.dev.identity = ⟨.r820t, 0x34⟩ ∧ InStep c w ∧ Q w.dev.shadow.r820tFile

/-! ### The calls -/

section Calls

variable {c : Chip} {env : Env} {Q : (Fin 27 → UInt8) → Prop}

theorem onR820t_of_writes {α : Type} {owned : Fin 27 → UInt8} {m : DevM α} (hm : Writes owned m)
    (hQ : Stable owned Q) : Preserves env (OnR820t c Q) m := by
  intro w hw
  obtain ⟨hidentity, hstep, hfile⟩ := hw
  obtain ⟨ws, hwithin, hwrote⟩ := hm c env w hstep.isR820t
  refine ⟨hwrote.identity.trans hidentity, hwrote.shadowed hstep, ?_⟩
  have hshadow : (m env w).2.dev.shadow.r820tFile = applyAll ws w.dev.shadow.r820tFile :=
    hwrote.shadow
  rw [hshadow]
  exact hQ ws _ hwithin hfile

theorem onR820t_of_keeps {α : Type} {m : DevM α} (hm : Keeps (tunerView c) m) :
    Preserves env (OnR820t c Q) m := by
  refine hm.preserves fun w w' heq hw => ?_
  have hidentity : w'.dev.identity = w.dev.identity := congrArg TunerView.identity heq
  have hshadow : w'.dev.shadow = w.dev.shadow := congrArg TunerView.shadow heq
  rw [OnR820t, hidentity, hshadow, InStep, heq]
  exact hw

theorem onR820t_around : Around env (OnR820t c Q) where
  note _ _ hw := hw
  stop := onR820t_of_keeps keepsTuner_stopBulk
  start := onR820t_of_keeps keepsTuner_startBulk

theorem onR820t_setFrequency (hQ : Stable SettingKind.freq.owned Q) (freqHz : UInt32) :
    Preserves env (OnR820t c Q) (setFrequency freqHz) := by
  refine onR820t_around.preserves_setFrequency fun w hw => ?_
  rw [tune, Act.bind_of_ok (device_apply env w), hw.1, if_neg (by decide)]
  exact onR820t_of_writes (writes_setFreq _ _) hQ w hw

theorem onR820t_setGain (hQ : Stable gainOwned Q) (gainTenthDb : Int32) :
    Preserves env (OnR820t c Q) (setGain gainTenthDb) := by
  have happly : Writes gainOwned (applyGain r820tContract gainTenthDb) := by
    unfold applyGain
    split
    · exact writes_stages _ _ _
    · change Writes gainOwned (r820tApplyGain gainTenthDb)
      unfold r820tApplyGain
      split
      · exact Writes.fail _
      · exact writes_stages _ _ _
  refine onR820t_around.preserves_setGain fun w contract hw hcontract => ?_
  rw [hw.1] at hcontract
  obtain rfl : r820tContract = contract := Option.some_inj.mp hcontract
  exact onR820t_of_writes happly hQ

theorem onR820t_setSampleRate (hQ : Stable SettingKind.bandwidth.owned Q) (rateHz : UInt32) :
    Preserves env (OnR820t c Q) (setSampleRate rateHz) :=
  preserves_setSampleRate onR820t_around.note fun _ q _ _ _ => preserves_applyRate onR820t_around.note
    (fun _ _ _ => onR820t_of_writes (writes_setBandwidth _) hQ)
    (onR820t_of_keeps (keepsTuner_rateTail q.ratio))

/-- A reset of the tuner writes the shadow file back. -/
theorem onR820t_resetTuner : Preserves env (OnR820t c Q) resetTuner := by
  have hflush (i : Fin 27) : Preserves env (OnR820t c Q) (flushRegister i) := by
    intro w hw
    obtain ⟨hidentity, hstep, hfile⟩ := hw
    have hnext : InStep c (flushRegister i env w).2 := inStep_flushRegister i w hstep
    rw [flushRegister, Act.bind_of_ok (device_apply env w)] at hnext ⊢
    rcases hrun : tunerWriteReg (0x05 + UInt8.ofNat i) (w.dev.shadow.r820tFile i) env w with
      ⟨e | _, u⟩ <;> rw [hrun] at hnext
    · have hview := tunerWriteReg_error (c := c) hrun
      have hshadow : u.dev.shadow = w.dev.shadow := congrArg TunerView.shadow hview
      refine ⟨(congrArg TunerView.identity hview).trans hidentity, hnext, ?_⟩
      change Q u.dev.shadow.r820tFile
      rw [hshadow]
      exact hfile
    · have hview := tunerWriteReg_ok (c := c) hstep.isR820t hrun
      have hshadow : u.dev.shadow.r820tFile = w.dev.shadow.r820tFile :=
        (congrArg (fun t => t.shadow.r820tFile) hview).trans
          (shadowLayout.writeThrough_self w.dev.shadow.r820tFile i)
      refine ⟨(congrArg TunerView.identity hview).trans hidentity, hnext, ?_⟩
      change Q u.dev.shadow.r820tFile
      rw [hshadow]
      exact hfile
  have hrepeater (enable : Bool) : Preserves env (OnR820t c Q) (enableI2cRepeater enable) :=
    onR820t_of_keeps (keepsTuner_enableI2cRepeater enable)
  intro w hw
  rw [resetTuner, Act.bind_of_ok (device_apply env w), hw.1, if_neg (by decide)]
  exact ((hrepeater true).bind fun _ =>
    (Preserves.forM _ fun i _ => hflush i).closing (hrepeater false)) w hw

/-- The cold start. -/
theorem onR820t_init {w w' : World} (hidentity : w.dev.identity = ⟨.r820t, 0x34⟩)
    (h : R820t.init env w = (.ok (), w')) : OnR820t c Based w' := by
  have hclass : (imaged w).dev.identity.tunerClass.isR820t = true := by
    rw [show (imaged w).dev.identity = _ from hidentity]
    rfl
  obtain ⟨_, u, hu, h⟩ := Act.bind_eq_ok.mp h
  cases hu
  obtain ⟨_, v, hv, h⟩ := Act.bind_eq_ok.mp h
  have hview := flush_ok (c := c) (w := imaged w) hclass hv
  have hv' : OnR820t c Based v := by
    refine ⟨(congrArg TunerView.identity hview).trans hidentity, inStep_of_flush hclass hv, ?_⟩
    have hshadow : v.dev.shadow = ⟨composePowerupImage⟩ := congrArg TunerView.shadow hview
    rw [hshadow]
    exact fun _ => rfl
  exact (onR820t_of_writes (writes_stages (-1) (-1) 11) stable_based.2.1).world hv' h

end Calls

/-- The bits of an R820T that a call writes. -/
def DeviceCall.owned : DeviceCall → Fin 27 → UInt8
  | .setFrequency _ => SettingKind.freq.owned
  | .setSampleRate _ => SettingKind.bandwidth.owned
  | .setGain _ => gainOwned
  | _ => fun _ => 0

/-! ### Runs -/

/-- A frequency with the crystal and the IF for which it has been set. -/
structure TunedTo where
  baseband : BasebandState
  freqHz : UInt32
  ifHz : UInt32

/-- A device with the frequency and the gain of the last calls for them, unless these have failed. -/
structure Retained where
  world : World
  tuned : Option TunedTo
  gainTenthDb : Option Int32

/-- After a call that leaves `w`. -/
def Retained.note (s : Retained) (w : World) (done : Bool) : DeviceCall → Retained
  | .setFrequency freqHz =>
    { s with
      world := w
      tuned :=
        if done then some ⟨s.world.dev.baseband, freqHz, s.world.dev.tuning.ifOffsetHz⟩ else none }
  | .setGain gainTenthDb =>
    { s with world := w, gainTenthDb := if done then some gainTenthDb else none }
  | _ => { s with world := w }

def Retained.step (env : Env) : Retained → DeviceCall → Option Retained :=
  callStep Retained.world Retained.note env

/-- The tuner holds what has been set. -/
structure Retained.Holds (c : Chip) (s : Retained) : Prop where
  identity : s.world.dev.identity = ⟨.r820t, 0x34⟩
  inStep : InStep c s.world
  based : ∀ i, tunerReg c s.world (shadowLayout.key i) &&& ~~~settable i =
    composePowerupImage i &&& ~~~settable i
  tuned : ∀ t, s.tuned = some t →
    R820t.Encodes t.baseband (t.freqHz + t.ifHz) (tunerReg c s.world) ∧
      s.world.dev.tuning.centerFreqHz = t.freqHz
  gain : ∀ gainTenthDb, s.gainTenthDb = some gainTenthDb →
    EncodesGain gainTenthDb (tunerReg c s.world) ∧
      s.world.dev.tuning.gainPolicy = gainTenthDb

section Runs

variable {c : Chip} {env : Env} {w w' : World}

/-- The registers that the shadow file stands for. -/
theorem regs_inStep (h : InStep c w) :
    (fun i => tunerReg c w (shadowLayout.key i)) = w.dev.shadow.r820tFile :=
  funext h.mirrors

theorem perform_onR820t {Q : (Fin 27 → UInt8) → Prop} {call : DeviceCall}
    (hQ : Stable call.owned Q) : Preserves env (OnR820t c Q) call.perform := by
  cases call with
  | setFrequency freqHz =>
    exact (onR820t_setFrequency hQ freqHz).bind fun _ => Preserves.pure _
  | setSampleRate rateHz => exact (onR820t_setSampleRate hQ rateHz).bind fun _ => Preserves.pure _
  | setGain gainTenthDb => exact onR820t_setGain hQ gainTenthDb
  | setFreqCorrection ppm | stopStream => exact fun _ hw => hw
  | setDigitalAgc enable => exact onR820t_of_keeps (keepsTuner_demodWrite _ _)
  | startStream outcome => exact onR820t_of_keeps (keepsTuner_startStream outcome)
  | startBulk => exact onR820t_of_keeps keepsTuner_startBulk
  | stopBulk => exact onR820t_of_keeps keepsTuner_stopBulk
  | resetDemod => exact onR820t_of_keeps keepsTuner_resetDemod
  | resetTuner => exact onR820t_resetTuner

/-- The power-up bits are no call's. -/
theorem based_kept (call : DeviceCall) : Stable call.owned Based := by
  cases call with
  | setFrequency freqHz => exact stable_based.1
  | setSampleRate rateHz => exact stable_based.2.2
  | setGain gainTenthDb => exact stable_based.2.1
  | _ => exact stable_nothing _

theorem pll_kept {call : DeviceCall} (h : ∀ hz, call ≠ .setFrequency hz) (enc : PllEncoding) :
    Stable call.owned (ReadsBack (pllWrites enc)) := by
  cases call with
  | setFrequency freqHz => exact absurd rfl (h freqHz)
  | setSampleRate rateHz => exact (stable_pll enc).2
  | setGain gainTenthDb => exact (stable_pll enc).1
  | _ => exact stable_nothing _

theorem gain_kept {call : DeviceCall} (h : ∀ gain, call ≠ .setGain gain) (x : GainIndices) :
    Stable call.owned (ReadsBack x.writes) := by
  cases call with
  | setFrequency freqHz => exact (stable_gain x).1
  | setSampleRate rateHz => exact (stable_gain x).2
  | setGain gainTenthDb => exact absurd rfl (h gainTenthDb)
  | _ => exact stable_nothing _

/-- A frequency that has been set is in the registers. -/
theorem setFrequency_tuned {freqHz hz : UInt32} (hclass : w.dev.identity.tunerClass = .r820t)
    (hstep : InStep c w') (h : setFrequency freqHz env w = (.ok hz, w')) :
    R820t.Encodes w.dev.baseband (freqHz + w.dev.tuning.ifOffsetHz) (tunerReg c w') ∧
      w'.dev.tuning.centerFreqHz = freqHz := by
  obtain ⟨enc, locked, henc, hwrote⟩ := setFrequency_wrote (c := c) hclass h
  refine ⟨⟨enc, henc, holds_iff.mpr ?_⟩, ?_⟩
  · rw [regs_inStep hstep]
    exact hwrote.readsBack
  · exact congrArg (·.tuning.centerFreqHz) (setFrequency_ok (hclass ▸ nofun) h).1

/-- A gain that has been set is in the registers. -/
theorem setGain_held {gainTenthDb : Int32} (hclass : w.dev.identity.tunerClass = .r820t)
    (hstep : InStep c w') (h : setGain gainTenthDb env w = (.ok (), w')) :
    EncodesGain gainTenthDb (tunerReg c w') ∧ w'.dev.tuning.gainPolicy = gainTenthDb := by
  obtain ⟨x, hx, hwrote⟩ := setGain_wrote (c := c) hclass h
  refine ⟨⟨x, hx, ?_⟩, congrArg (·.tuning.gainPolicy) (setGain_ok h)⟩
  rw [regs_inStep hstep, show w'.dev.shadow.r820tFile = _ from hwrote.shadow]
  exact x.readsBack _

@[simp] theorem Retained.note_world (s : Retained) (w : World) (done : Bool) (call : DeviceCall) :
    (s.note w done call).world = w := by
  cases call <;> rfl

/-- The frequency that is remembered behind a call is the one that it has set, or has been
remembered before another call. -/
theorem Retained.note_tuned {s : Retained} {done : Bool} {call : DeviceCall} {t : TunedTo}
    (h : (s.note w done call).tuned = some t) :
    (call = .setFrequency t.freqHz ∧ done = true ∧ t.baseband = s.world.dev.baseband ∧
        t.ifHz = s.world.dev.tuning.ifOffsetHz) ∨
      (s.tuned = some t ∧ ∀ hz, call ≠ .setFrequency hz) := by
  cases call with
  | setFrequency freqHz =>
    obtain ⟨hdone, h⟩ := Option.ite_none_right_eq_some.mp h
    obtain rfl := Option.some_inj.mp h
    exact .inl ⟨rfl, hdone, rfl, rfl⟩
  | _ => exact .inr ⟨h, nofun⟩

theorem Retained.note_gain {s : Retained} {done : Bool} {call : DeviceCall} {gainTenthDb : Int32}
    (h : (s.note w done call).gainTenthDb = some gainTenthDb) :
    (call = .setGain gainTenthDb ∧ done = true) ∨
      (s.gainTenthDb = some gainTenthDb ∧ ∀ gain, call ≠ .setGain gain) := by
  cases call with
  | setGain gain =>
    obtain ⟨hdone, h⟩ := Option.ite_none_right_eq_some.mp h
    obtain rfl := Option.some_inj.mp h
    exact .inl ⟨rfl, hdone⟩
  | _ => exact .inr ⟨h, nofun⟩

/-- One call. -/
theorem Retained.Holds.step {s t : Retained} {call : DeviceCall} (hs : s.Holds c)
    (hstep : s.step env call = some t) : t.Holds c := by
  obtain ⟨x, w', hrun, hx, rfl⟩ := callStep_eq_some hstep
  have hcenter (hne : ∀ hz, call ≠ .setFrequency hz) :=
    perform_config (offConfig_center call hne) hrun hx
  have hpolicy (hne : ∀ gain, call ≠ .setGain gain) :=
    perform_config (offConfig_gain call hne) hrun hx
  have hclass : s.world.dev.identity.tunerClass = .r820t :=
    congrArg DeviceIdentity.tunerClass hs.identity
  have hkept {Q : (Fin 27 → UInt8) → Prop} (hQ : Stable call.owned Q)
      (hfile : Q fun i => tunerReg c s.world (shadowLayout.key i)) : OnR820t c Q w' := by
    rw [regs_inStep hs.inStep] at hfile
    exact (perform_onR820t hQ).world ⟨hs.identity, hs.inStep, hfile⟩ hrun
  obtain ⟨hidentity, hinStep, hbased⟩ := hkept (based_kept call) hs.based
  refine ⟨?_, ?_, ?_, fun t ht => ?_, fun gainTenthDb hgain => ?_⟩
  · rwa [Retained.note_world]
  · rwa [Retained.note_world]
  · intro i
    rw [Retained.note_world, show tunerReg c w' (shadowLayout.key i) = _ from hinStep.mirrors i]
    exact hbased i
  · rw [Retained.note_world]
    obtain ⟨rfl, hdone, hbaseband, hif⟩ | ⟨hbefore, hfreq⟩ := Retained.note_tuned ht
    · cases x with
      | error e => cases hdone
      | ok _ =>
        obtain ⟨hz, hset⟩ := perform_setFrequency hrun
        rw [hbaseband, hif]
        exact setFrequency_tuned hclass hinStep hset
    · obtain ⟨⟨enc, henc, hholds⟩, hcommitted⟩ := hs.tuned t hbefore
      obtain ⟨-, -, hback⟩ := hkept (pll_kept hfreq enc) (holds_iff.mp hholds)
      rw [← regs_inStep hinStep] at hback
      exact ⟨⟨enc, henc, holds_iff.mpr hback⟩, (hcenter hfreq).trans hcommitted⟩
  · rw [Retained.note_world]
    obtain ⟨rfl, hdone⟩ | ⟨hbefore, hgain⟩ := Retained.note_gain hgain
    · cases x with
      | error e => cases hdone
      | ok _ => exact setGain_held hclass hinStep hrun
    · obtain ⟨⟨indices, hindices, hback⟩, hcommitted⟩ := hs.gain gainTenthDb hbefore
      obtain ⟨-, -, hback⟩ := hkept (gain_kept hgain indices) hback
      rw [← regs_inStep hinStep] at hback
      exact ⟨⟨indices, hindices, hback⟩, (hpolicy hgain).trans hcommitted⟩

/-- The tuner of a device that has been opened. -/
theorem Retained.opened_holds (hopen : bringUp env ⟨blankDevice, [], none, 0⟩ = (.ok (), w))
    (hclass : w.dev.identity.tunerClass = .r820t) : (Retained.mk w none none).Holds c := by
  have hidentity : w.dev.identity = ⟨.r820t, 0x34⟩ := by
    obtain ⟨hr820t | hfc0012, -⟩ := bringUp_opened rfl rfl hopen
    · exact hr820t.identity
    · rw [hfc0012.identity] at hclass
      cases hclass
  have hinit : ∃ v, v.dev.identity = ⟨.r820t, 0x34⟩ ∧ R820t.init env v = (.ok (), w) := by
    obtain ⟨_, u, -, hdiscover⟩ := Act.bind_eq_ok.mp hopen
    obtain ⟨-, v, hactivate⟩ | ⟨hfc0012, -⟩ := discover_family hdiscover
    · obtain ⟨_, x, -, hactivate⟩ := Act.bind_eq_ok.mp hactivate
      obtain ⟨_, y, -, hactivate⟩ := Act.bind_eq_ok.mp hactivate
      obtain ⟨_, z, hz, hgate⟩ := Act.bind_eq_ok.mp hactivate
      cases hgate
      refine ⟨y, ?_, hz⟩
      have hkept : w.dev.identity = y.dev.identity :=
        congrArg Config.identity (R820t.keeps_init.world hz)
      exact hkept ▸ hidentity
    · rw [hclass] at hfc0012
      cases hfc0012
  obtain ⟨v, hv, hinit⟩ := hinit
  obtain ⟨-, hinStep, hbased⟩ := onR820t_init (c := c) hv hinit
  refine ⟨hidentity, hinStep, fun i => ?_, nofun, nofun⟩
  rw [show tunerReg c w (shadowLayout.key i) = _ from hinStep.mirrors i]
  exact hbased i

end Runs

/-- On an R820T that has been opened, whatever calls follow and whichever of their transfers fail,
the registers of the tuner encode the frequency and the gain of the last calls for them, if these
succeeded, and hold all other bits as the power-up image. -/
theorem retained_run {c : Chip} {env : Env} {w : World} {calls : List DeviceCall} {s : Retained}
    (hopen : bringUp env ⟨blankDevice, [], none, 0⟩ = (.ok (), w))
    (hclass : w.dev.identity.tunerClass = .r820t)
    (hrun : run (Retained.step env) ⟨w, none, none⟩ calls = some s) : s.Holds c :=
  run_invariant (fun _ _ _ hs hstep => hs.step hstep) (Retained.opened_holds hopen hclass) hrun

/-- An R820T at 100 MHz and 19.2 dB, of which the rate has been changed and the tuner been reset. -/
theorem retained_run_reset : ∃ w s,
    bringUp steadyEnv ⟨blankDevice, [], none, 0⟩ = (.ok (), w) ∧
    run (Retained.step steadyEnv) ⟨w, none, none⟩
      [.setFrequency 100000000, .setGain 192, .setSampleRate 2048000, .resetTuner] = some s ∧
    (s.tuned.map fun t => (t.freqHz, t.ifHz)) = some (100000000, 3570000) ∧
    s.gainTenthDb = some 192 ∧ s.Holds blankChip := by
  have hopen : (bringUp steadyEnv ⟨blankDevice, [], none, 0⟩).1 = .ok () := by decide +kernel
  have hclass : (bringUp steadyEnv ⟨blankDevice, [], none, 0⟩).2.dev.identity.tunerClass =
      .r820t := by
    decide +kernel
  have hrun : (run (Retained.step steadyEnv)
      ⟨(bringUp steadyEnv ⟨blankDevice, [], none, 0⟩).2, none, none⟩
      [.setFrequency 100000000, .setGain 192, .setSampleRate 2048000, .resetTuner]).map
        (fun s => (s.tuned.map fun t => (t.freqHz, t.ifHz), s.gainTenthDb)) =
      some (some (100000000, 3570000), some 192) := by
    decide +kernel
  obtain ⟨s, hs, hasked⟩ := Option.map_eq_some_iff.mp hrun
  obtain ⟨htuned, hgain⟩ := Prod.mk.inj hasked
  have hopen := Prod.fst_eq_iff.mp hopen
  exact ⟨_, s, hopen, hs, htuned, hgain, retained_run hopen hclass hs⟩

end Sdrgg.Sdr
