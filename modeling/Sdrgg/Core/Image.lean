import Sdrgg.Core.Retained

/-! The registers of an R820T as a function of the last settings alone: the file that the settings
give on the power-up image, and the runs of calls, of which any transfers may fail, that end with it. -/

namespace Sdrgg.R820t

open ProofKit Usb Rtl

/-- The bits of the VCO current, which a frequency leaves as the PLL has locked. -/
def vcoCurrent (i : Fin 27) : UInt8 := if i = 13 then 0xE0 else 0

/-- The index bits of LNA and mixer, which the automatic gain leaves. -/
def stageIndices (i : Fin 27) : UInt8 := if i = 0 ∨ i = 2 then 0x0F else 0

/-- The bits that a frequency determines. -/
def freqBits (i : Fin 27) : UInt8 := SettingKind.freq.owned i &&& ~~~vcoCurrent i

/-- What a frequency leaves in its bits does not depend on the file or on the first reading of the
lock. -/
theorem freqWrites_agree (loHz : UInt32) (enc : PllEncoding) (locked : Bool)
    (file file' : Fin 27 → UInt8) :
    Agree freqBits (applyAll (freqWrites loHz enc locked) file)
      (applyAll (freqWrites loHz enc true) file') := by
  have hsame : Agree freqBits (applyAll (freqWrites loHz enc true) file)
      (applyAll (freqWrites loHz enc true) file') := by
    have hall : ∀ i, freqBits i &&& ~~~touched i (freqShape true) = 0 := by decide +kernel
    refine agree_of_touched fun i => ?_
    rw [← touched_blank, freqWrites_shape]
    exact hall i
  cases locked with
  | true => exact hsame
  | false =>
    -- the step to the second current is the only write that the readings differ in
    have hwithin : Within vcoCurrent [⟨13, 0xE0, 0x60⟩] :=
      List.forall_mem_singleton.mpr (by decide)
    have hfree : ∀ i, freqBits i &&& vcoCurrent i = 0 := by decide +kernel
    refine Agree.trans ?_ hsame
    simp only [freqWrites, lockWrites, applyAll_append, Bool.false_eq_true, if_false, if_true,
      applyAll_nil]
    exact ((hwithin.agree hfree).applyAll _).applyAll _

theorem bandwidthWrites_agree (bwKhz : UInt32) (file file' : Fin 27 → UInt8) :
    Agree SettingKind.bandwidth.owned (applyAll (bandwidthWrites bwKhz) file)
      (applyAll (bandwidthWrites bwKhz) file') := by
  have hall : ∀ i, SettingKind.bandwidth.owned i &&&
      ~~~touched i ((bandwidthWrites bwKhz).map FieldWrite.blank) = 0 := by
    change ∀ i, SettingKind.bandwidth.owned i &&&
      ~~~touched i [⟨5, 0x10, 0⟩, ⟨6, 0xEF, 0⟩] = 0
    decide +kernel
  refine agree_of_touched fun i => ?_
  rw [← touched_blank]
  exact hall i

theorem freqWrites_within (loHz : UInt32) (enc : PllEncoding) :
    Within SettingKind.freq.owned (freqWrites loHz enc true) := by
  have hall : Within SettingKind.freq.owned (freqShape true) := by
    unfold Within
    decide +kernel
  refine Within.of_blank ?_
  rw [freqWrites_shape]
  exact hall

theorem bandwidthWrites_within (bwKhz : UInt32) :
    Within SettingKind.bandwidth.owned (bandwidthWrites bwKhz) := by
  refine Within.of_blank ?_
  change ∀ w ∈ [FieldWrite.mk (5 : Fin 27) 0x10 0, ⟨6, 0xEF, 0⟩], _
  decide +kernel

theorem gainWrites_within (x : GainIndices) : Within gainOwned x.writes := by
  have hlna : Within gainOwned (lnaWrites x.lna) := by
    unfold lnaWrites
    split <;> exact List.forall_mem_singleton.mpr (by dsimp only; decide +kernel)
  have hmixer : Within gainOwned (mixerWrites x.mixer) := by
    unfold mixerWrites
    split <;> exact List.forall_mem_singleton.mpr (by dsimp only; decide +kernel)
  have hvga : Within gainOwned (vgaWrites x.vga) :=
    List.forall_mem_singleton.mpr (by dsimp only; decide +kernel)
  exact (hlna.append hmixer).append hvga

end Sdrgg.R820t

namespace Sdrgg.Sdr

open ProofKit Usb Rtl R820t

/-! ### The image of settings -/

/-- The settings of an R820T: the frequency with the crystal and the IF for which it has been set, the
gain, and the bandwidth of the last rate that selects one. -/
structure TunerSettings where
  tuned : TunedTo
  gainTenthDb : Int32
  bandwidthKhz : UInt32

/-- The register file that settings give on the power-up image, when the PLL locks at once. -/
def TunerSettings.image (s : TunerSettings) : Option (Fin 27 → UInt8) := do
  let loHz := s.tuned.freqHz + s.tuned.ifHz
  let enc ← encodingFor s.tuned.baseband loHz
  let x ← gainIndices s.gainTenthDb
  return applyAll x.writes (applyAll (freqWrites loHz enc true)
    (applyAll (bandwidthWrites s.bandwidthKhz) composePowerupImage))

/-- The bits that a gain does not determine. -/
def autoBits (gainTenthDb : Int32) (i : Fin 27) : UInt8 :=
  if gainTenthDb = gainAuto then stageIndices i else 0

/-- The bits that a gain determines. -/
def gainBits (gainTenthDb : Int32) (i : Fin 27) : UInt8 := gainOwned i &&& ~~~autoBits gainTenthDb i

theorem gainBits_touched {gainTenthDb : Int32} {x : GainIndices}
    (hx : gainIndices gainTenthDb = some x) (i : Fin 27) :
    gainBits gainTenthDb i &&& ~~~touched i x.writes = 0 := by
  rw [← touched_blank]
  unfold gainBits autoBits
  unfold gainIndices at hx
  split at hx
  · rename_i hauto
    rw [if_pos hauto]
    obtain rfl := Option.some_inj.mp hx
    have hall : ∀ i, gainOwned i &&& ~~~stageIndices i &&&
        ~~~touched i ((GainIndices.mk (-1) (-1) 11).writes.map FieldWrite.blank) = 0 := by
      decide +kernel
    exact hall i
  · rename_i hmanual
    rw [if_neg hmanual]
    obtain ⟨profile, -, rfl⟩ := Option.map_eq_some_iff.mp hx
    have hnonneg (b : UInt8) : ¬b.toUInt32.toInt32 < 0 := by
      have hall : ∀ n < 256, ¬(UInt8.ofNat n).toUInt32.toInt32 < 0 := by decide +kernel
      simpa using hall b.toNat b.toNat_lt
    have hall : ∀ i, gainOwned i &&& ~~~0 &&&
        ~~~touched i [⟨0, 0x1F, 0⟩, ⟨2, 0x1F, 0⟩, ⟨7, 0x9F, 0⟩] = 0 := by
      decide +kernel
    simp only [GainIndices.writes, lnaWrites, mixerWrites, vgaWrites, if_neg (hnonneg _)]
    exact hall i

theorem gainWrites_agree {gainTenthDb : Int32} {x : GainIndices}
    (hx : gainIndices gainTenthDb = some x) (file file' : Fin 27 → UInt8) :
    Agree (gainBits gainTenthDb) (applyAll x.writes file) (applyAll x.writes file') :=
  agree_of_touched (gainBits_touched hx)

/-- The bits that settings with a gain determine, together with those of the power-up image. -/
def settledBits (gainTenthDb : Int32) (i : Fin 27) : UInt8 :=
  ~~~(vcoCurrent i ||| autoBits gainTenthDb i)

theorem settledBits_cover (gainTenthDb : Int32) (i : Fin 27) :
    settledBits gainTenthDb i &&& ~~~(~~~settable i ||| freqBits i ||| gainBits gainTenthDb i |||
      SettingKind.bandwidth.owned i) = 0 := by
  have hall (auto : Bool) : ∀ i, ~~~(vcoCurrent i ||| if auto then stageIndices i else 0) &&&
      ~~~(~~~settable i ||| freqBits i ||| (gainOwned i &&& ~~~if auto then stageIndices i else 0) |||
        SettingKind.bandwidth.owned i) = 0 := by
    cases auto <;> decide +kernel
  simpa [settledBits, gainBits, autoBits] using hall (decide (gainTenthDb = gainAuto)) i

/-! ### Runs -/

/-- The bandwidth that `set_sample_rate` selects for a rate, if it does. -/
def selectedBandwidth (dev : Device) (rateHz : UInt32) : Option UInt32 :=
  if rateAccepted rateHz then
    (resampling dev.baseband rateHz).bind fun q =>
      if needsBandwidth dev.identity q.achievedHz then some (q.achievedHz / 1000) else none
  else none

/-- A device with its last frequency, gain and bandwidth, unless the calls for them have failed. -/
structure Configured extends Retained where
  bandwidthKhz : Option UInt32

/-- After a call that leaves `w`. -/
def Configured.note (s : Configured) (w : World) (done : Bool) (call : DeviceCall) : Configured :=
  { toRetained := s.toRetained.note w done call
    bandwidthKhz :=
      match call with
      | .setSampleRate rateHz =>
        match selectedBandwidth s.world.dev rateHz with
        | some bwKhz => if done then some bwKhz else none
        | none => s.bandwidthKhz
      | _ => s.bandwidthKhz }

def Configured.step (env : Env) : Configured → DeviceCall → Option Configured :=
  callStep (fun s => s.world) Configured.note env

/-- The settings of a device on which all have been made. -/
def Configured.settings (s : Configured) : Option TunerSettings := do
  let tuned ← s.tuned
  let gainTenthDb ← s.gainTenthDb
  let bandwidthKhz ← s.bandwidthKhz
  return ⟨tuned, gainTenthDb, bandwidthKhz⟩

/-- A file holds a frequency. -/
def HoldsFreq (t : TunedTo) (file : Fin 27 → UInt8) : Prop :=
  ∃ enc, encodingFor t.baseband (t.freqHz + t.ifHz) = some enc ∧
    Agree freqBits file (applyAll (freqWrites (t.freqHz + t.ifHz) enc true) composePowerupImage)

def HoldsGain (gainTenthDb : Int32) (file : Fin 27 → UInt8) : Prop :=
  ∃ x, gainIndices gainTenthDb = some x ∧
    Agree (gainBits gainTenthDb) file (applyAll x.writes composePowerupImage)

def HoldsBandwidth (bwKhz : UInt32) (file : Fin 27 → UInt8) : Prop :=
  Agree SettingKind.bandwidth.owned file (applyAll (bandwidthWrites bwKhz) composePowerupImage)

/-- The shadow file, which the chip is in step with, holds the settings that have been made. -/
structure Configured.Holds (c : Chip) (s : Configured) : Prop where
  based : OnR820t c Based s.world
  tuned : ∀ t, s.tuned = some t → HoldsFreq t s.world.dev.shadow.r820tFile
  gain : ∀ gainTenthDb, s.gainTenthDb = some gainTenthDb →
    HoldsGain gainTenthDb s.world.dev.shadow.r820tFile
  bandwidth : ∀ bwKhz, s.bandwidthKhz = some bwKhz →
    HoldsBandwidth bwKhz s.world.dev.shadow.r820tFile

theorem stable_agree {mask owned : Fin 27 → UInt8} (h : ∀ i, mask i &&& owned i = 0)
    (model : Fin 27 → UInt8) : Stable owned fun file => Agree mask file model :=
  fun _ _ hws hagree => (hws.agree h).trans hagree

/-- The files of settings that have all been made agree with the image. -/
theorem image_of_holds {s : TunerSettings} {file : Fin 27 → UInt8} (hbased : Based file)
    (hfreq : HoldsFreq s.tuned file) (hgain : HoldsGain s.gainTenthDb file)
    (hband : HoldsBandwidth s.bandwidthKhz file) :
    ∃ model, s.image = some model ∧ Agree (settledBits s.gainTenthDb) file model := by
  obtain ⟨enc, henc, hfreq⟩ := hfreq
  obtain ⟨x, hx, hgain⟩ := hgain
  refine ⟨_, by rw [TunerSettings.image, henc, hx]; rfl, ?_⟩
  have hapart : ∀ i, ~~~settable i &&& SettingKind.bandwidth.owned i = 0 ∧
      ~~~settable i &&& SettingKind.freq.owned i = 0 ∧ ~~~settable i &&& gainOwned i = 0 ∧
      freqBits i &&& gainOwned i = 0 ∧
      SettingKind.bandwidth.owned i &&& SettingKind.freq.owned i = 0 ∧
      SettingKind.bandwidth.owned i &&& gainOwned i = 0 := by
    decide +kernel
  have hfreqWithin := freqWrites_within (s.tuned.freqHz + s.tuned.ifHz) enc
  have hgainWithin := gainWrites_within x
  have hbandWithin := bandwidthWrites_within s.bandwidthKhz
  let banded := applyAll (bandwidthWrites s.bandwidthKhz) composePowerupImage
  let tuned := applyAll (freqWrites (s.tuned.freqHz + s.tuned.ifHz) enc true) banded
  have himage : Agree (fun i => ~~~settable i) composePowerupImage (applyAll x.writes tuned) :=
    ((hgainWithin.agree fun i => (hapart i).2.2.1).trans
      ((hfreqWithin.agree fun i => (hapart i).2.1).trans
        (hbandWithin.agree fun i => (hapart i).1))).symm
  have htuned : Agree freqBits (applyAll (freqWrites (s.tuned.freqHz + s.tuned.ifHz) enc true)
      composePowerupImage) (applyAll x.writes tuned) :=
    (freqWrites_agree _ enc true _ _).trans (hgainWithin.agree fun i => (hapart i).2.2.2.1).symm
  have hselected : Agree SettingKind.bandwidth.owned banded (applyAll x.writes tuned) :=
    ((hgainWithin.agree fun i => (hapart i).2.2.2.2.2).trans
      (hfreqWithin.agree fun i => (hapart i).2.2.2.2.1)).symm
  exact ((((Agree.trans hbased himage).or (hfreq.trans htuned)).or
    (hgain.trans (gainWrites_agree hx _ _))).or (Agree.trans hband hselected)).mono
      (settledBits_cover s.gainTenthDb)

section Runs

variable {c : Chip} {env : Env} {w w' : World}

/-- The bits that a call writes are not those of a setting of another kind. -/
theorem freq_spared {call : DeviceCall} (h : ∀ hz, call ≠ .setFrequency hz) (i : Fin 27) :
    freqBits i &&& call.owned i = 0 := by
  have hall : ∀ i, freqBits i &&& SettingKind.bandwidth.owned i = 0 ∧
      freqBits i &&& gainOwned i = 0 := by
    decide +kernel
  cases call with
  | setFrequency hz => exact absurd rfl (h hz)
  | setSampleRate rateHz => exact (hall i).1
  | setGain gainTenthDb => exact (hall i).2
  | _ => exact UInt8.and_zero

theorem gain_spared {call : DeviceCall} (h : ∀ gain, call ≠ .setGain gain) (gainTenthDb : Int32)
    (i : Fin 27) : gainBits gainTenthDb i &&& call.owned i = 0 := by
  have hall (auto : Bool) : ∀ i,
      (gainOwned i &&& ~~~if auto then stageIndices i else 0) &&& SettingKind.bandwidth.owned i = 0 ∧
      (gainOwned i &&& ~~~if auto then stageIndices i else 0) &&& SettingKind.freq.owned i = 0 := by
    cases auto <;> decide +kernel
  have hbits : gainBits gainTenthDb i &&& SettingKind.bandwidth.owned i = 0 ∧
      gainBits gainTenthDb i &&& SettingKind.freq.owned i = 0 := by
    simpa [gainBits, autoBits] using hall (decide (gainTenthDb = gainAuto)) i
  cases call with
  | setFrequency hz => exact hbits.2
  | setSampleRate rateHz => exact hbits.1
  | setGain gain => exact absurd rfl (h gain)
  | _ => exact UInt8.and_zero

theorem bandwidth_spared {call : DeviceCall} (h : ∀ rateHz, call ≠ .setSampleRate rateHz)
    (i : Fin 27) : SettingKind.bandwidth.owned i &&& call.owned i = 0 := by
  have hall : ∀ i, SettingKind.bandwidth.owned i &&& SettingKind.freq.owned i = 0 ∧
      SettingKind.bandwidth.owned i &&& gainOwned i = 0 := by
    decide +kernel
  cases call with
  | setFrequency hz => exact (hall i).1
  | setSampleRate rateHz => exact absurd rfl (h rateHz)
  | setGain gainTenthDb => exact (hall i).2
  | _ => exact UInt8.and_zero

/-- A rate that selects no bandwidth leaves the tuner alone. -/
theorem setSampleRate_spares {rateHz : UInt32} (h : selectedBandwidth w.dev rateHz = none)
    {x : Except (Fault SdrggError) UInt32} (hrun : setSampleRate rateHz env w = (x, w')) :
    tunerView c w' = tunerView c w := by
  -- the crystal decides on the setting, the tuner on whether it gets a bandwidth
  let I : World → Prop := fun u =>
    tunerView c u = tunerView c w ∧ u.dev.baseband = w.dev.baseband
  have hkept {α : Type} {m : DevM α} (hview : Keeps (tunerView c) m)
      (hconfig : Keeps World.config m) : Preserves env I m := fun u hu =>
    ⟨(hview env u).trans hu.1, (congrArg Config.baseband (hconfig env u)).trans hu.2⟩
  have haround : Around env I := {
    note := fun _ _ hu => hu
    stop := hkept keepsTuner_stopBulk keeps_stopBulk
    start := hkept keepsTuner_startBulk keeps_startBulk }
  have hall : Preserves env I (setSampleRate rateHz) := by
    refine preserves_setSampleRate haround.note fun u q hu haccepted hq => ?_
    refine preserves_applyRate haround.note (fun v hv hneeds => ?_)
      (hkept (keepsTuner_rateTail q.ratio) (keeps_rateTail q.ratio))
    have hidentity : v.dev.identity = w.dev.identity := congrArg TunerView.identity hv.1
    rw [selectedBandwidth, if_pos haccepted, ← hu.2, hq, Option.bind_some, ← hidentity,
      if_pos hneeds] at h
    cases h
  exact (hall.world ⟨rfl, rfl⟩ hrun).1

/-- A rate that selects a bandwidth and succeeds has written it. -/
theorem setSampleRate_wrote {rateHz hz bwKhz : UInt32}
    (hclass : w.dev.identity.tunerClass.isR820t = true)
    (hband : selectedBandwidth w.dev rateHz = some bwKhz)
    (h : setSampleRate rateHz env w = (.ok hz, w')) :
    R820t.Wrote (bandwidthWrites bwKhz) (tunerView c w) (tunerView c w') := by
  obtain ⟨haccept, q, u, v, hq, hu, hv, hw'⟩ := setSampleRate_applies h
  rw [selectedBandwidth, if_pos haccept, hq, Option.bind_some] at hband
  obtain ⟨hneeds, hbw⟩ := Option.ite_none_right_eq_some.mp hband
  obtain rfl := Option.some_inj.mp hbw
  obtain ⟨_, x, hx, hv⟩ := Act.bind_eq_ok.mp hv
  have hview : tunerView c x = tunerView c w := by
    cases hu
    cases hx
    rfl
  have hidentity : x.dev.identity = w.dev.identity := congrArg TunerView.identity hview
  rw [Act.bind_of_ok (device_apply env x), hidentity, if_pos hneeds] at hv
  obtain ⟨_, y, hy, hv⟩ := Act.bind_eq_ok.mp hv
  have hwrote := R820t.setBandwidth_wrote (c := c) (hidentity ▸ hclass) hy
  have hlast : tunerView c w' = tunerView c v := by
    cases hw'
    rfl
  rw [hlast, (keepsTuner_rateTail (c := c) q.ratio).world hv, ← hview]
  exact hwrote

/-- The bandwidth that is remembered behind a call is the one that it has selected, or has been
remembered before a call that selects none. -/
theorem Configured.note_bandwidth {s : Configured} {done : Bool} {call : DeviceCall}
    {bwKhz : UInt32} (h : (s.note w done call).bandwidthKhz = some bwKhz) :
    (∃ rateHz, call = .setSampleRate rateHz ∧ done = true ∧
        selectedBandwidth s.world.dev rateHz = some bwKhz) ∨
      (s.bandwidthKhz = some bwKhz ∧
        ∀ rateHz, call = .setSampleRate rateHz → selectedBandwidth s.world.dev rateHz = none) := by
  cases call with
  | setSampleRate rateHz =>
    unfold note at h
    cases hselected : selectedBandwidth s.world.dev rateHz with
    | some selected =>
      simp only [hselected] at h
      obtain ⟨hdone, h⟩ := Option.ite_none_right_eq_some.mp h
      obtain rfl := Option.some_inj.mp h
      exact .inl ⟨rateHz, rfl, hdone, hselected⟩
    | none =>
      simp only [hselected] at h
      refine .inr ⟨h, fun hz heq => ?_⟩
      cases heq
      exact hselected
  | _ => exact .inr ⟨h, nofun⟩

/-- One call. -/
theorem Configured.Holds.step {s t : Configured} {call : DeviceCall} (hs : s.Holds c)
    (hstep : s.step env call = some t) : t.Holds c := by
  obtain ⟨x, w', hrun, hx, rfl⟩ := callStep_eq_some hstep
  obtain ⟨hidentity, hinStep, hbased⟩ := hs.based
  have hclass : s.world.dev.identity.tunerClass = .r820t :=
    congrArg DeviceIdentity.tunerClass hidentity
  have hworld (done : Bool) : (s.note w' done call).world = w' := Retained.note_world _ _ _ _
  have hkept {Q : (Fin 27 → UInt8) → Prop} (hQ : Stable call.owned Q)
      (hfile : Q s.world.dev.shadow.r820tFile) : OnR820t c Q w' :=
    (perform_onR820t hQ).world ⟨hidentity, hinStep, hfile⟩ hrun
  refine ⟨?_, fun t ht => ?_, fun gainTenthDb hgain => ?_, fun bwKhz hband => ?_⟩
  · rw [hworld]
    exact hkept (based_kept call) hbased
  · rw [hworld]
    obtain ⟨rfl, hdone, hbaseband, hif⟩ | ⟨hbefore, hfreq⟩ := Retained.note_tuned ht
    · cases x with
      | error e => cases hdone
      | ok _ =>
        obtain ⟨hz, hset⟩ := perform_setFrequency hrun
        obtain ⟨enc, locked, henc, hwrote⟩ := setFrequency_wrote (c := c) hclass hset
        have hfile : w'.dev.shadow.r820tFile = _ := hwrote.shadow
        rw [HoldsFreq, hbaseband, hif, hfile]
        exact ⟨enc, henc, freqWrites_agree _ enc locked _ _⟩
    · obtain ⟨enc, henc, hagree⟩ := hs.tuned t hbefore
      exact ⟨enc, henc, (hkept (stable_agree (freq_spared hfreq) _) hagree).2.2⟩
  · rw [hworld]
    obtain ⟨rfl, hdone⟩ | ⟨hbefore, hgain⟩ := Retained.note_gain hgain
    · cases x with
      | error e => cases hdone
      | ok _ =>
        obtain ⟨indices, hindices, hwrote⟩ := setGain_wrote (c := c) hclass hrun
        have hfile : w'.dev.shadow.r820tFile = _ := hwrote.shadow
        rw [hfile]
        exact ⟨indices, hindices, gainWrites_agree hindices _ _⟩
    · obtain ⟨indices, hindices, hagree⟩ := hs.gain gainTenthDb hbefore
      exact ⟨indices, hindices, (hkept (stable_agree (gain_spared hgain _) _) hagree).2.2⟩
  · rw [hworld]
    obtain ⟨rateHz, rfl, hdone, hselected⟩ | ⟨hbefore, hrate⟩ := Configured.note_bandwidth hband
    · cases x with
      | error e => cases hdone
      | ok _ =>
        obtain ⟨hz, hset⟩ := perform_setSampleRate hrun
        have hwrote := setSampleRate_wrote (c := c) (hclass ▸ rfl) hselected hset
        have hfile : w'.dev.shadow.r820tFile = _ := hwrote.shadow
        rw [hfile]
        exact bandwidthWrites_agree bwKhz _ _
    · have hagree := hs.bandwidth bwKhz hbefore
      by_cases hcall : ∃ rateHz, call = .setSampleRate rateHz
      · obtain ⟨rateHz, rfl⟩ := hcall
        obtain ⟨y, hset, -⟩ := Act.discard_eq hrun
        have hview := setSampleRate_spares (c := c) (hrate rateHz rfl) hset
        have hshadow : w'.dev.shadow = s.world.dev.shadow := congrArg TunerView.shadow hview
        rw [hshadow]
        exact hagree
      · exact (hkept (stable_agree (bandwidth_spared fun rateHz heq => hcall ⟨rateHz, heq⟩) _)
          hagree).2.2

/-- The tuner of a device that has been opened. -/
theorem Configured.opened_holds (hopen : bringUp env ⟨blankDevice, [], none, 0⟩ = (.ok (), w))
    (hclass : w.dev.identity.tunerClass = .r820t) :
    (Configured.mk ⟨w, none, none⟩ none).Holds c := by
  have hopened := Retained.opened_holds (c := c) hopen hclass
  refine ⟨⟨hopened.identity, hopened.inStep, fun i => ?_⟩, nofun, nofun, nofun⟩
  have hmirror : tunerReg c w (shadowLayout.key i) = w.dev.shadow.r820tFile i :=
    hopened.inStep.mirrors i
  exact (congrArg (· &&& ~~~settable i) hmirror).symm.trans (hopened.based i)

end Runs

/-- On an R820T that has been opened, whatever calls follow and whichever of their transfers fail,
the registers of the tuner are, once a frequency, a gain and a bandwidth are set, those that the last
of these give on the power-up image, but for the VCO current and, under the automatic gain, the
indices of LNA and mixer. -/
theorem configured_run {c : Chip} {env : Env} {w : World} {calls : List DeviceCall}
    {s : Configured} {settings : TunerSettings}
    (hopen : bringUp env ⟨blankDevice, [], none, 0⟩ = (.ok (), w))
    (hclass : w.dev.identity.tunerClass = .r820t)
    (hrun : run (Configured.step env) ⟨⟨w, none, none⟩, none⟩ calls = some s)
    (hsettings : s.settings = some settings) :
    ∃ file, settings.image = some file ∧ Agree (settledBits settings.gainTenthDb)
      (fun i => tunerReg c s.world (shadowLayout.key i)) file := by
  have hs : s.Holds c :=
    run_invariant (fun _ _ _ hs hstep => hs.step hstep) (Configured.opened_holds hopen hclass) hrun
  obtain ⟨tuned, htuned, hsettings⟩ := Option.bind_eq_some_iff.mp hsettings
  obtain ⟨gainTenthDb, hgain, hsettings⟩ := Option.bind_eq_some_iff.mp hsettings
  obtain ⟨bandwidthKhz, hband, hsettings⟩ := Option.bind_eq_some_iff.mp hsettings
  obtain rfl := Option.some_inj.mp hsettings
  obtain ⟨-, hinStep, hbased⟩ := hs.based
  rw [regs_inStep hinStep]
  exact image_of_holds hbased (hs.tuned tuned htuned) (hs.gain gainTenthDb hgain)
    (hs.bandwidth bandwidthKhz hband)

/-- An R820T at 2.4 MSPS, 100 MHz and 19.2 dB, of which the tuner has been reset since. -/
theorem configured_run_reset : ∃ w s settings file,
    bringUp steadyEnv ⟨blankDevice, [], none, 0⟩ = (.ok (), w) ∧
    run (Configured.step steadyEnv) ⟨⟨w, none, none⟩, none⟩
      [.setSampleRate 2400000, .setFrequency 100000000, .setGain 192, .resetTuner] = some s ∧
    s.settings = some settings ∧ settings.bandwidthKhz = 2400 ∧ settings.tuned.ifHz = 1815000 ∧
    settings.image = some file ∧ Agree (settledBits settings.gainTenthDb)
      (fun i => tunerReg blankChip s.world (shadowLayout.key i)) file := by
  have hopen : (bringUp steadyEnv ⟨blankDevice, [], none, 0⟩).1 = .ok () := by decide +kernel
  have hclass : (bringUp steadyEnv ⟨blankDevice, [], none, 0⟩).2.dev.identity.tunerClass =
      .r820t := by
    decide +kernel
  have hrun : ((run (Configured.step steadyEnv)
      ⟨⟨(bringUp steadyEnv ⟨blankDevice, [], none, 0⟩).2, none, none⟩, none⟩
      [.setSampleRate 2400000, .setFrequency 100000000, .setGain 192, .resetTuner]).bind
        fun s => s.settings.map fun t => (t.bandwidthKhz, t.tuned.ifHz)) =
      some (2400, 1815000) := by
    decide +kernel
  obtain ⟨s, hs, hset⟩ := Option.bind_eq_some_iff.mp hrun
  obtain ⟨settings, hsettings, hset⟩ := Option.map_eq_some_iff.mp hset
  obtain ⟨hband, hif⟩ := Prod.mk.inj hset
  have hopen := Prod.fst_eq_iff.mp hopen
  obtain ⟨file, himage, hagree⟩ := configured_run hopen hclass hs hsettings
  exact ⟨_, s, settings, file, hopen, hs, hsettings, hband, hif, himage, hagree⟩

end Sdrgg.Sdr
