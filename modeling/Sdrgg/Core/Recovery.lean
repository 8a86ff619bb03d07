import Sdrgg.Core.Reported
import Sdrgg.Core.Settings

/-! The registers of the tuner after `reset_tuner` against the frequency and the gain that have been
committed before it. -/

namespace Sdrgg.Fc0012

open ProofKit Usb Rtl

/-! ### The cold start of an FC0012 -/

/-- The registers hold the ratio of a frequency. -/
def Encodes (regs : UInt8 → UInt8) (freqHz : UInt32) : Prop :=
  ∃ total sol, computeRawRatio (deriveMultiplier freqHz).vcoHz 14400000 = some total ∧
    normalizeRatio total (deriveMultiplier freqHz).vcoHz 14400000 = some sol ∧
    sol.feasible = true ∧ Holds regs (deriveMultiplier freqHz) sol

/-- The registers after a cold start, of which the last two writes may fail unnoticed. -/
structure ColdStarted (regs : UInt8 → UInt8) : Prop where
  fixed : ∀ cmd ∈ initCapabilities.flatten, cmd.location ≠ 0x0D → cmd.location ≠ 0x13 →
    regs cmd.location = cmd.content
  lnaOverride : regs 0x0D = 0x02 ∨ regs 0x0D = 0x0A
  lnaGain : regs 0x13 = 0x00 ∨ regs 0x13 = 0x02

theorem commanded_untouched {cmds : List WireCmd} {reg : UInt8}
    (h : ∀ cmd ∈ cmds, reg ≠ cmd.location) (regs : UInt8 → UInt8) :
    commanded cmds regs reg = regs reg := by
  induction cmds generalizing regs with
  | nil => rfl
  | cons cmd cmds ih =>
    obtain ⟨hne, hrest⟩ := List.forall_mem_cons.mp h
    exact (ih hrest _).trans (Function.update_of_ne hne _ _)

/-- Commands to different registers leave their values. -/
theorem commanded_of_mem {cmds : List WireCmd}
    (h : cmds.Pairwise fun cmd next => cmd.location ≠ next.location) {cmd : WireCmd}
    (hmem : cmd ∈ cmds) (regs : UInt8 → UInt8) :
    commanded cmds regs cmd.location = cmd.content := by
  induction cmds generalizing regs with
  | nil => cases hmem
  | cons first cmds ih =>
    obtain ⟨hfirst, hrest⟩ := List.pairwise_cons.mp h
    obtain rfl | hmem := List.mem_cons.mp hmem
    · exact (commanded_untouched hfirst _).trans (Function.update_self _ _ _)
    · exact ih hrest hmem _

section Registers

variable {c : Chip} {env : Env} {w w' : World}

theorem dispatchAll_ok {caps : List (List WireCmd)}
    (h : caps.forM dispatchCommands env w = (.ok (), w')) :
    chipRegs c w' = commanded caps.flatten (chipRegs c w) := by
  induction caps generalizing w with
  | nil =>
    cases h
    rfl
  | cons cmds caps ih =>
    obtain ⟨_, u, hu, h⟩ := Act.bind_eq_ok.mp h
    rw [ih h, dispatchCommands_ok hu, List.flatten_cons, commanded, commanded, commanded,
      List.foldl_append]

/-- A wire write of which the outcome is not looked at. -/
theorem ignore_wireWrite {location content : UInt8} {x : Unit}
    (h : Act.ignore (wireWrite location content) env w = (.ok x, w')) :
    chipRegs c w' location = chipRegs c w location ∨ chipRegs c w' location = content := by
  obtain ⟨out, u, hu, h⟩ := Act.bind_eq_ok.mp h
  cases h
  obtain ⟨_, -, hwrite⟩ | ⟨e, -, hwrite⟩ := Act.attempt_eq_ok.mp hu
  · rw [wireWrite_ok hwrite]
    exact .inr (Function.update_self _ _ _)
  · exact .inl (congrFun (wireWrite_error hwrite) location)

theorem init_ok (h : init env w = (.ok (), w')) : ColdStarted (chipRegs c w') := by
  obtain ⟨_, u, hu, h⟩ := Act.bind_eq_ok.mp h
  obtain ⟨_, v, hv, h⟩ := Act.bind_eq_ok.mp h
  obtain ⟨_, x, hx, h⟩ := Act.bind_eq_ok.mp h
  have himage := dispatchAll_ok (c := c) hv
  have hlocations : initCapabilities.flatten.Pairwise
      fun cmd next => cmd.location ≠ next.location := by
    decide
  have hset (cmd : WireCmd) (hmem : cmd ∈ initCapabilities.flatten) :
      chipRegs c v cmd.location = cmd.content := by
    rw [himage]
    exact commanded_of_mem hlocations hmem _
  have hoverride {reg : UInt8} (hreg : reg ≠ 0x0D) : chipRegs c x reg = chipRegs c v reg :=
    (keepsReg_wireWrite hreg).ignore.world hx
  have hgain {reg : UInt8} (hreg : reg ≠ 0x13) : chipRegs c w' reg = chipRegs c x reg :=
    (keepsReg_wireWrite hreg).ignore.world h
  refine ⟨fun cmd hmem hd hg => ?_, ?_, ?_⟩
  · rw [hgain hg, hoverride hd, hset cmd hmem]
  · have hinit : chipRegs c v 0x0D = 0x02 := hset ⟨0x0D, 0x02⟩ (by decide)
    rw [hgain (by decide), ← hinit]
    exact ignore_wireWrite hx
  · have hinit : chipRegs c x 0x13 = 0x00 :=
      (hoverride (by decide)).trans (hset ⟨0x13, 0x00⟩ (by decide))
    rw [← hinit]
    exact ignore_wireWrite h

end Registers

/-- The registers after a cold start hold the ratio of no frequency: they stand for the multiplier
six with the ratio 133, which is below the range of that multiplier. -/
theorem ColdStarted.not_encodes {regs : UInt8 → UInt8} (h : ColdStarted regs) (freqHz : UInt32) :
    ¬Encodes regs freqHz := by
  rintro ⟨total, sol, htotal, hsol, hfeasible, hholds⟩
  have hreg (cmd : WireCmd) (hmem : cmd ∈ initCapabilities.flatten ∧ cmd.location ≠ 0x0D ∧
      cmd.location ≠ 0x13) : regs cmd.location = cmd.content :=
    h.fixed cmd hmem.1 hmem.2.1 hmem.2.2
  have hremainder : regs 0x01 = 0x05 := hreg ⟨0x01, 0x05⟩ (by decide)
  have hquotient : regs 0x02 = 0x10 := hreg ⟨0x02, 0x10⟩ (by decide)
  have hdivider : regs 0x05 = 0x0F := hreg ⟨0x05, 0x0F⟩ (by decide)
  have hbandwidth : regs 0x06 = 0x00 := hreg ⟨0x06, 0x00⟩ (by decide)
  obtain ⟨hvco, hmultiplier⟩ := deriveMultiplier_eq freqHz
  have hsix : multiplierFor freqHz.toNat = 6 := by
    rw [← hmultiplier, decodedMultiplier, ← hholds.divider, ← hholds.bandwidth, hdivider,
      hbandwidth]
    rfl
  obtain ⟨frac, hfrac, hsol⟩ := Option.bind_eq_some_iff.mp hsol
  obtain rfl := Option.some_inj.mp hsol
  have hranges := vco_ranges freqHz
  have hlt := freqHz.toNat_lt
  rw [hsix] at hranges hvco
  obtain ⟨raw, hraw, hnat⟩ := @toNat_computeRawRatio (deriveMultiplier freqHz).vcoHz (by omega)
  obtain rfl := Option.some_inj.mp (htotal.symm.trans hraw)
  have hfields := ratioFields_table (by omega) hfeasible
  have hq : (ratioFields total).1 = 0x10 := hholds.quotient.symm.trans hquotient
  have hr : (ratioFields total).2 = 0x05 := hholds.remainder.symm.trans hremainder
  rw [hq, hr] at hfields
  simp only [UInt8.reduceToNat] at hfields
  omega

end Sdrgg.Fc0012

namespace Sdrgg.R820t

open ProofKit Usb Rtl

/-! ### The registers of an R820T behind its shadow file -/

/-- The writes of an encoding. -/
def pllWrites (enc : PllEncoding) : List (FieldWrite (Fin 27)) :=
  [ ⟨11, 0xE0, enc.divField⟩, ⟨15, 0xFF, enc.niSiPacked⟩, ⟨13, 0x08, enc.modeField⟩,
    ⟨17, 0xFF, enc.sdmHi⟩, ⟨16, 0xFF, enc.sdmLo⟩ ]

theorem holds_iff {regs : UInt8 → UInt8} {enc : PllEncoding} :
    Holds regs enc ↔ ReadsBack (pllWrites enc) fun i => regs (shadowLayout.key i) := by
  have hfull (b : UInt8) : b &&& 0xFF = b := UInt8.and_neg_one
  simp only [ReadsBack, pllWrites, List.forall_mem_cons, List.not_mem_nil, false_imp_iff,
    implies_true, and_true, hfull]
  exact ⟨fun h => ⟨h.divider, h.integer, h.mode, h.high, h.low⟩,
    fun ⟨hdivider, hinteger, hmode, hhigh, hlow⟩ => ⟨hdivider, hinteger, hmode, hhigh, hlow⟩⟩

/-- The registers hold the encoding of an LO. -/
def Encodes (b : BasebandState) (loHz : UInt32) (regs : UInt8 → UInt8) : Prop :=
  ∃ enc, encodingFor b loHz = some enc ∧ Holds regs enc

/-- The indices of the three stages. -/
structure GainIndices where
  lna : Int32
  mixer : Int32
  vga : Int32
deriving DecidableEq, Repr

def GainIndices.writes (x : GainIndices) : List (FieldWrite (Fin 27)) :=
  lnaWrites x.lna ++ mixerWrites x.mixer ++ vgaWrites x.vga

theorem GainIndices.places (x : GainIndices) :
    x.writes.map FieldWrite.place = [0, 2, 7] := by
  unfold writes lnaWrites mixerWrites vgaWrites
  split_ifs <;> rfl

theorem GainIndices.disjoint_freq (x : GainIndices) {b : BasebandState} {loHz : UInt32}
    {enc : PllEncoding} (henc : encodingFor b loHz = some enc) (locked : Bool) :
    BitsDisjoint (freqWrites loHz enc locked) x.writes := by
  have hfreq : (Setting.freq loHz 0).writes b locked = freqWrites loHz enc locked := by
    simp [Setting.writes, henc]
  have hother {s : Setting} (hs : s.kind ≠ .freq) :
      BitsDisjoint (freqWrites loHz enc locked) (s.writes b locked) := by
    rw [← hfreq]
    exact Setting.disjoint_writes (s := .freq loHz 0) hs.symm b locked
  have hlna : (Setting.lnaGain x.lna).kind ≠ .freq := by simp [Setting.kind]
  have hmixer : (Setting.mixerGain x.mixer).kind ≠ .freq := by simp [Setting.kind]
  have hvga : (Setting.vgaGain x.vga).kind ≠ .freq := by simp [Setting.kind]
  exact ((hother hlna).append (hother hmixer)).append (hother hvga)

theorem GainIndices.disjoint_pll (x : GainIndices) (enc : PllEncoding) :
    BitsDisjoint x.writes (pllWrites enc) := by
  refine BitsDisjoint.of_places fun w hw v hv => ?_
  have hgain : w.place ∈ x.writes.map FieldWrite.place := List.mem_map_of_mem hw
  have hpll : v.place ∈ (pllWrites enc).map FieldWrite.place := List.mem_map_of_mem hv
  have hall : ∀ i ∈ ([0, 2, 7] : List (Fin 27)), ∀ j ∈ ([11, 15, 13, 17, 16] : List (Fin 27)),
      i ≠ j := by
    decide
  rw [GainIndices.places] at hgain
  exact hall _ hgain _ hpll

theorem GainIndices.readsBack (x : GainIndices) (file : Fin 27 → UInt8) :
    ReadsBack x.writes (applyAll x.writes file) := by
  have hplaces : (x.writes.map FieldWrite.place).Pairwise (· ≠ ·) := by
    rw [GainIndices.places]
    decide
  exact readsBack_applyAll (List.pairwise_map.mp hplaces) file

/-- The writes of `set_freq` leave the encoding in the shadow file. -/
theorem Wrote.readsBack {loHz : UInt32} {enc : PllEncoding} {locked : Bool} {t t' : TunerView}
    (h : Wrote (freqWrites loHz enc locked) t t') :
    ReadsBack (pllWrites enc) t'.shadow.r820tFile := by
  intro w hw
  have hplace : w.place ∈ (pllWrites enc).map FieldWrite.place := List.mem_map_of_mem hw
  have hall : ∀ i ∈ ([11, 15, 13, 17, 16] : List (Fin 27)),
      i ∈ (freqShape locked).map FieldWrite.place := by
    cases locked <;> decide
  have hreached := hall _ hplace
  rw [← freqWrites_shape loHz enc locked, List.map_map] at hreached
  rw [← h.reached _ hreached]
  exact holds_iff.mp h.holds w hw

section Reset

variable {c : Chip} {env : Env} {w w' : World}

/-- The whole flush brings every register in step. -/
theorem flushed_all {t : TunerView} (h : t.identity.tunerClass.isR820t = true) :
    Shadowed (flushed t (List.finRange 27)) := by
  refine ⟨h, ?_⟩
  have hi2c : (flushed t (List.finRange 27)).i2c t.identity.tunerBusAddr =
      shadowLayout.flush t.shadow.r820tFile (t.i2c t.identity.tunerBusAddr) (List.finRange 27) :=
    Function.update_self _ _ _
  change shadowLayout.Mirrors ((flushed t (List.finRange 27)).i2c t.identity.tunerBusAddr) _
  rw [hi2c, flushed, shadowLayout.mirrors_flush_iff]
  exact fun i hi => absurd (List.mem_finRange i) hi

/-- A reset of an R820T that succeeds writes its whole shadow file back. -/
theorem resetTuner_ok (hclass : w.dev.identity.tunerClass = .r820t)
    (h : resetTuner env w = (.ok (), w')) :
    tunerView c w' = flushed (tunerView c w) (List.finRange 27) := by
  rw [resetTuner, Act.bind_of_ok (device_apply env w), if_neg (fun hne => hne hclass)] at h
  obtain ⟨_, u, hu, h⟩ := Act.bind_eq_ok.mp h
  obtain ⟨v, hv, h⟩ := Act.closing_eq_ok h
  have hopen := (keepsTuner_enableI2cRepeater (c := c) true).world hu
  have hclose := (keepsTuner_enableI2cRepeater (c := c) false).ignore.world h
  have hidentity : u.dev.identity = w.dev.identity := congrArg TunerView.identity hopen
  rw [hclose, flush_ok (by rw [hidentity, hclass]; rfl) hv, hopen]

end Reset

end Sdrgg.R820t

namespace Sdrgg.Sdr

open ProofKit Usb Rtl

/-! ### Frequencies and gains -/

/-- The calls that set what the tuner's registers encode. -/
inductive TuningCall where
  | frequency (freqHz : UInt32)
  | gain (gainTenthDb : Int32)
deriving DecidableEq, Repr

def TuningCall.toConfig : TuningCall → ConfigCall
  | .frequency freqHz => .setFrequency freqHz
  | .gain gainTenthDb => .setGain gainTenthDb

/-- The world after a call that returned `SDRGG_OK`. -/
def tuningStep (env : Env) (w : World) (call : TuningCall) : Option World :=
  configStep env w call.toConfig

/-- The indices that a gain, or the automatic control, asks of the stages of an R820T. -/
def gainIndices (gainTenthDb : Int32) : Option R820t.GainIndices :=
  if gainTenthDb = gainAuto then some ⟨-1, -1, 11⟩
  else (R820t.selectGainProfile gainTenthDb).map fun profile =>
    ⟨profile.lnaIndex.toUInt32.toInt32, profile.mixerIndex.toUInt32.toInt32,
      profile.vgaIndex.toUInt32.toInt32⟩

/-- The registers hold the gain that has been asked for. -/
def EncodesGain (gainTenthDb : Int32) (regs : UInt8 → UInt8) : Prop :=
  ∃ x, gainIndices gainTenthDb = some x ∧
    ReadsBack x.writes fun i => regs (R820t.shadowLayout.key i)

/-- The shadow file holds the PLL of the committed frequency. -/
def FreqShadowed (w : World) : Prop :=
  ∃ enc, R820t.encodingFor w.dev.baseband
      (w.dev.tuning.centerFreqHz + w.dev.tuning.ifOffsetHz) = some enc ∧
    ReadsBack (R820t.pllWrites enc) w.dev.shadow.r820tFile

/-- The shadow file holds the committed gain. -/
def GainShadowed (w : World) : Prop :=
  ∃ x, gainIndices w.dev.tuning.gainPolicy = some x ∧
    ReadsBack x.writes w.dev.shadow.r820tFile

section R820t

variable {c : Chip} {env : Env} {w w' : World}

theorem stages_wrote {x : R820t.GainIndices} (hclass : w.dev.identity.tunerClass.isR820t = true)
    (h : (do
      R820t.setLnaGain x.lna
      R820t.setMixerGain x.mixer
      R820t.setVgaGain x.vga : DevM Unit) env w = (.ok (), w')) :
    R820t.Wrote x.writes (tunerView c w) (tunerView c w') := by
  obtain ⟨_, u, hu, h⟩ := Act.bind_eq_ok.mp h
  obtain ⟨_, v, hv, h⟩ := Act.bind_eq_ok.mp h
  have hlna := R820t.setLnaGain_wrote (c := c) hclass hu
  have hmixer := hlna.trans (R820t.setMixerGain_wrote (hlna.isR820t hclass) hv)
  exact hmixer.trans (R820t.setVgaGain_wrote (hmixer.isR820t hclass) h)

theorem applyGain_wrote {gainTenthDb : Int32}
    (hclass : w.dev.identity.tunerClass.isR820t = true)
    (h : applyGain r820tContract gainTenthDb env w = (.ok (), w')) :
    ∃ x, gainIndices gainTenthDb = some x ∧
      R820t.Wrote x.writes (tunerView c w) (tunerView c w') := by
  unfold applyGain at h
  unfold gainIndices
  split at h
  · rename_i hauto
    rw [if_pos hauto]
    exact ⟨_, rfl, stages_wrote (x := ⟨-1, -1, 11⟩) hclass h⟩
  · rename_i hmanual
    rw [if_neg hmanual]
    change r820tApplyGain gainTenthDb env w = _ at h
    unfold r820tApplyGain at h
    rcases hselect : R820t.selectGainProfile gainTenthDb with _ | profile <;> rw [hselect] at h
    · cases h
    · exact ⟨_, rfl, stages_wrote (x := ⟨_, _, _⟩) hclass h⟩

/-- The writes that a gain which has been set has made on an R820T. -/
theorem setGain_wrote {gainTenthDb : Int32} (hclass : w.dev.identity.tunerClass = .r820t)
    (h : setGain gainTenthDb env w = (.ok (), w')) :
    ∃ x, gainIndices gainTenthDb = some x ∧
      R820t.Wrote x.writes (tunerView c w) (tunerView c w') := by
  have hcontract : activeContract TunerType.r820t = some r820tContract := rfl
  rw [setGain, Act.bind_of_ok (device_apply env w), hclass, hcontract] at h
  obtain ⟨_, u, hu, h⟩ := Act.bind_eq_ok.mp h
  obtain ⟨rc, v, hv, h⟩ := Act.bind_eq_ok.mp h
  obtain ⟨_, x, hx, h⟩ := Act.bind_eq_ok.mp h
  obtain ⟨_, y, hy, h⟩ := Act.bind_eq_ok.mp h
  obtain ⟨rfl, rfl⟩ := Act.ofExcept_eq_ok.mp h
  have hpause := (keepsTuner_pauseBulk (c := c) _).world hu
  have hresume := (keepsTuner_resumeBulk (c := c) _).world hy
  have hcommit : tunerView c x = tunerView c v := by
    cases hx
    rfl
  obtain ⟨_, -, happly⟩ | ⟨_, hrc, -⟩ := Act.attempt_eq_ok.mp hv
  · have hidentity : u.dev.identity = w.dev.identity := congrArg TunerView.identity hpause
    rw [hresume, hcommit, ← hpause]
    exact applyGain_wrote (by rw [hidentity, hclass]; rfl) happly
  · cases hrc

/-- The writes that a frequency which has been set has made on an R820T. -/
theorem setFrequency_wrote {freqHz hz : UInt32} (hclass : w.dev.identity.tunerClass = .r820t)
    (h : setFrequency freqHz env w = (.ok hz, w')) :
    ∃ enc locked,
      R820t.encodingFor w.dev.baseband (freqHz + w.dev.tuning.ifOffsetHz) = some enc ∧
      R820t.Wrote (R820t.freqWrites (freqHz + w.dev.tuning.ifOffsetHz) enc locked)
        (tunerView c w) (tunerView c w') := by
  obtain ⟨-, u, v, htune, hconfig, hbefore, hafter⟩ := setFrequency_tunes (c := c) h
  have hidentity : u.dev.identity = w.dev.identity := congrArg Config.identity hconfig
  have hbaseband : u.dev.baseband = w.dev.baseband := congrArg Config.baseband hconfig
  have hif : u.dev.tuning.ifOffsetHz = w.dev.tuning.ifOffsetHz :=
    congrArg (fun c => c.tuning.ifOffsetHz) hconfig
  rw [tune, Act.bind_of_ok (device_apply env u), hidentity, hclass, if_neg (by decide), hif,
    R820t.setFreq_seen] at htune
  obtain ⟨locked, x, hx, htune⟩ := Act.bind_eq_ok.mp htune
  cases htune
  obtain ⟨enc, henc, hwrote⟩ := R820t.setFreqSeen_wrote (c := c)
    (by rw [hidentity, hclass]; rfl) hx
  rw [hbaseband] at henc
  rw [hbefore] at hwrote
  rw [hafter]
  exact ⟨enc, locked, henc, hwrote⟩

/-- A call that succeeds establishes what it commits, and keeps what the other kind has
committed. -/
theorem tuningStep_shadow {call : TuningCall} (hclass : w.dev.identity.tunerClass = .r820t)
    (h : tuningStep env w call = some w') :
    (FreqShadowed w ∨ (∃ freqHz, call = .frequency freqHz) → FreqShadowed w') ∧
      (GainShadowed w ∨ (∃ gainTenthDb, call = .gain gainTenthDb) → GainShadowed w') := by
  have hrun := configStep_eq_some.mp h
  cases call with
  | frequency freqHz =>
    obtain ⟨hz, hset⟩ := perform_setFrequency hrun
    obtain ⟨hconfig, -⟩ := setFrequency_ok (hclass ▸ nofun) hset
    obtain ⟨enc, locked, henc, hwrote⟩ := setFrequency_wrote (c := blankChip) hclass hset
    have hbaseband : w'.dev.baseband = w.dev.baseband := congrArg Config.baseband hconfig
    have htuning := congrArg Config.tuning hconfig
    simp only [World.config_tuning] at htuning
    refine ⟨fun _ => ⟨enc, ?_, hwrote.readsBack⟩, fun hgained => ?_⟩
    · rw [hbaseband, htuning]
      exact henc
    · obtain ⟨x, hx, hback⟩ := hgained.resolve_right (by simp)
      refine ⟨x, by rw [htuning]; exact hx, ?_⟩
      rw [show w'.dev.shadow.r820tFile = _ from hwrote.shadow]
      exact hback.frame (x.disjoint_freq henc locked)
  | gain gainTenthDb =>
    obtain ⟨x, hx, hwrote⟩ := setGain_wrote (c := blankChip) hclass hrun
    have hconfig := setGain_ok hrun
    have hbaseband : w'.dev.baseband = w.dev.baseband := congrArg Config.baseband hconfig
    have htuning := congrArg Config.tuning hconfig
    simp only [World.config_tuning] at htuning
    have hfile : w'.dev.shadow.r820tFile = applyAll x.writes w.dev.shadow.r820tFile :=
      hwrote.shadow
    refine ⟨fun htuned => ?_, fun _ => ⟨x, by rw [htuning]; exact hx, ?_⟩⟩
    · obtain ⟨enc, henc, hback⟩ := htuned.resolve_right (by simp)
      refine ⟨enc, ?_, ?_⟩
      · rw [hbaseband, htuning]
        exact henc
      · rw [hfile]
        exact hback.frame (x.disjoint_pll enc)
    · rw [hfile]
      exact x.readsBack _

end R820t

/-- No call of a history changes the tuner. -/
theorem tuningStep_identity {env : Env} {w w' : World} {call : TuningCall}
    (h : tuningStep env w call = some w') : w'.dev.identity = w.dev.identity := by
  have hrun := configStep_eq_some.mp h
  cases call with
  | frequency freqHz =>
    obtain ⟨hz, hset⟩ := perform_setFrequency hrun
    exact (setFrequency_off hset).1
  | gain gainTenthDb => exact congrArg Config.identity (setGain_ok hrun)

theorem run_identity {env : Env} {w w' : World} {calls : List TuningCall}
    (h : run (tuningStep env) w calls = some w') : w'.dev.identity = w.dev.identity :=
  run_invariant (I := fun v => v.dev.identity = w.dev.identity)
    (fun _ _ _ hv hstep => (tuningStep_identity hstep).trans hv) rfl h

/-- A history of an R820T leaves in the shadow file what it has committed. -/
theorem run_shadow {env : Env} {w w' : World} {calls : List TuningCall}
    (hclass : w.dev.identity.tunerClass = .r820t) (h : run (tuningStep env) w calls = some w') :
    ((∃ freqHz, .frequency freqHz ∈ calls) → FreqShadowed w') ∧
      ((∃ gainTenthDb, .gain gainTenthDb ∈ calls) → GainShadowed w') := by
  have hkept (s : World) (call : TuningCall) (t : World) (hs : s.dev.identity.tunerClass = .r820t)
      (hstep : tuningStep env s call = some t) : t.dev.identity.tunerClass = .r820t := by
    rw [tuningStep_identity hstep]
    exact hs
  constructor
  · rintro ⟨freqHz, hmem⟩
    exact run_established (P := FreqShadowed)
      (E := fun call => ∃ freqHz, call = .frequency freqHz) hkept
      (fun _ _ _ hs hstep => (tuningStep_shadow hs hstep).1) hclass h (.inr ⟨_, hmem, freqHz, rfl⟩)
  · rintro ⟨gainTenthDb, hmem⟩
    exact run_established (P := GainShadowed) (E := fun call => ∃ gain, call = .gain gain) hkept
      (fun _ _ _ hs hstep => (tuningStep_shadow hs hstep).2) hclass h
      (.inr ⟨_, hmem, gainTenthDb, rfl⟩)

/-! ### The reset -/

section Reset

variable {c : Chip} {env : Env} {w w' : World}

theorem keeps_resetTuner : Keeps World.config resetTuner := by
  refine keeps_device.bind fun dev => ?_
  have hflush : Keeps World.config ((List.finRange 27).forM R820t.flushRegister) :=
    Keeps.forM _ fun i _ => R820t.keeps_flushRegister i
  have hcold := Fc0012.keeps_init
  grind

theorem resetTuner_keeps (h : resetTuner env w = (.ok (), w')) : w'.config = w.config :=
  keeps_resetTuner.world h

/-- A reset of an FC0012 is its cold start. -/
theorem resetTuner_fc0012 (hidentity : w.dev.identity = ⟨.fc0012, 0xC6⟩)
    (h : resetTuner env w = (.ok (), w')) : Fc0012.ColdStarted (tunerReg c w') := by
  have haddr : w'.dev.identity = ⟨.fc0012, 0xC6⟩ :=
    (congrArg Config.identity (resetTuner_keeps h)).trans hidentity
  rw [resetTuner, Act.bind_of_ok (device_apply env w), hidentity, if_pos (by decide), if_pos rfl]
    at h
  have hcold := Fc0012.init_ok (c := c) h
  unfold tunerReg
  rw [haddr]
  exact hcold

/-- A reset of an R820T leaves every register with its shadow, and the shadow file as it was. -/
theorem resetTuner_r820t (hclass : w.dev.identity.tunerClass = .r820t)
    (h : resetTuner env w = (.ok (), w')) :
    w'.dev.shadow = w.dev.shadow ∧
      ∀ i : Fin 27, tunerReg c w' (0x05 + UInt8.ofNat i) = w.dev.shadow.r820tFile i := by
  have hview := R820t.resetTuner_ok (c := c) hclass h
  have hstep : R820t.Shadowed (tunerView c w') := by
    rw [hview]
    exact R820t.flushed_all (by rw [show (tunerView c w).identity.tunerClass = _ from hclass]; rfl)
  have hshadow : w'.dev.shadow = w.dev.shadow := congrArg TunerView.shadow hview
  refine ⟨hshadow, fun i => ?_⟩
  rw [← hshadow]
  exact hstep.mirrors i

end Reset

/-- Whatever the registers of the tuner have come to hold, a reset that succeeds restores those of an
R820T from its shadow file, and with them the frequency and the gain that a history of calls has
committed.  An FC0012 is started cold instead, and holds no frequency until it is tuned again. -/
theorem resetTuner_restores {caps : TunerCaps} (hcaps : caps ∈ implementedCaps) {env env' : Env}
    {w0 w v v' : World} {calls : List TuningCall}
    (hopen : Opened caps.tunerType caps.i2cAddr caps.ifFreqHz w0)
    (hrun : run (tuningStep env) w0 calls = some w) (hdev : v.dev = w.dev)
    (hreset : resetTuner env' v = (.ok (), v')) (c : Chip) :
    v'.dev.tuning = w.dev.tuning ∧
      (caps.tunerType = .r820t →
        v'.dev.shadow = w.dev.shadow ∧
        (∀ i : Fin 27, tunerReg c v' (0x05 + UInt8.ofNat i) = w.dev.shadow.r820tFile i) ∧
        ((∃ freqHz, .frequency freqHz ∈ calls) →
          R820t.Encodes w.dev.baseband (w.dev.tuning.centerFreqHz + w.dev.tuning.ifOffsetHz)
            (tunerReg c v')) ∧
        ((∃ gainTenthDb, .gain gainTenthDb ∈ calls) →
          EncodesGain w.dev.tuning.gainPolicy (tunerReg c v'))) ∧
      (caps.tunerType = .fc0012 →
        Fc0012.ColdStarted (tunerReg c v') ∧
        ∀ freqHz, ¬Fc0012.Encodes (tunerReg c v') freqHz) := by
  have hidentity : v.dev.identity = ⟨caps.tunerType, caps.i2cAddr⟩ := by
    rw [hdev, run_identity hrun]
    exact hopen.identity
  have htuning : v'.dev.tuning = v.dev.tuning := congrArg Config.tuning (resetTuner_keeps hreset)
  refine ⟨hdev ▸ htuning, fun hr => ?_, fun hfc => ?_⟩
  · have hclass : v.dev.identity.tunerClass = .r820t := by
      rw [hidentity]
      exact hr
    have hw0 : w0.dev.identity.tunerClass = .r820t := by
      rw [hopen.identity]
      exact hr
    obtain ⟨hshadow, hregs⟩ := resetTuner_r820t (c := c) hclass hreset
    rw [hdev] at hshadow hregs
    obtain ⟨htuned, hgained⟩ := run_shadow hw0 hrun
    have hfile : (fun i => tunerReg c v' (R820t.shadowLayout.key i)) = w.dev.shadow.r820tFile :=
      funext hregs
    refine ⟨hshadow, hregs, fun hfreq => ?_, fun hgain => ?_⟩
    · obtain ⟨enc, henc, hback⟩ := htuned hfreq
      refine ⟨enc, henc, R820t.holds_iff.mpr ?_⟩
      rw [hfile]
      exact hback
    · obtain ⟨x, hx, hback⟩ := hgained hgain
      refine ⟨x, hx, ?_⟩
      rw [hfile]
      exact hback
  · simp only [implementedCaps, List.mem_cons, List.not_mem_nil, or_false] at hcaps
    obtain rfl | rfl := hcaps
    · cases hfc
    · have hcold := resetTuner_fc0012 (c := c) hidentity hreset
      exact ⟨hcold, hcold.not_encodes⟩

theorem total_resetTuner {env : Env} (h : env.Accepts) {w : World}
    (hclass : w.dev.identity.tunerClass = .r820t) : ∃ w', resetTuner env w = (.ok (), w') := by
  have hflush : Total env ((List.finRange 27).forM R820t.flushRegister) :=
    Total.forM _ fun i _ => total_device.bind fun _ => total_tunerWriteReg h
  rw [resetTuner, Act.bind_of_ok (device_apply env w), if_neg (fun hne => hne hclass)]
  have hopen : Total env (enableI2cRepeater true) := total_enableI2cRepeater h
  have hclose : Total env (enableI2cRepeater false) := total_enableI2cRepeater h
  obtain ⟨_, w', hw'⟩ := (hopen.bind fun _ => hflush.closing hclose) w
  exact ⟨w', hw'⟩

/-- An R820T at 100 MHz and 19.2 dB, of which the registers have been lost. -/
theorem resetTuner_restores_lost : ∃ w v',
    run (tuningStep steadyEnv) openedR820t [.frequency 100000000, .gain 192] = some w ∧
    resetTuner steadyEnv { w with log := [] } = (.ok (), v') ∧
    R820t.Encodes ⟨28800000, 0⟩ 103570000 (tunerReg blankChip v') ∧
    EncodesGain 192 (tunerReg blankChip v') := by
  have hrun : (run (tuningStep steadyEnv) openedR820t [.frequency 100000000, .gain 192]).map
      (fun w => (w.dev.baseband, w.dev.tuning.centerFreqHz, w.dev.tuning.ifOffsetHz,
        w.dev.tuning.gainPolicy)) = some (⟨28800000, 0⟩, 100000000, 3570000, 192) := by
    decide +kernel
  obtain ⟨w, hw, hdev⟩ := Option.map_eq_some_iff.mp hrun
  obtain ⟨hbaseband, hcenter, hif, hgain⟩ : w.dev.baseband = _ ∧
      w.dev.tuning.centerFreqHz = _ ∧ w.dev.tuning.ifOffsetHz = _ ∧
      w.dev.tuning.gainPolicy = _ := by
    simpa only [Prod.mk.injEq] using hdev
  have hclass : w.dev.identity.tunerClass = .r820t :=
    congrArg DeviceIdentity.tunerClass (run_identity hw)
  obtain ⟨v', hreset⟩ := total_resetTuner steadyEnv_succeeds.accepts
    (w := { w with log := [] }) hclass
  obtain ⟨-, hr820t, -⟩ := resetTuner_restores (v := { w with log := [] })
    (show r820tCaps ∈ implementedCaps by simp [implementedCaps]) openedR820t_opened hw rfl hreset
    blankChip
  obtain ⟨-, -, htuned, hgained⟩ := hr820t rfl
  have hfreq := htuned ⟨100000000, by simp⟩
  have hpolicy := hgained ⟨192, by simp⟩
  rw [hbaseband, hcenter, hif] at hfreq
  rw [hgain] at hpolicy
  exact ⟨w, v', hw, hreset, hfreq, hpolicy⟩

/-- An FC0012 at 100 MHz and 19.2 dB. -/
def listeningFc0012 : World :=
  (setGain 192 steadyEnv (setFrequency 100000000 steadyEnv openedFc0012).2).2

/-- Its reset leaves the committed values, and neither in the registers. -/
theorem resetTuner_loses :
    (setFrequency 100000000 steadyEnv openedFc0012).1 = .ok 100000000 ∧
    (setGain 192 steadyEnv (setFrequency 100000000 steadyEnv openedFc0012).2).1 = .ok () ∧
    tunerReg blankChip listeningFc0012 0x13 &&& 0x1F = (Fc0012.resolveGainState 192).hwCode ∧
    (resetTuner steadyEnv listeningFc0012).1 = .ok () ∧
    (resetTuner steadyEnv listeningFc0012).2.dev.tuning.centerFreqHz = 100000000 ∧
    (resetTuner steadyEnv listeningFc0012).2.dev.tuning.gainPolicy = 192 ∧
    ¬Fc0012.Encodes (tunerReg blankChip (resetTuner steadyEnv listeningFc0012).2) 100000000 ∧
    tunerReg blankChip (resetTuner steadyEnv listeningFc0012).2 0x13 &&& 0x1F ≠
      (Fc0012.resolveGainState 192).hwCode := by
  have hdivider : tunerReg blankChip (resetTuner steadyEnv listeningFc0012).2 0x05 ≠
      Fc0012.deriveDividerEncoding (Fc0012.deriveMultiplier 100000000).multiplierIndex ||| 0x07 := by
    decide +kernel
  refine ⟨?_, ?_, ?_, ?_, ?_, ?_, fun ⟨_, _, _, _, _, h⟩ => hdivider h.divider, ?_⟩ <;>
    decide +kernel

end Sdrgg.Sdr
