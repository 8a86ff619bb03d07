import Sdrgg.Core.Success
import Sdrgg.ProofKit.Mirror
import Sdrgg.Rtl.Chip
import Sdrgg.Rtl.Session

/-! The shadow file of an R820T against the registers of the chip: the write paths that keep the two
equal, and those that do not. -/

namespace Sdrgg.R820t

open ProofKit Usb Rtl

/-! ### The shadow file as a mirror -/

/-- Literals name the places of the shadow file. -/
instance shadow_ne_zero : @NeZero Nat Zero.ofOfNat0 27 := ⟨by decide⟩

theorem shadowIndex_eq_some {reg : UInt8} {i : Fin 27} :
    shadowIndex reg = some i ↔ reg = 0x05 + UInt8.ofNat i := by
  have hkey : (0x05 + UInt8.ofNat i).toNat = 0x05 + i := by
    rw [UInt8.toNat_add, UInt8.toNat_ofNat']
    simp only [UInt8.reduceToNat]
    omega
  rw [← UInt8.toNat_inj, hkey, shadowIndex]
  split
  · rw [Option.some_inj, Fin.ext_iff]
    dsimp only
    omega
  · refine iff_of_false (by simp) ?_
    omega

/-- The registers from 0x05 to 0x1F, each with its place in the shadow file. -/
def shadowLayout : Layout UInt8 (Fin 27) where
  key i := 0x05 + UInt8.ofNat i
  place := shadowIndex
  place_eq_some := shadowIndex_eq_some

/-- The tuner is an R820T, and its shadow file holds what its registers do. -/
structure Shadowed (t : TunerView) : Prop where
  isR820t : t.identity.tunerClass.isR820t = true
  mirrors : shadowLayout.Mirrors (t.i2c t.identity.tunerBusAddr) t.shadow.r820tFile

/-- The shadow file of an R820T after a write. -/
theorem shadowed_file {d : Device} (h : d.identity.tunerClass.isR820t = true) (reg val : UInt8) :
    (Device.shadowed d reg val).shadow.r820tFile =
      shadowLayout.writeThrough d.shadow.r820tFile reg val := by
  have hplace : shadowLayout.place reg = shadowIndex reg := rfl
  unfold Device.shadowed Layout.writeThrough
  rw [hplace]
  cases shadowIndex reg with
  | none => rfl
  | some i => exact congrArg (fun d : Device => d.shadow.r820tFile) (if_pos h)

section Views

variable {c : Chip} {env : Env} {w u : World}

/-- The tuner with a register and its shadow written. -/
def wroteThrough (t : TunerView) (reg val : UInt8) : TunerView :=
  { t.framed [reg, val] with
    shadow := ⟨shadowLayout.writeThrough t.shadow.r820tFile reg val⟩ }

theorem Shadowed.wroteThrough {t : TunerView} (h : Shadowed t) (reg val : UInt8) :
    Shadowed (wroteThrough t reg val) := by
  refine ⟨h.isR820t, ?_⟩
  simp only [R820t.wroteThrough, TunerView.framed, i2cWritten, written, Function.update_self]
  exact shadowLayout.mirrors_write h.mirrors reg val

/-- The note of a write that arrived. -/
theorem tunerView_shadowed {reg val : UInt8} {x : Unit} {v : World}
    (hclass : w.dev.identity.tunerClass.isR820t = true)
    (h : tunerView c u = (tunerView c w).framed [reg, val])
    (hv : modifyDevice (fun d => Device.shadowed d reg val) env u = (.ok x, v)) :
    tunerView c v = wroteThrough (tunerView c w) reg val := by
  cases hv
  have hidentity : u.dev.identity = w.dev.identity := congrArg TunerView.identity h
  have hshadow : u.dev.shadow = w.dev.shadow := congrArg TunerView.shadow h
  have hfile := shadowed_file (d := u.dev) (hidentity ▸ hclass) reg val
  rw [hshadow] at hfile
  rw [wroteThrough, ← h]
  unfold tunerView
  rw [Device.shadowed_identity]
  congr 1
  exact congrArg TunerShadow.mk hfile

theorem tunerWriteReg_ok {reg val : UInt8} (hclass : w.dev.identity.tunerClass.isR820t = true)
    (h : tunerWriteReg reg val env w = (.ok (), u)) :
    tunerView c u = wroteThrough (tunerView c w) reg val := by
  obtain ⟨_, v, hv, h⟩ := Act.bind_eq_ok.mp h
  exact tunerView_shadowed hclass (tunerWrite_ok hv) h

theorem tunerWriteReg_error {reg val : UInt8} {e : Fault SdrggError}
    (h : tunerWriteReg reg val env w = (.error e, u)) : tunerView c u = tunerView c w := by
  obtain h | ⟨_, v, -, h⟩ := Act.bind_eq_fault.mp h
  · exact tunerWrite_error h
  · cases h

end Views

/-! ### What keeps the shadow file in step -/

section Preserves

variable {c : Chip} {env : Env}

/-- The shadow file of the device is in step with its tuner. -/
abbrev InStep (c : Chip) (w : World) : Prop := Shadowed (tunerView c w)

theorem inStep_of_keeps {α : Type} {m : DevM α} (h : Keeps (tunerView c) m) :
    Preserves env (InStep c) m := by
  refine h.preserves fun w w' heq hw => ?_
  rw [InStep, heq]
  exact hw

theorem inStep_tunerWriteReg (reg val : UInt8) :
    Preserves env (InStep c) (tunerWriteReg reg val) := by
  intro w hw
  rcases h : tunerWriteReg reg val env w with ⟨e | _, u⟩
  · rw [InStep, tunerWriteReg_error h]
    exact hw
  · rw [InStep, tunerWriteReg_ok hw.isR820t h]
    exact hw.wroteThrough reg val

theorem inStep_tunerRmw (reg val mask : UInt8) :
    Preserves env (InStep c) (tunerRmw reg val mask) :=
  Preserves.bind (inStep_of_keeps (keepsTuner_tunerCurrent reg)) fun _ => inStep_tunerWriteReg _ _

theorem inStep_sessionWrite (reg val : UInt8) :
    Preserves env (InStep c) (sessionWrite reg val) := by
  intro w hw
  rw [sessionWrite, Act.bind_of_ok (device_apply env w)]
  rcases h : controlWrite w.dev.identity.tunerBusAddr 0x0610 [reg, val] env w with ⟨e | _, u⟩
  · rw [Act.bind_of_error h, InStep, tunerFrame_error h]
    exact hw
  · rw [Act.bind_of_ok h]
    rcases hv : modifyDevice (fun d => Device.shadowed d reg val) env u with ⟨e | _, v⟩
    · cases hv
    · rw [InStep, tunerView_shadowed hw.isR820t (tunerFrame_ok h) hv]
      exact hw.wroteThrough reg val

theorem inStep_session {α : Type} {ops : DevM α} (h : Preserves env (InStep c) ops) :
    Preserves env (InStep c) (session ops) := by
  have hrepeater (enable : Bool) : Preserves env (InStep c) (enableI2cRepeater enable) :=
    inStep_of_keeps (keepsTuner_enableI2cRepeater enable)
  refine (hrepeater true).bind fun _ => h.attempt.bind fun out => ?_
  cases out with
  | ok a => exact (hrepeater false).bind fun _ => Preserves.pure a
  | error e => exact (hrepeater false).ignore.bind fun _ => Preserves.fail e

theorem inStep_tunerWriteBatch (pairs : List (UInt8 × UInt8)) :
    Preserves env (InStep c) (tunerWriteBatch pairs) :=
  inStep_session (Preserves.forM pairs fun _ _ => inStep_sessionWrite _ _)

theorem inStep_lowerIntents (seq : List RegIntent) :
    Preserves env (InStep c) (lowerIntents seq) := by
  refine Preserves.forM seq fun intent _ => ?_
  unfold lowerIntent
  split
  · exact Preserves.pure _
  · split
    · exact inStep_tunerWriteReg _ _
    · exact inStep_tunerRmw _ _ _

theorem inStep_setLnaGain (index : Int32) : Preserves env (InStep c) (setLnaGain index) := by
  unfold setLnaGain
  split <;> exact inStep_tunerRmw _ _ _

theorem inStep_setMixerGain (index : Int32) : Preserves env (InStep c) (setMixerGain index) := by
  unfold setMixerGain
  split <;> exact inStep_tunerRmw _ _ _

theorem inStep_setVgaGain (index : Int32) : Preserves env (InStep c) (setVgaGain index) :=
  inStep_tunerRmw _ _ _

theorem inStep_acquireLock : Preserves env (InStep c) acquireLock := by
  have hprobe : Keeps (tunerView c) probeLockStatus :=
    (keepsTuner_tunerRead 0x00 3).bind fun _ => Keeps.pure _
  refine Preserves.bind (inStep_of_keeps hprobe) fun locked => ?_
  split
  · refine (inStep_tunerRmw _ _ _).bind fun _ => Preserves.bind (inStep_of_keeps hprobe) fun _ => ?_
    split
    · exact Preserves.bind (Preserves.fail _) fun _ => inStep_tunerRmw _ _ _
    · exact inStep_tunerRmw _ _ _
  · exact inStep_tunerRmw _ _ _

theorem inStep_programPll (freqHz : UInt32) : Preserves env (InStep c) (programPll freqHz) := by
  refine Preserves.bind (inStep_of_keeps keepsTuner_device) fun dev => ?_
  refine Preserves.bind (Preserves.ofOption _) fun candidates => ?_
  split
  · exact Preserves.fail _
  · refine Preserves.bind (Preserves.ofOption _) fun enc => ?_
    exact (inStep_lowerIntents _).bind fun _ => inStep_acquireLock

theorem inStep_setFreq (freqHz ifFreqHz : UInt32) :
    Preserves env (InStep c) (setFreq freqHz ifFreqHz) := by
  have hpll : Preserves env (InStep c) (setPll (freqHz + ifFreqHz)) :=
    Preserves.bind (fun _ hw => hw) fun _ => inStep_programPll _
  exact (inStep_lowerIntents _).bind fun _ => hpll.bind fun _ => inStep_lowerIntents _

theorem inStep_setBandwidth (bwKhz : UInt32) : Preserves env (InStep c) (setBandwidth bwKhz) :=
  (inStep_lowerIntents _).bind fun _ => inStep_of_keeps (keepsTuner_setIfFreq _)

theorem inStep_flushRegister (i : Fin 27) : Preserves env (InStep c) (flushRegister i) :=
  Preserves.bind (inStep_of_keeps keepsTuner_device) fun _ => inStep_tunerWriteReg _ _

theorem inStep_resetTuner : Preserves env (InStep c) resetTuner := by
  intro w hw
  have hfc : w.dev.identity.tunerClass ≠ .fc0012 := by
    intro hfc
    have hclass : w.dev.identity.tunerClass.isR820t = true := hw.isR820t
    rw [hfc] at hclass
    cases hclass
  have hrepeater (enable : Bool) : Preserves env (InStep c) (enableI2cRepeater enable) :=
    inStep_of_keeps (keepsTuner_enableI2cRepeater enable)
  have hflush : Preserves env (InStep c) (do
      enableI2cRepeater true
      Act.closing ((List.finRange 27).forM flushRegister) (enableI2cRepeater false)) :=
    (hrepeater true).bind fun _ =>
      (Preserves.forM _ fun i _ => inStep_flushRegister i).closing (hrepeater false)
  rw [resetTuner, Act.bind_of_ok (device_apply env w)]
  split
  · exact hw
  · exact hflush w hw

end Preserves

/-! ### The cold start -/

section Flush

variable {c : Chip} {env : Env} {w u : World}

/-- The tuner after the places `l` of its shadow file have been flushed. -/
def flushed (t : TunerView) (l : List (Fin 27)) : TunerView :=
  { t with
    i2c := Function.update t.i2c t.identity.tunerBusAddr
      (shadowLayout.flush t.shadow.r820tFile (t.i2c t.identity.tunerBusAddr) l) }

theorem flushRegister_ok {i : Fin 27} (hclass : w.dev.identity.tunerClass.isR820t = true)
    (h : flushRegister i env w = (.ok (), u)) : tunerView c u = flushed (tunerView c w) [i] := by
  rw [flushRegister, Act.bind_of_ok (device_apply env w)] at h
  rw [tunerWriteReg_ok hclass h, wroteThrough]
  have hself := shadowLayout.writeThrough_self w.dev.shadow.r820tFile i
  exact congrArg (fun file => { (tunerView c w).framed _ with shadow := ⟨file⟩ }) hself

theorem flush_ok {l : List (Fin 27)} (hclass : w.dev.identity.tunerClass.isR820t = true)
    (h : l.forM flushRegister env w = (.ok (), u)) :
    tunerView c u = flushed (tunerView c w) l := by
  induction l generalizing w with
  | nil =>
    cases h
    exact congrArg (fun i2c => TunerView.mk _ _ i2c) (Function.update_eq_self _ _).symm
  | cons i l ih =>
    obtain ⟨_, v, hv, h⟩ := Act.bind_eq_ok.mp h
    have hone := flushRegister_ok (c := c) hclass hv
    have hidentity : v.dev.identity = w.dev.identity := congrArg TunerView.identity hone
    rw [ih (hidentity ▸ hclass) h, hone]
    simp only [flushed, Function.update_self, Function.update_idem]
    rfl

theorem tunerRmw_error {reg val mask : UInt8} {e : Fault SdrggError}
    (h : tunerRmw reg val mask env w = (.error e, u)) : tunerView c u = tunerView c w := by
  have hcurrent := keepsTuner_tunerCurrent (c := c) reg
  obtain h | ⟨cur, v, hv, h⟩ := Act.bind_eq_fault.mp h
  · exact hcurrent.world h
  · exact (tunerWriteReg_error h).trans (hcurrent.world hv)

/-- The register writes of `init`, in their order. -/
def initWrites : List (DevM Unit) :=
  (List.finRange 27).map flushRegister ++ [setLnaGain (-1), setMixerGain (-1), setVgaGain 11]

/-- The device with the power-up image in its shadow file. -/
def imaged (w : World) : World := { w with dev.shadow := ⟨composePowerupImage⟩ }

theorem forM_flush (l : List (Fin 27)) :
    (l.map flushRegister).forM id = l.forM flushRegister := by
  simp [List.forM_map]

theorem forM_flush_append (l : List (Fin 27)) (ops : List (DevM Unit)) :
    (l.map flushRegister ++ ops).forM id = (do l.forM flushRegister; ops.forM id) := by
  simp [List.forM_append, List.forM_map]

theorem init_eq (env : Env) (w : World) : init env w = initWrites.forM id env (imaged w) := by
  have hgains : [setLnaGain (-1), setMixerGain (-1), setVgaGain 11].forM id = (do
      setLnaGain (-1)
      setMixerGain (-1)
      setVgaGain 11) := by
    simp
  rw [initWrites, forM_flush_append, hgains]
  rfl

/-- A register write of `init` that fails leaves the tuner as it was. -/
theorem initWrites_error {m : DevM Unit} (hm : m ∈ initWrites) {e : Fault SdrggError}
    (h : m env w = (.error e, u)) : tunerView c u = tunerView c w := by
  simp only [initWrites, List.mem_append, List.mem_map, List.mem_cons, List.not_mem_nil,
    or_false] at hm
  rcases hm with ⟨i, -, rfl⟩ | rfl | rfl | rfl
  · rw [flushRegister, Act.bind_of_ok (device_apply env w)] at h
    exact tunerWriteReg_error h
  all_goals exact tunerRmw_error h

theorem inStep_gains : ∀ m ∈ [setLnaGain (-1), setMixerGain (-1), setVgaGain 11],
    Preserves env (InStep c) m := by
  simp only [List.mem_cons, List.not_mem_nil, or_false]
  rintro m (rfl | rfl | rfl)
  · exact inStep_setLnaGain _
  · exact inStep_setMixerGain _
  · exact inStep_setVgaGain _

/-- The tuner is in step after a part of the flush exactly when the registers that it has not
reached hold their power-up values already. -/
theorem inStep_flushed {l : List (Fin 27)} (hclass : w.dev.identity.tunerClass.isR820t = true) :
    Shadowed (flushed (tunerView c (imaged w)) l) ↔
      ∀ i, i ∉ l →
        (tunerView c w).i2c w.dev.identity.tunerBusAddr (shadowLayout.key i) =
          composePowerupImage i := by
  rw [← shadowLayout.mirrors_flush_iff]
  have hi2c : (flushed (tunerView c (imaged w)) l).i2c w.dev.identity.tunerBusAddr =
      shadowLayout.flush composePowerupImage
        ((tunerView c w).i2c w.dev.identity.tunerBusAddr) l := Function.update_self _ _ _
  rw [← hi2c]
  exact ⟨fun h => h.mirrors, fun h => ⟨hclass, h⟩⟩

/-- The whole flush brings the tuner in step. -/
theorem inStep_of_flush (hclass : w.dev.identity.tunerClass.isR820t = true)
    (h : (List.finRange 27).forM flushRegister env (imaged w) = (.ok (), u)) : InStep c u := by
  rw [InStep, flush_ok (w := imaged w) hclass h, inStep_flushed hclass]
  exact fun i hi => absurd (List.mem_finRange i) hi

theorem inStep_init (hclass : w.dev.identity.tunerClass.isR820t = true)
    (h : init env w = (.ok (), u)) : InStep c u := by
  rw [init_eq, initWrites, forM_flush_append] at h
  obtain ⟨_, v, hv, h⟩ := Act.bind_eq_ok.mp h
  exact (Preserves.forM _ inStep_gains).world (inStep_of_flush hclass hv) h

theorem keepsShadow_tunerRmw {reg val mask : UInt8} {i : Fin 27} (hi : shadowIndex reg ≠ some i) :
    Keeps (fun w => w.dev.shadow.r820tFile i) (tunerRmw reg val mask) := by
  have hcurrent : Keeps (fun w => w.dev.shadow.r820tFile i) (tunerCurrent reg) :=
    (keepsTuner_tunerCurrent (c := blankChip) reg).comp fun t => t.shadow.r820tFile i
  have hwrite (data : List UInt8) :
      Keeps (fun w => w.dev.shadow.r820tFile i) (tunerWrite data) := by
    intro env w
    rcases h : tunerWrite data env w with ⟨e | _, u⟩
    · exact congrArg (fun t : TunerView => t.shadow.r820tFile i)
        (tunerWrite_error (c := blankChip) h)
    · exact congrArg (fun t : TunerView => t.shadow.r820tFile i) (tunerWrite_ok (c := blankChip) h)
  refine hcurrent.bind fun cur => (hwrite _).bind fun _ => Keeps.modify fun w => ?_
  unfold Device.shadowed
  rcases hreg : shadowIndex reg with _ | j
  · rfl
  · dsimp only
    split
    · have hij : i ≠ j := by
        rintro rfl
        exact hi hreg
      exact Function.update_of_ne hij _ _
    · rfl

/-- The gains that `init` sets are in registers 0x05, 0x07 and 0x0C. -/
theorem init_file {i : Fin 27} (hi : i ≠ 0 ∧ i ≠ 2 ∧ i ≠ 7)
    (hclass : w.dev.identity.tunerClass.isR820t = true) (h : init env w = (.ok (), u)) :
    u.dev.shadow.r820tFile i = composePowerupImage i := by
  rw [init_eq, initWrites, forM_flush_append] at h
  obtain ⟨_, v, hv, h⟩ := Act.bind_eq_ok.mp h
  have hflush := congrArg (fun t : TunerView => t.shadow.r820tFile i)
    (flush_ok (c := blankChip) (w := imaged w) hclass hv)
  have hall : ∀ i : Fin 27, i ≠ 0 ∧ i ≠ 2 ∧ i ≠ 7 →
      ∀ reg ∈ ([0x05, 0x07, 0x0C] : List UInt8), shadowIndex reg ≠ some i := by
    decide +kernel
  have hplace := hall i hi
  have hgains : ∀ m ∈ [setLnaGain (-1), setMixerGain (-1), setVgaGain 11],
      Keeps (fun w => w.dev.shadow.r820tFile i) m := by
    simp only [List.mem_cons, List.not_mem_nil, or_false]
    rintro m (rfl | rfl | rfl)
    · exact keepsShadow_tunerRmw (hplace 0x05 (by simp))
    · exact keepsShadow_tunerRmw (hplace 0x07 (by simp))
    · exact keepsShadow_tunerRmw (hplace 0x0C (by simp))
  exact ((Keeps.forM _ hgains).world h).trans hflush

/-- When write `n` of `init` is the first to fail, the tuner is in step exactly when the registers
from place `n` on hold their power-up values already. -/
theorem inStep_initFailed {n : Nat} (hn : n < initWrites.length) {e : Fault SdrggError} {w' : World}
    (hclass : w.dev.identity.tunerClass.isR820t = true)
    (hdone : (initWrites.take n).forM id env (imaged w) = (.ok (), u))
    (hfail : initWrites[n] env u = (.error e, w')) :
    InStep c w' ↔ ∀ i : Fin 27, n ≤ i →
      (tunerView c w).i2c w.dev.identity.tunerBusAddr (shadowLayout.key i) =
        composePowerupImage i := by
  rw [InStep, initWrites_error (List.getElem_mem hn) hfail]
  have hflush : ((List.finRange 27).map flushRegister).length = 27 := by simp
  by_cases hpart : n ≤ 27
  · rw [initWrites, List.take_append_of_le_length (by omega), ← List.map_take, forM_flush]
      at hdone
    rw [flush_ok (w := imaged w) hclass hdone, inStep_flushed hclass]
    refine forall_congr' fun i => ?_
    rw [List.mem_take_iff_getElem]
    simp only [List.getElem_finRange, List.length_finRange]
    refine imp_congr_left ⟨fun hi => ?_, fun hi => ?_⟩
    · by_contra hlt
      exact hi ⟨i, by omega, rfl⟩
    · rintro ⟨j, hj, rfl⟩
      simp at hi
      omega
  · refine iff_of_true ?_ fun i hi => absurd i.isLt (by omega)
    rw [initWrites, List.take_append, List.take_of_length_le (by omega), forM_flush_append]
      at hdone
    obtain ⟨_, v, hv, hdone⟩ := Act.bind_eq_ok.mp hdone
    exact (Preserves.forM _ fun m hm => inStep_gains m (List.mem_of_mem_take hm)).world
      (inStep_of_flush hclass hv) hdone

end Flush

/-! ### Runs of tuner calls -/

inductive TunerCall where
  | writeReg (reg val : UInt8)
  | rmw (reg val mask : UInt8)
  | writeBatch (pairs : List (UInt8 × UInt8))
  | setFreq (freqHz ifFreqHz : UInt32)
  | setLnaGain (index : Int32)
  | setMixerGain (index : Int32)
  | setVgaGain (index : Int32)
  | setBandwidth (bwKhz : UInt32)
  | standby
  | resetTuner
deriving DecidableEq, Repr

def TunerCall.perform : TunerCall → DevM Unit
  | .writeReg reg val => tunerWriteReg reg val
  | .rmw reg val mask => tunerRmw reg val mask
  | .writeBatch pairs => tunerWriteBatch pairs
  | .setFreq freqHz ifFreqHz => R820t.setFreq freqHz ifFreqHz
  | .setLnaGain index => R820t.setLnaGain index
  | .setMixerGain index => R820t.setMixerGain index
  | .setVgaGain index => R820t.setVgaGain index
  | .setBandwidth bwKhz => R820t.setBandwidth bwKhz
  | .standby => R820t.standby
  | .resetTuner => Rtl.resetTuner

/-- Calls one after the other, whatever they return. -/
def tunerRun (calls : List TunerCall) : DevM Unit := calls.forM fun call => Act.ignore call.perform

section Runs

variable {c : Chip} {env : Env} {w u : World}

theorem inStep_perform (call : TunerCall) : Preserves env (InStep c) call.perform := by
  cases call with
  | writeReg reg val => exact inStep_tunerWriteReg reg val
  | rmw reg val mask => exact inStep_tunerRmw reg val mask
  | writeBatch pairs => exact inStep_tunerWriteBatch pairs
  | setFreq freqHz ifFreqHz => exact inStep_setFreq freqHz ifFreqHz
  | setLnaGain index => exact inStep_setLnaGain index
  | setMixerGain index => exact inStep_setMixerGain index
  | setVgaGain index => exact inStep_setVgaGain index
  | setBandwidth bwKhz => exact inStep_setBandwidth bwKhz
  | standby => exact inStep_lowerIntents _
  | resetTuner => exact inStep_resetTuner

theorem inStep_tunerRun (calls : List TunerCall) : Preserves env (InStep c) (tunerRun calls) :=
  Preserves.forM calls fun call _ => (inStep_perform call).ignore

/-- A cold start succeeds when its transfers do. -/
theorem total_init (h : env.Accepts) : Total env init := by
  have hgain {index : Int32} : Total env (setLnaGain index) := by
    unfold setLnaGain
    split <;> exact total_tunerRmw h (by decide)
  have hmixer {index : Int32} : Total env (setMixerGain index) := by
    unfold setMixerGain
    split <;> exact total_tunerRmw h (by decide)
  refine (total_modifyDevice _).bind fun _ => Total.bind (Total.forM _ fun i _ => ?_) fun _ => ?_
  · exact total_device.bind fun _ => total_tunerWriteReg h
  · exact hgain.bind fun _ => hmixer.bind fun _ => total_tunerRmw h (by decide)

/-- After a cold start of an R820T, the shadow file holds what the chip's registers do after every
run of calls, whichever of their transfers fail. -/
theorem shadow_matches_chip (hclass : w.dev.identity.tunerClass.isR820t = true)
    (hinit : init env w = (.ok (), u)) (calls : List TunerCall) (i : Fin 27) :
    (tunerRun calls env u).2.dev.shadow.r820tFile i =
      tunerReg c (tunerRun calls env u).2 (0x05 + UInt8.ofNat i) :=
  ((inStep_tunerRun calls u (inStep_init hclass hinit)).mirrors i).symm

end Runs

theorem shadow_matches_chip_steady : ∃ u, init Sdr.steadyEnv Sdr.openedR820t = (.ok (), u) ∧
    ∀ i, (tunerRun [.writeReg 0x0A 0x00, .setBandwidth 2500, .resetTuner] Sdr.steadyEnv
        u).2.dev.shadow.r820tFile i =
      tunerReg blankChip (tunerRun [.writeReg 0x0A 0x00, .setBandwidth 2500, .resetTuner]
        Sdr.steadyEnv u).2 (0x05 + UInt8.ofNat i) := by
  obtain ⟨_, u, hu⟩ := total_init Sdr.steadyEnv_succeeds.accepts Sdr.openedR820t
  exact ⟨u, hu, fun i => shadow_matches_chip rfl hu _ i⟩

/-! ### Write paths past the shadow file -/

section Bypass

variable {c : Chip} {env : Env} {w u w' : World}

theorem tunerRmw_r820t {reg val mask : UInt8} {i : Fin 27}
    (hclass : w.dev.identity.tunerClass.isR820t = true) (hreg : shadowIndex reg = some i) :
    tunerRmw reg val mask env w =
      tunerWriteReg reg ((w.dev.shadow.r820tFile i &&& ~~~mask) ||| (val &&& mask)) env w := by
  have hcur : tunerCurrent reg env w = (.ok (w.dev.shadow.r820tFile i), w) := by
    rw [tunerCurrent, Act.bind_of_ok (device_apply env w), hreg]
    simp [hclass]
  rw [tunerRmw, Act.bind_of_ok hcur]

theorem masked_or (a b m : UInt8) : ((a &&& ~~~m) ||| (b &&& m)) &&& ~~~m = a &&& ~~~m := by
  apply UInt8.toBitVec_inj.mp
  ext i
  simp
  grind

theorem tunerReg_framed {reg val : UInt8}
    (h : tunerView c u = (tunerView c w).framed [reg, val]) : tunerReg c u reg = val := by
  change (tunerView c u).i2c (tunerView c u).identity.tunerBusAddr reg = val
  rw [h]
  simp [TunerView.framed, i2cWritten, written]

theorem tunerReg_wroteThrough {reg val : UInt8}
    (h : tunerView c u = wroteThrough (tunerView c w) reg val) : tunerReg c u reg = val := by
  change (tunerView c u).i2c (tunerView c u).identity.tunerBusAddr reg = val
  rw [h]
  simp [wroteThrough, TunerView.framed, i2cWritten, written]

/-- After a raw write of a mirrored register, a modification that succeeds keeps the bits that it
does not mask exactly when the shadow file holds them too. -/
theorem raw_then_rmw {i : Fin 27} {v val mask : UInt8}
    (hclass : w.dev.identity.tunerClass.isR820t = true)
    (hraw : tunerWrite [shadowLayout.key i, v] env w = (.ok (), u))
    (hrmw : tunerRmw (shadowLayout.key i) val mask env u = (.ok (), w')) :
    tunerReg c w' (shadowLayout.key i) &&& ~~~mask = v &&& ~~~mask ↔
      w.dev.shadow.r820tFile i &&& ~~~mask = v &&& ~~~mask := by
  have hview := tunerWrite_ok (c := c) hraw
  have hidentity : u.dev.identity = w.dev.identity := congrArg TunerView.identity hview
  have hshadow : u.dev.shadow = w.dev.shadow := congrArg TunerView.shadow hview
  rw [tunerRmw_r820t (hidentity ▸ hclass) (shadowLayout.place_key i)] at hrmw
  rw [tunerReg_wroteThrough (tunerWriteReg_ok (hidentity ▸ hclass) hrmw), masked_or, hshadow]

theorem raw_then_failed_rmw {reg v val mask : UInt8} {e : Fault SdrggError}
    (hraw : tunerWrite [reg, v] env w = (.ok (), u))
    (hrmw : tunerRmw reg val mask env u = (.error e, w')) : tunerReg c w' reg = v :=
  tunerReg_framed ((tunerRmw_error hrmw).trans (tunerWrite_ok hraw))

theorem initWrites_identity {m : DevM Unit} (hm : m ∈ initWrites) :
    Keeps (fun w => w.dev.identity) m := by
  have h : Keeps World.config m := by
    simp only [initWrites, List.mem_append, List.mem_map, List.mem_cons, List.not_mem_nil,
      or_false] at hm
    rcases hm with ⟨i, -, rfl⟩ | rfl | rfl | rfl
    · exact keeps_flushRegister i
    · exact keeps_setLnaGain _
    · exact keeps_setMixerGain _
    · exact keeps_setVgaGain _
  exact h.comp Config.identity

/-- A cold start that fails at write `n` leaves the shadow file in step exactly when it held the
power-up values from place `n` on. -/
theorem mirrors_initFailed {n : Nat} (hn : n < initWrites.length) {e : Fault SdrggError}
    (hclass : w.dev.identity.tunerClass.isR820t = true)
    (hstep : ∀ i : Fin 27, w.dev.shadow.r820tFile i = tunerReg c w (shadowLayout.key i))
    (hdone : (initWrites.take n).forM id env (imaged w) = (.ok (), u))
    (hfail : initWrites[n] env u = (.error e, w')) :
    (∀ i : Fin 27, w'.dev.shadow.r820tFile i = tunerReg c w' (shadowLayout.key i)) ↔
      ∀ i : Fin 27, n ≤ i → w.dev.shadow.r820tFile i = composePowerupImage i := by
  have hkeeps : Keeps (fun w => w.dev.identity) ((initWrites.take n).forM id) :=
    Keeps.forM _ fun m hm => initWrites_identity (List.mem_of_mem_take hm)
  have hu : u.dev.identity = w.dev.identity := hkeeps.world (w := imaged w) hdone
  have hw' : w'.dev.identity = w.dev.identity :=
    ((initWrites_identity (List.getElem_mem hn)).world hfail).trans hu
  have hiff := inStep_initFailed (c := c) hn hclass hdone hfail
  simp only [hstep]
  refine Iff.trans ⟨fun h => ⟨?_, fun i => (h i).symm⟩, fun h i => (h.mirrors i).symm⟩ hiff
  exact (congrArg (fun identity => identity.tunerClass.isR820t) hw').trans hclass

/-- Past the shadow file: a raw write followed by a modification keeps the raw bits exactly when the
modification fails or the shadow file holds them, and a cold start that fails at write `n` leaves
the file in step exactly when it held the power-up values from place `n` on. -/
theorem bypass_in_step (hclass : w.dev.identity.tunerClass.isR820t = true) :
    (∀ (i : Fin 27) (v val mask : UInt8) (u w' : World) (out : Except (Fault SdrggError) Unit),
      tunerWrite [0x05 + UInt8.ofNat i, v] env w = (.ok (), u) →
      tunerRmw (0x05 + UInt8.ofNat i) val mask env u = (out, w') →
      (tunerReg c w' (0x05 + UInt8.ofNat i) &&& ~~~mask = v &&& ~~~mask ↔
        (out = .ok () → w.dev.shadow.r820tFile i &&& ~~~mask = v &&& ~~~mask))) ∧
    ((∀ i : Fin 27, w.dev.shadow.r820tFile i = tunerReg c w (0x05 + UInt8.ofNat i)) →
      ∀ (n : Nat) (hn : n < initWrites.length) (u w' : World) (e : SdrggError),
        (initWrites.take n).forM id env (imaged w) = (.ok (), u) →
        initWrites[n] env u = (.error (.error e), w') →
        init env w = (.error (.error e), w') ∧
        ((∀ i : Fin 27, w'.dev.shadow.r820tFile i = tunerReg c w' (0x05 + UInt8.ofNat i)) ↔
          ∀ i : Fin 27, n ≤ i → w.dev.shadow.r820tFile i = composePowerupImage i)) := by
  refine ⟨fun i v val mask u w' out hraw hrmw => ?_, fun hstep n hn u w' e hdone hfail => ⟨?_, ?_⟩⟩
  · rcases out with f | _
    · rw [raw_then_failed_rmw hraw hrmw]
      simp
    · exact (raw_then_rmw hclass hraw hrmw).trans ⟨fun h _ => h, fun h => h rfl⟩
  · rw [init_eq]
    exact Act.forM_of_fault hn hdone hfail
  · exact mirrors_initFailed hn hclass hstep hdone hfail

end Bypass

/-- A kernel that does not get register 0x08 of the tuner written. -/
def stuckEnv : Env :=
  { Sdr.steadyEnv with
    kernel := fun log t =>
      match t with
      | .write _ 0x0610 (0x08 :: _) => .fail .other
      | _ => Sdr.steadyEnv.kernel log t }

/-- A device whose R820T has been detected and not been started. -/
def detectedR820t : World :=
  { Sdr.openedR820t with dev := { Sdr.openedR820t.dev with shadow := ⟨fun _ => 0⟩ } }

/-- Three registers are written before the kernel gets stuck. -/
theorem init_stuck :
    ∃ u w', (initWrites.take 3).forM id stuckEnv (imaged detectedR820t) = (.ok (), u) ∧
      flushRegister 3 stuckEnv u = (.error (.error .usb), w') := by
  have hdone : ((initWrites.take 3).forM id stuckEnv (imaged detectedR820t)).1 = .ok () := by
    decide +kernel
  have hfail : (flushRegister 3 stuckEnv
      ((initWrites.take 3).forM id stuckEnv (imaged detectedR820t)).2).1 =
        .error (.error .usb) := by
    decide +kernel
  exact ⟨_, _, Prod.fst_eq_iff.mp hdone, Prod.fst_eq_iff.mp hfail⟩

theorem bypass_in_step_stuck :
    (∃ u w', tunerWrite [0x05 + UInt8.ofNat (5 : Fin 27), 0x00] Sdr.steadyEnv Sdr.openedR820t =
        (.ok (), u) ∧
      tunerRmw (0x05 + UInt8.ofNat (5 : Fin 27)) 0x10 0x10 Sdr.steadyEnv u = (.ok (), w') ∧
      ¬tunerReg blankChip w' (0x05 + UInt8.ofNat (5 : Fin 27)) &&& ~~~0x10 = 0x00 &&& ~~~0x10) ∧
    ∃ w', init stuckEnv detectedR820t = (.error (.error .usb), w') ∧
      ¬∀ i : Fin 27, w'.dev.shadow.r820tFile i = tunerReg blankChip w' (0x05 + UInt8.ofNat i) := by
  constructor
  · obtain ⟨_, u, hu⟩ := @total_tunerWrite _ Sdr.steadyEnv_succeeds.accepts
      [0x05 + UInt8.ofNat (5 : Fin 27), 0x00] Sdr.openedR820t
    obtain ⟨_, w', hw'⟩ := @total_tunerRmw _ Sdr.steadyEnv_succeeds.accepts
      (0x05 + UInt8.ofNat (5 : Fin 27)) 0x10 0x10 (by decide) u
    refine ⟨u, w', hu, hw', ?_⟩
    rw [(bypass_in_step rfl).1 5 0x00 0x10 0x10 u w' _ hu hw']
    exact fun h => absurd (h rfl) (by decide +kernel)
  · obtain ⟨u, w', hdone, hfail⟩ := init_stuck
    obtain ⟨hinit, hiff⟩ := (bypass_in_step (c := blankChip) (w := detectedR820t) rfl).2
      (fun _ => rfl) 3 (by simp [initWrites]) u w' .usb hdone hfail
    refine ⟨w', hinit, ?_⟩
    rw [hiff]
    decide +kernel
/-- The modification of one bit takes the raw write of the others back, and the cold start that
stops at register 0x08 leaves its power-up value in the shadow file. -/
theorem bypass_out_of_step :
    tunerReg blankChip (tunerWrite [0x0A, 0x00] Sdr.steadyEnv Sdr.openedR820t).2 0x0A = 0x00 ∧
    tunerReg blankChip (tunerRmw 0x0A 0x10 0x10 Sdr.steadyEnv
      (tunerWrite [0x0A, 0x00] Sdr.steadyEnv Sdr.openedR820t).2).2 0x0A = 0xD6 ∧
    (∀ i : Fin 27, detectedR820t.dev.shadow.r820tFile i =
      tunerReg blankChip detectedR820t (0x05 + UInt8.ofNat i)) ∧
    (init stuckEnv detectedR820t).1 = .error (.error .usb) ∧
    (init stuckEnv detectedR820t).2.dev.shadow.r820tFile 3 = 0xC0 ∧
    tunerReg blankChip (init stuckEnv detectedR820t).2 0x08 = 0x00 := by
  refine ⟨?_, ?_, fun i => rfl, ?_, ?_, ?_⟩ <;> decide +kernel

end Sdrgg.R820t
