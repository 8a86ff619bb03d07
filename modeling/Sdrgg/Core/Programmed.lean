import Sdrgg.Core.Calls
import Sdrgg.Core.History
import Sdrgg.Core.Reads
import Sdrgg.Core.Rejected

/-! The registers of an FC0012 over runs of calls, of which any transfers may fail: each call changes
its own fields, and the fields of a frequency or a gain that has been set stay until the next call
for them. -/

namespace Sdrgg.Fc0012

open ProofKit Usb Rtl

/-- The registers that are read and written back with some of their bits changed. -/
def restored : List UInt8 := [0x0D, 0x13]

/-- A read of one of these that does not fail brings what the chip was sent last for it.  Of the others
only 0x0E is read, which brings the voltage of the VCO. -/
def ReadsBack (c : Chip) (env : Env) : Prop :=
  ∀ log data, ∀ location ∈ restored, lastFrame 0xC6 log = some [location] →
    env.kernel log (.read 0xC6 0x0600 1) = .done data → data = [(c.after log).i2c 0xC6 location]

/-- The registers that are written after the cold start. -/
def programmable : List UInt8 := [0x01, 0x02, 0x03, 0x04, 0x05, 0x06, 0x0D, 0x0E, 0x13]

/-- What the cold start has written and no call changes: the other registers, the bits of 0x0D beside
the override of the LNA, and the three bits above the LNA gain in 0x13. -/
structure Based (regs : UInt8 → UInt8) : Prop where
  fixed : ∀ cmd ∈ initCapabilities.flatten, cmd.location ∉ programmable →
    regs cmd.location = cmd.content
  lnaOverride : regs 0x0D &&& ~~~0x08 = 0x02
  lnaGain : regs 0x13 &&& 0xE0 = 0

/-- The gain that the registers stand for: automatic without the override of the LNA, and else by the
gain code. -/
def EncodesGain (regs : UInt8 → UInt8) (gainTenthDb : Int32) : Prop :=
  if gainTenthDb = Sdr.gainAuto then regs 0x0D &&& 0x08 = 0
  else regs 0x0D &&& 0x08 = 0x08 ∧ regs 0x13 &&& 0x1F = (resolveGainState gainTenthDb).hwCode

/-! ### Wire accesses -/

section Wire

variable {c : Chip} {env : Env} {w w' : World}

/-- A read that returns brings the register. -/
theorem wireRead_ok (hreads : ReadsBack c env) {location content value : UInt8}
    (hlocation : location ∈ restored) (h : wireRead location content env w = (.ok value, w')) :
    value = chipRegs c w location ∧ chipRegs c w' = chipRegs c w := by
  have hkept := (keepsRegs_wireRead (c := c) location content).world h
  refine ⟨?_, hkept⟩
  obtain ⟨_, u, hu, h⟩ := Act.bind_eq_ok.mp h
  obtain ⟨_, v, hv, h⟩ := Act.bind_eq_ok.mp h
  obtain ⟨data, x, hx, h⟩ := Act.bind_eq_ok.mp h
  cases h
  have hopen := (keepsRegs_of_tuner (c := c) (keepsTuner_enableI2cRepeater true).ignore).world hu
  have hframe : lastFrame 0xC6 v.log = some [location] := controlWrite_frame hv
  have hselect : (c.after v.log).i2c 0xC6 = chipRegs c w := by
    rw [← hopen, ← chip, controlWrite_ok hv]
    exact Function.update_self (0xC6 : UInt16) _ (chip c u).i2c
  obtain ⟨x', hx', -⟩ := @controlRead_run env 0xC6 0x0600 1 [content] v
  obtain ⟨hreceived, rfl⟩ := Prod.mk.inj (hx'.symm.trans hx)
  rcases hresp : env.kernel v.log (.read 0xC6 0x0600 1) with bytes | errno <;>
    rw [hresp] at hreceived <;> cases hreceived
  rw [hreads _ _ location hlocation hframe hresp, hselect]
  rfl

/-- What a write leaves of the registers when they keep a property with and without it. -/
theorem preserves_wireWrite {P : (UInt8 → UInt8) → Prop} {location content : UInt8}
    (h : ∀ regs, P regs → P (Function.update regs location content)) :
    Preserves env (fun w => P (chipRegs c w)) (wireWrite location content) := by
  intro w hw
  rcases hrun : wireWrite location content env w with ⟨e | _, u⟩
  · exact (wireWrite_error (c := c) hrun).symm ▸ hw
  · exact (wireWrite_ok (c := c) hrun).symm ▸ h _ hw

theorem preserves_wireRead {P : (UInt8 → UInt8) → Prop} (location content : UInt8) :
    Preserves env (fun w => P (chipRegs c w)) (wireRead location content) :=
  (keepsRegs_wireRead location content).preserves fun _ _ heq hw => heq ▸ hw

/-- An operation that reads a register and goes on with it. -/
theorem preserves_wireRead_bind (hreads : ReadsBack c env) {P : (UInt8 → UInt8) → Prop} {α : Type}
    {location content : UInt8} (hlocation : location ∈ restored) {k : UInt8 → DevM α}
    (hk : ∀ w, P (chipRegs c w) → P (chipRegs c (k (chipRegs c w location) env w).2)) :
    Preserves env (fun w => P (chipRegs c w)) (wireRead location content >>= k) := by
  intro w hw
  rw [Act.bind_apply]
  rcases hrun : wireRead location content env w with ⟨e | value, u⟩
  · exact (preserves_wireRead (P := P) location content).world hw hrun
  · obtain ⟨rfl, hregs⟩ := wireRead_ok hreads hlocation hrun
    rw [← hregs] at hw ⊢
    exact hk u hw

end Wire

/-! ### What the sessions change -/

/-- The registers of a tuning session. -/
def tuned : List UInt8 := [0x01, 0x02, 0x03, 0x04, 0x05, 0x06, 0x0E]

/-- `P` does not look at the registers of a list. -/
def Off (locations : List UInt8) (P : (UInt8 → UInt8) → Prop) : Prop :=
  ∀ regs, ∀ location ∈ locations, ∀ content, P regs → P (Function.update regs location content)

section Sessions

variable {c : Chip} {env : Env} {P : (UInt8 → UInt8) → Prop} (hP : Off tuned P)

include hP

theorem preserves_tuned {location content : UInt8} (h : location ∈ tuned) :
    Preserves env (fun w => P (chipRegs c w)) (wireWrite location content) :=
  preserves_wireWrite fun regs => hP regs location h content

theorem preserves_runCalibrationPolicy (bwReg : UInt8) (elevatedBias : Bool) :
    Preserves env (fun w => P (chipRegs c w)) (runCalibrationPolicy bwReg elevatedBias) := by
  have hpulse : Preserves env (fun w => P (chipRegs c w)) triggerCalibration :=
    (preserves_tuned hP (by decide)).ignore.bind fun _ => (preserves_tuned hP (by decide)).ignore
  refine hpulse.bind fun _ => ((preserves_wireRead _ _).orElse 0).bind fun raw => ?_
  dsimp only
  split
  · exact Preserves.pure _
  · exact (preserves_tuned hP (by decide)).ignore.bind fun _ => hpulse.bind fun _ =>
      Preserves.pure _

theorem preserves_executeTuningSession (freqHz : UInt32) :
    Preserves env (fun w => P (chipRegs c w)) (executeTuningSession freqHz) := by
  refine Preserves.bind (fun _ hw => hw) fun dev => ?_
  dsimp only
  split
  · exact Preserves.fail _
  · refine (Preserves.ofOption _).bind fun rawRatio => (Preserves.ofOption _).bind fun sol => ?_
    split
    · exact Preserves.fail _
    · refine Preserves.bind (Preserves.forM _ fun cmd hcmd => preserves_tuned hP ?_) fun _ =>
        (preserves_runCalibrationPolicy hP _ _).bind fun _ => Preserves.pure _
      simp only [tuningCmds, List.mem_cons, List.not_mem_nil, or_false] at hcmd
      obtain rfl | rfl | rfl | rfl | rfl | rfl := hcmd <;> simp [tuned]

/-- A tuning leaves the registers of the gain and of the cold start, whatever becomes of it. -/
theorem preserves_setFreq (freqHz : UInt32) :
    Preserves env (fun w => P (chipRegs c w)) (setFreq freqHz) := by
  have hprepare : Keeps (chipRegs c) (prepareFreq freqHz) := by
    rw [Sdr.prepareFreq_eq]
    exact keepsRegs_of_tuner (Sdr.keepsTuner_assertZeroIf.bind fun _ => Sdr.keepsTuner_setGpioBit _ _)
  have hkept := hprepare.preserves (r := env) (I := fun w => P (chipRegs c w))
    fun _ _ heq hw => heq ▸ hw
  exact Preserves.bind (hkept.bind fun _ => preserves_executeTuningSession hP freqHz) fun _ =>
    (fun _ hw => hw : Preserves env (fun w => P (chipRegs c w)) (modifyTuning _))

end Sessions

/-! ### What the gain changes -/

section Gain

variable {c : Chip} {env : Env} (hreads : ReadsBack c env) {P : (UInt8 → UInt8) → Prop}

include hreads

omit hreads in
/-- A set bit 3 is set again without a change. -/
theorem set_override {value : UInt8} (h : value &&& 0x08 ≠ 0) : value ||| 0x08 = value := by
  have hall : ∀ n < 256, UInt8.ofNat n &&& 0x08 ≠ 0 → UInt8.ofNat n ||| 0x08 = UInt8.ofNat n := by
    decide +kernel
  simpa using hall value.toNat value.toNat_lt (by simpa using h)

/-- The registers after a gain has been set. -/
theorem setGain_ok {gainTenthDb : Int32} {w w' : World}
    (h : setGain gainTenthDb env w = (.ok (), w')) :
    chipRegs c w' = Function.update
      (Function.update (chipRegs c w) 0x0D (chipRegs c w 0x0D ||| 0x08)) 0x13
      ((chipRegs c w 0x13 &&& 0xE0) ||| (resolveGainState gainTenthDb).hwCode) := by
  have hcode {v : World} (h : (do
        let buf ← uninitialised 1
        let current ← wireRead 0x13 (buf.headD 0)
        wireWrite 0x13 ((current &&& 0xE0) ||| (resolveGainState gainTenthDb).hwCode) : DevM Unit)
        env v = (.ok (), w')) :
      chipRegs c w' = Function.update (chipRegs c v) 0x13
        ((chipRegs c v 0x13 &&& 0xE0) ||| (resolveGainState gainTenthDb).hwCode) := by
    obtain ⟨buf, x, hx, h⟩ := Act.bind_eq_ok.mp h
    obtain ⟨current, y, hy, h⟩ := Act.bind_eq_ok.mp h
    cases hx
    obtain ⟨rfl, hkept⟩ := wireRead_ok hreads (by decide) hy
    rw [wireWrite_ok h, hkept]
  obtain ⟨lnaOvr, u, hu, h⟩ := Act.bind_eq_ok.mp h
  obtain ⟨rfl, hkept⟩ := wireRead_ok hreads (by decide) hu
  split at h
  · obtain ⟨_, v, hv, h⟩ := Act.bind_eq_ok.mp h
    rw [hcode h, wireWrite_ok hv, hkept, Function.update_of_ne (by decide)]
  · rename_i hset
    rw [hcode h, set_override hset, Function.update_eq_self, hkept]

theorem preserves_setGain {gainTenthDb : Int32}
    (hlna : ∀ regs, P regs → P (Function.update regs 0x0D (regs 0x0D ||| 0x08)))
    (hgain : ∀ regs, P regs → P (Function.update regs 0x13
      ((regs 0x13 &&& 0xE0) ||| (resolveGainState gainTenthDb).hwCode))) :
    Preserves env (fun w => P (chipRegs c w)) (setGain gainTenthDb) := by
  have hcode : Preserves env (fun w => P (chipRegs c w)) (do
      let buf ← uninitialised 1
      let current ← wireRead 0x13 (buf.headD 0)
      wireWrite 0x13 ((current &&& 0xE0) ||| (resolveGainState gainTenthDb).hwCode)) := by
    refine Preserves.bind (fun _ hw => hw) fun buf => ?_
    refine preserves_wireRead_bind hreads (by decide) fun w hw => ?_
    rcases hrun : wireWrite 0x13 ((chipRegs c w 0x13 &&& 0xE0) |||
      (resolveGainState gainTenthDb).hwCode) env w with ⟨e | _, u⟩
    · exact (wireWrite_error (c := c) hrun).symm ▸ hw
    · exact (wireWrite_ok (c := c) hrun).symm ▸ hgain _ hw
  refine preserves_wireRead_bind hreads (by decide) fun w hw => ?_
  split
  · rw [Act.bind_apply]
    rcases hrun : wireWrite 0x0D (chipRegs c w 0x0D ||| 0x08) env w with ⟨e | _, u⟩
    · exact (wireWrite_error (c := c) hrun).symm ▸ hw
    · refine hcode u ?_
      change P (chipRegs c u)
      rw [wireWrite_ok hrun]
      exact hlna _ hw
  · exact hcode w hw

/-- The registers after the gain has been left to the chip. -/
theorem setAutoGain_ok {w w' : World} (h : setAutoGain env w = (.ok (), w')) :
    chipRegs c w' =
      Function.update (chipRegs c w) 0x0D (chipRegs c w 0x0D &&& ~~~0x08) := by
  obtain ⟨lnaOvr, u, hu, h⟩ := Act.bind_eq_ok.mp h
  obtain ⟨rfl, hkept⟩ := wireRead_ok hreads (by decide) hu
  rw [wireWrite_ok h, hkept]

theorem preserves_setAutoGain
    (hlna : ∀ regs, P regs → P (Function.update regs 0x0D (regs 0x0D &&& ~~~0x08))) :
    Preserves env (fun w => P (chipRegs c w)) setAutoGain := by
  refine preserves_wireRead_bind hreads (by decide) fun w hw => ?_
  rcases hrun : wireWrite 0x0D (chipRegs c w 0x0D &&& ~~~0x08) env w with ⟨e | _, u⟩
  · exact (wireWrite_error (c := c) hrun).symm ▸ hw
  · exact (wireWrite_ok (c := c) hrun).symm ▸ hlna _ hw

end Gain

/-! ### The fields apart -/

theorem Based.update {regs : UInt8 → UInt8} {location content : UInt8} (h : Based regs)
    (hfixed : ∀ cmd ∈ initCapabilities.flatten, cmd.location ∉ programmable →
      cmd.location = location → content = cmd.content)
    (hlna : location = 0x0D → content &&& ~~~0x08 = 0x02)
    (hgain : location = 0x13 → content &&& 0xE0 = 0) :
    Based (Function.update regs location content) := by
  refine ⟨fun cmd hcmd hout => ?_, ?_, ?_⟩
  · by_cases heq : cmd.location = location
    · rw [heq, Function.update_self]
      exact hfixed cmd hcmd hout heq
    · rw [Function.update_of_ne heq]
      exact h.fixed cmd hcmd hout
  · by_cases heq : 0x0D = location
    · rw [← heq, Function.update_self]
      exact hlna heq.symm
    · rw [Function.update_of_ne heq]
      exact h.lnaOverride
  · by_cases heq : 0x13 = location
    · rw [← heq, Function.update_self]
      exact hgain heq.symm
    · rw [Function.update_of_ne heq]
      exact h.lnaGain

/-- A register that is written after the cold start. -/
theorem Based.update_programmable {regs : UInt8 → UInt8} {location content : UInt8} (h : Based regs)
    (hmem : location ∈ programmable) (hlna : location = 0x0D → content &&& ~~~0x08 = 0x02)
    (hgain : location = 0x13 → content &&& 0xE0 = 0) :
    Based (Function.update regs location content) :=
  h.update (fun _ _ hout heq => absurd (heq ▸ hmem) hout) hlna hgain

/-- The registers of the gain are not among those of a frequency. -/
theorem programmable_of_tuned {location : UInt8} (h : location ∈ tuned) :
    location ∈ programmable ∧ location ≠ 0x0D ∧ location ≠ 0x13 := by
  simp only [tuned, List.mem_cons, List.not_mem_nil, or_false] at h
  obtain rfl | rfl | rfl | rfl | rfl | rfl | rfl := h <;> decide

theorem off_based : Off tuned Based := by
  intro regs location hlocation content h
  obtain ⟨hprogrammable, hlna, hgain⟩ := programmable_of_tuned hlocation
  exact h.update_programmable hprogrammable (fun heq => absurd heq hlna)
    fun heq => absurd heq hgain

theorem off_encodesGain (gainTenthDb : Int32) : Off tuned fun regs => EncodesGain regs gainTenthDb := by
  intro regs location hlocation content h
  obtain ⟨-, hlna, hgain⟩ := programmable_of_tuned hlocation
  unfold EncodesGain
  rw [Function.update_of_ne hlna.symm, Function.update_of_ne hgain.symm]
  exact h

/-- A frequency does not look at the registers of the gain. -/
theorem off_encodes (freqHz : UInt32) : Off [0x0D, 0x13] fun regs => Encodes regs freqHz := by
  rintro regs location hlocation content ⟨total, sol, htotal, hsol, hfeasible, hholds⟩
  have hne (reg : UInt8) (hreg : reg ∈ tuned) : reg ≠ location := by
    obtain ⟨-, hlna, hgain⟩ := programmable_of_tuned hreg
    obtain rfl | rfl := List.mem_pair.mp hlocation
    · exact hlna
    · exact hgain
  refine ⟨total, sol, htotal, hsol, hfeasible, ?_⟩
  obtain ⟨h1, h2, h3, h4, h5, h6⟩ := hholds
  constructor <;> rw [Function.update_of_ne (hne _ (by decide))] <;> assumption

theorem based_init {cmd : WireCmd} (hcmd : cmd ∈ initCapabilities.flatten) {regs : UInt8 → UInt8}
    (h : Based regs) : Based (Function.update regs cmd.location cmd.content) := by
  have hall : ∀ cmd ∈ initCapabilities.flatten,
      (∀ other ∈ initCapabilities.flatten, other.location ∉ programmable →
        other.location = cmd.location → cmd.content = other.content) ∧
      (cmd.location = 0x0D → cmd.content &&& ~~~0x08 = 0x02) ∧
      (cmd.location = 0x13 → cmd.content &&& 0xE0 = 0) := by
    decide +kernel
  obtain ⟨hfixed, hlna, hgain⟩ := hall cmd hcmd
  exact h.update hfixed hlna hgain

/-- What the override of the LNA and the gain code leave of the other bits. -/
theorem gain_bits (value : UInt8) :
    (value ||| 0x08) &&& 0x08 = 0x08 ∧ (value &&& ~~~0x08) &&& 0x08 = 0 ∧
      (value ||| 0x08) &&& ~~~0x08 = value &&& ~~~0x08 ∧
      (value &&& ~~~0x08) &&& ~~~0x08 = value &&& ~~~0x08 := by
  have hall : ∀ n < 256, (UInt8.ofNat n ||| 0x08) &&& 0x08 = 0x08 ∧
      (UInt8.ofNat n &&& ~~~0x08) &&& 0x08 = 0 ∧
      (UInt8.ofNat n ||| 0x08) &&& ~~~0x08 = UInt8.ofNat n &&& ~~~0x08 ∧
      (UInt8.ofNat n &&& ~~~0x08) &&& ~~~0x08 = UInt8.ofNat n &&& ~~~0x08 := by
    decide +kernel
  simpa using hall value.toNat value.toNat_lt

theorem resolveGainState_mem (gainTenthDb : Int32) : resolveGainState gainTenthDb ∈ gainStates := by
  unfold resolveGainState
  rw [List.getLastD_eq_getLast?]
  cases hlast : (gainStates.tail.takeWhile _).getLast? with
  | none => exact List.mem_cons_self
  | some state =>
    exact List.mem_of_mem_tail
      ((List.takeWhile_prefix _).subset (List.mem_of_getLast? hlast))

/-- What a gain code leaves of the register that it is put into. -/
theorem code_bits (value : UInt8) (gainTenthDb : Int32) :
    ((value &&& 0xE0) ||| (resolveGainState gainTenthDb).hwCode) &&& 0x1F =
        (resolveGainState gainTenthDb).hwCode ∧
      ((value &&& 0xE0) ||| (resolveGainState gainTenthDb).hwCode) &&& 0xE0 = value &&& 0xE0 := by
  have hall : ∀ state ∈ gainStates, ∀ n < 256,
      ((UInt8.ofNat n &&& 0xE0) ||| state.hwCode) &&& 0x1F = state.hwCode ∧
        ((UInt8.ofNat n &&& 0xE0) ||| state.hwCode) &&& 0xE0 = UInt8.ofNat n &&& 0xE0 := by
    decide +kernel
  simpa using hall _ (resolveGainState_mem gainTenthDb) value.toNat value.toNat_lt

section Fields

variable {regs : UInt8 → UInt8} (h : Based regs)

include h

theorem Based.set_override : Based (Function.update regs 0x0D (regs 0x0D ||| 0x08)) :=
  h.update_programmable (by decide) (fun _ => (gain_bits _).2.2.1.trans h.lnaOverride) nofun

theorem Based.clear_override : Based (Function.update regs 0x0D (regs 0x0D &&& ~~~0x08)) :=
  h.update_programmable (by decide) (fun _ => (gain_bits _).2.2.2.trans h.lnaOverride) nofun

theorem Based.set_code (gainTenthDb : Int32) : Based (Function.update regs 0x13
    ((regs 0x13 &&& 0xE0) ||| (resolveGainState gainTenthDb).hwCode)) :=
  h.update_programmable (by decide) nofun fun _ => (code_bits _ _).2.trans h.lnaGain

end Fields

theorem encodesGain_set {regs : UInt8 → UInt8} {gainTenthDb : Int32}
    (hmanual : gainTenthDb ≠ Sdr.gainAuto) : EncodesGain
      (Function.update (Function.update regs 0x0D (regs 0x0D ||| 0x08)) 0x13
        ((regs 0x13 &&& 0xE0) ||| (resolveGainState gainTenthDb).hwCode)) gainTenthDb := by
  rw [EncodesGain, if_neg hmanual, Function.update_of_ne (by decide), Function.update_self,
    Function.update_self]
  exact ⟨(gain_bits _).1, (code_bits _ _).1⟩

theorem encodesGain_auto {regs : UInt8 → UInt8} : EncodesGain
    (Function.update regs 0x0D (regs 0x0D &&& ~~~0x08)) Sdr.gainAuto := by
  rw [EncodesGain, if_pos rfl, Function.update_self]
  exact (gain_bits _).2.1

/-- The registers after a cold start. -/
theorem ColdStarted.based {regs : UInt8 → UInt8} (h : ColdStarted regs) : Based regs := by
  refine ⟨fun cmd hcmd hout => ?_, ?_, ?_⟩
  · have hne : cmd.location ≠ 0x0D ∧ cmd.location ≠ 0x13 := by
      constructor <;> rintro heq <;> exact hout (by rw [heq]; decide)
    exact h.fixed cmd hcmd hne.1 hne.2
  · obtain hreg | hreg := h.lnaOverride <;> rw [hreg] <;> decide
  · obtain hreg | hreg := h.lnaGain <;> rw [hreg] <;> decide

section ColdStart

variable {c : Chip} {env : Env}

theorem keepsTuner_setGpioOutput (gpio : UInt8) : Keeps (tunerView c) (setGpioOutput gpio) := by
  have hupdate (addr : UInt16) (r : UInt8) (change : UInt8 → UInt8) :
      Keeps (tunerView c) (updateSystem addr r change) :=
    Keeps.bind (Keeps.orElse ((keepsTuner_controlRead _ _ _ _).bind fun _ => Keeps.pure _) r)
      fun _ => (keepsTuner_submitBlockWrite (.inr rfl) _ _ _).ignore.bind fun _ => Keeps.pure _
  exact (keepsTuner_uninitialised 1).bind fun _ => (hupdate _ _ _).bind fun _ =>
    (hupdate _ _ _).bind fun _ => Keeps.pure _

/-- A cold start that fails on its way has written nothing else. -/
theorem preserves_init : Preserves env (fun w => Based (chipRegs c w)) init := by
  have hpins : Preserves env (fun w => Based (chipRegs c w)) (setGpioOutput 6) :=
    (keepsRegs_of_tuner (keepsTuner_setGpioOutput 6)).preserves fun _ _ heq hw => heq ▸ hw
  have hcaps : Preserves env (fun w => Based (chipRegs c w)) applyInitCapabilities :=
    Preserves.forM _ fun cmds hcmds => Preserves.forM _ fun cmd hcmd =>
      preserves_wireWrite fun _ h => based_init (List.mem_flatten.mpr ⟨cmds, hcmds, hcmd⟩) h
  have hlna : Preserves env (fun w => Based (chipRegs c w)) (wireWrite 0x0D 0x0A) :=
    preserves_wireWrite fun _ h => h.update_programmable (by decide) (fun _ => by decide) nofun
  have hgain : Preserves env (fun w => Based (chipRegs c w)) (wireWrite 0x13 0x02) :=
    preserves_wireWrite fun _ h => h.update_programmable (by decide) nofun fun _ => by decide
  exact hpins.bind fun _ => hcaps.bind fun _ => hlna.ignore.bind fun _ => hgain.ignore

end ColdStart

end Sdrgg.Fc0012

namespace Sdrgg.Sdr

open ProofKit Usb Rtl

/-- The device has an FC0012, and its registers have a property. -/
def OnFc0012 (c : Chip) (P : (UInt8 → UInt8) → Prop) (w : World) : Prop :=
  w.dev.identity = ⟨.fc0012, 0xC6⟩ ∧ P (Fc0012.chipRegs c w)

/-! ### The calls -/

section Calls

variable {c : Chip} {env : Env} {P : (UInt8 → UInt8) → Prop}

theorem onFc0012_of_keeps {α : Type} {m : DevM α} (h : Keeps (tunerView c) m) :
    Preserves env (OnFc0012 c P) m := by
  refine h.preserves fun w w' heq hw => ?_
  have hidentity : w'.dev.identity = w.dev.identity := congrArg TunerView.identity heq
  have hregs : Fc0012.chipRegs c w' = Fc0012.chipRegs c w :=
    congrArg (fun t : TunerView => t.i2c 0xC6) heq
  rw [OnFc0012, hidentity, hregs]
  exact hw

theorem onFc0012_of_regs {α : Type} {m : DevM α} (hconfig : Keeps World.config m)
    (hregs : Preserves env (fun w => P (Fc0012.chipRegs c w)) m) : Preserves env (OnFc0012 c P) m :=
  fun w hw => ⟨(congrArg Config.identity (hconfig env w)).trans hw.1, hregs w hw.2⟩

theorem onFc0012_around : Around env (OnFc0012 c P) where
  note _ _ hw := hw
  stop := onFc0012_of_keeps keepsTuner_stopBulk
  start := onFc0012_of_keeps keepsTuner_startBulk

theorem onFc0012_setFrequency (hP : Fc0012.Off Fc0012.tuned P) (freqHz : UInt32) :
    Preserves env (OnFc0012 c P) (setFrequency freqHz) := by
  refine onFc0012_around.preserves_setFrequency fun w hw => ?_
  refine ⟨(keepsIdentity_tune freqHz env w).trans hw.1, ?_⟩
  rw [tune, Act.bind_of_ok (device_apply env w), hw.1, if_pos rfl]
  exact Fc0012.preserves_setFreq hP freqHz w hw.2

/-- What a gain and the automatic gain write keep a property. -/
structure OffGain (P : (UInt8 → UInt8) → Prop) : Prop where
  set : ∀ regs, P regs → P (Function.update regs 0x0D (regs 0x0D ||| 0x08))
  clear : ∀ regs, P regs → P (Function.update regs 0x0D (regs 0x0D &&& ~~~0x08))
  code : ∀ gainTenthDb regs, P regs → P (Function.update regs 0x13
    ((regs 0x13 &&& 0xE0) ||| (Fc0012.resolveGainState gainTenthDb).hwCode))

theorem onFc0012_setGain (hreads : Fc0012.ReadsBack c env) (hP : OffGain P) (gainTenthDb : Int32) :
    Preserves env (OnFc0012 c P) (setGain gainTenthDb) := by
  refine onFc0012_around.preserves_setGain fun w contract hw hcontract => ?_
  rw [hw.1] at hcontract
  obtain rfl : fc0012Contract = contract := Option.some_inj.mp hcontract
  unfold applyGain
  split
  · exact onFc0012_of_regs Fc0012.keeps_setAutoGain (Fc0012.preserves_setAutoGain hreads hP.clear)
  · exact onFc0012_of_regs (Fc0012.keeps_setGain gainTenthDb)
      (Fc0012.preserves_setGain hreads hP.set (hP.code gainTenthDb))

/-- A rate is programmed without the tuner. -/
theorem onFc0012_setSampleRate (rateHz : UInt32) :
    Preserves env (OnFc0012 c P) (setSampleRate rateHz) := by
  refine preserves_setSampleRate onFc0012_around.note fun _ q _ _ _ =>
    preserves_applyRate onFc0012_around.note (fun w hw hneeds => ?_)
      (onFc0012_of_keeps (keepsTuner_rateTail q.ratio))
  rw [hw.1] at hneeds
  cases hneeds

theorem keepsTuner_demodWrite (reg : UInt16) (val : UInt8) :
    Keeps (tunerView c) (demodWrite 0 reg val) :=
  keepsTuner_submitDemodWrite _ _ _ _

theorem keepsTuner_startStream (outcome : StreamStart) :
    Keeps (tunerView c) (startStream outcome) :=
  Keeps.of_preserves fun _ k => preserves_startStream (keepsTuner_startBulk.value k)
    (fun _ hw => hw) outcome

theorem keepsTuner_resetDemod : Keeps (tunerView c) resetDemod :=
  (keepsTuner_uninitialised 1).bind fun _ =>
    Keeps.bind ((keepsTuner_controlRead _ _ _ _).bind fun _ => Keeps.pure _) fun _ =>
      (keepsTuner_demodWrite _ _).bind fun _ => keepsTuner_demodWrite _ _

theorem onFc0012_resetTuner : Preserves env (OnFc0012 c Fc0012.Based) resetTuner := by
  intro w hw
  rw [resetTuner, Act.bind_of_ok (device_apply env w), hw.1, if_pos (by decide), if_pos rfl]
  exact onFc0012_of_regs Fc0012.keeps_init Fc0012.preserves_init w hw

end Calls

/-! ### Runs -/

/-- A device with the frequency and the gain of the last calls for them, unless these have failed or
the tuner has been reset since. -/
structure Programmed where
  world : World
  freqHz : Option UInt32
  gainTenthDb : Option Int32

/-- After a call that leaves `w`. -/
def Programmed.note (s : Programmed) (w : World) (done : Bool) : DeviceCall → Programmed
  | .setFrequency freqHz => { s with world := w, freqHz := if done then some freqHz else none }
  | .setGain gainTenthDb =>
    { s with world := w, gainTenthDb := if done then some gainTenthDb else none }
  | .resetTuner => ⟨w, none, none⟩
  | _ => { s with world := w }

def Programmed.step (env : Env) : Programmed → DeviceCall → Option Programmed :=
  callStep Programmed.world Programmed.note env

/-- The device holds, and its tuner too, what has been set. -/
structure Programmed.Holds (c : Chip) (s : Programmed) : Prop where
  identity : s.world.dev.identity = ⟨.fc0012, 0xC6⟩
  oscillator : s.world.dev.baseband.oscillatorHz = 28800000
  based : Fc0012.Based (Fc0012.chipRegs c s.world)
  freq : ∀ freqHz, s.freqHz = some freqHz → Fc0012.Encodes (Fc0012.chipRegs c s.world) freqHz ∧
    s.world.dev.tuning.centerFreqHz = freqHz
  gain : ∀ gainTenthDb, s.gainTenthDb = some gainTenthDb →
    Fc0012.EncodesGain (Fc0012.chipRegs c s.world) gainTenthDb ∧
      s.world.dev.tuning.gainPolicy = gainTenthDb

/-- A call keeps a property of the registers by what it writes. -/
def DeviceCall.Spares (P : (UInt8 → UInt8) → Prop) : DeviceCall → Prop
  | .setFrequency _ => Fc0012.Off Fc0012.tuned P
  | .setGain _ => OffGain P
  | .resetTuner => ∀ c env, Preserves env (OnFc0012 c P) Rtl.resetTuner
  | _ => True

section Runs

variable {c : Chip} {env : Env} {w w' : World}

/-- A frequency that has been set is in the registers. -/
theorem setFrequency_encodes {freqHz hz : UInt32} (hidentity : w.dev.identity = ⟨.fc0012, 0xC6⟩)
    (hosc : w.dev.baseband.oscillatorHz = 28800000)
    (h : setFrequency freqHz env w = (.ok hz, w')) :
    Fc0012.Encodes (Fc0012.chipRegs c w') freqHz ∧ w'.dev.tuning.centerFreqHz = freqHz := by
  obtain ⟨-, u, v, htune, hconfig, -, hview⟩ := setFrequency_tunes (c := c) h
  have hregs : Fc0012.chipRegs c w' = Fc0012.chipRegs c v :=
    congrArg (fun t : TunerView => t.i2c 0xC6) hview
  have hu : u.dev.identity = w.dev.identity := congrArg Config.identity hconfig
  have hbaseband : u.dev.baseband = w.dev.baseband := congrArg Config.baseband hconfig
  have hhalf : u.dev.baseband.oscillatorHz / 2 = 14400000 := by
    rw [hbaseband, hosc]
    decide
  rw [tune, Act.bind_of_ok (device_apply env u), hu, hidentity, if_pos rfl] at htune
  have hset := Fc0012.setFreq_ok (c := c) htune
  rw [hhalf] at hset
  refine ⟨hregs ▸ hset, ?_⟩
  obtain ⟨_, u, hu, h⟩ := Act.bind_eq_ok.mp h
  rw [Act.bind_of_ok (device_apply env u)] at h
  obtain ⟨_, v, hv, h⟩ := Act.bind_eq_ok.mp h
  obtain ⟨rc, x, hx, h⟩ := Act.bind_eq_ok.mp h
  rw [show w'.dev.tuning = _ from congrArg Config.tuning (finishFreq_ok h).2]

/-- A gain that has been set is in the registers. -/
theorem setGain_encodes (hreads : Fc0012.ReadsBack c env) {gainTenthDb : Int32}
    (hidentity : w.dev.identity = ⟨.fc0012, 0xC6⟩)
    (h : setGain gainTenthDb env w = (.ok (), w')) :
    Fc0012.EncodesGain (Fc0012.chipRegs c w') gainTenthDb ∧
      w'.dev.tuning.gainPolicy = gainTenthDb := by
  refine ⟨?_, congrArg (·.tuning.gainPolicy) (setGain_ok h)⟩
  have hcontract : activeContract TunerType.fc0012 = some fc0012Contract := rfl
  rw [setGain, Act.bind_of_ok (device_apply env w), hidentity, hcontract] at h
  obtain ⟨_, u, hu, h⟩ := Act.bind_eq_ok.mp h
  obtain ⟨rc, v, hv, h⟩ := Act.bind_eq_ok.mp h
  obtain ⟨_, x, hx, h⟩ := Act.bind_eq_ok.mp h
  obtain ⟨_, y, hy, h⟩ := Act.bind_eq_ok.mp h
  obtain ⟨rfl, rfl⟩ := Act.ofExcept_eq_ok.mp h
  have hresume := (Fc0012.keepsRegs_of_tuner (keepsTuner_resumeBulk (c := c) _)).world hy
  have hcommit : Fc0012.chipRegs c x = Fc0012.chipRegs c v := by
    cases hx
    rfl
  rw [hresume, hcommit]
  obtain ⟨_, -, happly⟩ | ⟨_, hrc, -⟩ := Act.attempt_eq_ok.mp hv
  · unfold applyGain at happly
    split at happly
    · rename_i hauto
      rw [Fc0012.setAutoGain_ok hreads happly, hauto]
      exact Fc0012.encodesGain_auto
    · rename_i hmanual
      rw [Fc0012.setGain_ok hreads happly]
      exact Fc0012.encodesGain_set hmanual
  · cases hrc

theorem perform_preserves (hreads : Fc0012.ReadsBack c env) {P : (UInt8 → UInt8) → Prop}
    {call : DeviceCall} (h : call.Spares P) : Preserves env (OnFc0012 c P) call.perform := by
  cases call with
  | setFrequency freqHz =>
    exact (onFc0012_setFrequency h freqHz).bind fun _ => Preserves.pure _
  | setSampleRate rateHz => exact (onFc0012_setSampleRate rateHz).bind fun _ => Preserves.pure _
  | setGain gainTenthDb => exact onFc0012_setGain hreads h gainTenthDb
  | setFreqCorrection ppm => exact fun _ hw => hw
  | setDigitalAgc enable => exact onFc0012_of_keeps (keepsTuner_demodWrite _ _)
  | startStream outcome => exact onFc0012_of_keeps (keepsTuner_startStream outcome)
  | stopStream => exact fun _ hw => hw
  | startBulk => exact onFc0012_of_keeps keepsTuner_startBulk
  | stopBulk => exact onFc0012_of_keeps keepsTuner_stopBulk
  | resetDemod => exact onFc0012_of_keeps keepsTuner_resetDemod
  | resetTuner => exact h c env

theorem based_spared (call : DeviceCall) : call.Spares Fc0012.Based := by
  cases call with
  | setFrequency freqHz => exact Fc0012.off_based
  | setGain gainTenthDb =>
    exact ⟨fun _ h => h.set_override, fun _ h => h.clear_override, fun gain _ h => h.set_code gain⟩
  | resetTuner => exact fun _ _ => onFc0012_resetTuner
  | _ => trivial

/-- A frequency is spared by all calls but for the next one and the resets. -/
theorem encodes_spared {call : DeviceCall} (freqHz : UInt32)
    (hfreq : ∀ hz, call ≠ .setFrequency hz) (hreset : call ≠ .resetTuner) :
    call.Spares fun regs => Fc0012.Encodes regs freqHz := by
  have hoff := Fc0012.off_encodes freqHz
  cases call with
  | setFrequency hz => exact absurd rfl (hfreq hz)
  | setGain gainTenthDb =>
    exact ⟨fun regs => hoff regs _ (by decide) _, fun regs => hoff regs _ (by decide) _,
      fun _ regs => hoff regs _ (by decide) _⟩
  | resetTuner => exact absurd rfl hreset
  | _ => trivial

/-- A gain is spared by all calls but for the next one and the resets. -/
theorem encodesGain_spared {call : DeviceCall} (gainTenthDb : Int32)
    (hgain : ∀ gain, call ≠ .setGain gain) (hreset : call ≠ .resetTuner) :
    call.Spares fun regs => Fc0012.EncodesGain regs gainTenthDb := by
  cases call with
  | setFrequency hz => exact Fc0012.off_encodesGain gainTenthDb
  | setGain gain => exact absurd rfl (hgain gain)
  | resetTuner => exact absurd rfl hreset
  | _ => trivial

@[simp] theorem note_world (s : Programmed) (w : World) (done : Bool) (call : DeviceCall) :
    (s.note w done call).world = w := by
  cases call <;> rfl

/-- The frequency that is remembered behind a call is the one that it has set, or has been
remembered before by a call that spares it. -/
theorem note_freqHz {s : Programmed} {w : World} {done : Bool} {call : DeviceCall} {freqHz : UInt32}
    (h : (s.note w done call).freqHz = some freqHz) :
    (call = .setFrequency freqHz ∧ done = true) ∨
      (s.freqHz = some freqHz ∧ (∀ hz, call ≠ .setFrequency hz) ∧ call ≠ .resetTuner) := by
  cases call with
  | setFrequency hz =>
    obtain ⟨hdone, heq⟩ := Option.ite_none_right_eq_some.mp h
    cases heq
    exact .inl ⟨rfl, hdone⟩
  | resetTuner => cases h
  | _ => exact .inr ⟨h, nofun, nofun⟩

theorem note_gainTenthDb {s : Programmed} {w : World} {done : Bool} {call : DeviceCall}
    {gainTenthDb : Int32} (h : (s.note w done call).gainTenthDb = some gainTenthDb) :
    (call = .setGain gainTenthDb ∧ done = true) ∨
      (s.gainTenthDb = some gainTenthDb ∧ (∀ gain, call ≠ .setGain gain) ∧ call ≠ .resetTuner) := by
  cases call with
  | setGain gain =>
    obtain ⟨hdone, heq⟩ := Option.ite_none_right_eq_some.mp h
    cases heq
    exact .inl ⟨rfl, hdone⟩
  | resetTuner => cases h
  | _ => exact .inr ⟨h, nofun, nofun⟩

/-- One call. -/
theorem Programmed.Holds.step (hreads : Fc0012.ReadsBack c env) {s t : Programmed}
    {call : DeviceCall} (hs : s.Holds c) (hstep : s.step env call = some t) : t.Holds c := by
  obtain ⟨x, w', hrun, hx, rfl⟩ := callStep_eq_some hstep
  have hosc := perform_config (offConfig_oscillator call) hrun hx
  have hcenter (hne : ∀ hz, call ≠ .setFrequency hz) :=
    perform_config (offConfig_center call hne) hrun hx
  have hpolicy (hne : ∀ gain, call ≠ .setGain gain) :=
    perform_config (offConfig_gain call hne) hrun hx
  have hspared {P : (UInt8 → UInt8) → Prop} (hP : call.Spares P)
      (hregs : P (Fc0012.chipRegs c s.world)) : OnFc0012 c P w' :=
    (perform_preserves hreads hP).world ⟨hs.identity, hregs⟩ hrun
  obtain ⟨hidentity, hbased⟩ := hspared (based_spared call) hs.based
  refine ⟨?_, ?_, ?_, fun freqHz hfreq => ?_, fun gainTenthDb hgain => ?_⟩
  · rwa [note_world]
  · rw [note_world]
    exact hosc.trans hs.oscillator
  · rwa [note_world]
  · rw [note_world]
    obtain ⟨rfl, hdone⟩ | ⟨hbefore, hfreq, hreset⟩ := note_freqHz hfreq
    · cases x with
      | error e => cases hdone
      | ok _ =>
        obtain ⟨hz, hset⟩ := perform_setFrequency hrun
        exact setFrequency_encodes hs.identity hs.oscillator hset
    · obtain ⟨hencodes, hcommitted⟩ := hs.freq freqHz hbefore
      exact ⟨(hspared (encodes_spared freqHz hfreq hreset) hencodes).2,
        (hcenter hfreq).trans hcommitted⟩
  · rw [note_world]
    obtain ⟨rfl, hdone⟩ | ⟨hbefore, hgain, hreset⟩ := note_gainTenthDb hgain
    · cases x with
      | error e => cases hdone
      | ok _ => exact setGain_encodes hreads hs.identity hrun
    · obtain ⟨hencodes, hcommitted⟩ := hs.gain gainTenthDb hbefore
      exact ⟨(hspared (encodesGain_spared gainTenthDb hgain hreset) hencodes).2,
        (hpolicy hgain).trans hcommitted⟩

/-- The tuner of a device that has been opened. -/
theorem opened_holds (hopen : bringUp env ⟨blankDevice, [], none, 0⟩ = (.ok (), w))
    (hclass : w.dev.identity.tunerClass = .fc0012) : (Programmed.mk w none none).Holds c := by
  obtain ⟨hopened, -⟩ := bringUp_opened rfl rfl hopen
  have hfc0012 : OpenedFc0012 w := by
    refine hopened.resolve_left fun hr820t => ?_
    rw [hr820t.identity] at hclass
    cases hclass
  refine ⟨hfc0012.identity, hfc0012.oscillator, ?_, nofun, nofun⟩
  obtain ⟨_, u, -, hdiscover⟩ := Act.bind_eq_ok.mp hopen
  obtain ⟨hr820t, -⟩ | ⟨-, v, hactivate⟩ := discover_family hdiscover
  · rw [hclass] at hr820t
    cases hr820t
  · obtain ⟨_, x, -, hactivate⟩ := Act.bind_eq_ok.mp hactivate
    obtain ⟨_, y, -, hactivate⟩ := Act.bind_eq_ok.mp hactivate
    obtain ⟨_, z, hinit, hgate⟩ := Act.bind_eq_ok.mp hactivate
    have hkept := (Fc0012.keepsRegs_of_tuner
      (keepsTuner_enableI2cRepeater (c := c) true).ignore).world hgate
    change Fc0012.Based (Fc0012.chipRegs c w)
    rw [hkept]
    exact (Fc0012.init_ok hinit).based

end Runs

/-- On an FC0012 that has been opened, whatever calls follow and whichever of their transfers fail,
the registers of the tuner encode the frequency and the gain of the last calls for them, if these
succeeded, and hold all else as the cold start has left it. -/
theorem programmed_run {c : Chip} {env : Env} {w : World} {calls : List DeviceCall} {s : Programmed}
    (hreads : Fc0012.ReadsBack c env)
    (hopen : bringUp env ⟨blankDevice, [], none, 0⟩ = (.ok (), w))
    (hclass : w.dev.identity.tunerClass = .fc0012)
    (hrun : run (Programmed.step env) ⟨w, none, none⟩ calls = some s) : s.Holds c :=
  run_invariant (fun _ _ _ hs hstep => hs.step hreads hstep) (opened_holds hopen hclass) hrun

/-- A bus with an FC0012 that has not been started. -/
def coldBus : Chip := ⟨fun _ => 0, fun addr reg => if addr = 0xC6 ∧ reg = 0x00 then 0xA1 else 0⟩

/-- What an FC0012 whose VCO locks sends: its registers, and the voltage of the VCO for 0x0E. -/
def lockedAnswer : Answer := fun addr regs frame len =>
  if frame = some [0x0E] then [0x20] else familyAnswer .fc0012 addr regs frame len

/-- The device on that bus, on which no transfer fails. -/
def coldEnv : Env := busEnv coldBus lockedAnswer

theorem coldEnv_readsBack : Fc0012.ReadsBack coldBus coldEnv := by
  intro log data location hlocation hframe hresp
  have hother : (some [location] : Option (List UInt8)) ≠ some [0x0E] := by
    obtain rfl | rfl := List.mem_pair.mp hlocation <;> decide
  have hanswer : lockedAnswer 0xC6 ((coldBus.after log).i2c 0xC6) (lastFrame 0xC6 log) 1 = data :=
    Response.done.inj hresp
  rw [← hanswer, lockedAnswer, hframe, if_neg hother]
  simp [familyAnswer, TunerType.isFc001x, List.range_succ]

/-- An FC0012 whose VCO locks, at 100 MHz and 19.2 dB, of which the rate has been changed since. -/
theorem programmed_run_rate : ∃ w s,
    bringUp coldEnv ⟨blankDevice, [], none, 0⟩ = (.ok (), w) ∧
    (Fc0012.runCalibrationPolicy 0xA2 false coldEnv w).1 = .ok ⟨0x20, .locked, false⟩ ∧
    run (Programmed.step coldEnv) ⟨w, none, none⟩
      [.setFrequency 100000000, .setGain 192, .setSampleRate 2048000] = some s ∧
    s.freqHz = some 100000000 ∧ s.gainTenthDb = some 192 ∧ s.Holds coldBus := by
  have hopen : (bringUp coldEnv ⟨blankDevice, [], none, 0⟩).1 = .ok () := by decide +kernel
  have hclass : (bringUp coldEnv ⟨blankDevice, [], none, 0⟩).2.dev.identity.tunerClass = .fc0012 := by
    decide +kernel
  have hlocks : (Fc0012.runCalibrationPolicy 0xA2 false coldEnv
      (bringUp coldEnv ⟨blankDevice, [], none, 0⟩).2).1 = .ok ⟨0x20, .locked, false⟩ := by
    decide +kernel
  have hrun : (run (Programmed.step coldEnv)
      ⟨(bringUp coldEnv ⟨blankDevice, [], none, 0⟩).2, none, none⟩
      [.setFrequency 100000000, .setGain 192, .setSampleRate 2048000]).map
        (fun s => (s.freqHz, s.gainTenthDb)) = some (some 100000000, some 192) := by
    decide +kernel
  obtain ⟨s, hs, hasked⟩ := Option.map_eq_some_iff.mp hrun
  obtain ⟨hfreq, hgain⟩ := Prod.mk.inj hasked
  have hopen := Prod.fst_eq_iff.mp hopen
  exact ⟨_, s, hopen, hlocks, hs, hfreq, hgain, programmed_run coldEnv_readsBack hopen hclass hs⟩

end Sdrgg.Sdr
