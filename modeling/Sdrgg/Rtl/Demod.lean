import Sdrgg.Rtl.Baseband
import Sdrgg.Rtl.Chip
import Sdrgg.Rtl.Session

/-! Page 1 of the demodulator: the repeater gate in register 0x01, the NCO word in 0x19 to 0x1B and
the resampler ratio in 0x9F to 0xA2. -/

namespace Sdrgg.Rtl

open ProofKit Usb

def page1 (c : Chip) (w : World) : UInt8 → UInt8 := (chip c w).demod

/-- Register 0x01, which holds the repeater gate. -/
def repeaterGate (c : Chip) (w : World) : UInt8 := page1 c w 0x01

/-- The registers of the NCO. -/
def nco (regs : UInt8 → UInt8) : UInt8 × UInt8 × UInt8 := (regs 0x19, regs 0x1A, regs 0x1B)

/-- The registers of the resampler ratio. -/
def ratioRegs (regs : UInt8 → UInt8) : List UInt8 := [regs 0x9F, regs 0xA0, regs 0xA1, regs 0xA2]

/-- The bytes in which `set_if_freq` writes a word of the NCO. -/
def ncoBytes (word : Int32) : UInt8 × UInt8 × UInt8 :=
  (((word >>> 16) &&& 0x3F).toUInt32.toUInt16.toUInt8,
    ((word >>> 8) &&& 0xFF).toUInt32.toUInt16.toUInt8,
    (word &&& 0xFF).toUInt32.toUInt16.toUInt8)

/-- The NCO registers hold the word of the device's IF. -/
def NcoEncodes (c : Chip) (w : World) : Prop :=
  ∃ word, ncoWord w.dev.baseband.oscillatorHz w.dev.tuning.ifOffsetHz = some word ∧
    nco (page1 c w) = ncoBytes word

/-! ### One write -/

section Writes

variable {c : Chip} {env : Env} {w w' : World}

theorem demodValue_reg (reg : UInt8) : (demodValue reg >>> 8).toUInt8 = reg := by
  have hall : ∀ n < 256, (demodValue (UInt8.ofNat n) >>> 8).toUInt8 = UInt8.ofNat n := by
    decide +kernel
  simpa using hall reg.toNat reg.toNat_lt

theorem keepsPage1_controlRead (value index len : UInt16) (buf : List UInt8) :
    Keeps (page1 c) (controlRead value index len buf) :=
  (keepsChip_controlRead value index len buf).comp Chip.demod

theorem keepsPage1_controlWrite {value index : UInt16} {data : List UInt8} (h : index ≠ 0x11) :
    Keeps (page1 c) (controlWrite value index data) := by
  intro env w
  rcases hw : controlWrite value index data env w with ⟨e | _, u⟩
  · exact congrArg Chip.demod (controlWrite_error hw)
  · rw [page1, controlWrite_ok hw, Chip.apply, if_neg h]
    split <;> rfl

theorem submitDemodWrite_page1 {reg : UInt8} {val : UInt16} {len : UInt8}
    (h : submitDemodWrite 1 reg val len env w = (.ok (), w')) :
    page1 c w' = demodWritten (page1 c w) reg (payload val len) := by
  obtain ⟨_, u, hu, h⟩ := Act.bind_eq_ok.mp h
  rw [(keepsPage1_controlRead _ _ _ _).ignore.world h, page1, controlWrite_ok hu, Chip.apply,
    if_pos (by decide), demodValue_reg]
  rfl

theorem submitDemodWrite_error {reg : UInt8} {val : UInt16} {len : UInt8} {e : Fault SdrggError}
    (h : submitDemodWrite 1 reg val len env w = (.error e, w')) : page1 c w' = page1 c w := by
  obtain h | ⟨_, u, hu, h⟩ := Act.bind_eq_fault.mp h
  · exact congrArg Chip.demod (controlWrite_error h)
  · obtain ⟨v, hv⟩ := ignore_controlRead 0x0120 0x000a 1 [0] env u
    cases hv.symm.trans h

theorem demodWritten_byte {regs : UInt8 → UInt8} {reg : UInt8} (h : reg ≠ 0x01) (val : UInt16) :
    demodWritten regs reg (payload val 1) = Function.update regs reg val.toUInt8 := by
  simp [demodWritten, resetsDdc, h, payload, written]

theorem demodWritten_gate {regs : UInt8 → UInt8} {val : UInt16} (h : val.toUInt8 &&& 0x04 = 0) :
    demodWritten regs 0x01 (payload val 1) = Function.update regs 0x01 val.toUInt8 := by
  simp [demodWritten, resetsDdc, payload, written, h]

/-- A reset of the down-converter. -/
theorem demodWritten_reset {regs : UInt8 → UInt8} {val : UInt16} (h : val.toUInt8 &&& 0x04 ≠ 0) :
    demodWritten regs 0x01 (payload val 1) =
      ncoCleared (Function.update regs 0x01 val.toUInt8) := by
  simp [demodWritten, resetsDdc, payload, written, h]

theorem enableI2cRepeater_gate {enable : Bool} {w w' : World}
    (h : enableI2cRepeater enable env w = (.ok (), w')) :
    repeaterGate c w' = if enable then 0x18 else 0x10 := by
  have hgate : (if enable then 0x18 else 0x10 : UInt16).toUInt8 &&& 0x04 = 0 := by
    cases enable <;> decide
  rw [repeaterGate, submitDemodWrite_page1 h, demodWritten_gate hgate, Function.update_self]
  cases enable <;> decide

end Writes

/-! ### What leaves page 1 alone -/

section Frames

variable {c : Chip}

theorem keepsPage1_modifyDevice (f : Device → Device) : Keeps (page1 c) (modifyDevice f) :=
  Keeps.modify fun _ => rfl

theorem keepsPage1_device : Keeps (page1 c) device := fun _ _ => rfl

theorem keepsPage1_uninitialised (n : Nat) : Keeps (page1 c) (uninitialised n) := fun _ _ => rfl

theorem keepsPage1_submitBlockWrite {block : UInt8} (h : block = 1 ∨ block = 2)
    (addr val : UInt16) (len : UInt8) : Keeps (page1 c) (submitBlockWrite block addr val len) := by
  refine keepsPage1_controlWrite ?_
  obtain rfl | rfl := h <;> decide

theorem keepsPage1_submitBlockRead (block : UInt8) (addr : UInt16) (val : UInt8) :
    Keeps (page1 c) (submitBlockRead block addr val) :=
  (keepsPage1_controlRead _ _ _ _).bind fun _ => Keeps.pure _

theorem keepsPage1_submitDemodWrite (reg : UInt8) (val : UInt16) (len : UInt8) :
    Keeps (page1 c) (submitDemodWrite 0 reg val len) :=
  (keepsPage1_controlWrite (by decide)).bind fun _ => (keepsPage1_controlRead _ _ _ _).ignore

theorem keepsPage1_submitDemodRead (page reg val : UInt8) :
    Keeps (page1 c) (submitDemodRead page reg val) :=
  (keepsPage1_controlRead _ _ _ _).bind fun _ => Keeps.pure _

theorem keepsPage1_updateSystem (addr : UInt16) (r : UInt8) (change : UInt8 → UInt8) :
    Keeps (page1 c) (updateSystem addr r change) :=
  ((keepsPage1_submitBlockRead _ _ _).orElse r).bind fun _ =>
    (keepsPage1_submitBlockWrite (.inr rfl) _ _ _).ignore.bind fun _ => Keeps.pure _

theorem keepsPage1_setGpioBit (gpio : UInt8) (val : Bool) :
    Keeps (page1 c) (setGpioBit gpio val) :=
  (keepsPage1_uninitialised 1).bind fun _ =>
    (keepsPage1_updateSystem _ _ _).bind fun _ => Keeps.pure _

theorem keepsPage1_stopBulk : Keeps (page1 c) stopBulk :=
  keepsPage1_submitBlockWrite (.inl rfl) _ _ _

theorem keepsPage1_startBulk : Keeps (page1 c) startBulk :=
  (keepsPage1_submitBlockWrite (.inl rfl) _ _ _).bind fun _ =>
    keepsPage1_submitBlockWrite (.inl rfl) _ _ _

/-- A frame to the tuner, or a read of it. -/
theorem keepsPage1_tunerFrame (addr : UInt16) (data : List UInt8) :
    Keeps (page1 c) (controlWrite addr 0x0610 data) :=
  keepsPage1_controlWrite (by decide)

end Frames

/-! ### The NCO, the ratio and the reset -/

section Specs

variable {c : Chip} {env : Env} {w w' : World}

/-- Page 1 with a word in the NCO. -/
def withNco (regs : UInt8 → UInt8) (bytes : UInt8 × UInt8 × UInt8) : UInt8 → UInt8 :=
  Function.update (Function.update (Function.update regs 0x19 bytes.1) 0x1A bytes.2.1) 0x1B bytes.2.2

@[simp] theorem nco_withNco (regs : UInt8 → UInt8) (bytes : UInt8 × UInt8 × UInt8) :
    nco (withNco regs bytes) = bytes := by
  simp [nco, withNco]

@[simp] theorem ratioRegs_withNco (regs : UInt8 → UInt8) (bytes : UInt8 × UInt8 × UInt8) :
    ratioRegs (withNco regs bytes) = ratioRegs regs := by
  simp [ratioRegs, withNco]

theorem setIfFreq_page1 {ifFreqHz : UInt32} (h : setIfFreq ifFreqHz env w = (.ok (), w')) :
    ∃ word, ncoWord w.dev.baseband.oscillatorHz ifFreqHz = some word ∧
      page1 c w' = withNco (page1 c w) (ncoBytes word) := by
  obtain ⟨_, u, hu, h⟩ := Act.bind_eq_ok.mp h
  rw [programNco, Act.bind_of_ok (device_apply env w)] at hu
  obtain ⟨word, v, hv, hu⟩ := Act.bind_eq_ok.mp hu
  obtain ⟨hword, rfl⟩ := Act.ofOption_eq_ok.mp hv
  obtain ⟨_, x, hx, hu⟩ := Act.bind_eq_ok.mp hu
  obtain ⟨_, y, hy, hu⟩ := Act.bind_eq_ok.mp hu
  refine ⟨word, hword, ?_⟩
  rw [(keepsPage1_modifyDevice _).world h, submitDemodWrite_page1 hu, submitDemodWrite_page1 hy,
    submitDemodWrite_page1 hx, demodWritten_byte (by decide), demodWritten_byte (by decide),
    demodWritten_byte (by decide)]
  rfl

/-- `set_if_freq` leaves the NCO with the word of the IF. -/
theorem setIfFreq_encodes {ifFreqHz : UInt32} (h : setIfFreq ifFreqHz env w = (.ok (), w')) :
    NcoEncodes c w' := by
  obtain ⟨word, hword, hpage⟩ := setIfFreq_page1 (c := c) h
  have hconfig := setIfFreq_ok h
  have hosc : w'.dev.baseband.oscillatorHz = w.dev.baseband.oscillatorHz :=
    congrArg (fun c => c.baseband.oscillatorHz) hconfig
  have hif : w'.dev.tuning.ifOffsetHz = ifFreqHz := congrArg (fun c => c.tuning.ifOffsetHz) hconfig
  exact ⟨word, by rw [hosc, hif, hword], by rw [hpage, nco_withNco]⟩

/-- The NCO holds the word of the IF as long as neither changes. -/
theorem NcoEncodes.of_eq {u : World} (h : NcoEncodes c w) (hpage : page1 c u = page1 c w)
    (hosc : u.dev.baseband.oscillatorHz = w.dev.baseband.oscillatorHz)
    (hif : u.dev.tuning.ifOffsetHz = w.dev.tuning.ifOffsetHz) : NcoEncodes c u := by
  obtain ⟨word, hword, hnco⟩ := h
  exact ⟨word, by rw [hosc, hif, hword], by rw [hpage, hnco]⟩

/-- Page 1 with a ratio programmed and the down-converter reset. -/
def withRatio (regs : UInt8 → UInt8) (ratio : UInt32) : UInt8 → UInt8 :=
  let regs := written regs 0x9F (payload ((ratio >>> 16) &&& 0xFFFF).toUInt16 2)
  let regs := written regs 0xA1 (payload (ratio &&& 0xFFFF).toUInt16 2)
  Function.update (ncoCleared (Function.update regs 0x01 0x14)) 0x01 0x10

theorem programRatio_page1 {ratio : UInt32} (h : programRatio ratio env w = (.ok (), w')) :
    page1 c w' = withRatio (page1 c w) ratio := by
  obtain ⟨_, u, hu, h⟩ := Act.bind_eq_ok.mp h
  obtain ⟨_, v, hv, h⟩ := Act.bind_eq_ok.mp h
  obtain ⟨_, x, hx, h⟩ := Act.bind_eq_ok.mp h
  rw [submitDemodWrite_page1 h, submitDemodWrite_page1 hx, submitDemodWrite_page1 hv,
    submitDemodWrite_page1 hu, demodWritten_gate (by decide), demodWritten_reset (by decide)]
  rfl

@[simp] theorem withRatio_gate (regs : UInt8 → UInt8) (ratio : UInt32) :
    withRatio regs ratio 0x01 = 0x10 := by
  simp [withRatio]

@[simp] theorem nco_withRatio (regs : UInt8 → UInt8) (ratio : UInt32) :
    nco (withRatio regs ratio) = (0, 0, 0) := by
  simp [nco, withRatio, ncoCleared]

/-- The bytes of a ratio's two halves. -/
def ratioBytes (ratio : UInt32) : List UInt8 :=
  payload ((ratio >>> 16) &&& 0xFFFF).toUInt16 2 ++ payload (ratio &&& 0xFFFF).toUInt16 2

@[simp] theorem ratioRegs_withRatio (regs : UInt8 → UInt8) (ratio : UInt32) :
    ratioRegs (withRatio regs ratio) = ratioBytes ratio := by
  simp [ratioRegs, withRatio, ncoCleared, ratioBytes, payload, written]

/-- Page 1 with the down-converter reset by a change of register 0x01 to and fro. -/
def withReset (regs : UInt8 → UInt8) (val : UInt8) : UInt8 → UInt8 :=
  Function.update (ncoCleared (Function.update regs 0x01 (val ||| 0x04))) 0x01 (val &&& ~~~0x04)

@[simp] theorem nco_withReset (regs : UInt8 → UInt8) (val : UInt8) :
    nco (withReset regs val) = (0, 0, 0) := by
  simp [nco, withReset, ncoCleared]

@[simp] theorem withReset_gate (regs : UInt8 → UInt8) (val : UInt8) :
    withReset regs val 0x01 = val &&& ~~~0x04 := by
  simp [withReset]

/-- A read of register 0x01 of page 1 returns what it holds. -/
def ReadsGate (c : Chip) (env : Env) : Prop :=
  ∀ log, env.kernel log (.read 0x0120 0x0001 1) = .done [(c.after log).demod 0x01]

theorem demodRead_gate {val byte : UInt8} (henv : ReadsGate c env)
    (h : demodRead 0 0x0101 val env w = (.ok byte, w')) : byte = repeaterGate c w := by
  obtain ⟨data, u, hu, h⟩ := Act.bind_eq_ok.mp h
  cases h
  have hresp : env.kernel w.log (.read (demodValue 0x01) (1 : UInt8).toUInt16 1) =
      .done [repeaterGate c w] := henv w.log
  have hu : controlRead (demodValue 0x01) (1 : UInt8).toUInt16 1 [val] env w = (.ok data, w') := hu
  simp only [controlRead, Act.bind_apply, ioctl, noteResponse, Act.modify_apply, hresp] at hu
  cases hu
  rfl

theorem reset_bit (val : UInt8) : (val ||| 0x04).toUInt16.toUInt8 &&& 0x04 ≠ 0 ∧
    (val &&& ~~~0x04).toUInt16.toUInt8 &&& 0x04 = 0 := by
  have hall : ∀ n < 256, (UInt8.ofNat n ||| 0x04).toUInt16.toUInt8 &&& 0x04 ≠ 0 ∧
      (UInt8.ofNat n &&& ~~~0x04).toUInt16.toUInt8 &&& 0x04 = 0 := by
    decide +kernel
  simpa using hall val.toNat val.toNat_lt

theorem resetDemod_page1 (h : resetDemod env w = (.ok (), w')) :
    ∃ val, page1 c w' = withReset (page1 c w) val ∧
      (ReadsGate c env → val = repeaterGate c w) := by
  rw [resetDemod, Act.bind_of_ok (uninitialised_apply 1 env w)] at h
  obtain ⟨val, u, hu, h⟩ := Act.bind_eq_ok.mp h
  obtain ⟨_, v, hv, h⟩ := Act.bind_eq_ok.mp h
  refine ⟨val, ?_, fun henv => demodRead_gate henv hu⟩
  have hv : submitDemodWrite 1 0x01 (val ||| 0x04).toUInt16 1 env u = (.ok (), v) := hv
  have h : submitDemodWrite 1 0x01 (val &&& ~~~0x04).toUInt16 1 env v = (.ok (), w') := h
  have hpage : page1 c u = page1 c w := (keepsPage1_submitDemodRead 1 0x01 _).world hu
  rw [submitDemodWrite_page1 h, submitDemodWrite_page1 hv, demodWritten_gate (reset_bit val).2,
    demodWritten_reset (reset_bit val).1, hpage, UInt8.toUInt8_toUInt16, UInt8.toUInt8_toUInt16,
    withReset]

end Specs

end Sdrgg.Rtl
