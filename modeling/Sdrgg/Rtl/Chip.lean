import Sdrgg.Rtl.Registers

/-! The registers behind the transfers: page 1 of the demodulator, where a reset of the
down-converter clears the NCO, and the devices on the I2C bus.  A transfer that fails leaves them as
they are. -/

namespace Sdrgg.Rtl

open ProofKit Usb

structure Chip where
  demod : UInt8 → UInt8
  i2c : UInt16 → UInt8 → UInt8

/-- The registers after a write of `data` to the registers from `reg` on. -/
def written (regs : UInt8 → UInt8) (reg : UInt8) : List UInt8 → UInt8 → UInt8
  | [] => regs
  | byte :: data => written (Function.update regs reg byte) (reg + 1) data

/-- The write sets bit 2 of register 0x01. -/
def resetsDdc (reg : UInt8) (data : List UInt8) : Bool :=
  reg = 0x01 && data.headD 0 &&& 0x04 ≠ 0

def ncoCleared (regs : UInt8 → UInt8) (reg : UInt8) : UInt8 :=
  if reg = 0x19 ∨ reg = 0x1A ∨ reg = 0x1B then 0 else regs reg

def demodWritten (regs : UInt8 → UInt8) (reg : UInt8) (data : List UInt8) : UInt8 → UInt8 :=
  if resetsDdc reg data then ncoCleared (written regs reg data) else written regs reg data

/-- A device on the I2C bus takes the first byte as the register and the others as its values. -/
def i2cWritten (regs : UInt8 → UInt8) : List UInt8 → UInt8 → UInt8
  | [] => regs
  | reg :: data => written regs reg data

def Chip.apply (c : Chip) : Transfer → Chip
  | .write value index data =>
    if index = 0x11 then { c with demod := demodWritten c.demod (value >>> 8).toUInt8 data }
    else if index = 0x0610 then
      { c with i2c := Function.update c.i2c value (i2cWritten (c.i2c value) data) }
    else c
  | _ => c

/-- The registers after the transfers of a log. -/
def Chip.after (c : Chip) : Log → Chip
  | [] => c
  | (t, .done _) :: log => (c.after log).apply t
  | (_, .fail _) :: log => c.after log

/-- The registers in a world whose device had the registers `c` before its first transfer. -/
def chip (c : Chip) (w : World) : Chip := c.after w.log

/-- A chip whose registers hold zero. -/
def blankChip : Chip := ⟨fun _ => 0, fun _ _ => 0⟩

/-- A register of the tuner. -/
def tunerReg (c : Chip) (w : World) (reg : UInt8) : UInt8 :=
  (chip c w).i2c w.dev.identity.tunerBusAddr reg

/-! ### One transfer -/

section Transfers

variable {c : Chip} {env : Env} {w w' : World}

theorem controlWrite_ok {value index : UInt16} {data : List UInt8} {x : Unit}
    (h : controlWrite value index data env w = (.ok x, w')) :
    chip c w' = (chip c w).apply (.write value index data) := by
  simp only [controlWrite, Act.bind_apply, ioctl, noteResponse, Act.modify_apply] at h
  rcases hresp : env.kernel w.log (.write value index data) with bytes | errno <;>
    rw [hresp] at h <;> cases h
  rfl

theorem controlWrite_error {value index : UInt16} {data : List UInt8} {e : Fault SdrggError}
    (h : controlWrite value index data env w = (.error e, w')) : chip c w' = chip c w := by
  simp only [controlWrite, Act.bind_apply, ioctl, noteResponse, Act.modify_apply] at h
  rcases hresp : env.kernel w.log (.write value index data) with bytes | errno <;>
    rw [hresp] at h <;> cases h
  rfl

end Transfers

/-! ### What leaves the registers alone -/

section Frames

variable {c : Chip}

theorem keepsChip_ioctl {t : Transfer} (h : ∀ c : Chip, c.apply t = c) :
    Keeps (chip c) (ioctl t) := by
  intro env w
  change c.after ((t, env.kernel w.log t) :: w.log) = c.after w.log
  rcases env.kernel w.log t with bytes | errno
  · exact h _
  · rfl

theorem keepsChip_noteResponse (resp : Response) : Keeps (chip c) (noteResponse resp) :=
  Keeps.modify fun _ => rfl

@[grind ←] theorem keepsChip_controlRead (value index len : UInt16) (buf : List UInt8) :
    Keeps (chip c) (controlRead value index len buf) := by
  refine Keeps.bind (keepsChip_ioctl fun _ => rfl) fun resp => ?_
  refine Keeps.bind (keepsChip_noteResponse resp) fun _ => ?_
  cases resp with
  | done data => exact Keeps.pure _
  | fail errno => exact Keeps.fail _

/-! ### The tuner's side -/

/-- What the code keeps of the tuner and what the tuner holds. -/
structure TunerView where
  identity : DeviceIdentity
  shadow : TunerShadow
  i2c : UInt16 → UInt8 → UInt8

def tunerView (c : Chip) (w : World) : TunerView := ⟨w.dev.identity, w.dev.shadow, (chip c w).i2c⟩

theorem Device.noted_identity (d : Device) (resp : Response) : (d.noted resp).identity = d.identity := by
  cases resp with
  | done data => rfl
  | fail errno =>
    unfold Device.noted
    dsimp only
    split <;> rfl

theorem Device.noted_shadow (d : Device) (resp : Response) : (d.noted resp).shadow = d.shadow := by
  cases resp with
  | done data => rfl
  | fail errno =>
    unfold Device.noted
    dsimp only
    split <;> rfl

theorem keepsTuner_ioctl {t : Transfer} (h : ∀ c : Chip, (c.apply t).i2c = c.i2c) :
    Keeps (tunerView c) (ioctl t) := by
  intro env w
  change TunerView.mk _ _ (c.after ((t, env.kernel w.log t) :: w.log)).i2c = _
  rcases env.kernel w.log t with bytes | errno
  · rw [Chip.after, h]
    rfl
  · rfl

@[grind ←] theorem keepsTuner_noteResponse (resp : Response) :
    Keeps (tunerView c) (noteResponse resp) := by
  refine Keeps.modify fun w => ?_
  change TunerView.mk (w.dev.noted resp).identity (w.dev.noted resp).shadow _ = _
  rw [Device.noted_identity, Device.noted_shadow]
  rfl

theorem keepsTuner_controlWrite {value index : UInt16} {data : List UInt8}
    (h : ∀ c : Chip, (c.apply (.write value index data)).i2c = c.i2c) :
    Keeps (tunerView c) (controlWrite value index data) := by
  refine Keeps.bind (keepsTuner_ioctl h) fun resp => ?_
  grind

@[grind ←] theorem keepsTuner_controlRead (value index len : UInt16) (buf : List UInt8) :
    Keeps (tunerView c) (controlRead value index len buf) := by
  refine Keeps.bind (keepsTuner_ioctl fun _ => rfl) fun resp => ?_
  grind

@[grind ←] theorem keepsTuner_submitDemodWrite (page reg : UInt8) (val : UInt16) (len : UInt8) :
    Keeps (tunerView c) (submitDemodWrite page reg val len) := by
  have hpage : ∀ n < 256, (0x10 : UInt16) ||| (UInt8.ofNat n).toUInt16 ≠ 0x0610 := by
    decide +kernel
  have hpage : (0x10 : UInt16) ||| page.toUInt16 ≠ 0x0610 := by
    simpa using hpage page.toNat page.toNat_lt
  have hwrite : Keeps (tunerView c) (controlWrite (demodValue reg) (0x10 ||| page.toUInt16)
      (payload val len)) := by
    refine keepsTuner_controlWrite fun c => ?_
    unfold Chip.apply
    dsimp only
    split
    · rfl
    · rfl
  exact hwrite.bind fun _ => (keepsTuner_controlRead _ _ _ _).ignore

@[grind ←] theorem keepsTuner_enableI2cRepeater (enable : Bool) :
    Keeps (tunerView c) (enableI2cRepeater enable) :=
  keepsTuner_submitDemodWrite _ _ _ _

/-- The read of one register of an FC0012 sends no value. -/
@[grind ←] theorem keepsTuner_tunerReadRandom (addr : UInt16) (location byte : UInt8) :
    Keeps (tunerView c) (tunerReadRandom addr location byte) := by
  have haddr : Keeps (tunerView c) (controlWrite addr 0x0610 [location]) :=
    keepsTuner_controlWrite fun c => Function.update_eq_self addr c.i2c
  grind [tunerReadRandom]

@[grind ←] theorem keepsTuner_device : Keeps (tunerView c) device := fun _ _ => rfl

@[grind ←] theorem keepsTuner_uninitialised (n : Nat) : Keeps (tunerView c) (uninitialised n) :=
  fun _ _ => rfl

@[grind ←] theorem keepsTuner_tunerReadTransfers (reg : UInt8) (data : List UInt8) :
    Keeps (tunerView c) (tunerReadTransfers reg data) := by
  grind [tunerReadTransfers]

@[grind ←] theorem keepsTuner_tunerRead (reg len : UInt8) :
    Keeps (tunerView c) (tunerRead reg len) := by
  grind [tunerRead]

@[grind ←] theorem keepsTuner_tunerReadReg (reg : UInt8) :
    Keeps (tunerView c) (tunerReadReg reg) := by
  grind [tunerReadReg]

@[grind ←] theorem keepsTuner_tunerCurrent (reg : UInt8) :
    Keeps (tunerView c) (tunerCurrent reg) := by
  grind [tunerCurrent]

@[grind ←] theorem keepsTuner_modifyTuning (f : TuningContext → TuningContext) :
    Keeps (tunerView c) (modifyTuning f) :=
  Keeps.modify fun _ => rfl

@[grind ←] theorem keepsTuner_setIfFreq (ifFreqHz : UInt32) :
    Keeps (tunerView c) (setIfFreq ifFreqHz) := by
  grind [setIfFreq, programNco]

/-- A write to a block of the bridge does not reach the I2C bus. -/
theorem keepsTuner_submitBlockWrite {block : UInt8} (h : block = 1 ∨ block = 2)
    (addr val : UInt16) (len : UInt8) :
    Keeps (tunerView c) (submitBlockWrite block addr val len) := by
  have hindex : (block.toUInt16 <<< 8) ||| 0x10 ≠ 0x11 ∧ (block.toUInt16 <<< 8) ||| 0x10 ≠ 0x0610 := by
    obtain rfl | rfl := h <;> decide
  refine keepsTuner_controlWrite fun c => ?_
  rw [Chip.apply, if_neg hindex.1, if_neg hindex.2]

theorem keepsTuner_stopBulk : Keeps (tunerView c) stopBulk :=
  keepsTuner_submitBlockWrite (.inl rfl) _ _ _

theorem keepsTuner_startBulk : Keeps (tunerView c) startBulk :=
  (keepsTuner_submitBlockWrite (.inl rfl) _ _ _).bind fun _ =>
    keepsTuner_submitBlockWrite (.inl rfl) _ _ _

end Frames

/-! ### Writes to the tuner -/

section TunerWrites

variable {c : Chip} {env : Env} {w w' : World}

theorem controlWrite_identity {value index : UInt16} {data : List UInt8}
    {out : Except (Fault SdrggError) Unit} (h : controlWrite value index data env w = (out, w')) :
    w'.dev.identity = w.dev.identity ∧ w'.dev.shadow = w.dev.shadow := by
  simp only [controlWrite, Act.bind_apply, ioctl, noteResponse, Act.modify_apply] at h
  rcases hresp : env.kernel w.log (.write value index data) with bytes | errno <;>
    rw [hresp] at h <;> cases h <;>
    exact ⟨Device.noted_identity _ _, Device.noted_shadow _ _⟩

/-- A read whose result is not looked at returns. -/
theorem ignore_controlRead (value index len : UInt16) (buf : List UInt8) (env : Env) (w : World) :
    ∃ w', Act.ignore (controlRead value index len buf) env w = (.ok (), w') := by
  simp only [Act.ignore, Act.bind_apply, Act.attempt, controlRead, ioctl, noteResponse,
    Act.modify_apply]
  rcases env.kernel w.log (.read value index len) with bytes | errno <;> exact ⟨_, rfl⟩

/-- Closing the repeater is never undefined. -/
theorem ignore_enableI2cRepeater (enable : Bool) (env : Env) (w : World) :
    ∃ w', Act.ignore (enableI2cRepeater enable) env w = (.ok (), w') := by
  rcases h : controlWrite (demodValue 0x01) (0x10 ||| (1 : UInt8).toUInt16)
      (payload (if enable then 0x18 else 0x10) 1) env w with ⟨(e | _) | _, u⟩
  · exact ⟨u, Act.bind_of_ok (Act.attempt_of_error (Act.bind_of_error h))⟩
  · simp only [controlWrite, Act.bind_apply, ioctl, noteResponse, Act.modify_apply] at h
    rcases hresp : env.kernel w.log (.write (demodValue 0x01) (0x10 ||| (1 : UInt8).toUInt16)
      (payload (if enable then 0x18 else 0x10) 1)) with bytes | errno <;> rw [hresp] at h <;> cases h
  · obtain ⟨v, hv⟩ := ignore_controlRead 0x0120 0x000a 1 [0] env u
    exact ⟨v, Act.bind_of_ok (Act.attempt_of_ok ((Act.bind_of_ok h).trans hv))⟩

/-- The tuner after a frame of `data` has arrived. -/
def TunerView.framed (t : TunerView) (data : List UInt8) : TunerView :=
  { t with
    i2c := Function.update t.i2c t.identity.tunerBusAddr
      (i2cWritten (t.i2c t.identity.tunerBusAddr) data) }

/-- The registers of the tuner. -/
def TunerView.regs (t : TunerView) : UInt8 → UInt8 := t.i2c t.identity.tunerBusAddr

theorem TunerView.regs_framed (t : TunerView) (data : List UInt8) :
    (t.framed data).regs = i2cWritten t.regs data :=
  Function.update_self _ _ _

theorem tunerReg_eq (c : Chip) (w : World) : tunerReg c w = (tunerView c w).regs := rfl

theorem tunerFrame_ok {data : List UInt8}
    (h : controlWrite w.dev.identity.tunerBusAddr 0x0610 data env w = (.ok (), w')) :
    tunerView c w' = TunerView.framed (tunerView c w) data := by
  obtain ⟨hidentity, hshadow⟩ := controlWrite_identity h
  unfold tunerView
  rw [hidentity, hshadow, controlWrite_ok h]
  rfl

theorem tunerFrame_error {addr : UInt16} {data : List UInt8} {e : Fault SdrggError}
    (h : controlWrite addr 0x0610 data env w = (.error e, w')) :
    tunerView c w' = tunerView c w := by
  obtain ⟨hidentity, hshadow⟩ := controlWrite_identity h
  unfold tunerView
  rw [hidentity, hshadow, controlWrite_error h]

theorem tunerWrite_ok {data : List UInt8} (h : tunerWrite data env w = (.ok (), w')) :
    tunerView c w' = TunerView.framed (tunerView c w) data := by
  obtain ⟨_, u, hu, h⟩ := Act.bind_eq_ok.mp h
  rw [Act.bind_of_ok (device_apply env u)] at h
  obtain ⟨v, hv, h⟩ := Act.closing_eq_ok h
  have hopen := (keepsTuner_enableI2cRepeater (c := c) true).world hu
  have hclose := (keepsTuner_enableI2cRepeater (c := c) false).ignore.world h
  rw [hclose, tunerFrame_ok hv, hopen]

theorem tunerWrite_error {data : List UInt8} {e : Fault SdrggError}
    (h : tunerWrite data env w = (.error e, w')) : tunerView c w' = tunerView c w := by
  have hopen := keepsTuner_enableI2cRepeater (c := c) true
  have hclose := (keepsTuner_enableI2cRepeater (c := c) false).ignore
  obtain h | ⟨_, u, hu, h⟩ := Act.bind_eq_fault.mp h
  · exact hopen.world h
  rw [Act.bind_of_ok (device_apply env u)] at h
  obtain ⟨v, hv, h⟩ := Act.closing_eq_fault (ignore_enableI2cRepeater false env) h
  rw [← hopen.world hu, ← tunerFrame_error hv]
  obtain rfl | h := h
  · rfl
  · exact hclose.world h

end TunerWrites

end Sdrgg.Rtl
