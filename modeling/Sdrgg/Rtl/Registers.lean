import Sdrgg.Usb.Control
import Mathlib.Algebra.Group.Nat.Defs

/-! The registers of the RTL2832U and, through its I2C repeater, those of the tuner: block and
demodulator accesses, the tuner accesses with their shadow file, the GPIO pins, the NCO of the
digital down-converter and the bulk endpoint. -/

namespace Sdrgg.Rtl

open ProofKit Usb

/-! ### The transport -/

/-- The one or two bytes in which a register value is sent. -/
def payload (val : UInt16) (len : UInt8) : List UInt8 :=
  if len = 1 then [val.toUInt8] else [(val >>> 8).toUInt8, val.toUInt8]

def submitBlockWrite (block : UInt8) (addr val : UInt16) (len : UInt8) : DevM Unit :=
  controlWrite addr ((block.toUInt16 <<< 8) ||| 0x10) (payload val len)

def submitBlockRead (block : UInt8) (addr : UInt16) (val : UInt8) : DevM UInt8 := do
  let data ← controlRead addr (block.toUInt16 <<< 8) 1 [val]
  return data.headD val

/-- The `wValue` of an access to demodulator register `reg`. -/
def demodValue (reg : UInt8) : UInt16 := (reg.toUInt16 <<< 8) ||| 0x20

def submitDemodWrite (page reg : UInt8) (val : UInt16) (len : UInt8) : DevM Unit := do
  controlWrite (demodValue reg) (0x10 ||| page.toUInt16) (payload val len)
  -- the read that confirms the write, whose result is not looked at
  Act.ignore (controlRead 0x0120 0x000a 1 [0])

def submitDemodRead (page reg : UInt8) (val : UInt8) : DevM UInt8 := do
  let data ← controlRead (demodValue reg) page.toUInt16 1 [val]
  return data.headD val

/-- `reg_domain`. -/
inductive RegDomain where
  | usbFabric
  | systemFabric
  | demodInternal
deriving DecidableEq, Repr

structure RegDescriptor where
  domain : RegDomain
  page : UInt8
  offset : UInt16
  payload : UInt16
  width : UInt8
deriving DecidableEq, Repr

def applyDescriptor (rd : RegDescriptor) : DevM Unit :=
  match rd.domain with
  | .usbFabric => submitBlockWrite 1 rd.offset rd.payload rd.width
  | .systemFabric => submitBlockWrite 2 rd.offset rd.payload rd.width
  | .demodInternal => submitDemodWrite rd.page rd.offset.toUInt8 rd.payload rd.width

def applyDescriptors (ds : List RegDescriptor) : DevM Unit := ds.forM applyDescriptor

/-- `demod::write`. -/
def demodWrite (block : UInt8) (reg : UInt16) (val : UInt8) : DevM Unit :=
  if block = 0 then submitDemodWrite (reg >>> 8).toUInt8 reg.toUInt8 val.toUInt16 1
  else if block = 1 ∨ block = 2 then submitBlockWrite block reg val.toUInt16 1
  else Act.fail .param

/-- `demod::read` into the caller's variable `val`. -/
def demodRead (block : UInt8) (reg : UInt16) (val : UInt8) : DevM UInt8 :=
  if block = 0 then submitDemodRead (reg >>> 8).toUInt8 reg.toUInt8 val
  else if block = 1 ∨ block = 2 then submitBlockRead block reg val
  else Act.fail .param

/-! ### The tuner behind the I2C repeater -/

def enableI2cRepeater (enable : Bool) : DevM Unit :=
  submitDemodWrite 1 0x01 (if enable then 0x18 else 0x10) 1

/-- `tuner::write`. -/
def tunerWrite (data : List UInt8) : DevM Unit := do
  enableI2cRepeater true
  let dev ← device
  Act.closing (controlWrite dev.identity.tunerBusAddr 0x0610 data) (enableI2cRepeater false)

/-- One register of an FC0012 or FC0013: its address is written, then one byte is read. -/
def tunerReadRandom (addr : UInt16) (location : UInt8) (byte : UInt8) : DevM UInt8 := do
  controlWrite addr 0x0610 [location]
  let data ← controlRead addr 0x0600 1 [byte]
  return data.headD byte

/-- The transfers of `tuner::read` between opening and closing the repeater, when the bytes of
`data` lie in the caller's buffer. -/
def tunerReadTransfers (reg : UInt8) (data : List UInt8) : DevM (List UInt8) := do
  let dev ← device
  let addr := dev.identity.tunerBusAddr
  if dev.identity.tunerClass.isFc001x then
    (List.range data.length).mapM fun i => tunerReadRandom addr (reg + i.toUInt8) (data.getD i 0)
  else if reg.toNat + data.length > 32 then Act.fail .param
  else do
    let raw ← uninitialised 32
    let raw ← controlRead addr 0x0600 (reg.toNat + data.length).toUInt16 raw
    let bytes := (raw.drop reg.toNat).take data.length
    return if dev.identity.tunerClass.isR820t then bytes.map bitrev8 else bytes

/-- `tuner::read` of `len` bytes from register `reg` on. -/
def tunerRead (reg len : UInt8) : DevM (List UInt8) := do
  let data ← uninitialised len.toNat
  enableI2cRepeater true
  Act.closing (tunerReadTransfers reg data) (enableI2cRepeater false)

/-- The place of register `reg` in the shadow file. -/
def shadowIndex (reg : UInt8) : Option (Fin 27) :=
  if h : 0x05 ≤ reg.toNat ∧ reg.toNat < 0x05 + 27 then some ⟨reg.toNat - 0x05, by omega⟩ else none

/-- The shadow file of an R820T after a write of `val` to `reg`. -/
def Device.shadowed (d : Device) (reg val : UInt8) : Device :=
  match shadowIndex reg with
  | some i =>
    if d.identity.tunerClass.isR820t then
      { d with shadow := ⟨Function.update d.shadow.r820tFile i val⟩ }
    else d
  | none => d

/-- `tuner::write_reg`. -/
def tunerWriteReg (reg val : UInt8) : DevM Unit := do
  tunerWrite [reg, val]
  modifyDevice fun d => Device.shadowed d reg val

/-- `tuner::read_reg`. -/
def tunerReadReg (reg : UInt8) : DevM UInt8 := do
  let data ← tunerRead reg 1
  return data.headD 0

/-- The value that `tuner::rmw` modifies: the shadow of an R820T register, or what is read. -/
def tunerCurrent (reg : UInt8) : DevM UInt8 := do
  let dev ← device
  match shadowIndex reg with
  | some i =>
    if dev.identity.tunerClass.isR820t then pure (dev.shadow.r820tFile i) else tunerReadReg reg
  | none => tunerReadReg reg

/-- `tuner::rmw`. -/
def tunerRmw (reg val mask : UInt8) : DevM Unit := do
  let cur ← tunerCurrent reg
  tunerWriteReg reg ((cur &&& ~~~mask) ||| (val &&& mask))

/-! ### GPIO pins -/

/-- A read, a change and a write of a system register, whose failures go unnoticed; `r` is the
caller's variable. -/
def updateSystem (addr : UInt16) (r : UInt8) (change : UInt8 → UInt8) : DevM UInt8 := do
  let r ← Act.orElse (submitBlockRead 2 addr r) r
  Act.ignore (submitBlockWrite 2 addr (change r).toUInt16 1)
  return r

def setGpioOutput (gpio : UInt8) : DevM Unit := do
  let r ← uninitialised 1
  let mask : UInt8 := 1 <<< gpio
  let r ← updateSystem 0x3004 (r.headD 0) fun r => r &&& ~~~mask
  let _ ← updateSystem 0x3003 r fun r => r ||| mask

def setGpioBit (gpio : UInt8) (val : Bool) : DevM Unit := do
  let r ← uninitialised 1
  let mask : UInt8 := 1 <<< gpio
  let _ ← updateSystem 0x3001 (r.headD 0) fun r => if val then r ||| mask else r &&& ~~~mask

/-! ### The NCO and the bulk endpoint -/

/-- The word that `set_if_freq` programs, where its division and its negation are defined. -/
def ncoWord (xtal ifFreqHz : UInt32) : Option Int32 :=
  if ifFreqHz = 0 then some 0
  else if xtal = 0 then none
  else
    let word := Int32.ofNat (ifFreqHz.toNat * 2 ^ 22 / xtal.toNat)
    if word = Int32.minValue then none else some (-word)

/-- The transfers of `set_if_freq`. -/
def programNco (ifFreqHz : UInt32) : DevM Unit := do
  let dev ← device
  let word ← Act.ofOption (ncoWord dev.baseband.oscillatorHz ifFreqHz)
  submitDemodWrite 1 0x19 ((word >>> 16) &&& 0x3F).toUInt32.toUInt16 1
  submitDemodWrite 1 0x1A ((word >>> 8) &&& 0xFF).toUInt32.toUInt16 1
  submitDemodWrite 1 0x1B (word &&& 0xFF).toUInt32.toUInt16 1

def setIfFreq (ifFreqHz : UInt32) : DevM Unit := do
  programNco ifFreqHz
  modifyTuning fun t => { t with ifOffsetHz := ifFreqHz }

def stopBulk : DevM Unit := submitBlockWrite 1 0x2148 0x1002 2

def startBulk : DevM Unit := do
  submitBlockWrite 1 0x2148 0x1002 2
  submitBlockWrite 1 0x2148 0x0000 2

/-! ### What register accesses leave alone -/

section Frames

@[grind ←] theorem keeps_submitBlockWrite (block : UInt8) (addr val : UInt16) (len : UInt8) :
    Keeps World.config (submitBlockWrite block addr val len) :=
  keeps_controlWrite _ _ _

@[grind ←] theorem keeps_submitBlockRead (block : UInt8) (addr : UInt16) (val : UInt8) :
    Keeps World.config (submitBlockRead block addr val) := by
  grind [submitBlockRead]

@[grind ←] theorem keeps_submitDemodWrite (page reg : UInt8) (val : UInt16) (len : UInt8) :
    Keeps World.config (submitDemodWrite page reg val len) := by
  grind [submitDemodWrite]

@[grind ←] theorem keeps_applyDescriptor (rd : RegDescriptor) :
    Keeps World.config (applyDescriptor rd) := by
  grind [applyDescriptor]

@[grind ←] theorem keeps_applyDescriptors (ds : List RegDescriptor) :
    Keeps World.config (applyDescriptors ds) := by
  grind [applyDescriptors]

@[grind ←] theorem keeps_demodWrite (block : UInt8) (reg : UInt16) (val : UInt8) :
    Keeps World.config (demodWrite block reg val) := by
  grind [demodWrite]

@[grind ←] theorem keeps_enableI2cRepeater (enable : Bool) :
    Keeps World.config (enableI2cRepeater enable) :=
  keeps_submitDemodWrite _ _ _ _

@[grind ←] theorem keeps_tunerWrite (data : List UInt8) : Keeps World.config (tunerWrite data) := by
  grind [tunerWrite]

@[grind ←] theorem keeps_tunerReadRandom (addr : UInt16) (location byte : UInt8) :
    Keeps World.config (tunerReadRandom addr location byte) := by
  grind [tunerReadRandom]

@[grind ←] theorem keeps_tunerReadTransfers (reg : UInt8) (data : List UInt8) :
    Keeps World.config (tunerReadTransfers reg data) := by
  grind [tunerReadTransfers]

@[grind ←] theorem keeps_tunerRead (reg len : UInt8) : Keeps World.config (tunerRead reg len) := by
  grind [tunerRead]

@[simp] theorem Device.shadowed_identity (d : Device) (reg val : UInt8) :
    (Device.shadowed d reg val).identity = d.identity := by
  grind [Device.shadowed]

theorem keeps_shadowed (reg val : UInt8) :
    Keeps World.config (modifyDevice fun d => Device.shadowed d reg val) := by
  refine Keeps.modify fun w => ?_
  grind [Device.shadowed, World.config]

@[grind ←] theorem keeps_tunerWriteReg (reg val : UInt8) :
    Keeps World.config (tunerWriteReg reg val) :=
  (keeps_tunerWrite _).bind fun _ => keeps_shadowed reg val

@[grind ←] theorem keeps_tunerReadReg (reg : UInt8) : Keeps World.config (tunerReadReg reg) := by
  grind [tunerReadReg]

@[grind ←] theorem keeps_tunerCurrent (reg : UInt8) : Keeps World.config (tunerCurrent reg) := by
  grind [tunerCurrent]

@[grind ←] theorem keeps_tunerRmw (reg val mask : UInt8) :
    Keeps World.config (tunerRmw reg val mask) := by
  grind [tunerRmw]

@[grind ←] theorem keeps_updateSystem (addr : UInt16) (r : UInt8) (change : UInt8 → UInt8) :
    Keeps World.config (updateSystem addr r change) := by
  grind [updateSystem]

@[grind ←] theorem keeps_setGpioOutput (gpio : UInt8) :
    Keeps World.config (setGpioOutput gpio) := by
  grind [setGpioOutput]

@[grind ←] theorem keeps_setGpioBit (gpio : UInt8) (val : Bool) :
    Keeps World.config (setGpioBit gpio val) := by
  grind [setGpioBit]

@[grind ←] theorem keeps_programNco (ifFreqHz : UInt32) :
    Keeps World.config (programNco ifFreqHz) := by
  grind [programNco]

theorem setIfFreq_ok {ifFreqHz : UInt32} {env : Env} {w w' : World}
    (h : setIfFreq ifFreqHz env w = (.ok (), w')) : w'.config = w.config.withIf ifFreqHz := by
  obtain ⟨_, u, hu, h⟩ := Act.bind_eq_ok.mp h
  cases h
  rw [← (keeps_programNco ifFreqHz).world hu]
  rfl

/-- An IF is programmed when the NCO has a word for it. -/
theorem setIfFreq_word {ifFreqHz : UInt32} {env : Env} {w w' : World}
    (h : setIfFreq ifFreqHz env w = (.ok (), w')) :
    (ncoWord w.dev.baseband.oscillatorHz ifFreqHz).isSome := by
  obtain ⟨_, u, hu, -⟩ := Act.bind_eq_ok.mp h
  rw [programNco, Act.bind_of_ok (device_apply env w)] at hu
  obtain ⟨word, v, hword, -⟩ := Act.bind_eq_ok.mp hu
  rw [(Act.ofOption_eq_ok.mp hword).1]
  rfl

theorem setIfFreq_fault {ifFreqHz : UInt32} {env : Env} {w w' : World} {e : Fault SdrggError}
    (h : setIfFreq ifFreqHz env w = (.error e, w')) : w'.config = w.config := by
  obtain hu | ⟨_, u, -, h⟩ := Act.bind_eq_fault.mp h
  · exact (keeps_programNco ifFreqHz).world hu
  · cases h

@[grind ←] theorem keeps_stopBulk : Keeps World.config stopBulk := keeps_submitBlockWrite _ _ _ _

@[grind ←] theorem keeps_startBulk : Keeps World.config startBulk := by
  grind [startBulk]

end Frames

/-! ### Register accesses do not trap -/

@[grind ←] theorem defined_submitBlockWrite (block : UInt8) (addr val : UInt16) (len : UInt8) :
    Defined (submitBlockWrite block addr val len) :=
  defined_controlWrite _ _ _

@[grind ←] theorem defined_submitBlockRead (block : UInt8) (addr : UInt16) (val : UInt8) :
    Defined (submitBlockRead block addr val) := by
  grind [submitBlockRead]

@[grind ←] theorem defined_submitDemodWrite (page reg : UInt8) (val : UInt16) (len : UInt8) :
    Defined (submitDemodWrite page reg val len) := by
  grind [submitDemodWrite]

@[grind ←] theorem defined_applyDescriptor (rd : RegDescriptor) :
    Defined (applyDescriptor rd) := by
  grind [applyDescriptor]

@[grind ←] theorem defined_applyDescriptors (ds : List RegDescriptor) :
    Defined (applyDescriptors ds) := by
  grind [applyDescriptors]

@[grind ←] theorem defined_enableI2cRepeater (enable : Bool) :
    Defined (enableI2cRepeater enable) :=
  defined_submitDemodWrite _ _ _ _

@[grind ←] theorem defined_tunerWrite (data : List UInt8) : Defined (tunerWrite data) := by
  grind [tunerWrite]

@[grind ←] theorem defined_tunerReadRandom (addr : UInt16) (location byte : UInt8) :
    Defined (tunerReadRandom addr location byte) := by
  grind [tunerReadRandom]

@[grind ←] theorem defined_tunerReadTransfers (reg : UInt8) (data : List UInt8) :
    Defined (tunerReadTransfers reg data) := by
  grind [tunerReadTransfers]

@[grind ←] theorem defined_tunerRead (reg len : UInt8) : Defined (tunerRead reg len) := by
  grind [tunerRead]

@[grind ←] theorem defined_tunerWriteReg (reg val : UInt8) : Defined (tunerWriteReg reg val) := by
  grind [tunerWriteReg]

@[grind ←] theorem defined_tunerReadReg (reg : UInt8) : Defined (tunerReadReg reg) := by
  grind [tunerReadReg]

@[grind ←] theorem defined_tunerCurrent (reg : UInt8) : Defined (tunerCurrent reg) := by
  grind [tunerCurrent]

@[grind ←] theorem defined_tunerRmw (reg val mask : UInt8) : Defined (tunerRmw reg val mask) := by
  grind [tunerRmw]

@[grind ←] theorem defined_updateSystem (addr : UInt16) (r : UInt8) (change : UInt8 → UInt8) :
    Defined (updateSystem addr r change) := by
  grind [updateSystem]

@[grind ←] theorem defined_setGpioOutput (gpio : UInt8) : Defined (setGpioOutput gpio) := by
  grind [setGpioOutput]

@[grind ←] theorem defined_setGpioBit (gpio : UInt8) (val : Bool) :
    Defined (setGpioBit gpio val) := by
  grind [setGpioBit]

/-- The NCO can be programmed when its word is defined. -/
theorem setIfFreq_defined {env : Env} {w : World} {ifFreqHz : UInt32} {word : Int32}
    (hword : ncoWord w.dev.baseband.oscillatorHz ifFreqHz = some word) :
    (setIfFreq ifFreqHz env w).1 ≠ .error .trap := by
  have hwrites : Defined (do
      submitDemodWrite 1 0x19 ((word >>> 16) &&& 0x3F).toUInt32.toUInt16 1
      submitDemodWrite 1 0x1A ((word >>> 8) &&& 0xFF).toUInt32.toUInt16 1
      submitDemodWrite 1 0x1B (word &&& 0xFF).toUInt32.toUInt16 1) := by
    grind
  have hprogram : (programNco ifFreqHz env w).1 ≠ .error .trap := by
    rw [programNco, Act.bind_of_ok (device_apply env w), hword]
    exact hwrites env w
  exact bind_ne_trap hprogram fun _ _ _ => by nofun

/-! ### Register accesses succeed when their transfers do -/

theorem demodValue_ne_ratio {reg : UInt8} (hreg : reg ≠ 0x9F) : demodValue reg ≠ 0x9F20 := by
  have hall : ∀ n < 256, UInt8.ofNat n ≠ 0x9F → demodValue (UInt8.ofNat n) ≠ 0x9F20 := by
    decide +kernel
  simpa using hall reg.toNat reg.toNat_lt (by simpa using hreg)

section Succeeds

variable {env : Env} (h : env.Accepts)

include h

theorem total_submitBlockWrite {block : UInt8} (hblock : block = 1 ∨ block = 2) {addr val : UInt16}
    {len : UInt8} : Total env (submitBlockWrite block addr val len) := by
  refine total_controlWrite h ?_
  have hindex : (block.toUInt16 <<< 8) ||| 0x10 ≠ (0x11 : UInt16) := by
    obtain rfl | rfl := hblock <;> decide
  simp [Transfer.isRatio, hindex]

theorem total_submitBlockRead {block val : UInt8} {addr : UInt16} :
    Total env (submitBlockRead block addr val) :=
  (total_controlRead h).bind fun _ => .pure _

theorem total_submitDemodWrite {page reg : UInt8} (hreg : reg ≠ 0x9F) {val : UInt16}
    {len : UInt8} : Total env (submitDemodWrite page reg val len) := by
  refine Total.bind (total_controlWrite h ?_) fun _ => (total_controlRead h).ignore
  simp [Transfer.isRatio, demodValue_ne_ratio hreg]

theorem total_enableI2cRepeater {enable : Bool} : Total env (enableI2cRepeater enable) :=
  total_submitDemodWrite h (by decide)

theorem total_tunerTransfer {addr : UInt16} {data : List UInt8} :
    Total env (controlWrite addr 0x0610 data) :=
  total_controlWrite h (by simp [Transfer.isRatio])

theorem total_tunerWrite {data : List UInt8} : Total env (tunerWrite data) :=
  (total_enableI2cRepeater h).bind fun _ => total_device.bind fun _ =>
    (total_tunerTransfer h).closing (total_enableI2cRepeater h)

theorem total_tunerReadRandom {addr : UInt16} {location byte : UInt8} :
    Total env (tunerReadRandom addr location byte) :=
  (total_tunerTransfer h).bind fun _ => (total_controlRead h).bind fun _ => .pure _

theorem total_tunerReadTransfers {reg : UInt8} {data : List UInt8}
    (hlen : reg.toNat + data.length ≤ 32) : Total env (tunerReadTransfers reg data) := by
  refine total_device.bind fun dev => ?_
  simp only [Nat.not_lt.mpr hlen, if_false]
  split
  · exact Total.mapM _ fun i _ => total_tunerReadRandom h
  · exact (total_uninitialised 32).bind fun _ => (total_controlRead h).bind fun _ => .pure _

theorem total_tunerRead {reg len : UInt8} (hlen : reg.toNat + len.toNat ≤ 32) :
    Total env (tunerRead reg len) := by
  intro w
  have hdata : reg.toNat + ((List.range len.toNat).map (env.stack w.log)).length ≤ 32 := by simpa
  exact (total_enableI2cRepeater h).bind (fun _ =>
    (total_tunerReadTransfers h hdata).closing (total_enableI2cRepeater h)) w

theorem total_tunerWriteReg {reg val : UInt8} : Total env (tunerWriteReg reg val) :=
  (total_tunerWrite h).bind fun _ => total_modifyDevice _

theorem total_tunerReadReg {reg : UInt8} (hreg : reg.toNat < 32) : Total env (tunerReadReg reg) :=
  (@total_tunerRead env h reg 1 hreg).bind fun _ => .pure _

theorem total_tunerRmw {reg val mask : UInt8} (hreg : reg.toNat < 32) :
    Total env (tunerRmw reg val mask) := by
  refine Total.bind (total_device.bind fun dev => ?_) fun cur => total_tunerWriteReg h
  have hread := total_tunerReadReg h hreg
  grind

theorem total_updateSystem {addr : UInt16} {r : UInt8} {change : UInt8 → UInt8} :
    Total env (updateSystem addr r change) :=
  ((total_submitBlockRead h).orElse r).bind fun _ =>
    (total_submitBlockWrite h (.inr rfl)).ignore.bind fun _ => .pure _

theorem total_setGpioBit {gpio : UInt8} {val : Bool} : Total env (setGpioBit gpio val) :=
  (total_uninitialised 1).bind fun _ => (total_updateSystem h).bind fun _ => .pure _

theorem total_setIfFreq {w : World} {ifFreqHz : UInt32} {word : Int32}
    (hword : ncoWord w.dev.baseband.oscillatorHz ifFreqHz = some word) :
    ∃ w', setIfFreq ifFreqHz env w = (.ok (), w') := by
  have hwrites : Total env (do
      submitDemodWrite 1 0x19 ((word >>> 16) &&& 0x3F).toUInt32.toUInt16 1
      submitDemodWrite 1 0x1A ((word >>> 8) &&& 0xFF).toUInt32.toUInt16 1
      submitDemodWrite 1 0x1B (word &&& 0xFF).toUInt32.toUInt16 1) :=
    (total_submitDemodWrite h (by decide)).bind fun _ =>
      (total_submitDemodWrite h (by decide)).bind fun _ => total_submitDemodWrite h (by decide)
  obtain ⟨_, u, hu⟩ := hwrites w
  have hnco : programNco ifFreqHz env w = (.ok (), u) := by
    simp only [programNco, device, Act.bind_apply, Act.get_apply, Act.pure_apply, hword,
      Act.ofOption]
    exact hu
  exact ⟨_, Act.bind_of_ok hnco⟩

theorem total_stopBulk : Total env stopBulk := total_submitBlockWrite h (.inl rfl)

theorem total_startBulk : Total env startBulk :=
  (total_submitBlockWrite h (.inl rfl)).bind fun _ => total_submitBlockWrite h (.inl rfl)

end Succeeds

end Sdrgg.Rtl
