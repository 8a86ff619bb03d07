import Sdrgg.Fc0012.Codec
import Sdrgg.R820t.Codec

/-! Several tuner accesses in one I2C session, and the resets that leave the USB link alone. -/

namespace Sdrgg.Rtl

open ProofKit Usb

/-! ### I2C sessions -/

/-- An I2C session around `ops`, which reports how its end went when nothing failed before. -/
def session {α : Type} (ops : DevM α) : DevM α := do
  enableI2cRepeater true
  match ← Act.attempt ops with
  | .ok a =>
    enableI2cRepeater false
    return a
  | .error e =>
    Act.ignore (enableI2cRepeater false)
    Act.fail e

/-- `i2c_session_write`. -/
def sessionWrite (reg val : UInt8) : DevM Unit := do
  let dev ← device
  controlWrite dev.identity.tunerBusAddr 0x0610 [reg, val]
  modifyDevice fun d => Device.shadowed d reg val

/-- `i2c_session_read` of one byte, which makes the transfers of `tuner::read`. -/
def sessionRead (reg byte : UInt8) : DevM UInt8 := do
  let data ← tunerReadTransfers reg [byte]
  return data.headD byte

/-- `tuner::write_batch` of pairs of a register and its value. -/
def tunerWriteBatch (pairs : List (UInt8 × UInt8)) : DevM Unit :=
  session (pairs.forM fun pair => sessionWrite pair.1 pair.2)

/-- `tuner::read_batch` of registers, each with the byte that lies in the caller's buffer for it. -/
def tunerReadBatch (regs : List (UInt8 × UInt8)) : DevM (List UInt8) :=
  session (regs.mapM fun reg => sessionRead reg.1 reg.2)

/-- The register calls of the namespace `tuner`. -/
inductive TunerAccess where
  | write (data : List UInt8)
  | read (reg len : UInt8)
  | writeReg (reg val : UInt8)
  | readReg (reg : UInt8)
  | rmw (reg val mask : UInt8)
  | writeBatch (pairs : List (UInt8 × UInt8))
  | readBatch (regs : List (UInt8 × UInt8))
deriving DecidableEq, Repr

/-- A call, without what it reads. -/
def TunerAccess.perform : TunerAccess → DevM Unit
  | .write data => tunerWrite data
  | .read reg len => do
    let _ ← tunerRead reg len
    return ()
  | .writeReg reg val => tunerWriteReg reg val
  | .readReg reg => do
    let _ ← tunerReadReg reg
    return ()
  | .rmw reg val mask => tunerRmw reg val mask
  | .writeBatch pairs => tunerWriteBatch pairs
  | .readBatch regs => do
    let _ ← tunerReadBatch regs
    return ()

/-! ### Resets -/

/-- `reset::reset_demod`. -/
def resetDemod : DevM Unit := do
  let buf ← uninitialised 1
  let val ← demodRead 0 0x0101 (buf.headD 0)
  demodWrite 0 0x0101 (val ||| 0x04)
  demodWrite 0 0x0101 (val &&& ~~~0x04)

/-- `reset::reset_tuner`. -/
def resetTuner : DevM Unit := do
  let dev ← device
  if dev.identity.tunerClass ≠ .r820t then
    if dev.identity.tunerClass = .fc0012 then Fc0012.init else Act.fail .param
  else
    enableI2cRepeater true
    Act.closing ((List.finRange 27).forM R820t.flushRegister) (enableI2cRepeater false)

/-- `reset::reset_usb` on a device that is open. -/
def resetUsb : DevM Unit := do
  match ← ioctl .reset with
  | .done _ => pure ()
  | .fail _ => Act.fail .usb

/-- `reset::reset_full`, whose first two levels may fail. -/
def resetFull : DevM Unit := do
  Act.ignore resetDemod
  Act.ignore resetTuner
  resetUsb

/-! ### What they leave alone -/

theorem keeps_session {α : Type} {ops : DevM α} (h : Keeps World.config ops) :
    Keeps World.config (session ops) := by
  refine (keeps_enableI2cRepeater true).bind fun _ => h.attempt.bind fun out => ?_
  cases out with
  | ok a => exact (keeps_enableI2cRepeater false).bind fun _ => Keeps.pure a
  | error e => exact (keeps_enableI2cRepeater false).ignore.bind fun _ => Keeps.fail e

theorem keeps_sessionWrite (reg val : UInt8) : Keeps World.config (sessionWrite reg val) :=
  keeps_device.bind fun _ => (keeps_controlWrite _ _ _).bind fun _ => keeps_shadowed reg val

theorem keeps_sessionRead (reg byte : UInt8) : Keeps World.config (sessionRead reg byte) :=
  (keeps_tunerReadTransfers reg [byte]).bind fun _ => Keeps.pure _

theorem keeps_tunerAccess (access : TunerAccess) : Keeps World.config access.perform := by
  cases access with
  | write data => exact keeps_tunerWrite data
  | read reg len => exact (keeps_tunerRead reg len).bind fun _ => Keeps.pure _
  | writeReg reg val => exact keeps_tunerWriteReg reg val
  | readReg reg => exact (keeps_tunerReadReg reg).bind fun _ => Keeps.pure _
  | rmw reg val mask => exact keeps_tunerRmw reg val mask
  | writeBatch pairs => exact keeps_session (Keeps.forM pairs fun _ _ => keeps_sessionWrite _ _)
  | readBatch regs =>
    exact (keeps_session (Keeps.mapM regs fun _ _ => keeps_sessionRead _ _)).bind fun _ =>
      Keeps.pure _

theorem keeps_resetDemod : Keeps World.config resetDemod :=
  (keeps_uninitialised 1).bind fun _ =>
    Keeps.bind ((keeps_controlRead _ _ _ _).bind fun _ => Keeps.pure _) fun _ =>
      (keeps_demodWrite _ _ _).bind fun _ => keeps_demodWrite _ _ _

theorem total_resetDemod {env : Env} (h : env.Accepts) : Total env resetDemod :=
  (total_uninitialised 1).bind fun _ =>
    Total.bind ((total_controlRead h).bind fun _ => .pure _) fun _ =>
      (total_submitDemodWrite h (by decide)).bind fun _ => total_submitDemodWrite h (by decide)

end Sdrgg.Rtl
