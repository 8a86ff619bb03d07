import Sdrgg.ProofKit.Effect

/-! A device handle and its control transfers.  The kernel is a function of the transfers so far, so
it may answer each of them in any way; what the code leaves uninitialised is a parameter too. -/

namespace Sdrgg.Usb

open ProofKit

/-- The error codes of `sdrgg.h`. -/
inductive SdrggError where
  | usb
  | io
  | nodev
  | busy
  | timeout
  | pll
  | param
  | nomem
deriving DecidableEq, Repr

/-- The value of an error code. -/
def SdrggError.code : SdrggError → Int32
  | .usb => -1
  | .io => -2
  | .nodev => -3
  | .busy => -4
  | .timeout => -5
  | .pll => -6
  | .param => -7
  | .nomem => -8

/-- The return code of an operation that ended in `out`: `SDRGG_OK` or its error. -/
def resultCode {α : Type} : Except SdrggError α → Int32
  | .ok _ => 0
  | .error e => e.code

inductive TunerType where
  | unknown
  | r820t
  | r820t2
  | fc0012
  | fc0013
  | fc2580
  | e4000
deriving DecidableEq, Repr

/-- `tuner_class == SDRGG_TUNER_R820T || tuner_class == SDRGG_TUNER_R820T2`. -/
def TunerType.isR820t (t : TunerType) : Bool := t = .r820t || t = .r820t2

/-- `tuner_class == SDRGG_TUNER_FC0012 || tuner_class == SDRGG_TUNER_FC0013`. -/
def TunerType.isFc001x (t : TunerType) : Bool := t = .fc0012 || t = .fc0013

structure DeviceIdentity where
  tunerClass : TunerType
  tunerBusAddr : UInt16
deriving DecidableEq, Repr

structure BasebandState where
  oscillatorHz : UInt32
  freqOffsetPpm : Int32
deriving DecidableEq, Repr

/-- The last written values of the R820T registers from 0x05 to 0x1F. -/
structure TunerShadow where
  r820tFile : Fin 27 → UInt8

structure TuningContext where
  centerFreqHz : UInt32
  samplingRateHz : UInt32
  ifOffsetHz : UInt32
  gainPolicy : Int32
  requestedFreqHz : UInt32
  requestedRateHz : UInt32
  lastFreqResult : Int32
  lastRateResult : Int32
deriving DecidableEq, Repr

inductive DeviceHealth where
  | ok
  | usbErrors
  | disconnected
  | dead
deriving DecidableEq, Repr

/-- `sdrgg_dev`, as far as its configuration reads and writes it. -/
structure Device where
  identity : DeviceIdentity
  baseband : BasebandState
  shadow : TunerShadow
  tuning : TuningContext
  streamActive : Bool
  usbErrorCount : Int32
  health : DeviceHealth

/-- What an open device asks of the kernel outside its streams. -/
inductive Transfer where
  | write (value index : UInt16) (data : List UInt8)
  | read (value index length : UInt16)
  | reset
  | claimInterface (interface : UInt32)
deriving DecidableEq, Repr

/-- `errno`, where the code tells its values apart. -/
inductive Errno where
  | enodev
  | enxio
  | eshutdown
  | other
deriving DecidableEq, Repr

/-- The device is gone. -/
def Errno.removed (e : Errno) : Bool := e = .enodev || e = .enxio || e = .eshutdown

/-- What the kernel answers, with the bytes it has put into the buffer of a read. -/
inductive Response where
  | done (data : List UInt8)
  | fail (errno : Errno)
deriving DecidableEq, Repr

abbrev Log := List (Transfer × Response)

/-- The kernel with the hardware behind it, and the bytes that uninitialised buffers hold. -/
structure Env where
  kernel : Log → Transfer → Response
  stack : Log → Nat → UInt8

/-- The device with the transfers made so far, the last one first, the LO frequency last requested
from `set_pll` and the number of disconnect events reported. -/
structure World where
  dev : Device
  log : Log
  loRequested : Option UInt32
  hotplugEvents : Nat

/-- An operation on the device. -/
abbrev DevM := Act Env World SdrggError

def device : DevM Device := do return (← Act.get).dev

def modifyDevice (f : Device → Device) : DevM Unit := Act.modify fun w => { w with dev := f w.dev }

def modifyTuning (f : TuningContext → TuningContext) : DevM Unit :=
  modifyDevice fun d => { d with tuning := f d.tuning }

/-- A buffer of `n` bytes that the code has not written. -/
def uninitialised (n : Nat) : DevM (List UInt8) := fun env w =>
  (.ok ((List.range n).map (env.stack w.log)), w)

/-- One `ioctl` on the device. -/
def ioctl (t : Transfer) : DevM Response := fun env w =>
  (.ok (env.kernel w.log t), { w with log := (t, env.kernel w.log t) :: w.log })

/-- The hot-plug bookkeeping after a transfer. -/
def Device.noted (d : Device) : Response → Device
  | .done _ => { d with usbErrorCount := 0 }
  | .fail errno =>
    if errno.removed then
      { d with
        usbErrorCount := d.usbErrorCount + 1
        health := if d.health = .ok then .disconnected else d.health }
    else d

/-- The bookkeeping of a transfer, with the disconnect event that it may report. -/
def noteResponse (resp : Response) : DevM Unit := Act.modify fun w =>
  { w with
    dev := w.dev.noted resp
    hotplugEvents :=
      if w.dev.health = .ok ∧ (w.dev.noted resp).health = .disconnected then w.hotplugEvents + 1
      else w.hotplugEvents }

/-- `usb::control_write`. -/
def controlWrite (value index : UInt16) (data : List UInt8) : DevM Unit := do
  let resp ← ioctl (.write value index data)
  noteResponse resp
  match resp with
  | .done _ => pure ()
  | .fail _ => Act.fail .usb

/-- `usb::control_read` of `len` bytes into the buffer `buf`, which keeps the bytes that the
transfer does not reach. -/
def controlRead (value index len : UInt16) (buf : List UInt8) : DevM (List UInt8) := do
  let resp ← ioctl (.read value index len)
  noteResponse resp
  match resp with
  | .done data => pure (data.take len.toNat ++ buf.drop (min data.length len.toNat))
  | .fail _ => Act.fail .usb

/-- `usb::bitrev8`. -/
def bitrev8 (byte : UInt8) : UInt8 :=
  let byte := ((byte &&& 0xF0) >>> 4) ||| ((byte &&& 0x0F) <<< 4)
  let byte := ((byte &&& 0xCC) >>> 2) ||| ((byte &&& 0x33) <<< 2)
  ((byte &&& 0xAA) >>> 1) ||| ((byte &&& 0x55) <<< 1)

@[simp] theorem device_apply (env : Env) (w : World) : device env w = (.ok w.dev, w) := rfl

@[simp] theorem uninitialised_apply (n : Nat) (env : Env) (w : World) :
    uninitialised n env w = (.ok ((List.range n).map (env.stack w.log)), w) := rfl

/-! ### What transfers leave alone -/

/-- What a transfer cannot change: the configuration of the device. -/
structure Config where
  identity : DeviceIdentity
  baseband : BasebandState
  tuning : TuningContext
  streamActive : Bool
  loRequested : Option UInt32
deriving DecidableEq, Repr

def World.config (w : World) : Config :=
  ⟨w.dev.identity, w.dev.baseband, w.dev.tuning, w.dev.streamActive, w.loRequested⟩

/-- The configuration with another IF. -/
def Config.withIf (c : Config) (ifFreqHz : UInt32) : Config :=
  { c with tuning := { c.tuning with ifOffsetHz := ifFreqHz } }

/-- The configuration with another sample rate. -/
def Config.withRate (c : Config) (rateHz : UInt32) : Config :=
  { c with tuning := { c.tuning with samplingRateHz := rateHz } }

@[simp] theorem World.config_identity (w : World) : w.config.identity = w.dev.identity := rfl

@[simp] theorem World.config_baseband (w : World) : w.config.baseband = w.dev.baseband := rfl

@[simp] theorem World.config_tuning (w : World) : w.config.tuning = w.dev.tuning := rfl

@[simp] theorem World.config_loRequested (w : World) : w.config.loRequested = w.loRequested := rfl

@[grind ←] theorem keeps_device : Keeps World.config device := fun _ _ => rfl

@[grind ←] theorem keeps_uninitialised (n : Nat) : Keeps World.config (uninitialised n) :=
  fun _ _ => rfl

@[grind ←] theorem keeps_ioctl (t : Transfer) : Keeps World.config (ioctl t) := fun _ _ => rfl

@[grind ←] theorem keeps_noteResponse (resp : Response) :
    Keeps World.config (noteResponse resp) := by
  intro env w
  cases resp with
  | done data => rfl
  | fail errno =>
    simp only [noteResponse, Act.modify_apply, World.config, Device.noted]
    split <;> rfl

@[grind ←] theorem keeps_controlWrite (value index : UInt16) (data : List UInt8) :
    Keeps World.config (controlWrite value index data) := by
  grind [controlWrite]

@[grind ←] theorem keeps_controlRead (value index len : UInt16) (buf : List UInt8) :
    Keeps World.config (controlRead value index len buf) := by
  grind [controlRead]

/-! ### Transfers do not trap -/

@[grind ←] theorem defined_device : Defined device := fun _ _ => by nofun

@[grind ←] theorem defined_uninitialised (n : Nat) : Defined (uninitialised n) :=
  fun _ _ => by nofun

@[grind ←] theorem defined_ioctl (t : Transfer) : Defined (ioctl t) := fun _ _ => by nofun

@[grind ←] theorem defined_noteResponse (resp : Response) : Defined (noteResponse resp) :=
  fun _ _ => by nofun

@[grind ←] theorem defined_modifyDevice (f : Device → Device) : Defined (modifyDevice f) :=
  fun _ _ => by nofun

@[grind ←] theorem defined_controlWrite (value index : UInt16) (data : List UInt8) :
    Defined (controlWrite value index data) := by
  grind [controlWrite]

@[grind ←] theorem defined_controlRead (value index len : UInt16) (buf : List UInt8) :
    Defined (controlRead value index len buf) := by
  grind [controlRead]

/-! ### Transfers that succeed -/

/-- The transfer was carried out, a read to its full length. -/
def Response.Full (resp : Response) : Transfer → Prop
  | .read _ _ len => ∃ data, resp = .done data ∧ data.length = len.toNat
  | _ => ∃ data, resp = .done data

/-- The write of the upper half of the resampler ratio. -/
def Transfer.isRatio : Transfer → Bool
  | .write value index _ => value = 0x9F20 && index = 0x11
  | _ => false

/-- Every transfer succeeds. -/
def Env.Succeeds (env : Env) : Prop := ∀ log t, (env.kernel log t).Full t

/-- Every transfer succeeds, but for a write of the resampler ratio perhaps. -/
def Env.Accepts (env : Env) : Prop := ∀ log t, t.isRatio = false → (env.kernel log t).Full t

/-- Every status read of the tuner shows the lock bit of register 2, which arrives with its bits
reversed. -/
def Env.Locked (env : Env) : Prop :=
  ∀ log value len data, env.kernel log (.read value 0x0600 len) = .done data →
    ∀ byte, data[2]? = some byte → bitrev8 byte &&& 0x40 ≠ 0

theorem Env.Succeeds.accepts {env : Env} (h : env.Succeeds) : env.Accepts := fun log t _ => h log t

section Succeeds

variable {env : Env}

@[grind ←] theorem total_device : Total env device := fun w => ⟨w.dev, w, rfl⟩

@[grind ←] theorem total_uninitialised (n : Nat) : Total env (uninitialised n) :=
  fun w => ⟨_, w, rfl⟩

@[grind ←] theorem total_modifyDevice (f : Device → Device) : Total env (modifyDevice f) :=
  fun _ => ⟨(), _, rfl⟩

theorem total_controlWrite_of_done {value index : UInt16} {data : List UInt8}
    (h : ∀ log, ∃ bytes, env.kernel log (.write value index data) = .done bytes) :
    Total env (controlWrite value index data) := by
  intro w
  obtain ⟨bytes, hresp⟩ := h w.log
  simp only [controlWrite, Act.bind_apply, ioctl, noteResponse, Act.modify_apply, hresp]
  exact ⟨(), _, rfl⟩

theorem total_controlWrite (h : env.Accepts) {value index : UInt16} {data : List UInt8}
    (hratio : (Transfer.write value index data).isRatio = false) :
    Total env (controlWrite value index data) :=
  total_controlWrite_of_done fun log => h log _ hratio

theorem total_controlRead (h : env.Accepts) {value index len : UInt16} {buf : List UInt8} :
    Total env (controlRead value index len buf) := by
  intro w
  obtain ⟨bytes, hresp, -⟩ := h w.log (.read value index len) rfl
  simp only [controlRead, Act.bind_apply, ioctl, noteResponse, Act.modify_apply, hresp]
  exact ⟨_, _, rfl⟩

/-- A read gives the bytes of its transfer before what is left of the buffer. -/
theorem controlRead_full (h : env.Accepts) {value index len : UInt16} {buf : List UInt8}
    (w : World) :
    ∃ data, data.length = len.toNat ∧ env.kernel w.log (.read value index len) = .done data ∧
      ∃ w', controlRead value index len buf env w = (.ok (data ++ buf.drop len.toNat), w') := by
  obtain ⟨data, hresp, hlen⟩ := h w.log (.read value index len) rfl
  refine ⟨data, hlen, hresp, ?_⟩
  simp only [controlRead, Act.bind_apply, ioctl, noteResponse, Act.modify_apply, hresp, hlen,
    Nat.min_self, List.take_of_length_le (Nat.le_of_eq hlen)]
  exact ⟨_, rfl⟩

end Succeeds

end Sdrgg.Usb
