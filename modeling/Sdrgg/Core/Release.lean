import Sdrgg.Core.Success
import Sdrgg.Rtl.Demod
import Sdrgg.Rtl.Session

/-! The repeater after the register calls of the tuner: each closes what it has opened. -/

namespace Sdrgg.Rtl

open ProofKit Usb

/-- The repeater does not pass the I2C bus on. -/
def RepeaterClosed (c : Chip) (w : World) : Prop := repeaterGate c w &&& 0x08 = 0

/-- The write that closes the repeater is carried out whenever it is made. -/
def ClosesRepeater (env : Env) : Prop :=
  ∀ log, ∃ data, env.kernel log (.write (demodValue 0x01) 0x11 [0x10]) = .done data

theorem Env.Succeeds.closes {env : Env} (h : env.Succeeds) : ClosesRepeater env :=
  fun log => h log (.write _ _ _)

/-! ### Operations that end with a close -/

section Close

variable {env : Env} {I : World → Prop} (hclose : Leaves env I (enableI2cRepeater false))

include hclose

theorem leaves_tunerWrite (data : List UInt8) : Leaves env I (do
    let dev ← device
    Act.closing (controlWrite dev.identity.tunerBusAddr 0x0610 data) (enableI2cRepeater false)) :=
  Leaves.bind_total total_device fun _ => hclose.closing

/-- A session that has been opened closes the repeater, whatever its operations return. -/
theorem leaves_session {α : Type} (ops : DevM α) : Leaves env I (do
    match ← Act.attempt ops with
    | .ok a =>
      enableI2cRepeater false
      return a
    | .error e =>
      Act.ignore (enableI2cRepeater false)
      Act.fail e) := by
  refine Leaves.bind (fun _ _ _ hfail => absurd hfail Act.attempt_ne_error) fun out => ?_
  cases out with
  | ok a => exact hclose.bind_preserves fun _ => Preserves.pure a
  | error e => exact hclose.ignore.bind_preserves fun _ => Preserves.fail e

end Close

/-! ### The register calls -/

section Calls

variable {c : Chip} {env : Env}

theorem closed_close (h : ClosesRepeater env) :
    Leaves env (RepeaterClosed c) (enableI2cRepeater false) := by
  have htotal : Total env (enableI2cRepeater false) :=
    (total_controlWrite_of_done h).bind fun _ w =>
      ⟨(), ignore_controlRead 0x0120 0x000a 1 [0] env w⟩
  intro w x w' hrun _
  obtain ⟨_, u, hu⟩ := htotal w
  obtain ⟨rfl, rfl⟩ := Prod.mk.inj (hu.symm.trans hrun)
  rw [RepeaterClosed, enableI2cRepeater_gate hu]
  decide

theorem closed_open {w w' : World} {e : SdrggError} (hw : RepeaterClosed c w)
    (h : enableI2cRepeater true env w = (.error (.error e), w')) : RepeaterClosed c w' := by
  rw [RepeaterClosed, repeaterGate, submitDemodWrite_error h]
  exact hw

variable (h : ClosesRepeater env)

include h

omit h in
/-- A call that opens the repeater first and closes it in the end. -/
theorem upholds_opened {α : Type} {rest : DevM α} (hrest : Leaves env (RepeaterClosed c) rest) :
    Upholds env (RepeaterClosed c) (do enableI2cRepeater true; rest) :=
  Upholds.enter (fun _ _ _ hw hfail => closed_open hw hfail) fun _ => hrest

theorem upholds_tunerWrite (data : List UInt8) :
    Upholds env (RepeaterClosed c) (tunerWrite data) :=
  upholds_opened (leaves_tunerWrite (closed_close h) data)

theorem upholds_tunerRead (reg len : UInt8) :
    Upholds env (RepeaterClosed c) (tunerRead reg len) := by
  have hbuffer : Preserves env (RepeaterClosed c) (uninitialised len.toNat) := fun _ hw => hw
  exact hbuffer.upholds.bind fun data => upholds_opened (closed_close h).closing

theorem upholds_tunerWriteReg (reg val : UInt8) :
    Upholds env (RepeaterClosed c) (tunerWriteReg reg val) := by
  have hshadow : Preserves env (RepeaterClosed c)
      (modifyDevice fun d => Device.shadowed d reg val) := fun _ hw => hw
  exact (upholds_tunerWrite h _).bind fun _ => hshadow.upholds

theorem upholds_tunerReadReg (reg : UInt8) :
    Upholds env (RepeaterClosed c) (tunerReadReg reg) :=
  (upholds_tunerRead h reg 1).bind fun _ => (Preserves.pure _).upholds

theorem upholds_tunerRmw (reg val mask : UInt8) :
    Upholds env (RepeaterClosed c) (tunerRmw reg val mask) := by
  have hdevice : Preserves env (RepeaterClosed c) device := fun _ hw => hw
  have hcurrent : Upholds env (RepeaterClosed c) (tunerCurrent reg) := by
    refine hdevice.upholds.bind fun dev => ?_
    rcases shadowIndex reg with _ | i
    · exact upholds_tunerReadReg h reg
    · dsimp only
      split
      · exact (Preserves.pure _).upholds
      · exact upholds_tunerReadReg h reg
  exact hcurrent.bind fun _ => upholds_tunerWriteReg h _ _

theorem upholds_session {α : Type} (ops : DevM α) :
    Upholds env (RepeaterClosed c) (session ops) :=
  upholds_opened (leaves_session (closed_close h) ops)

theorem upholds_tunerAccess (access : TunerAccess) :
    Upholds env (RepeaterClosed c) access.perform := by
  cases access with
  | write data => exact upholds_tunerWrite h data
  | read reg len => exact (upholds_tunerRead h reg len).bind fun _ => (Preserves.pure _).upholds
  | writeReg reg val => exact upholds_tunerWriteReg h reg val
  | readReg reg => exact (upholds_tunerReadReg h reg).bind fun _ => (Preserves.pure _).upholds
  | rmw reg val mask => exact upholds_tunerRmw h reg val mask
  | writeBatch pairs => exact upholds_session h _
  | readBatch regs => exact (upholds_session h _).bind fun _ => (Preserves.pure _).upholds

/-- A register call that finds the repeater closed leaves it closed, whatever its arguments and
whichever of its transfers fail, but for the one that closes the repeater. -/
theorem repeater_released {w w' : World} {access : TunerAccess}
    {x : Except (Fault SdrggError) Unit} (hclosed : RepeaterClosed c w)
    (hrun : access.perform env w = (x, w')) (hreturn : x ≠ .error .trap) : RepeaterClosed c w' :=
  upholds_tunerAccess h access w x w' hclosed hrun hreturn

end Calls

/-- A kernel that gets no frame to the tuner. -/
def framelessEnv : Env :=
  { Sdr.steadyEnv with
    kernel := fun log t =>
      match t with
      | .write _ 0x0610 _ => .fail .other
      | _ => Sdr.steadyEnv.kernel log t }

theorem framelessEnv_closes : ClosesRepeater framelessEnv := fun _ => ⟨[], rfl⟩

theorem repeater_released_frameless : ∃ w',
    (TunerAccess.writeBatch [(0x05, 0x83), (0x06, 0x32)]).perform framelessEnv Sdr.openedR820t =
      (.error (.error .usb), w') ∧ RepeaterClosed blankChip w' := by
  have hrun : ((TunerAccess.writeBatch [(0x05, 0x83), (0x06, 0x32)]).perform framelessEnv
      Sdr.openedR820t).1 = .error (.error .usb) := by
    decide +kernel
  have hrun := Prod.fst_eq_iff.mp hrun
  have hclosed : RepeaterClosed blankChip Sdr.openedR820t := by
    unfold RepeaterClosed
    decide
  exact ⟨_, hrun, repeater_released framelessEnv_closes hclosed hrun (by simp)⟩

end Sdrgg.Rtl
