import Sdrgg.ProofKit.Trace
import Sdrgg.Rtl.Registers

/-! The transfers that accesses to the tuner make: those of the tuner bus, and those that open and
close the repeater in front of it. -/

namespace Sdrgg.Rtl

open ProofKit Usb

/-- A transfer with a device behind the repeater. -/
def Transfer.onTunerBus : Transfer → Bool
  | .write _ index _ => index = 0x0610
  | .read _ index _ => index = 0x0600
  | _ => false

/-- The write that opens or closes the repeater. -/
def Transfer.repeater (enable : Bool) : Transfer :=
  .write 0x0120 0x0011 [if enable then 0x18 else 0x10]

/-- The read after it, whose result is not looked at. -/
def Transfer.confirmation : Transfer := .read 0x0120 0x000a 1

/-- The kernel reported an error. -/
def Response.failed : Response → Bool
  | .done _ => false
  | .fail _ => true

/-- The transfers of the tuner bus among `es`. -/
def busEntries (es : List (Transfer × Response)) : List (Transfer × Response) :=
  es.filter fun e => Transfer.onTunerBus e.1

/-- How a write ends. -/
def Response.outcome : Response → Except (Fault SdrggError) Unit
  | .done _ => .ok ()
  | .fail _ => .error (.error .usb)

/-- How a read of `len` bytes into `buf` ends. -/
def Response.received (len : UInt16) (buf : List UInt8) :
    Response → Except (Fault SdrggError) (List UInt8)
  | .done data => .ok (data.take len.toNat ++ buf.drop (min data.length len.toNat))
  | .fail _ => .error (.error .usb)

section Transfers

variable {env : Env} {I : World → Prop} {value index len : UInt16} {data buf : List UInt8}

theorem controlWrite_run (w : World) : ∃ u,
    controlWrite value index data env w =
      (Response.outcome (env.kernel w.log (.write value index data)), u) ∧
    u.log = (.write value index data, env.kernel w.log (.write value index data)) :: w.log := by
  simp only [controlWrite, Act.bind_apply, ioctl, noteResponse, Act.modify_apply]
  rcases env.kernel w.log (.write value index data) with bytes | errno <;> exact ⟨_, rfl, rfl⟩

theorem controlRead_run (w : World) : ∃ u,
    controlRead value index len buf env w =
      (Response.received len buf (env.kernel w.log (.read value index len)), u) ∧
    u.log = (.read value index len, env.kernel w.log (.read value index len)) :: w.log := by
  simp only [controlRead, Act.bind_apply, ioctl, noteResponse, Act.modify_apply]
  rcases env.kernel w.log (.read value index len) with bytes | errno <;> exact ⟨_, rfl, rfl⟩

theorem traces_controlWrite (hI : Preserves env I (controlWrite value index data)) :
    Traces env I World.log (controlWrite value index data) fun x es =>
      ∃ resp, es = [(.write value index data, resp)] ∧ x = Response.outcome resp := by
  refine Traces.intro hI fun w _ => ?_
  obtain ⟨u, hrun, hlog⟩ := @controlWrite_run env value index data w
  rw [hrun]
  exact ⟨[_], hlog, _, rfl, rfl⟩

/-- The answer to a read is one to the log before it. -/
theorem traces_controlRead (hI : Preserves env I (controlRead value index len buf)) :
    Traces env I World.log (controlRead value index len buf) fun x es =>
      ∃ w resp, I w ∧ env.kernel w.log (.read value index len) = resp ∧
        es = [(.read value index len, resp)] ∧ x = Response.received len buf resp := by
  refine Traces.intro hI fun w hw => ?_
  obtain ⟨u, hrun, hlog⟩ := @controlRead_run env value index len buf w
  rw [hrun]
  exact ⟨[_], hlog, w, _, hw, rfl, rfl, rfl⟩

/-- The write of the repeater, and the read that confirms it. -/
theorem traces_enableI2cRepeater {enable : Bool}
    (hwrite : Preserves env I (controlWrite 0x0120 0x0011 [if enable then 0x18 else 0x10]))
    (hread : Preserves env I (controlRead 0x0120 0x000a 1 [0])) :
    Traces env I World.log (enableI2cRepeater enable) fun x es =>
      ∃ resp rest, es = (Transfer.repeater enable, resp) :: rest ∧
        (∀ e ∈ rest, e.1 = Transfer.confirmation) ∧ x = Response.outcome resp := by
  have hconfirm : Settles env I World.log (Act.ignore (controlRead 0x0120 0x000a 1 [0])) fun es =>
      ∀ e ∈ es, e.1 = Transfer.confirmation := by
    refine Logs.ignore ((traces_controlRead hread).mono ?_)
    rintro _ _ ⟨w, resp, -, -, rfl, rfl⟩
    cases resp <;> exact ⟨by simp [Response.received], by simp [Transfer.confirmation]⟩
  have hpayload : payload (if enable then 0x18 else 0x10) 1 = [if enable then 0x18 else 0x10] := by
    cases enable <;> rfl
  rw [enableI2cRepeater, submitDemodWrite, hpayload]
  refine (traces_controlWrite hwrite).bind (fun _ => hconfirm) ?_ ?_
  · rintro f _ ⟨resp, rfl, hx⟩
    exact ⟨resp, [], rfl, by simp, hx⟩
  · rintro a _ x rest ⟨resp, rfl, hx⟩ ⟨⟨_, rfl⟩, hrest⟩
    exact ⟨resp, rest, rfl, hrest, hx⟩

end Transfers

/-! ### Operations that leave the tuner alone -/

section OffBus

variable {env : Env} {α β : Type} {m : DevM α}

@[simp] theorem busEntries_append (es es' : List (Transfer × Response)) :
    busEntries (es ++ es') = busEntries es ++ busEntries es' :=
  List.filter_append es es'

theorem mem_busEntries {es : List (Transfer × Response)} {e : Transfer × Response} :
    e ∈ busEntries es ↔ e ∈ es ∧ Transfer.onTunerBus e.1 = true :=
  List.mem_filter

/-- `m` makes no transfer of the tuner bus. -/
abbrev OffBus (env : Env) (m : DevM α) : Prop :=
  Logs env (fun _ => True) World.log m fun es => busEntries es = []

/-- `m` makes no transfer of the tuner bus, and returns. -/
abbrev Quiet (env : Env) (m : DevM α) : Prop :=
  Settles env (fun _ => True) World.log m fun es => busEntries es = []

theorem preserves_true (m : DevM α) : Preserves env (fun _ => True) m := fun _ _ => trivial

theorem Quiet.pure (a : α) : Quiet env (pure a) := Settles.pure rfl

theorem busEntries_append_eq_nil {es es' : List (Transfer × Response)} (h : busEntries es = [])
    (h' : busEntries es' = []) : busEntries (es ++ es') = [] := by
  rw [busEntries_append, h, h', List.append_nil]

theorem Quiet.bind {k : α → DevM β} (hm : Quiet env m) (hk : ∀ a, Quiet env (k a)) :
    Quiet env (m >>= k) :=
  Settles.bind hm hk fun _ _ => busEntries_append_eq_nil

theorem OffBus.bind {k : α → DevM β} (hm : OffBus env m) (hk : ∀ a, OffBus env (k a)) :
    OffBus env (m >>= k) :=
  Logs.bind hm hk fun _ _ => busEntries_append_eq_nil

theorem Quiet.offBus (hm : Quiet env m) : OffBus env m := Settles.logs hm

theorem OffBus.ignore (hm : OffBus env m) : Quiet env (Act.ignore m) := Logs.ignore hm

theorem OffBus.orElse (hm : OffBus env m) (a : α) : Quiet env (Act.orElse m a) := Logs.orElse hm a

/-- What follows a quiet operation makes the transfers with the tuner. -/
theorem Quiet.first {k : α → DevM β}
    {R : Except (Fault SdrggError) β → List (Transfer × Response) → Prop} (hm : Quiet env m)
    (hk : ∀ a, Traces env (fun _ => True) World.log (k a) fun x es => R x (busEntries es)) :
    Traces env (fun _ => True) World.log (m >>= k) fun x es => R x (busEntries es) := by
  refine Traces.bind (R := fun x es => (∃ a, x = .ok a) ∧ busEntries es = []) hm hk ?_ ?_
  · rintro f es ⟨⟨_, h⟩, -⟩
    cases h
  · rintro _ es x es' ⟨-, hes⟩ h
    rwa [busEntries_append, hes]

theorem logs_controlWrite {value index : UInt16} {data : List UInt8} :
    Logs env (fun _ => True) World.log (controlWrite value index data) fun _ => True := by
  refine (traces_controlWrite (preserves_true _)).mono ?_
  rintro _ _ ⟨resp, rfl, rfl⟩
  cases resp <;> simp [Response.outcome]

theorem logs_controlRead {value index len : UInt16} {buf : List UInt8} :
    Logs env (fun _ => True) World.log (controlRead value index len buf) fun _ => True := by
  refine (traces_controlRead (preserves_true _)).mono ?_
  rintro _ _ ⟨w, resp, -, -, rfl, rfl⟩
  cases resp <;> simp [Response.received]

theorem offBus_controlWrite {value index : UInt16} {data : List UInt8} (hindex : index ≠ 0x0610) :
    OffBus env (controlWrite value index data) := by
  refine (traces_controlWrite (preserves_true _)).mono ?_
  rintro _ _ ⟨resp, rfl, rfl⟩
  cases resp <;> simp [Response.outcome, busEntries, Transfer.onTunerBus, hindex]

theorem offBus_controlRead {value index len : UInt16} {buf : List UInt8} (hindex : index ≠ 0x0600) :
    OffBus env (controlRead value index len buf) := by
  refine (traces_controlRead (preserves_true _)).mono ?_
  rintro _ _ ⟨w, resp, -, -, rfl, rfl⟩
  cases resp <;> simp [Response.received, busEntries, Transfer.onTunerBus, hindex]

theorem offBus_submitDemodWrite {page reg : UInt8} {val : UInt16} {len : UInt8}
    (hpage : 0x10 ||| page.toUInt16 ≠ 0x0610) : OffBus env (submitDemodWrite page reg val len) :=
  (offBus_controlWrite hpage).bind fun _ => (offBus_controlRead (by decide)).ignore.offBus

theorem offBus_enableI2cRepeater (enable : Bool) : OffBus env (enableI2cRepeater enable) :=
  offBus_submitDemodWrite (by decide)

theorem quiet_uninitialised (n : Nat) : Quiet env (uninitialised n) :=
  fun _ _ => ⟨[], rfl, trivial, ⟨_, rfl⟩, rfl⟩

theorem quiet_updateSystem (addr : UInt16) (r : UInt8) (change : UInt8 → UInt8) :
    Quiet env (updateSystem addr r change) := by
  have hread : OffBus env (submitBlockRead 2 addr r) :=
    (offBus_controlRead (by decide)).bind fun _ => (Quiet.pure _).offBus
  exact (hread.orElse r).bind fun _ =>
    (offBus_controlWrite (by decide)).ignore.bind fun _ => Quiet.pure _

theorem quiet_setGpioOutput (gpio : UInt8) : Quiet env (setGpioOutput gpio) :=
  (quiet_uninitialised 1).bind fun _ => (quiet_updateSystem _ _ _).bind fun _ =>
    (quiet_updateSystem _ _ _).bind fun _ => Quiet.pure _

theorem quiet_setGpioBit (gpio : UInt8) (val : Bool) : Quiet env (setGpioBit gpio val) :=
  (quiet_uninitialised 1).bind fun _ => (quiet_updateSystem _ _ _).bind fun _ => Quiet.pure _

end OffBus

end Sdrgg.Rtl
