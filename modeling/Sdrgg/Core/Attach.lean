import Sdrgg.ProofKit.Lifetime
import Sdrgg.Core.Config
import Sdrgg.Core.Registry

/-! `sdr::open_path` with its rollback: the resources that an attach session acquires, uses and
releases, and what becomes of them on each way out. -/

namespace Sdrgg.Sdr

open ProofKit Usb

/-- What `open_path` acquires. -/
inductive Resource where
  | descriptor
  | memory
  | mutex
  | interface
deriving DecidableEq, Repr

/-- What a call of `open_path` meets: its arguments, the outcomes of `open`, `calloc` and of the
`ioctl`s of `usb::claim`, and the kernel's answers to the transfers. -/
structure Attach where
  args : Bool
  opened : Bool
  allocated : Bool
  kernelDriver : Bool
  claimed : Bool
  env : Env

/-- The device under way with its `slot_index`, the context's table, and what has been done with the
resources, the first touch first. -/
structure Session where
  world : World
  slotIndex : Nat
  table : DeviceTable
  trace : List (Touch Resource)

abbrev AttachM := Act Attach Session SdrggError

def touch (t : Touch Resource) : AttachM Unit :=
  Act.modify fun s => { s with trace := s.trace ++ [t] }

/-- An operation on the device, which reads and writes its memory and sends its transfers through the
descriptor to the claimed interface.  The reset and the claim that `rtl::init` may send leave the
interface claimed. -/
def onDevice {α : Type} (m : DevM α) : AttachM α := fun a s =>
  match m a.env s.world with
  | (x, world) =>
    (x, { s with
      world
      trace := s.trace ++ [.use .memory, .use .descriptor, .use .interface] })

/-- `usb::claim`. -/
def claim : AttachM Unit := do
  let a ← Act.read
  touch (.use .memory)
  touch (.use .descriptor)
  -- a kernel driver on the interface is detached first
  if a.kernelDriver then touch (.use .descriptor)
  touch (.use .descriptor)
  if a.claimed then touch (.acquire .interface) else Act.fail .busy

/-- `usb::release`. -/
def release : AttachM Unit := do
  touch (.use .memory)
  touch (.use .descriptor)
  touch (.release .interface)

/-- `attach_session`. -/
structure AttachSession where
  dev : Option Nat
  phaseADone : Bool
  phaseBDone : Bool
  phaseCDone : Bool
deriving DecidableEq, Repr

def whenDone (done : Bool) (m : AttachM Unit) : AttachM Unit := if done then m else pure ()

/-- The dormancy of an R820T that has been started. -/
def rollbackTuner : AttachM Unit := do
  touch (.use .memory)
  let s ← Act.get
  if s.world.dev.identity.tunerClass = .r820t then Act.ignore (onDevice R820t.standby)

def rollbackBaseband : AttachM Unit := do
  Act.ignore (onDevice Rtl.deinit)
  release

def closeDescriptor : AttachM Unit := do
  touch (.use .memory)
  touch (.release .descriptor)

def freeDevice : AttachM Unit := do
  touch (.use .memory)
  touch (.release .mutex)
  touch (.release .memory)

/-- `rollback_session`. -/
def rollbackSession (session : AttachSession) : AttachM Unit :=
  whenDone session.dev.isSome do
    whenDone session.phaseCDone rollbackTuner
    whenDone session.phaseBDone rollbackBaseband
    whenDone session.phaseADone closeDescriptor
    freeDevice

/-- Phase D: the registration in the context. -/
def registration (session : AttachSession) (dev : Nat) : AttachM (Option Nat) := do
  let s ← Act.get
  match s.table.register dev with
  | none =>
    rollbackSession session
    return none
  | some (slot, table) =>
    touch (.use .memory)
    Act.modify fun s => { s with slotIndex := slot, table }
    return some dev

/-- Phase C: the discovery of the tuner family, and what follows. -/
def discovery (session : AttachSession) (dev : Nat) : AttachM (Option Nat) := do
  match ← Act.attempt (onDevice (discover familyContracts)) with
  | .error _ =>
    rollbackSession session
    return none
  | .ok _ => registration { session with phaseCDone := true } dev

/-- The boot of phase B, and what follows. -/
def booting (session : AttachSession) (dev : Nat) : AttachM (Option Nat) := do
  match ← Act.attempt (onDevice Rtl.init) with
  | .error _ =>
    release
    rollbackSession session
    return none
  | .ok _ => discovery { session with phaseBDone := true } dev

/-- Phase B: the claim of the interface, and what follows. -/
def claiming (session : AttachSession) (dev : Nat) : AttachM (Option Nat) := do
  match ← Act.attempt claim with
  | .error _ =>
    rollbackSession session
    return none
  | .ok _ => booting session dev

/-- Phase A after the allocation of the device at address `dev`, and what follows. -/
def identification (dev : Nat) : AttachM (Option Nat) := do
  touch (.acquire .memory)
  Act.modify fun s => { s with world := ⟨blankDevice, [], none, 0⟩, slotIndex := 0 }
  touch (.use .memory)
  touch (.acquire .mutex)
  -- the device descriptor, whose read may fail
  touch (.use .descriptor)
  claiming ⟨some dev, true, false, false⟩ dev

/-- `sdr::open_path`, where `dev` is the address that `calloc` would return. -/
def openPath (dev : Nat) : AttachM (Option Nat) := do
  let a ← Act.read
  if !a.args then return none
  else if !a.opened then return none
  else
    touch (.acquire .descriptor)
    if a.allocated then identification dev
    else
      touch (.release .descriptor)
      return none

/-- A call of `open_path` on a context. -/
def attachStart (table : DeviceTable) : Session := ⟨⟨blankDevice, [], none, 0⟩, 0, table, []⟩

/-! ### The resources on the way -/

/-- The stages of the descriptor, the memory, the mutex and the interface. -/
def stages (descriptor memory mutex interface : Stage) : Resource → Stage
  | .descriptor => descriptor
  | .memory => memory
  | .mutex => mutex
  | .interface => interface

section Stages

variable (d m x i v : Stage)

@[simp] theorem update_descriptor :
    Function.update (stages d m x i) .descriptor v = stages v m x i := by
  funext r
  cases r <;> rfl

@[simp] theorem update_memory : Function.update (stages d m x i) .memory v = stages d v x i := by
  funext r
  cases r <;> rfl

@[simp] theorem update_mutex : Function.update (stages d m x i) .mutex v = stages d m v i := by
  funext r
  cases r <;> rfl

@[simp] theorem update_interface :
    Function.update (stages d m x i) .interface v = stages d m x v := by
  funext r
  cases r <;> rfl

end Stages

/-- A session in which the context's table is `table`, the resources are in the stages `f` and the
device meets `P`. -/
structure At (table : DeviceTable) (f : Resource → Stage) (P : World → Prop) (s : Session) :
    Prop where
  table : s.table = table
  stages : run Touch.apply (fun _ => .absent) s.trace = some f
  world : P s.world

section Steps

variable {a : Attach} {table : DeviceTable} {f : Resource → Stage} {P : World → Prop}

theorem touch_returns {g : Resource → Stage} {t : Touch Resource} (h : t.apply f = some g) :
    Returns a (At table f P) (touch t) fun _ => At table g P :=
  Returns.modify fun _ hs => ⟨hs.table, run_append_eq hs.stages (by simp [h]), hs.world⟩

theorem touch_use {r : Resource} (h : f r = .held) :
    Returns a (At table f P) (touch (.use r)) fun _ => At table f P :=
  touch_returns (by simp [Touch.apply, h])

theorem touch_acquire {r : Resource} (h : f r = .absent) :
    Returns a (At table f P) (touch (.acquire r)) fun _ =>
      At table (Function.update f r .held) P :=
  touch_returns (by simp [Touch.apply, h])

theorem touch_release {r : Resource} (h : f r = .held) :
    Returns a (At table f P) (touch (.release r)) fun _ =>
      At table (Function.update f r .released) P :=
  touch_returns (by simp [Touch.apply, h])

theorem whenDone_returns {done : Bool} {m : AttachM Unit} {I J : Session → Prop}
    (hm : done = true → Returns a I m fun _ => J) (hskip : done = false → ∀ s, I s → J s) :
    Returns a I (whenDone done m) fun _ => J := by
  cases done with
  | true => exact hm rfl
  | false => exact Returns.pure (hskip rfl)

/-- An operation on the device uses what it needs and leaves the table alone. -/
theorem onDevice_returns {α : Type} {m : DevM α} {Q : Except SdrggError α → World → Prop}
    (hm : Returns a.env P (Act.attempt m) Q) (hmemory : f .memory = .held)
    (hdescriptor : f .descriptor = .held) (hinterface : f .interface = .held) :
    Returns a (At table f P) (Act.attempt (onDevice m)) fun out => At table f (Q out) := by
  intro s hs
  obtain ⟨out, world, hrun, hout⟩ := hm s.world hs.world
  refine ⟨out, { s with
    world
    trace := s.trace ++ [.use .memory, .use .descriptor, .use .interface] }, ?_, hs.table, ?_, hout⟩
  · rcases hworld : m a.env s.world with ⟨(e | _) | x, w⟩
    all_goals
      unfold Act.attempt at hrun ⊢
      simp only [onDevice, hworld] at hrun ⊢
      cases hrun
    · rfl
    · rfl
  · exact run_append_eq hs.stages (by simp [Touch.apply, hmemory, hdescriptor, hinterface])

/-- The device is looked at no more. -/
theorem At.forget {s : Session} (h : At table f P s) : At table f (fun _ => True) s :=
  ⟨h.table, h.stages, trivial⟩

theorem onDevice_ignored {m : DevM Unit} (hm : Defined m) (hmemory : f .memory = .held)
    (hdescriptor : f .descriptor = .held) (hinterface : f .interface = .held) :
    Returns a (At table f P) (Act.ignore (onDevice m)) fun _ => At table f fun _ => True :=
  (onDevice_returns (Q := fun _ _ => True)
    (fun w _ => (attempt_of_defined (hm a.env w)).imp fun _ h => ⟨_, h, trivial⟩) hmemory hdescriptor
    hinterface).ignore

/-! ### The rollback -/

theorem release_returns :
    Returns a (At table (stages .held .held .held .held) P) release
      fun _ => At table (stages .held .held .held .released) P :=
  (touch_use rfl).bind fun _ => (touch_use rfl).bind fun _ =>
    (touch_release rfl).mono fun _ _ h => by simpa using h

theorem rollbackTuner_returns :
    Returns a (At table (stages .held .held .held .held) fun _ => True) rollbackTuner
      fun _ => At table (stages .held .held .held .held) fun _ => True := by
  refine (touch_use rfl).bind fun _ s hs => ?_
  rw [Act.bind_of_ok (Act.get_apply a s)]
  split
  · exact onDevice_ignored R820t.defined_standby rfl rfl rfl s hs
  · exact ⟨(), s, rfl, hs⟩

theorem rollbackBaseband_returns :
    Returns a (At table (stages .held .held .held .held) fun _ => True) rollbackBaseband
      fun _ => At table (stages .held .held .held .released) fun _ => True :=
  (onDevice_ignored Rtl.defined_deinit rfl rfl rfl).bind fun _ => release_returns

theorem closeDescriptor_returns {interface : Stage} :
    Returns a (At table (stages .held .held .held interface) P) closeDescriptor
      fun _ => At table (stages .released .held .held interface) P :=
  (touch_use rfl).bind fun _ => (touch_release rfl).mono fun _ _ h => by simpa using h

theorem freeDevice_returns {interface : Stage} :
    Returns a (At table (stages .released .held .held interface) P) freeDevice
      fun _ => At table (stages .released .released .released interface) P :=
  (touch_use rfl).bind fun _ => (touch_release rfl).bind fun _ =>
    (touch_release (by simp [stages])).mono fun _ _ h => by simpa using h

/-- The rollback gives back the descriptor, the mutex and the memory, and the interface when the
device has been booted. -/
theorem rollbackSession_returns {session : AttachSession} {interface : Stage}
    (hdev : session.dev.isSome = true) (hA : session.phaseADone = true)
    (hB : session.phaseBDone = true → interface = .held)
    (hC : session.phaseCDone = true → interface = .held) :
    Returns a (At table (stages .held .held .held interface) fun _ => True)
      (rollbackSession session) fun _ =>
      At table (stages .released .released .released
        (if session.phaseBDone then .released else interface)) fun _ => True := by
  refine whenDone_returns (fun _ => ?_) (by simp [hdev])
  refine Returns.bind (whenDone_returns (fun hdone => ?_) fun _ _ hs => hs) fun _ => ?_
  · rw [hC hdone]
    exact rollbackTuner_returns
  refine Returns.bind (whenDone_returns
    (J := At table (stages .held .held .held (if session.phaseBDone then .released else interface))
      fun _ => True)
    (fun hdone => ?_) fun hskip _ hs => ?_) fun _ => ?_
  · rw [hB hdone, hdone]
    exact rollbackBaseband_returns
  · simpa [hskip] using hs
  · exact (whenDone_returns (fun _ => closeDescriptor_returns) (by simp [hA])).bind fun _ =>
      freeDevice_returns

/-! ### The phases -/

/-- A claim that fails leaves the interface alone. -/
theorem claim_returns :
    Returns a (At table (stages .held .held .held .absent) P) (Act.attempt claim) fun out =>
      At table (stages .held .held .held (if out.toBool then .held else .absent)) P := by
  intro s hs
  obtain ⟨args, opened, allocated, kernelDriver, claimed, env⟩ := a
  cases kernelDriver <;> cases claimed <;> refine ⟨_, _, rfl, hs.table, ?_, hs.world⟩
  all_goals
    simp only [List.append_assoc]
    exact run_append_eq hs.stages (by simp [Touch.apply, stages, Except.toBool])

/-- What `open_path` leaves of a context's table and of the resources: with no device, everything that
it acquired is given back and the table is as it was; with one, nothing is. -/
def Outcome (table : DeviceTable) (dev : Nat) (out : Option Nat) (s : Session) : Prop :=
  match out with
  | none => s.table = table ∧ RolledBack s.trace
  | some d => d = dev ∧ table.register dev = some (s.slotIndex, s.table) ∧ AllHeld s.trace

theorem At.rolledBack {dev : Nat} {s : Session} (h : At table f P s) (hnone : ∀ r, f r ≠ .held) :
    Outcome table dev none s :=
  ⟨h.table, rolledBack_of_run h.stages hnone⟩

/-- An exit of `open_path` through the rollback. -/
theorem exit_returns {session : AttachSession} {interface : Stage} {dev : Nat}
    (hdev : session.dev.isSome = true) (hA : session.phaseADone = true)
    (hB : session.phaseBDone = true → interface = .held)
    (hC : session.phaseCDone = true → interface = .held)
    (hclaim : interface = .held → session.phaseBDone = true) :
    Returns a (At table (stages .held .held .held interface) P)
      (do rollbackSession session; return none) (Outcome table dev) := by
  intro s hs
  have hrollback : Returns a (At table (stages .held .held .held interface) fun _ => True)
      (rollbackSession session) _ := rollbackSession_returns hdev hA hB hC
  refine (hrollback.bind fun _ => Returns.pure fun s' hs' => hs'.rolledBack fun r => ?_) s hs.forget
  cases r <;> simp only [stages, ne_eq, reduceCtorEq, not_false_iff]
  split
  · decide
  · exact fun hheld => ‹¬_› (hclaim hheld)

theorem registration_returns {dev : Nat} :
    Returns a (At table (stages .held .held .held .held) fun _ => True)
      (registration ⟨some dev, true, true, true⟩ dev) (Outcome table dev) := by
  intro s hs
  rw [registration, Act.bind_of_ok (Act.get_apply a s)]
  rcases hregister : s.table.register dev with _ | ⟨slot, table'⟩
  · exact exit_returns rfl rfl (fun _ => rfl) (fun _ => rfl) (fun _ => rfl) s hs
  · obtain ⟨_, s', hrun, hs'⟩ := touch_use (a := a) (r := .memory) rfl s hs
    refine ⟨some dev, { s' with slotIndex := slot, table := table' }, ?_, rfl, ?_, ?_⟩
    · exact (Act.bind_of_ok hrun).trans rfl
    · rw [← hs.table]
      exact hregister
    · exact allHeld_of_run hs'.stages fun r => by cases r <;> rfl

theorem discovery_returns {dev : Nat} :
    Returns a (At table (stages .held .held .held .held)
        fun w => w.dev.baseband.oscillatorHz = 28800000)
      (discovery ⟨some dev, true, true, false⟩ dev) (Outcome table dev) := by
  refine Returns.bind (onDevice_returns (Q := fun _ _ => True)
    (fun w hw => (attempt_of_defined (discover_defined hw)).imp fun _ h => ⟨_, h, trivial⟩)
    rfl rfl rfl) fun out => ?_
  cases out with
  | error e => exact exit_returns rfl rfl (fun _ => rfl) nofun fun _ => rfl
  | ok _ => exact registration_returns

theorem booting_returns {dev : Nat} :
    Returns a (At table (stages .held .held .held .held) P)
      (booting ⟨some dev, true, false, false⟩ dev) (Outcome table dev) := by
  have hinit : Returns a.env P (Act.attempt Rtl.init) fun out w =>
      out.toBool = true → w.dev.baseband.oscillatorHz = 28800000 := by
    intro w hw
    obtain ⟨out, hout⟩ := attempt_of_defined (Rtl.defined_init a.env w)
    refine ⟨out, _, hout, fun hok => ?_⟩
    obtain ⟨x, rfl, hx⟩ | ⟨e, rfl, -⟩ := Act.attempt_eq_ok.mp hout
    · exact congrArg (·.baseband.oscillatorHz) (init_ok hx)
    · cases hok
  refine Returns.bind (onDevice_returns hinit rfl rfl rfl) fun out => ?_
  cases out with
  | error e =>
    refine Returns.bind release_returns fun _ => ?_
    exact exit_returns rfl rfl nofun nofun nofun
  | ok _ =>
    intro s hs
    exact discovery_returns s ⟨hs.table, hs.stages, hs.world rfl⟩

theorem claiming_returns {dev : Nat} :
    Returns a (At table (stages .held .held .held .absent) P)
      (claiming ⟨some dev, true, false, false⟩ dev) (Outcome table dev) := by
  refine Returns.bind claim_returns fun out => ?_
  cases out with
  | error e => exact exit_returns rfl rfl nofun nofun nofun
  | ok _ => exact booting_returns

theorem identification_returns {dev : Nat} :
    Returns a (At table (stages .held .absent .absent .absent) P) (identification dev)
      (Outcome table dev) := by
  refine (touch_acquire rfl).bind fun _ => ?_
  refine Returns.bind (Q := fun _ => At table (stages .held .held .absent .absent) fun _ => True)
    (Returns.modify fun s hs => ⟨hs.table, by simpa using hs.stages, trivial⟩) fun _ => ?_
  refine (touch_use rfl).bind fun _ => (touch_acquire rfl).bind fun _ => ?_
  rw [update_mutex]
  exact (touch_use rfl).bind fun _ => claiming_returns

end Steps

/-- Whatever its steps meet, `open_path` returns: with no device when it has rolled back, and else
with a device that it has registered and all of whose resources it holds. -/
theorem openPath_returns (a : Attach) (table : DeviceTable) (dev : Nat) :
    ∃ out s, openPath dev a (attachStart table) = (.ok out, s) ∧ Outcome table dev out s := by
  have hstart : At table (stages .absent .absent .absent .absent) (fun _ => True)
      (attachStart table) := by
    refine ⟨rfl, ?_, trivial⟩
    simp only [attachStart, run_nil, Option.some_inj]
    funext r
    cases r <;> rfl
  have hnone : ∀ r, stages .absent .absent .absent .absent r ≠ .held := fun r => by
    cases r <;> decide
  rw [openPath, Act.bind_of_ok (Act.read_apply a _)]
  by_cases hargs : a.args = true
  · by_cases hopened : a.opened = true
    · simp only [hargs, hopened, Bool.not_true, Bool.false_eq_true, if_false]
      refine Returns.bind (touch_acquire rfl) (fun _ => ?_) _ hstart
      rw [update_descriptor]
      split
      · exact identification_returns
      · refine (touch_release rfl).bind fun _ => Returns.pure fun s hs => hs.rolledBack fun r => ?_
        rw [update_descriptor]
        cases r <;> decide
    · simp only [hargs, hopened, Bool.not_true, Bool.false_eq_true, if_false, Bool.not_false, if_true]
      exact ⟨none, _, rfl, hstart.rolledBack hnone⟩
  · simp only [hargs, Bool.not_false, if_true]
    exact ⟨none, _, rfl, hstart.rolledBack hnone⟩

end Sdrgg.Sdr
