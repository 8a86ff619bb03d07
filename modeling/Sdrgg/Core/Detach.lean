import Sdrgg.Core.Attach
import Sdrgg.Core.Gate
import Sdrgg.Core.Success
import Sdrgg.Rtl.Bus
import Sdrgg.Usb.Urb

/-! `sdr::close` after `open_path`: what becomes of the resources of a session, of the context's
table and of the device. -/

namespace Sdrgg.Sdr

open ProofKit Usb

/-- The dormancy of the tuner. -/
def tunerDormancy : AttachM Unit := do
  touch (.use .memory)
  let s ← Act.get
  if s.world.dev.identity.tunerClass.isR820t then Act.ignore (onDevice R820t.standby)
  else if s.world.dev.identity.tunerClass.isFc001x then Act.ignore (onDevice Fc0012.setAutoGain)

/-- The touches of `usb::urb_free`: the URBs in flight are discarded and reaped through the
descriptor. -/
def urbFree (pipeline : Pipeline) : AttachM Unit := do
  touch (.use .memory)
  whenDone (!pipeline.inFlight.isEmpty) (touch (.use .descriptor))

/-- The release of the USB resources by `close`. -/
def releaseUsb (pipeline : Pipeline) : AttachM Unit := do
  release
  touch (.release .descriptor)
  urbFree pipeline

/-- The reader thread that `stop_stream`, called in another thread, joins: one that leaves without a
transfer, since it reads synchronously or has left before, or one that waits beside its URBs, with
what the kernel answers to the reaps of `urb_cancel_all`. -/
inductive Reader where
  | quiet
  | waiting (answers : List (Option Nat))
deriving DecidableEq, Repr

/-- The way out of a reader that waits: `event_loop_remove_dev`, `urb_cancel_all`, `stop_bulk` and
`urb_free`. -/
def leaveWaiting (pipeline : Pipeline) (answers : List (Option Nat)) : AttachM Pipeline := do
  touch (.use .memory)
  touch (.use .descriptor)
  let cancelled := urbCancelAll pipeline answers
  whenDone (!pipeline.inFlight.isEmpty) (touch (.use .descriptor))
  let s ← Act.get
  whenDone (!s.world.dev.identity.tunerClass.isFc001x) (Act.ignore (onDevice Rtl.stopBulk))
  urbFree cancelled.pipeline
  return (Usb.urbFree cancelled.pipeline cancelled.answers).1.pipeline

def Reader.exit (pipeline : Pipeline) : Reader → AttachM Pipeline
  | .quiet => return pipeline
  | .waiting answers => leaveWaiting pipeline answers

/-- `stop_stream` of an active stream, with what it leaves of the URBs. -/
def haltStream (reader : Reader) (pipeline : Pipeline) : AttachM Pipeline := do
  touch (.use .memory)
  let pipeline ← reader.exit pipeline
  Act.modify fun s => { s with world.dev.streamActive := false }
  return pipeline

def haltActive (reader : Reader) (pipeline : Pipeline) : AttachM Pipeline := do
  if (← Act.get).world.dev.streamActive then haltStream reader pipeline
  else return pipeline

/-- `sdr::close` of the device at address `dev`. -/
def close (dev : Nat) (reader : Reader) (pipeline : Pipeline) : AttachM Unit := do
  touch (.use .memory)
  Act.modify fun s => { s with table := s.table.unregister dev }
  touch (.use .memory)
  let pipeline ← haltActive reader pipeline
  let s ← Act.get
  -- a device that is gone is not talked to
  if s.world.dev.health ≠ .disconnected then do
    tunerDormancy
    Act.ignore (onDevice Rtl.deinit)
  releaseUsb pipeline
  freeDevice

/-- The calls between `open_path` and `close`; what they return is not looked at. -/
def callDevice (calls : List (DevM Unit)) : AttachM Unit :=
  calls.forM fun call => Act.ignore (onDevice call)

/-- The last transfer is the write that powers the demodulator off. -/
def PoweredOff (w : World) : Prop :=
  w.log.head?.map Prod.fst = some (.write 0x3000 0x0210 [0x20])

/-- The device after the reader has left. -/
def Reader.leave (env : Env) (w : World) : Reader → World
  | .quiet => w
  | .waiting _ => if w.dev.identity.tunerClass.isFc001x then w else (Rtl.stopBulk env w).2

/-- The device after its stream, if it has one, has been stopped. -/
def halted (env : Env) (reader : Reader) (w : World) : World :=
  if w.dev.streamActive then
    { reader.leave env w with dev := { (reader.leave env w).dev with streamActive := false } }
  else w

/-- `close` stops a stream whose reader takes the URBs back. -/
def TakesBack (reader : Reader) (w : World) : Prop :=
  w.dev.streamActive = true ∧ ∃ answers, reader = .waiting answers

/-- What `close` leaves of a session that it found as `before` and that was opened with `table`.  The
resources are given back, each once and after its last use, unless URBs are in flight that no reader
takes back. -/
structure Detached (env : Env) (table : DeviceTable) (reader : Reader) (pipeline : Pipeline)
    (before after : Session) : Prop where
  table : after.table.devices = table.devices
  balanced : RolledBack after.trace ↔ TakesBack reader before.world ∨ pipeline.inFlight = []
  gone : (halted env reader before.world).dev.health = .disconnected →
    after.world = halted env reader before.world
  poweredOff : (halted env reader before.world).dev.health ≠ .disconnected → PoweredOff after.world

/-- `close` takes out of the table the device that `open_path` has put in. -/
theorem DeviceTable.unregister_register {t t' : DeviceTable} {dev slot : Nat}
    (hfresh : ∀ i, t.devices i ≠ some dev) (h : t.register dev = some (slot, t')) :
    (t'.unregister dev).devices = t.devices := by
  obtain ⟨i, hfree, heq⟩ := Option.map_eq_some_iff.mp h
  obtain ⟨rfl, rfl⟩ := Prod.mk.inj heq
  have hempty := (DeviceTable.free_spec hfree).2
  have hunique : ∀ j, Function.update t.devices i (some dev) j = some dev → j = i := by
    intro j hj
    by_contra hne
    exact hfresh j (by simpa [Function.update_of_ne hne] using hj)
  rw [DeviceTable.unregister_eq (Function.update_self ..) hunique (by grind)]
  simp [← hempty]

section Steps

variable {a : Attach} {table : DeviceTable} {P : World → Prop}

/-- Calls on an open device use what it holds, and neither acquire nor release anything. -/
theorem callDevice_preserves (calls : List (DevM Unit)) :
    Preserves a (At table (stages .held .held .held .held) fun _ => True) (callDevice calls) := by
  refine Preserves.forM calls fun call _ => Preserves.ignore fun s hs => ?_
  exact ⟨hs.table, run_append_eq hs.stages (by simp [Touch.apply, stages]), trivial⟩

theorem defined_setAutoGain : Defined Fc0012.setAutoGain :=
  (Fc0012.defined_wireRead _ _).bind fun _ => Fc0012.defined_wireWrite _ _

theorem tunerDormancy_returns :
    Returns a (At table (stages .held .held .held .held) fun _ => True) tunerDormancy
      fun _ => At table (stages .held .held .held .held) fun _ => True := by
  refine (touch_use rfl).bind fun _ s hs => ?_
  rw [Act.bind_of_ok (Act.get_apply a s)]
  split
  · exact onDevice_ignored R820t.defined_standby rfl rfl rfl s hs
  · split
    · exact onDevice_ignored defined_setAutoGain rfl rfl rfl s hs
    · exact ⟨(), s, rfl, hs⟩

/-- `rtl::deinit` ends with the write that powers the demodulator off, whatever becomes of the
others. -/
theorem deinit_returns (env : Env) :
    Returns env (fun _ => True) (Act.attempt Rtl.deinit) fun _ => PoweredOff := by
  have hstop : Returns env (fun _ => True) (Act.attempt Rtl.stopBulk) fun _ _ => True := fun w _ =>
    (attempt_of_defined (Rtl.defined_submitBlockWrite 1 0x2148 0x1002 2 env w)).imp
      fun _ h => ⟨_, h, trivial⟩
  have hoff : Returns env (fun _ => True) (Act.attempt (Rtl.submitBlockWrite 2 0x3000 0x20 1))
      fun _ => PoweredOff := by
    intro w _
    obtain ⟨out, hout⟩ :=
      attempt_of_defined (Rtl.defined_submitBlockWrite 2 0x3000 0x20 1 env w)
    refine ⟨out, _, hout, ?_⟩
    obtain ⟨u, hu, hlog⟩ := @Rtl.controlWrite_run env 0x3000 0x0210 [0x20] w
    have hrun : (Rtl.submitBlockWrite 2 0x3000 0x20 1 env w).2 = u := congrArg Prod.snd hu
    rw [hrun, PoweredOff, hlog]
    rfl
  intro w hw
  obtain ⟨_, w', hrun, hw'⟩ := hstop.ignore.bind (fun _ => hoff.ignore) w hw
  exact ⟨.ok (), w', Act.attempt_of_ok hrun, hw'⟩

/-- The touches at the end of `close`. -/
def lastTouches (pipeline : Pipeline) : List (Touch Resource) :=
  [.use .memory, .use .descriptor, .release .interface, .release .descriptor, .use .memory] ++
    (if pipeline.inFlight.isEmpty then [] else [.use .descriptor]) ++
    [.use .memory, .release .mutex, .release .memory]

theorem releaseUsb_run (pipeline : Pipeline) (s : Session) :
    (do releaseUsb pipeline; freeDevice : AttachM Unit) a s =
      (.ok (), { s with trace := s.trace ++ lastTouches pipeline }) := by
  unfold releaseUsb urbFree lastTouches
  cases pipeline.inFlight.isEmpty <;> simp [whenDone, release, freeDevice, touch, Act.bind_apply]

/-- The resources are given back, but URBs in flight would be discarded through the closed
descriptor. -/
theorem lastTouches_balanced {trace : List (Touch Resource)} {pipeline : Pipeline}
    (h : run Touch.apply (fun _ => .absent) trace = some (stages .held .held .held .held)) :
    RolledBack (trace ++ lastTouches pipeline) ↔ pipeline.inFlight = [] := by
  constructor
  · intro hbalanced
    obtain ⟨g, hg⟩ := hbalanced.ordered
    rw [run_append, h, Option.bind_some] at hg
    by_contra hne
    simp [lastTouches, hne, Touch.apply, stages] at hg
  · intro hnil
    refine rolledBack_of_run (g := stages .released .released .released .released)
      (run_append_eq h ?_) fun r => by cases r <;> decide
    simp [lastTouches, hnil, Touch.apply, stages]

theorem sleep_returns :
    Returns a (At table (stages .held .held .held .held) fun _ => True)
      (Act.ignore (onDevice Rtl.deinit))
      fun _ => At table (stages .held .held .held .held) PoweredOff :=
  (onDevice_returns (deinit_returns a.env) rfl rfl rfl).ignore

theorem releaseUsb_returns {pipeline : Pipeline} :
    Returns a (At table (stages .held .held .held .held) P)
      (do releaseUsb pipeline; freeDevice) fun _ s =>
      s.table = table ∧ (RolledBack s.trace ↔ pipeline.inFlight = []) ∧ P s.world :=
  fun s hs => ⟨(), _, releaseUsb_run pipeline s, hs.table, lastTouches_balanced hs.stages, hs.world⟩

/-- The world that an operation leaves, whatever becomes of it. -/
theorem onDevice_world {m : DevM Unit} (hm : Defined m) (w : World) :
    Returns a (At table (stages .held .held .held .held) fun v => v = w) (Act.ignore (onDevice m))
      fun _ => At table (stages .held .held .held .held) fun v => v = (m a.env w).2 :=
  (onDevice_returns (Q := fun _ v => v = (m a.env w).2)
    (fun v hv => (attempt_of_defined (hm a.env v)).imp fun _ h => ⟨_, h, by rw [hv]⟩) rfl rfl
    rfl).ignore

theorem urbFree_returns (pipeline : Pipeline) :
    Returns a (At table (stages .held .held .held .held) P) (urbFree pipeline)
      fun _ => At table (stages .held .held .held .held) P :=
  (touch_use rfl).bind fun _ => whenDone_returns (fun _ => touch_use rfl) fun _ _ hs => hs

/-- `urb_free` leaves nothing in flight. -/
theorem inFlight_urbFree (pipeline : Pipeline) (answers : List (Option Nat)) :
    (Usb.urbFree pipeline answers).1.pipeline.inFlight = [] := by
  unfold Usb.urbFree
  split
  · rename_i hnone
    exact Pipeline.inFlight_of_isNone hnone
  · rfl

/-- A reader that waits takes its URBs back and stops the endpoint. -/
theorem leaveWaiting_returns (pipeline : Pipeline) (answers : List (Option Nat)) (w : World) :
    Returns a (At table (stages .held .held .held .held) fun v => v = w)
      (leaveWaiting pipeline answers) fun left s =>
        At table (stages .held .held .held .held)
          (fun v => v = (Reader.waiting answers).leave a.env w) s ∧ left.inFlight = [] := by
  refine (touch_use rfl).bind fun _ => (touch_use rfl).bind fun _ => ?_
  refine Returns.bind (whenDone_returns (fun _ => touch_use rfl) fun _ _ hs => hs) fun _ s hs => ?_
  rw [Act.bind_of_ok (Act.get_apply a s), hs.world]
  have hstop : Returns a (At table (stages .held .held .held .held) fun v => v = w)
      (whenDone (!w.dev.identity.tunerClass.isFc001x) (Act.ignore (onDevice Rtl.stopBulk)))
      fun _ => At table (stages .held .held .held .held)
        fun v => v = (Reader.waiting answers).leave a.env w := by
    refine whenDone_returns (fun hr820t => ?_) fun hfc001x _ h => ?_
    · rw [Reader.leave, if_neg (by simpa using hr820t)]
      exact onDevice_world (Rtl.defined_submitBlockWrite 1 0x2148 0x1002 2) w
    · rwa [Reader.leave, if_pos (by simpa using hfc001x)]
  exact (hstop.bind fun _ => (urbFree_returns _).bind fun _ =>
    Returns.pure fun _ h => ⟨h, inFlight_urbFree _ _⟩) s hs

/-- The stream is stopped if there is one. -/
theorem halt_returns (reader : Reader) (pipeline : Pipeline) (w : World) :
    Returns a (At table (stages .held .held .held .held) fun v => v = w)
      (haltActive reader pipeline) fun left s =>
        At table (stages .held .held .held .held) (fun v => v = halted a.env reader w) s ∧
          (left.inFlight = [] ↔ TakesBack reader w ∨ pipeline.inFlight = []) := by
  intro s hs
  rw [haltActive, Act.bind_of_ok (Act.get_apply a s), hs.world]
  cases hactive : w.dev.streamActive with
  | false =>
    have hsame : halted a.env reader w = w := by simp [halted, hactive]
    rw [hsame]
    exact ⟨pipeline, s, rfl, hs, by simp [TakesBack, hactive]⟩
  | true =>
    rw [if_pos rfl, haltStream]
    refine ((touch_use rfl).bind fun _ => ?_) s hs
    have hleft : Returns a (At table (stages .held .held .held .held) fun v => v = w)
        (reader.exit pipeline) fun left s =>
        At table (stages .held .held .held .held) (fun v => v = reader.leave a.env w) s ∧
          (left.inFlight = [] ↔ TakesBack reader w ∨ pipeline.inFlight = []) := by
      cases reader with
      | quiet => exact Returns.pure fun _ h => ⟨h, by simp [TakesBack]⟩
      | waiting answers =>
        exact (leaveWaiting_returns pipeline answers w).mono fun left _ h =>
          ⟨h.1, by simp [TakesBack, hactive, h.2]⟩
    refine hleft.bind fun left => ?_
    refine Returns.bind (Q := fun _ s =>
      At table (stages .held .held .held .held) (fun v => v = halted a.env reader w) s ∧
        (left.inFlight = [] ↔ TakesBack reader w ∨ pipeline.inFlight = [])) ?_ fun _ => ?_
    · refine Returns.modify fun s h => ⟨⟨h.1.table, h.1.stages, ?_⟩, h.2⟩
      rw [halted, if_pos hactive, h.1.world]
    · exact Returns.pure fun _ h => h

/-- The device is unregistered, its stream is stopped, and it is put to sleep if it is there, and given
back. -/
theorem close_returns (dev : Nat) (reader : Reader) (pipeline : Pipeline) (w : World) :
    Returns a (At table (stages .held .held .held .held) fun v => v = w) (close dev reader pipeline)
      fun _ s => s.table = table.unregister dev ∧
        (RolledBack s.trace ↔ TakesBack reader w ∨ pipeline.inFlight = []) ∧
        ((halted a.env reader w).dev.health = .disconnected → s.world = halted a.env reader w) ∧
        ((halted a.env reader w).dev.health ≠ .disconnected → PoweredOff s.world) := by
  refine (touch_use rfl).bind fun _ => ?_
  refine Returns.bind (Q := fun _ => At (table.unregister dev) (stages .held .held .held .held)
    fun v => v = w) (Returns.modify fun s hs =>
      ⟨congrArg (·.unregister dev) hs.table, hs.stages, hs.world⟩) fun _ => ?_
  refine (touch_use rfl).bind fun _ => (halt_returns reader pipeline w).bind fun left s h => ?_
  obtain ⟨hs, hleft⟩ := h
  rw [Act.bind_of_ok (Act.get_apply a s), hs.world, ← hleft]
  by_cases hhealth : (halted a.env reader w).dev.health = .disconnected
  · rw [if_neg (not_not.mpr hhealth)]
    refine (releaseUsb_returns.mono fun _ s h => ?_) s hs
    exact ⟨h.1, h.2.1, fun _ => h.2.2, fun hne => absurd hhealth hne⟩
  · rw [if_pos hhealth]
    refine ((tunerDormancy_returns.bind fun _ => sleep_returns.bind fun _ =>
      releaseUsb_returns).mono fun _ s h => ?_) s hs.forget
    exact ⟨h.1, h.2.1, fun heq => absurd heq hhealth, fun _ => h.2.2⟩

end Steps

/-- An R820T, on which everything succeeds. -/
def plainAttach : Attach := ⟨true, true, true, false, true, steadyEnv⟩

/-- The pipeline of a device that has one URB, in flight. -/
def oneUrb : Pipeline := ⟨some [⟨16384, true, 0, 0⟩], 1, 16384, 1, 0, 0, true⟩

end Sdrgg.Sdr
