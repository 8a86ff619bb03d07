import Sdrgg.Core.Success
import Sdrgg.ProofKit.Run
import Sdrgg.Rtl.Pages
import Sdrgg.Usb.Bulk

/-! `start_stream` on an FC0012 and its reader thread: what the two send to the device, and the
zero-IF mode of the demodulator. -/

namespace Sdrgg.Sdr

open ProofKit Usb Rtl

/-! ### The two threads -/

/-- How far a call of `ring_engine::start` has come. -/
inductive StartPc where
  | entered
  | ringReady
  | readerCreated
  | joining
  | returned (rc : Except SdrggError Unit)
deriving DecidableEq

inductive ReaderPc where
  | absent
  | created
  | allocated
  | reading
  | left
deriving DecidableEq

/-- A device, the call and the reader thread.  What the reader puts into the ring is left out. -/
structure RingStart where
  stream : StreamWorld
  start : StartPc
  reader : ReaderPc
  cancelRequested : Bool

/-- A call that begins. -/
def RingStart.entry (stream : StreamWorld) : RingStart := ⟨stream, .entered, .absent, false⟩

def RingStart.setActive (s : RingStart) (active : Bool) : RingStart :=
  { s with stream.world.dev.streamActive := active }

/-- What the threads do next, and whether what they ask of the system succeeds. -/
inductive StartStep where
  | ringInit (ok : Bool)
  | createReader (ok : Bool)
  | subscribe (ok : Bool)
  | joinReader
  | allocateBuf (ok : Bool)
  | startBulk
  | readBulk
deriving DecidableEq

def RingStart.step (env : StreamEnv) (s : RingStart) : StartStep → Option RingStart
  | .ringInit ok =>
    if s.start ≠ .entered then none
    else if s.stream.world.dev.streamActive then some { s with start := .returned (.error .busy) }
    else if ok then some { s with start := .ringReady }
    else some { s with start := .returned (.error .nomem) }
  | .createReader ok =>
    if s.start ≠ .ringReady then none
    else
      let s := { s with cancelRequested := false }
      if ok then some { s.setActive true with start := .readerCreated, reader := .created }
      else some { s.setActive false with start := .returned (.error .io) }
  | .subscribe ok =>
    if s.start ≠ .readerCreated then none
    else if ok then some { s with start := .returned (.ok ()) }
    else some { s with start := .joining, cancelRequested := true }
  | .joinReader =>
    if s.start ≠ .joining ∨ s.reader ≠ .left then none
    else some { s.setActive false with start := .returned (.error .io) }
  | .allocateBuf ok =>
    if s.reader ≠ .created ∨ s.stream.world.dev.identity.tunerClass.isFc001x = false then none
    else some { s with reader := if ok then .allocated else .left }
  | .startBulk =>
    if s.reader ≠ .allocated then none
    else
      -- the result is not looked at
      let stream := (Usb.onDevice (Act.ignore Rtl.startBulk) env s.stream).2
      some { s with stream, reader := .reading }
  | .readBulk =>
    if s.reader ≠ .reading then none
    else if s.cancelRequested then some { s with reader := .left }
    else
      let (out, stream) := bulkRead 16384 1000 env s.stream
      match out with
      | .error _ => none
      | .ok (.ok _, _) => some { s with stream }
      | .ok (.error _, _) =>
        if stream.world.dev.health = .disconnected then some { s with stream, reader := .left }
        else some { s with stream }

/-- The call has returned `SDRGG_OK` and the reader reads. -/
def RingStart.Streams (s : RingStart) : Prop :=
  s.start = .returned (.ok ()) ∧ s.reader = .reading

/-! ### The mode of the demodulator -/

/-- Dual-ADC mode with a zero IF: registers 0x08 of page 0 and 0xB1 of page 1. -/
def ZeroIf (regs : DemodPages) : Prop :=
  regs (pageIndex 0) 0x08 = 0xCD ∧ regs (pageIndex 1) 0xB1 = 0x1B

section Frames

variable {r : DemodPages}

/-- A write to a block of the bridge is none to a page. -/
theorem keepsPages_submitBlockWrite {block : UInt8} (h : block = 1 ∨ block = 2) (addr val : UInt16)
    (len : UInt8) : Keeps (pages r) (submitBlockWrite block addr val len) := by
  intro env w
  obtain ⟨u, hu, hlog⟩ := @controlWrite_run env addr ((block.toUInt16 <<< 8) ||| 0x10)
    (payload val len) w
  rw [submitBlockWrite, hu, pages, hlog]
  have hindex : (block.toUInt16 <<< 8) ||| 0x10 ≠ 0x11 ∧ ¬(block.toUInt16 <<< 8) ||| 0x10 < 0x0100 := by
    obtain rfl | rfl := h <;> decide
  rcases env.kernel w.log _ with bytes | errno
  · rw [DemodPages.after, DemodPages.apply, if_neg hindex.1, if_neg hindex.2]
    rfl
  · rfl

theorem keepsPages_startBulk : Keeps (pages r) Rtl.startBulk :=
  (keepsPages_submitBlockWrite (.inl rfl) _ _ _).bind fun _ =>
    keepsPages_submitBlockWrite (.inl rfl) _ _ _

/-- Neither thread writes a register of the demodulator. -/
theorem RingStart.step_pages {env : StreamEnv} {s t : RingStart} {a : StartStep}
    (h : s.step env a = some t) : pages r t.stream.world = pages r s.stream.world := by
  cases a with
  | ringInit ok =>
    obtain ⟨-, h⟩ := Option.ite_none_left_eq_some.mp h
    split at h
    · obtain rfl := Option.some_inj.mp h
      rfl
    · cases ok <;> obtain rfl := Option.some_inj.mp h <;> rfl
  | createReader ok | subscribe ok =>
    obtain ⟨-, h⟩ := Option.ite_none_left_eq_some.mp h
    cases ok <;> obtain rfl := Option.some_inj.mp h <;> rfl
  | joinReader | allocateBuf ok =>
    obtain rfl := Option.some_inj.mp (Option.ite_none_left_eq_some.mp h).2
    rfl
  | startBulk =>
    obtain rfl := Option.some_inj.mp (Option.ite_none_left_eq_some.mp h).2
    exact keepsPages_startBulk.ignore env.control s.stream.world
  | readBulk =>
    obtain ⟨-, h⟩ := Option.ite_none_left_eq_some.mp h
    split at h
    · obtain rfl := Option.some_inj.mp h
      rfl
    obtain ⟨rc, actual, u, es, hrun, hspec⟩ :=
      @bulkLoop_run env s.stream 16384 1000 0 UInt32.zero_le
    have hpages : pages r u.world = pages r s.stream.world := congrArg r.after hspec.control
    rw [bulkRead, hrun] at h
    cases rc with
    | ok =>
      obtain rfl := Option.some_inj.mp h
      exact hpages
    | error e =>
      dsimp only at h
      split at h <;> obtain rfl := Option.some_inj.mp h <;> exact hpages

end Frames

/-- A start leaves the registers of the demodulator as they are. -/
theorem run_pages {env : StreamEnv} {r : DemodPages} {stream : StreamWorld}
    {steps : List StartStep} {s : RingStart}
    (h : run (RingStart.step env) (.entry stream) steps = some s) :
    pages r s.stream.world = pages r stream.world :=
  run_invariant (I := fun s : RingStart => pages r s.stream.world = pages r stream.world)
    (fun _ _ _ hs hstep => (RingStart.step_pages hstep).trans hs) rfl h

/-- The steps of a start up to the first read. -/
def startSteps : List StartStep :=
  [.ringInit true, .createReader true, .allocateBuf true, .startBulk, .subscribe true]

theorem run_startSteps (env : StreamEnv) {stream : StreamWorld}
    (hfc : stream.world.dev.identity.tunerClass.isFc001x = true)
    (hidle : stream.world.dev.streamActive = false) :
    ∃ s, run (RingStart.step env) (.entry stream) startSteps = some s ∧ s.Streams := by
  simp [startSteps, RingStart.step, RingStart.entry, hidle, hfc, RingStart.setActive, RingStart.Streams]

/-- On an FC0012 or FC0013 without a stream, every start that succeeds leaves the demodulator in its
zero-IF mode exactly when it was in that mode at the call. -/
theorem start_zeroIf_iff (env : StreamEnv) (r : DemodPages) (stream : StreamWorld)
    (hfc : stream.world.dev.identity.tunerClass.isFc001x = true)
    (hidle : stream.world.dev.streamActive = false) :
    (∀ steps s, run (RingStart.step env) (.entry stream) steps = some s → s.Streams →
      ZeroIf (pages r s.stream.world)) ↔ ZeroIf (pages r stream.world) := by
  constructor
  · intro h
    obtain ⟨s, hrun, hstreams⟩ := run_startSteps env hfc hidle
    rw [← run_pages hrun]
    exact h startSteps s hrun hstreams
  · intro h steps s hrun _
    rw [run_pages hrun]
    exact h

/-- A kernel that carries out every transfer. -/
def steadyStream : StreamEnv := ⟨steadyEnv, fun _ t => .done (List.replicate t.len.toNat 0x80)⟩

/-- An opened FC0012. -/
def fc0012Stream : StreamWorld := ⟨openedFc0012, fun _ => 0, []⟩

/-- Registers with a value in 0x08 of page 0 and 0x1B elsewhere. -/
def adcPages (value : UInt8) : DemodPages :=
  Function.update (fun _ _ => 0x1B) 0x10 (Function.update (fun _ => 0x1B) 0x08 value)

theorem start_zeroIf_kept : ∃ s,
    run (RingStart.step steadyStream) (.entry fc0012Stream) startSteps = some s ∧ s.Streams ∧
      ZeroIf (pages (adcPages 0xCD) s.stream.world) := by
  obtain ⟨s, hrun, hstreams⟩ := @run_startSteps steadyStream fc0012Stream rfl rfl
  have hkept := (start_zeroIf_iff steadyStream (adcPages 0xCD) fc0012Stream rfl rfl).mpr ⟨rfl, rfl⟩
  exact ⟨s, hrun, hstreams, hkept startSteps s hrun hstreams⟩

/-- An FC0012 whose demodulator is in the mode of an R820T: the start returns `SDRGG_OK`, the reader
reads, and the mode is still that. -/
theorem start_low_if : ∃ s,
    run (RingStart.step steadyStream) (.entry fc0012Stream) startSteps = some s ∧ s.Streams ∧
      pages (adcPages 0x4D) s.stream.world (pageIndex 0) 0x08 = 0x4D ∧
      ¬ZeroIf (pages (adcPages 0x4D) s.stream.world) := by
  obtain ⟨s, hrun, hstreams⟩ := @run_startSteps steadyStream fc0012Stream rfl rfl
  have hpages : pages (adcPages 0x4D) s.stream.world = adcPages 0x4D :=
    run_pages hrun
  have hadc : adcPages 0x4D (pageIndex 0) 0x08 = 0x4D := rfl
  refine ⟨s, hrun, hstreams, (congrFun (congrFun hpages _) _).trans hadc, fun h => ?_⟩
  rw [ZeroIf, hpages, hadc] at h
  exact absurd h.1 (by decide)

/-! ### The legacy path -/

/-- What `start_stream_legacy` sends to an FC0012 or FC0013 before it starts the endpoint. -/
def demodFixup : DevM Unit := do
  let dev ← device
  if dev.identity.tunerClass.isFc001x then
    Act.ignore (demodWrite 0 0x08 0xCD)
    Act.ignore (demodWrite 1 0xB1 0x1B)

/-- The legacy path asserts the dual-ADC mode.  Its second write, to block 1, is to the bridge and
not to page 1. -/
theorem demodFixup_pages {env : Env} (h : env.Succeeds) (r : DemodPages) {w : World}
    (hfc : w.dev.identity.tunerClass.isFc001x = true) :
    ∃ w', demodFixup env w = (.ok (), w') ∧ pages r w' (pageIndex 0) 0x08 = 0xCD ∧
      pages r w' (pageIndex 1) = pages r w (pageIndex 1) := by
  obtain ⟨bytes, hkernel⟩ := h w.log (byteWrite 0 0x08 0xCD)
  obtain ⟨u, hu, -, hpages⟩ := submitDemodWrite_done (r := r) hkernel
  have hmode : demodWrite 0 0x08 0xCD env w = (.ok (), u) := hu
  obtain ⟨v, hv, -⟩ := @controlWrite_run env 0xB1 0x0110 [0x1B] u
  obtain ⟨bytes', hkernel'⟩ := h u.log (.write 0xB1 0x0110 [0x1B])
  rw [hkernel'] at hv
  have hif : demodWrite 1 0xB1 0x1B env u = (.ok (), v) := hv
  have hkept : pages r v = pages r u := (keepsPages_submitBlockWrite (.inl rfl) 0xB1 0x1B 1).world hif
  refine ⟨v, ?_, ?_, ?_⟩
  · rw [demodFixup, Act.bind_of_ok (device_apply env w), if_pos hfc]
    exact (Act.bind_of_ok (Act.bind_of_ok (Act.attempt_of_ok hmode))).trans
      (Act.bind_of_ok (Act.attempt_of_ok hif))
  · rw [hkept, hpages]
    exact apply_byteWrite_self _ (by decide)
  · rw [hkept, hpages]
    exact apply_byteWrite_ne _ (by decide)

end Sdrgg.Sdr
