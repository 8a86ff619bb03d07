import Sdrgg.Usb.Backpressure
import Sdrgg.Usb.EventLoop

/-! `ring_engine::start` on an R820T and the set-up of its reader thread, which runs until it waits
or returns before `start` goes on. -/

namespace Sdrgg.Ring

open ProofKit Usb

/-- What the set-up steps of the reader thread meet. -/
structure Setup where
  alloc : Allocation
  startBulk : Bool
  accepted : Nat → Bool
  loopStart : Bool
  addDev : Bool

/-- What `start` can create besides: the ring, the reader thread and the consumer thread. -/
structure Created where
  ring : Bool
  reader : Bool
  consumer : Bool
deriving DecidableEq, Repr

/-- A device and the event loop of its context.  `answers` is what the kernel will hand back to
`urb_cancel_all`. -/
structure Streaming where
  transfers : Transfers
  answers : List (Option Nat)
  loop : EventLoop
  active : Bool
  ring : Bool
  readerStarted : Bool
  consumer : Bool

/-- `SDRGG_STREAM_BUF_COUNT`. -/
def streamBufCount : UInt32 := 32

/-- `SDRGG_STREAM_BUF_SIZE`. -/
def streamBufSize : UInt32 := 16 * 1024

/-- `urb_cancel_all`, after which the kernel has lost what it handed back. -/
def Streaming.urbCancelAll (s : Streaming) : Streaming :=
  let c := Usb.urbCancelAll s.transfers.pipeline s.answers
  { s with
    transfers := { s.transfers with
      pipeline := c.pipeline
      kernel := s.transfers.kernel \ c.reaped.toFinset }
    answers := c.answers }

/-- `urb_free`. -/
def Streaming.urbFree (s : Streaming) : Streaming :=
  let c := (Usb.urbFree s.transfers.pipeline s.answers).1
  { s with
    transfers := { s.transfers with
      pipeline := c.pipeline
      kernel := s.transfers.kernel \ c.reaped.toFinset }
    answers := c.answers }

/-- The reader thread of device `dev` up to its wait loop, or to its return. -/
def Streaming.readerThread (s : Streaming) (dev : Nat) (e : Setup) : Streaming :=
  match s.transfers.pipeline.urbAlloc streamBufCount streamBufSize e.alloc with
  | (.error _, p) => { s with transfers := { s.transfers with pipeline := p } }
  | (.ok _, p) =>
    let s := { s with transfers := { s.transfers with pipeline := p } }
    if !e.startBulk then s.urbFree
    else
      match s.transfers.urbSubmitAll e.accepted with
      | (.error _, t) => Streaming.urbFree { s with transfers := t }
      | (.ok _, t) =>
        -- neither result is looked at
        let loop := (s.loop.eventLoopStart e.loopStart).eventLoopAddDev dev e.addDev
        { s with transfers := t, loop := loop.setReader dev .waiting }

/-- The reader thread once `cancel_requested` is set. -/
def Streaming.readerLeaves (s : Streaming) (dev : Nat) : Streaming :=
  if s.loop.reader dev = .waiting then
    let s := { s with loop := s.loop.eventLoopRemoveDev dev }
    let s := s.urbCancelAll.urbFree
    let loop := if s.loop.streamingCount = 0 then s.loop.eventLoopStop else s.loop
    { s with loop := loop.setReader dev .absent }
  else s

/-- `ring_engine::start`.  `subscribe` takes the first slot of a ring that has just been set up. -/
def Streaming.start (s : Streaming) (dev : Nat) (c : Created) (e : Setup) :
    Except SdrggError Unit × Streaming :=
  if s.active then (.error .busy, s)
  else if !c.ring then (.error .nomem, { s with ring := false })
  else
    let stream := { s.transfers with
      cancelRequested := false
      sequence := 0
      stallsCleared := 0
      reaps := []
      calls := [] }
    let s := { s with ring := true, consumer := false, active := true, transfers := stream }
    if !c.reader then (.error .io, { s with active := false, ring := false })
    else
      let s := { s.readerThread dev e with readerStarted := true }
      if c.consumer then (.ok (), { s with consumer := true })
      else
        let s := { s with transfers := { s.transfers with cancelRequested := true } }
        (.error .io, { s.readerLeaves dev with active := false, ring := false })

/-- No set-up step fails.  A loop that runs is not started again. -/
def Setup.Succeeds (e : Setup) (s : Streaming) : Prop :=
  e.alloc.succeeds streamBufCount = true ∧ e.startBulk = true ∧
    (∀ k < streamBufCount.toNat, e.accepted k = true) ∧
    (s.loop.eventRunning = true ∨ e.loopStart = true) ∧ e.addDev = true

/-- Nothing of a stream is left: it is inactive, no URB is in flight or allocated, and neither the
reader, nor a consumer, nor an event thread that did not run before is running. -/
structure Streaming.Cleared (s : Streaming) (dev : Nat) (t : Streaming) : Prop where
  inactive : t.active = false
  kernel : t.transfers.kernel = ∅
  arena : t.transfers.pipeline.arena = none
  reader : t.loop.reader dev = .absent
  consumer : t.consumer = false
  loop : t.loop.eventRunning = true → s.loop.eventRunning = true

/-- A set-up that fails is reported and leaves nothing, and only one that does not is reported as
done. -/
structure Streaming.Reports (s : Streaming) (dev : Nat) (e : Setup)
    (out : Except SdrggError Unit × Streaming) : Prop where
  failed : ¬e.Succeeds s → (∃ err, out.1 = .error err) ∧ s.Cleared dev out.2
  done : out.1 = .ok () → e.Succeeds s

/-- The ring and the threads can be created. -/
def allCreated : Created := ⟨true, true, true⟩

section Start

variable {s t : Streaming} {dev : Nat} {e : Setup}

/-- The stream as `start` hands it to the reader thread. -/
def Streaming.opened (s : Streaming) : Streaming :=
  { s with
    ring := true
    consumer := false
    active := true
    transfers := { s.transfers with
      cancelRequested := false
      sequence := 0
      stallsCleared := 0
      reaps := []
      calls := [] } }

/-- The reader thread does not touch `active`. -/
theorem Streaming.readerThread_active (s : Streaming) (dev : Nat) (e : Setup) :
    (s.readerThread dev e).active = s.active := by
  unfold readerThread
  split
  · rfl
  · dsimp only
    split
    · rfl
    · split <;> rfl

/-- `start` answers `SDRGG_OK` once the ring and the threads exist, whatever the reader meets. -/
theorem Streaming.start_ok (hs : s.active = false) :
    s.start dev allCreated e =
      (.ok (), { s.opened.readerThread dev e with readerStarted := true, consumer := true }) := by
  unfold start
  rw [hs]
  rfl

/-- What `start` does report is a ring or a thread that cannot be created; then the stream is
inactive. -/
theorem Streaming.start_error (hs : s.active = false) {c : Created} (hc : c ≠ allCreated) :
    (∃ err, (s.start dev c e).1 = .error err) ∧ (s.start dev c e).2.active = false := by
  unfold start
  rw [hs]
  obtain ⟨ring, reader, consumer⟩ := c
  cases ring with
  | false => exact ⟨⟨_, rfl⟩, rfl⟩
  | true =>
    cases reader with
    | false => exact ⟨⟨_, rfl⟩, rfl⟩
    | true =>
      cases consumer with
      | false => exact ⟨⟨_, rfl⟩, rfl⟩
      | true => exact absurd rfl hc

/-- `start` reports the set-up of its reader exactly when no step of it fails. -/
theorem start_reports (hs : s.active = false) :
    s.Reports dev e (s.start dev allCreated e) ↔ e.Succeeds s := by
  rw [Streaming.start_ok hs]
  constructor
  · intro h
    exact h.done rfl
  · intro h
    exact ⟨fun hfail => absurd h hfail, fun _ => h⟩

/-! ### What the reader thread leaves -/

/-- A device that does not stream: the kernel holds none of its URBs, and its reader thread and its
context know nothing of it. -/
structure Streaming.Idle (s : Streaming) (dev : Nat) : Prop where
  inactive : s.active = false
  kernel : s.transfers.kernel = ∅
  reader : s.loop.reader dev = .absent
  epoll : dev ∉ s.loop.epoll

/-- All URBs are allocated and in flight. -/
def Setup.Submits (e : Setup) : Prop :=
  e.alloc.succeeds streamBufCount = true ∧ e.startBulk = true ∧
    ∀ k < streamBufCount.toNat, e.accepted k = true

theorem Setup.succeeds_iff : e.Succeeds s ↔
    e.Submits ∧ (s.loop.eventRunning = true ∨ e.loopStart = true) ∧ e.addDev = true := by
  simp only [Setup.Succeeds, Setup.Submits, and_assoc]

theorem Streaming.urbFree_arena (s : Streaming) :
    s.urbFree.loop = s.loop ∧ s.urbFree.transfers.pipeline.arena = none := by
  refine ⟨rfl, ?_⟩
  unfold urbFree Usb.urbFree
  dsimp only
  split
  · rename_i hnone
    exact Option.isNone_iff_eq_none.mp hnone
  · rfl

/-- The arena that `urb_alloc` leaves when it succeeds, and whose entries can all be submitted. -/
theorem urbAlloc_ok (p : Pipeline) {alloc : Allocation}
    (h : alloc.succeeds streamBufCount = true) :
    ∃ q, p.urbAlloc streamBufCount streamBufSize alloc = (.ok (), q) ∧ q.Counted ∅ ∧
      q.arenaDepth = streamBufCount ∧ (q.arena.getD []).length = q.arenaDepth.toNat ∧
      q.completed = 0 ∧ q.dropped = 0 ∧ q.Tells ∧ q.Sound := by
  have harena : alloc ≠ .noArena := by
    rintro rfl
    cases h
  have hfresh := @Pipeline.urbAlloc_fresh p streamBufCount streamBufSize (by decide) alloc harena h
  rw [Pipeline.urbAlloc, if_neg harena, if_pos h] at hfresh
  refine ⟨_, by rw [Pipeline.urbAlloc, if_neg harena, if_pos h], ⟨?_, ?_, ?_⟩, rfl, ?_, rfl, rfl,
    hfresh⟩
  · intro a ha
    obtain rfl := Option.some_inj.mp ha
    rw [List.length_replicate]
  · intro i
    simp only [Pipeline.flagged, Option.getD_some, List.getElem?_replicate]
    split <;> simp
  · simp [Pipeline.flaggedCount, List.countP_replicate]
  · simp

theorem urbAlloc_error (p : Pipeline) {alloc : Allocation}
    (h : ¬alloc.succeeds streamBufCount = true) :
    ∃ q, p.urbAlloc streamBufCount streamBufSize alloc = (.error .nomem, q) ∧ q.arena = none := by
  by_cases harena : alloc = .noArena
  · exact ⟨_, by rw [Pipeline.urbAlloc, if_pos harena], rfl⟩
  · exact ⟨_, by rw [Pipeline.urbAlloc, if_neg harena, if_neg h], rfl⟩

/-- The reader thread goes as far as its wait loop exactly when all URBs are in flight. -/
theorem Streaming.readerThread_result (hkernel : s.transfers.kernel = ∅)
    (hsequence : s.transfers.sequence = 0) (hreaps : s.transfers.reaps = [])
    (hcalls : s.transfers.calls = []) :
    (e.Submits ∧ (s.readerThread dev e).transfers.Started ∧
        (s.readerThread dev e).transfers.Sound ∧ (s.readerThread dev e).loop =
          ((s.loop.eventLoopStart e.loopStart).eventLoopAddDev dev e.addDev).setReader dev
            .waiting) ∨
      (¬e.Submits ∧ (s.readerThread dev e).transfers.pipeline.arena = none ∧
        (s.readerThread dev e).loop = s.loop) := by
  unfold readerThread
  by_cases halloc : e.alloc.succeeds streamBufCount = true
  · obtain ⟨q, hq, hcounted, hdepth, hsize, hcompleted, hdropped, htells, hsound⟩ :=
      urbAlloc_ok s.transfers.pipeline halloc
    rw [hq]
    dsimp only
    generalize htransfers : ({ s.transfers with pipeline := q } : Transfers) = u
    by_cases hbulk : e.startBulk = true
    · rw [hbulk, Bool.not_true, if_neg Bool.false_ne_true]
      rcases hrun : u.urbSubmitAll e.accepted with ⟨out, t⟩
      have hpipeline : u.pipeline = q := by rw [← htransfers]
      have hnone : u.kernel = ∅ := by rw [← htransfers]; exact hkernel
      obtain ⟨hsubmits, htcounted, ⟨rfl, hall, htkernel⟩ | ⟨rfl, k, hk, hrefused⟩⟩ :=
        Transfers.urbSubmitAll_result (by rw [hpipeline, hnone]; exact hcounted) hnone
          (by rw [hpipeline]; exact hsize) hrun
      all_goals
        have hdepth : u.pipeline.arenaDepth = streamBufCount := by rw [hpipeline, hdepth]
      · left
        rw [hdepth] at hall
        have hstarted : t.Started := by
          apply Transfers.Started.of_counted htcounted
          · rw [htkernel, hsubmits.depth]
          · rw [hsubmits.depth, hdepth]
            decide
          · rw [hsubmits.completed, hpipeline, hcompleted]
          · rw [hsubmits.dropped, hpipeline, hdropped]
          · rw [hsubmits.sequence, ← htransfers]
            exact hsequence
          · rw [hsubmits.reaps, ← htransfers]
            exact hreaps
          · rw [hsubmits.calls, ← htransfers]
            exact hcalls
        obtain ⟨htells, hsound⟩ := Transfers.urbSubmitAll_tells (hpipeline ▸ hsound)
          (hpipeline ▸ htells) (by rw [hpipeline]; exact Nat.le_of_eq hsize.symm) hrun
        exact ⟨⟨halloc, hbulk, hall⟩, hstarted, ⟨hstarted.accounted, htells, hsound⟩, rfl⟩
      · right
        obtain ⟨hloop, harena⟩ := Streaming.urbFree_arena { s with transfers := t }
        refine ⟨fun h => ?_, harena, hloop⟩
        rw [hdepth] at hk
        rw [h.2.2 k hk] at hrefused
        cases hrefused
    · right
      rw [if_pos (by simpa using hbulk)]
      obtain ⟨hloop, harena⟩ := Streaming.urbFree_arena { s with transfers := u }
      exact ⟨fun h => hbulk h.2.1, harena, hloop⟩
  · right
    obtain ⟨q, hq, harena⟩ := urbAlloc_error s.transfers.pipeline halloc
    rw [hq]
    exact ⟨fun h => halloc h.1, harena, rfl⟩

/-- The loop serves a device exactly when it runs and the device could be added. -/
theorem serves_iff {loop : EventLoop} (hdev : dev ∉ loop.epoll) (ok added : Bool) :
    (((loop.eventLoopStart ok).eventLoopAddDev dev added).eventRunning = true ∧
        dev ∈ ((loop.eventLoopStart ok).eventLoopAddDev dev added).epoll) ↔
      (loop.eventRunning = true ∨ ok = true) ∧ added = true := by
  have hstarted : (loop.eventLoopStart ok).eventRunning = true ↔
      loop.eventRunning = true ∨ ok = true := by
    unfold EventLoop.eventLoopStart
    by_cases hrunning : loop.eventRunning = true
    · simp [hrunning]
    · cases ok <;> simp [hrunning]
  have hnew : dev ∉ (loop.eventLoopStart ok).epoll := by
    unfold EventLoop.eventLoopStart
    split
    · exact hdev
    · split
      · exact Finset.notMem_empty _
      · exact hdev
  unfold EventLoop.eventLoopAddDev
  split
  · rename_i hadded
    exact iff_of_true ⟨hadded.1, Finset.mem_insert_self _ _⟩ ⟨hstarted.mp hadded.1, hadded.2⟩
  · rename_i hnot
    exact iff_of_false (fun h => hnew h.2) fun h => hnot ⟨hstarted.mpr h.1, h.2⟩

/-- The reader of a device waits while the loop of its context runs and holds the device. -/
structure Streaming.Served (s : Streaming) (dev : Nat) : Prop where
  waiting : s.loop.reader dev = .waiting
  running : s.loop.eventRunning = true
  held : dev ∈ s.loop.epoll

/-- After `start` has answered `SDRGG_OK` on a device that does not stream, the device is served
exactly when no set-up step has failed.  Then all its URBs are in flight, and over every run of passes
the counters, the flag and the calls of the callback are right. -/
theorem start_serves (hs : s.Idle dev) (ht : s.start dev allCreated e = (.ok (), t)) :
    (t.Served dev ↔ e.Succeeds s) ∧
      (e.Succeeds s → t.transfers.Started ∧ t.transfers.pipeline.backpressure = true ∧
        ∀ passes u, run Transfers.processDeviceUrbs t.transfers passes = some u →
          u.Sound ∧ u.reaps.map Reaped.round = passes.flatten) := by
  rw [Streaming.start_ok hs.inactive] at ht
  obtain ⟨-, rfl⟩ := Prod.mk.inj ht
  obtain ⟨hsubmits, hstarted, hsound, hloop⟩ | ⟨hfailed, -, hloop⟩ :=
    @Streaming.readerThread_result s.opened dev e hs.kernel rfl rfl rfl
  · refine ⟨?_, fun _ => ⟨hstarted, ?_, fun passes u hrun => ⟨hsound.run hrun, ?_⟩⟩⟩
    · have hserves := @serves_iff dev s.loop hs.epoll e.loopStart e.addDev
      rw [Setup.succeeds_iff, ← hserves]
      constructor
      · intro h
        have hrunning := h.running
        have hheld := h.held
        dsimp only at hrunning hheld
        rw [hloop] at hrunning hheld
        exact ⟨hsubmits, hrunning, hheld⟩
      · rintro ⟨-, hrunning, hheld⟩
        refine ⟨?_, ?_, ?_⟩ <;> dsimp only <;> rw [hloop]
        · exact Function.update_self dev _ _
        · exact hrunning
        · exact hheld
    · obtain ⟨v, a, harena, hall⟩ := hstarted.arena
      refine hsound.tells.backpressure.mpr ⟨by rw [harena]; rfl, ?_⟩
      rw [Pipeline.flaggedCount, harena, Option.getD_some, List.countP_eq_length.mpr hall]
      exact hstarted.wellFormed _ harena
    · rw [Transfers.run_reaps hrun]
      exact congrArg (List.map Reaped.round · ++ passes.flatten) hstarted.reaps
  · have hnot : ¬e.Succeeds s := fun h => hfailed (Setup.succeeds_iff.mp h).1
    refine ⟨iff_of_false (fun h => ?_) hnot, fun h => absurd h hnot⟩
    have hreader := h.waiting
    dsimp only at hreader
    rw [hloop, show s.opened.loop.reader dev = .absent from hs.reader] at hreader
    cases hreader

end Start

/-- A device that does not stream, on a context whose loop does not run. -/
def idleStream : Streaming where
  transfers := ⟨⟨none, 0, 0, 0, 0, 0, false⟩, ∅, false, 0, 0, [], []⟩
  answers := []
  loop := loopInit
  active := false
  ring := false
  readerStarted := false
  consumer := false

theorem idleStream_idle : idleStream.Idle 0 where
  inactive := rfl
  kernel := rfl
  reader := rfl
  epoll := Finset.notMem_empty 0

/-- A stream whose set-up succeeds, over two passes in which an URB is lost to a stall. -/
theorem start_serves_stalled : ∃ t u,
    idleStream.start 0 allCreated ⟨.complete, true, fun _ => true, true, true⟩ = (.ok (), t) ∧
    run Transfers.processDeviceUrbs t.transfers [[fullRound], [fullRound, stalledRound]] = some u ∧
    u.calls.length = 2 ∧ t.Served 0 ∧ u.Sound := by
  let e : Setup := ⟨.complete, true, fun _ => true, true, true⟩
  have hsucceeds : e.Succeeds idleStream := ⟨by decide, rfl, fun _ _ => rfl, .inr rfl, rfl⟩
  have hrun : ((run Transfers.processDeviceUrbs (idleStream.start 0 allCreated e).2.transfers
      [[fullRound], [fullRound, stalledRound]]).map fun u => u.calls.length) = some 2 := by
    decide +kernel
  obtain ⟨t, ht⟩ : ∃ t, idleStream.start 0 allCreated e = (.ok (), t) :=
    ⟨_, Streaming.start_ok rfl⟩
  rw [ht] at hrun
  obtain ⟨u, hu, hcalls⟩ := Option.map_eq_some_iff.mp hrun
  obtain ⟨hserved, hruns⟩ := start_serves idleStream_idle ht
  obtain ⟨-, -, hruns⟩ := hruns hsucceeds
  exact ⟨t, u, ht, hu, hcalls, hserved.mpr hsucceeds, (hruns _ u hu).1⟩

/-- `start` answers `SDRGG_OK` and leaves the stream active, although the set-up has failed. -/
def Unreported (s : Streaming) (dev : Nat) (e : Setup) : Prop :=
  ¬e.Succeeds s ∧ (s.start dev allCreated e).1 = .ok () ∧
    (s.start dev allCreated e).2.active = true

theorem Unreported.of_failed {s : Streaming} {dev : Nat} {e : Setup} (hs : s.active = false)
    (h : ¬e.Succeeds s) : Unreported s dev e := by
  refine ⟨h, ?_⟩
  rw [Streaming.start_ok hs]
  exact ⟨rfl, Streaming.readerThread_active _ _ _⟩

/-- Each set-up step fails once: the arena, the bulk endpoint, an URB, the loop and the addition. -/
theorem setup_unreported :
    Unreported idleStream 0 ⟨.noArena, true, fun _ => true, true, true⟩ ∧
      Unreported idleStream 0 ⟨.complete, false, fun _ => true, true, true⟩ ∧
      Unreported idleStream 0 ⟨.complete, true, fun k => k != 3, true, true⟩ ∧
      Unreported idleStream 0 ⟨.complete, true, fun _ => true, false, true⟩ ∧
      Unreported idleStream 0 ⟨.complete, true, fun _ => true, true, false⟩ := by
  refine ⟨.of_failed rfl ?_, .of_failed rfl ?_, .of_failed rfl ?_, .of_failed rfl ?_,
    .of_failed rfl ?_⟩
  · rintro ⟨halloc, -⟩
    revert halloc
    decide
  · rintro ⟨-, hbulk, -⟩
    cases hbulk
  · rintro ⟨-, -, haccepted, -⟩
    have hrefused := haccepted 3 (by decide)
    cases hrefused
  · rintro ⟨-, -, -, hloop, -⟩
    revert hloop
    decide
  · rintro ⟨-, -, -, -, hadd⟩
    cases hadd

theorem start_reports_noArena : ¬idleStream.Reports 0 ⟨.noArena, true, fun _ => true, true, true⟩
    (idleStream.start 0 allCreated ⟨.noArena, true, fun _ => true, true, true⟩) := by
  intro h
  have hsucceeds := (start_reports (s := idleStream) rfl).mp h
  exact absurd hsucceeds.1 (by decide)

end Sdrgg.Ring
