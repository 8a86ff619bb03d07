import Sdrgg.ProofKit.Run
import Sdrgg.Usb.Control
import Sdrgg.Usb.Urb
import Mathlib.Algebra.Group.Nat.Defs
import Mathlib.Data.Finset.Erase
import Mathlib.Data.Finset.Range
import Mathlib.Data.Finset.Lattice.Lemmas

/-! The submission of the URBs of a device and the passes of `process_device_urbs` over them.  The
kernel hands back whichever of the URBs it holds, with any status and length, and another thread may
request to cancel at any time. -/

namespace Sdrgg.Usb

open ProofKit

/-! ### Allocation, submission and reaping -/

/-- The fields that `urb_submit` resets. -/
def Urb.reset (u : Urb) : Urb := { u with actualLength := 0, status := 0 }

/-- The URB once the kernel has accepted it. -/
def Urb.taken (u : Urb) : Urb := { u with submitted := true }

/-- The URB once the kernel has handed it back. -/
def Urb.returned (status actualLength : Int32) (u : Urb) : Urb :=
  { u with submitted := false, status, actualLength }

/-- `arena[i]` written with `f`. -/
def Pipeline.setUrb (p : Pipeline) (i : Nat) (f : Urb → Urb) : Pipeline :=
  { p with arena := p.arena.map fun a => a.modify i f }

/-- The number of entries flagged submitted. -/
def Pipeline.flaggedCount (p : Pipeline) : Nat := (p.arena.getD []).countP Urb.submitted

/-- Which allocation of `urb_alloc` fails, if one does: the arena, or the URB or the buffer of an
entry. -/
inductive Allocation where
  | complete
  | noArena
  | noUrb (index : Nat)
  | noBuffer (index : Nat)
deriving DecidableEq, Repr

/-- Whether all of the allocations for `count` entries succeed. -/
def Allocation.succeeds (alloc : Allocation) (count : UInt32) : Bool :=
  match alloc with
  | .complete => true
  | .noArena => false
  | .noUrb index => decide (count.toNat ≤ index)
  | .noBuffer index => decide (count.toNat ≤ index)

/-- `urb_alloc`.  It returns with nothing allocated when it fails, and has written the other fields
unless there is no arena. -/
def Pipeline.urbAlloc (p : Pipeline) (count bufSize : UInt32) (alloc : Allocation) :
    Except SdrggError Unit × Pipeline :=
  if alloc = .noArena then (.error .nomem, { p with arena := none })
  else
    let p : Pipeline :=
      { arena := some (List.replicate count.toNat ⟨bufSize, false, 0, 0⟩)
        arenaDepth := count
        segmentSize := bufSize
        submitted := 0
        completed := 0
        dropped := 0
        backpressure := false }
    if alloc.succeeds count then (.ok (), p) else (.error .nomem, { p with arena := none })

/-- `urb_submit`, where `accepted` is the answer of `USBDEVFS_SUBMITURB`. -/
def Pipeline.urbSubmit (p : Pipeline) (i : Nat) (accepted : Bool) :
    Except SdrggError Unit × Pipeline :=
  if p.flagged i then (.error .busy, p)
  else
    let p := p.setUrb i Urb.reset
    if accepted then
      let p := p.setUrb i Urb.taken
      let p := { p with submitted := p.submitted + 1 }
      (.ok (), { p with backpressure := decide (p.submitted ≥ p.arenaDepth) })
    else (.error .io, p)

/-- `status == 0 && actual_length > 0`. -/
def succeeded (status actualLength : Int32) : Bool := status = 0 ∧ actualLength > 0

/-- `urb_reap`, when `USBDEVFS_REAPURBNDELAY` hands back entry `i`. -/
def Pipeline.urbReap (p : Pipeline) (i : Nat) (status actualLength : Int32) : Pipeline :=
  let p := p.setUrb i (Urb.returned status actualLength)
  let p := { p with submitted := if p.submitted > 0 then p.submitted - 1 else p.submitted }
  let p := { p with backpressure := false }
  if succeeded status actualLength then { p with completed := p.completed + 1 }
  else { p with dropped := p.dropped + 1 }

/-! ### A pass -/

/-- What the kernel and the other threads do in one round of the loop of `process_device_urbs`:
the URB that is reaped, a request to cancel before each of the two tests, and the answer to the
resubmission. -/
structure Round where
  index : Nat
  status : Int32
  actualLength : Int32
  timestampUs : UInt64
  cancelEarly : Bool
  cancelLate : Bool
  accepted : Bool
deriving DecidableEq, Repr

def Round.succeeded (r : Round) : Bool := Usb.succeeded r.status r.actualLength

/-- `sdrgg_buffer_t`, whose data are those of the arena entry `index`. -/
structure BufferDesc where
  index : Nat
  length : UInt32
  timestampUs : UInt64
  sequence : UInt32
deriving DecidableEq, Repr

/-- A reap, and whether `cancel_requested` was still clear at the test after it. -/
structure Reaped where
  round : Round
  live : Bool
deriving DecidableEq, Repr

/-- The URBs of a streaming device: its pipeline, the URBs that the kernel holds, and its stream,
with the stalls cleared, the reaps and the calls of the callback so far. -/
structure Transfers where
  pipeline : Pipeline
  kernel : Finset Nat
  cancelRequested : Bool
  sequence : UInt32
  stallsCleared : Nat
  reaps : List Reaped
  calls : List BufferDesc

/-- `urb_submit`. -/
def Transfers.urbSubmit (s : Transfers) (i : Nat) (accepted : Bool) :
    Except SdrggError Unit × Transfers :=
  match s.pipeline.urbSubmit i accepted with
  | (.ok _, p) => (.ok (), { s with pipeline := p, kernel := insert i s.kernel })
  | (.error e, p) => (.error e, { s with pipeline := p })

/-- The loop of `urb_submit_all` over the entries `is`, where `accepted` are the answers of
`USBDEVFS_SUBMITURB`. -/
def Transfers.submitFrom (accepted : Nat → Bool) :
    List Nat → Transfers → Except SdrggError Unit × Transfers
  | [], s => (.ok (), s)
  | i :: is, s =>
    match s.urbSubmit i (accepted i) with
    | (.ok _, s) => submitFrom accepted is s
    | (.error e, s) => (.error e, s)

/-- `urb_submit_all`. -/
def Transfers.urbSubmitAll (s : Transfers) (accepted : Nat → Bool) :
    Except SdrggError Unit × Transfers :=
  Transfers.submitFrom accepted s.pipeline.indices s

/-- `urb_reap`.  The kernel hands back a URB that it holds. -/
def Transfers.reap (s : Transfers) (r : Round) : Option Transfers :=
  if r.index ∈ s.kernel then
    some { s with
      pipeline := s.pipeline.urbReap r.index r.status r.actualLength
      kernel := s.kernel.erase r.index }
  else none

/-- Another thread sets `cancel_requested`, or does not. -/
def Transfers.request (s : Transfers) (cancel : Bool) : Transfers :=
  { s with cancelRequested := s.cancelRequested || cancel }

/-- The buffer goes to the callback, or the endpoint is revived. -/
def Transfers.deliver (s : Transfers) (r : Round) : Transfers :=
  if r.succeeded then
    { s with
      sequence := s.sequence + 1
      calls := s.calls ++ [⟨r.index, r.actualLength.toUInt32, r.timestampUs, s.sequence⟩] }
  else if r.status = -32 then { s with stallsCleared := s.stallsCleared + 1 }
  else s

/-- The resubmission.  When it fails and no URB is left in flight, the stream is cancelled. -/
def Transfers.resubmit (s : Transfers) (r : Round) : Transfers :=
  if s.cancelRequested then s
  else match s.urbSubmit r.index r.accepted with
    | (.ok _, s) => s
    | (.error _, s) => { s with cancelRequested := decide (s.pipeline.submitted = 0) }

/-- The reap is noted, as the first test finds it. -/
def Transfers.note (s : Transfers) (r : Round) : Transfers :=
  let s := s.request r.cancelEarly
  { s with reaps := s.reaps ++ [⟨r, !s.cancelRequested⟩] }

/-- What the loop does with a URB that it has reaped. -/
def Transfers.handle (s : Transfers) (r : Round) : Transfers :=
  let s := s.note r
  if s.cancelRequested then s
  else ((s.deliver r).request r.cancelLate).resubmit r

/-- One round of the loop. -/
def Transfers.round (s : Transfers) (r : Round) : Option Transfers :=
  (s.reap r).map fun s => s.handle r

/-- `process_device_urbs`, which reaps until the kernel has nothing more to hand back. -/
def Transfers.processDeviceUrbs (s : Transfers) (rounds : List Round) : Option Transfers :=
  run Transfers.round s rounds

/-- A stream whose URBs have all been submitted, before the first pass. -/
structure Transfers.Started (s : Transfers) : Prop where
  wellFormed : s.pipeline.WellFormed
  arena : ∃ u a, s.pipeline.arena = some (u :: a) ∧ ∀ v ∈ u :: a, v.submitted = true
  kernel : s.kernel = Finset.range s.pipeline.arenaDepth.toNat
  submitted : s.pipeline.submitted = s.pipeline.arenaDepth
  completed : s.pipeline.completed = 0
  dropped : s.pipeline.dropped = 0
  sequence : s.sequence = 0
  reaps : s.reaps = []
  calls : s.calls = []

/-- A reap that finds a buffer and no request to cancel. -/
def Reaped.delivered (x : Reaped) : Bool := x.live && x.round.succeeded

/-- The buffer of a reap, as the `k`-th to be delivered. -/
def Reaped.desc (x : Reaped) (k : Nat) : BufferDesc :=
  ⟨x.round.index, x.round.actualLength.toUInt32, x.round.timestampUs, UInt32.ofNat k⟩

/-- The calls of the callback that the reaps ask for. -/
def expectedCalls (reaps : List Reaped) : List BufferDesc :=
  (reaps.filter Reaped.delivered).zipIdx.map fun x => x.1.desc x.2

/-! ### The flags and their number -/

theorem countP_modify {α : Type*} (q : α → Bool) (f : α → α) {l : List α} {i : Nat} {a : α}
    (h : l[i]? = some a) :
    (l.modify i f).countP q + (q a).toNat = l.countP q + (q (f a)).toNat := by
  induction l generalizing i with
  | nil => simp at h
  | cons b l ih =>
    cases i with
    | zero =>
      obtain rfl : b = a := by simpa using h
      simp only [List.modify_zero_cons, List.countP_cons]
      cases q b <;> cases q (f b) <;> simp
    | succ i =>
      have hrest := ih (i := i) (by simpa using h)
      simp only [List.modify_succ_cons, List.countP_cons]
      omega

section Flags

variable {p : Pipeline} {i : Nat} {f : Urb → Urb}

theorem Pipeline.flagged_eq_true :
    p.flagged i = true ↔ ∃ u, (p.arena.getD [])[i]? = some u ∧ u.submitted = true := by
  simp only [flagged]
  cases (p.arena.getD [])[i]? <;> simp

theorem Pipeline.getD_setUrb : (p.setUrb i f).arena.getD [] = (p.arena.getD []).modify i f := by
  unfold setUrb
  cases p.arena <;> simp

theorem Pipeline.flaggedCount_setUrb {u : Urb} (h : (p.arena.getD [])[i]? = some u) :
    (p.setUrb i f).flaggedCount + u.submitted.toNat =
      p.flaggedCount + (f u).submitted.toNat := by
  simp only [flaggedCount, getD_setUrb]
  exact countP_modify _ _ h

theorem Pipeline.flagged_setUrb_ne {j : Nat} (h : i ≠ j) :
    (p.setUrb i f).flagged j = p.flagged j := by
  simp only [flagged, getD_setUrb, List.getElem?_modify, if_neg h]
  simp

theorem Pipeline.flagged_setUrb_self {u : Urb} (h : (p.arena.getD [])[i]? = some u) :
    (p.setUrb i f).flagged i = (f u).submitted := by
  simp [flagged, getD_setUrb, h]

theorem Pipeline.getElem?_setUrb_self {u : Urb} (h : (p.arena.getD [])[i]? = some u) :
    ((p.setUrb i f).arena.getD [])[i]? = some (f u) := by
  simp [getD_setUrb, h]

theorem Pipeline.WellFormed.setUrb (h : p.WellFormed) : (p.setUrb i f).WellFormed := by
  intro a ha
  obtain ⟨b, hb, rfl⟩ := Option.map_eq_some_iff.mp ha
  rw [List.length_modify]
  exact h b hb

/-- An arena has at most as many entries flagged as it has entries. -/
theorem Pipeline.WellFormed.flaggedCount_le (h : p.WellFormed) :
    p.flaggedCount ≤ p.arenaDepth.toNat := by
  unfold flaggedCount
  cases ha : p.arena with
  | none => simp
  | some a =>
    rw [← h a ha]
    exact List.countP_le_length

/-- A URB that the kernel takes is flagged. -/
theorem Pipeline.flaggedCount_taken {u : Urb} (hu : (p.arena.getD [])[i]? = some u)
    (hidle : u.submitted = false) :
    ((p.setUrb i Urb.reset).setUrb i Urb.taken).flaggedCount = p.flaggedCount + 1 := by
  have hreset := flaggedCount_setUrb (f := Urb.reset) hu
  have htaken := flaggedCount_setUrb (f := Urb.taken) (getElem?_setUrb_self (f := Urb.reset) hu)
  simp only [Urb.reset, Urb.taken, hidle, Bool.toNat_false, Bool.toNat_true] at hreset htaken
  omega

/-- The arena has an entry that is not flagged, so that the counter does not wrap. -/
theorem Pipeline.WellFormed.submitted_taken (hp : p.WellFormed)
    (hcount : p.submitted.toNat = p.flaggedCount) {u : Urb}
    (hu : (p.arena.getD [])[i]? = some u) (hidle : u.submitted = false) :
    (p.submitted + 1).toNat =
      ((p.setUrb i Urb.reset).setUrb i Urb.taken).flaggedCount := by
  have htaken := flaggedCount_taken hu hidle
  have hwell : ((p.setUrb i Urb.reset).setUrb i Urb.taken).WellFormed := hp.setUrb.setUrb
  have hle : p.flaggedCount + 1 ≤ p.arenaDepth.toNat := htaken ▸ hwell.flaggedCount_le
  have hlt := p.arenaDepth.toNat_lt
  rw [UInt32.toNat_add, hcount, htaken, UInt32.toNat_one]
  omega

/-- A reap takes one off the counter, but not off zero. -/
theorem Pipeline.urbReap_submitted (p : Pipeline) (i : Nat) (status actualLength : Int32) :
    (p.urbReap i status actualLength).submitted.toNat = p.submitted.toNat - 1 := by
  have hreap : (p.urbReap i status actualLength).submitted =
      if p.submitted > 0 then p.submitted - 1 else p.submitted := by
    unfold urbReap
    split <;> rfl
  rw [hreap]
  split
  · rename_i hpos
    have hle : (1 : UInt32) ≤ p.submitted := by
      rw [UInt32.le_iff_toNat_le]
      exact UInt32.lt_iff_toNat_lt.mp hpos
    rw [UInt32.toNat_sub_of_le _ _ hle, UInt32.toNat_one]
  · rename_i hzero
    rw [gt_iff_lt, UInt32.lt_iff_toNat_lt, UInt32.toNat_zero] at hzero
    omega

theorem Pipeline.urbReap_arena (p : Pipeline) (i : Nat) (status actualLength : Int32) :
    (p.urbReap i status actualLength).arena =
      (p.setUrb i (Urb.returned status actualLength)).arena := by
  unfold urbReap
  split <;> rfl

theorem Pipeline.urbReap_arenaDepth (p : Pipeline) (i : Nat) (status actualLength : Int32) :
    (p.urbReap i status actualLength).arenaDepth = p.arenaDepth := by
  unfold urbReap
  split <;> rfl

end Flags

/-- The kernel holds the entries flagged submitted, and `submitted` is their number. -/
structure Pipeline.Counted (p : Pipeline) (kernel : Finset Nat) : Prop where
  wellFormed : p.WellFormed
  flags : ∀ i, i ∈ kernel ↔ p.flagged i = true
  count : p.submitted.toNat = p.flaggedCount

section Counting

variable {p : Pipeline} {kernel : Finset Nat} {i : Nat}

/-- An entry that the kernel holds is one of the arena. -/
theorem Pipeline.Counted.entry (h : p.Counted kernel) (hi : i ∈ kernel) :
    ∃ u, (p.arena.getD [])[i]? = some u ∧ u.submitted = true :=
  Pipeline.flagged_eq_true.mp ((h.flags i).mp hi)

/-- Only the arena and `submitted` matter to the counts. -/
theorem Pipeline.Counted.of_arena {q : Pipeline} (harena : q.arena = p.arena)
    (hdepth : q.arenaDepth = p.arenaDepth) (hp : p.WellFormed)
    (hflags : ∀ j, j ∈ kernel ↔ p.flagged j = true) (hcount : q.submitted.toNat = p.flaggedCount) :
    q.Counted kernel := by
  refine ⟨fun a ha => ?_, fun j => ?_, ?_⟩
  · rw [hdepth]
    exact hp a (harena ▸ ha)
  · rw [hflags, Pipeline.flagged, Pipeline.flagged, harena]
  · rw [hcount, Pipeline.flaggedCount, Pipeline.flaggedCount, harena]

/-- While the kernel holds a URB, `submitted` is not zero. -/
theorem Pipeline.Counted.pos (h : p.Counted kernel) (hi : i ∈ kernel) : 0 < p.submitted := by
  obtain ⟨u, hu, hsubmitted⟩ := h.entry hi
  have hcount : 0 < p.flaggedCount :=
    List.countP_pos_iff.mpr ⟨u, List.mem_of_getElem? hu, hsubmitted⟩
  rw [UInt32.lt_iff_toNat_lt, h.count]
  exact hcount

/-- A reap takes one entry out of the kernel. -/
theorem Pipeline.Counted.urbReap (h : p.Counted kernel) (hi : i ∈ kernel)
    (status actualLength : Int32) :
    (p.urbReap i status actualLength).Counted (kernel.erase i) := by
  obtain ⟨u, hu, hsubmitted⟩ := h.entry hi
  have hcount : (p.setUrb i (Urb.returned status actualLength)).flaggedCount + 1 =
      p.flaggedCount := by
    have hsum := Pipeline.flaggedCount_setUrb (f := Urb.returned status actualLength) hu
    rwa [hsubmitted] at hsum
  have hflags (j : Nat) : j ∈ kernel.erase i ↔
      (p.setUrb i (Urb.returned status actualLength)).flagged j = true := by
    rw [Finset.mem_erase]
    by_cases hij : j = i
    · subst hij
      simp [Pipeline.flagged_setUrb_self hu, Urb.returned]
    · rw [Pipeline.flagged_setUrb_ne (Ne.symm hij), ← h.flags]
      simp [hij]
  have hless : (p.urbReap i status actualLength).submitted.toNat =
      (p.setUrb i (Urb.returned status actualLength)).flaggedCount := by
    rw [Pipeline.urbReap_submitted, h.count]
    omega
  exact Pipeline.Counted.of_arena (p := p.setUrb i (Urb.returned status actualLength))
    (p.urbReap_arena i status actualLength) (p.urbReap_arenaDepth i status actualLength)
    h.wellFormed.setUrb hflags hless

section Submitting

variable (h : p.Counted kernel) (hi : i ∉ kernel) {u : Urb}
  (hu : (p.arena.getD [])[i]? = some u)

include h hi

theorem Pipeline.Counted.not_flagged : p.flagged i = false := by
  rw [h.flags] at hi
  simpa using hi

include hu

/-- A URB that the kernel takes is counted. -/
theorem Pipeline.Counted.urbSubmit_accepted :
    ∃ q, p.urbSubmit i true = (.ok (), q) ∧ q.Counted (insert i kernel) := by
  have hflag := h.not_flagged hi
  have hidle : u.submitted = false := by
    simpa [Pipeline.flagged, hu] using hflag
  have hreset := Pipeline.getElem?_setUrb_self (f := Urb.reset) hu
  have hflags (j : Nat) :
      j ∈ insert i kernel ↔ ((p.setUrb i Urb.reset).setUrb i Urb.taken).flagged j = true := by
    rw [Finset.mem_insert]
    by_cases hij : j = i
    · subst hij
      simp [Pipeline.flagged_setUrb_self hreset, Urb.taken]
    · rw [Pipeline.flagged_setUrb_ne (Ne.symm hij), Pipeline.flagged_setUrb_ne (Ne.symm hij),
        ← h.flags]
      simp [hij]
  refine ⟨_, by rw [Pipeline.urbSubmit, hflag]; rfl, ?_⟩
  exact Pipeline.Counted.of_arena (p := (p.setUrb i Urb.reset).setUrb i Urb.taken) rfl rfl
    h.wellFormed.setUrb.setUrb hflags (h.wellFormed.submitted_taken h.count hu hidle)

/-- A URB that the kernel refuses changes no count. -/
theorem Pipeline.Counted.urbSubmit_refused :
    ∃ q, p.urbSubmit i false = (.error .io, q) ∧ q.Counted kernel ∧ q.submitted = p.submitted := by
  have hflag := h.not_flagged hi
  have hcount : (p.setUrb i Urb.reset).flaggedCount = p.flaggedCount :=
    Nat.add_right_cancel (Pipeline.flaggedCount_setUrb (f := Urb.reset) hu)
  have hflags (j : Nat) : j ∈ kernel ↔ (p.setUrb i Urb.reset).flagged j = true := by
    rw [h.flags]
    by_cases hij : j = i
    · subst hij
      rw [Pipeline.flagged_setUrb_self hu, Pipeline.flagged, hu]
      rfl
    · rw [Pipeline.flagged_setUrb_ne (Ne.symm hij)]
  refine ⟨p.setUrb i Urb.reset, by simp [Pipeline.urbSubmit, hflag], ?_, rfl⟩
  exact Pipeline.Counted.of_arena rfl rfl h.wellFormed.setUrb hflags (h.count.trans hcount.symm)

end Submitting

end Counting

/-! ### One round -/

section Rounds

variable {s t : Transfers} {r : Round} {x : Reaped}

theorem Transfers.reap_eq_some {u : Transfers} : s.reap r = some u ↔ r.index ∈ s.kernel ∧
    u = { s with
      pipeline := s.pipeline.urbReap r.index r.status r.actualLength
      kernel := s.kernel.erase r.index } := by
  unfold reap
  split <;> simp_all [eq_comm]

theorem Pipeline.urbSubmit_frame (p : Pipeline) (i : Nat) (accepted : Bool) :
    (p.urbSubmit i accepted).2.completed = p.completed ∧
      (p.urbSubmit i accepted).2.dropped = p.dropped ∧
      (p.urbSubmit i accepted).2.arenaDepth = p.arenaDepth ∧
      ((p.urbSubmit i accepted).2.arena.getD []).length = (p.arena.getD []).length := by
  unfold urbSubmit
  split
  · exact ⟨rfl, rfl, rfl, rfl⟩
  · dsimp only
    split
    · refine ⟨rfl, rfl, rfl, ?_⟩
      exact (congrArg List.length Pipeline.getD_setUrb).trans <| List.length_modify _ _ _ |>.trans <|
        (congrArg List.length Pipeline.getD_setUrb).trans (List.length_modify _ _ _)
    · exact ⟨rfl, rfl, rfl,
        (congrArg List.length Pipeline.getD_setUrb).trans (List.length_modify _ _ _)⟩

/-- A submission changes the pipeline and what the kernel holds, and nothing else. -/
structure Transfers.Submits (s t : Transfers) : Prop where
  completed : t.pipeline.completed = s.pipeline.completed
  dropped : t.pipeline.dropped = s.pipeline.dropped
  depth : t.pipeline.arenaDepth = s.pipeline.arenaDepth
  size : (t.pipeline.arena.getD []).length = (s.pipeline.arena.getD []).length
  cancelRequested : t.cancelRequested = s.cancelRequested
  sequence : t.sequence = s.sequence
  reaps : t.reaps = s.reaps
  calls : t.calls = s.calls

theorem Transfers.Submits.refl (s : Transfers) : s.Submits s :=
  ⟨rfl, rfl, rfl, rfl, rfl, rfl, rfl, rfl⟩

theorem Transfers.Submits.trans {u : Transfers} (h : s.Submits t) (h' : t.Submits u) :
    s.Submits u where
  completed := h'.completed.trans h.completed
  dropped := h'.dropped.trans h.dropped
  depth := h'.depth.trans h.depth
  size := h'.size.trans h.size
  cancelRequested := h'.cancelRequested.trans h.cancelRequested
  sequence := h'.sequence.trans h.sequence
  reaps := h'.reaps.trans h.reaps
  calls := h'.calls.trans h.calls

theorem Transfers.submits_urbSubmit (s : Transfers) (i : Nat) (accepted : Bool) :
    s.Submits (s.urbSubmit i accepted).2 := by
  obtain ⟨hcompleted, hdropped, hdepth, hsize⟩ := s.pipeline.urbSubmit_frame i accepted
  unfold urbSubmit
  split <;> rename_i p heq <;> rw [heq] at hcompleted hdropped hdepth hsize <;>
    exact ⟨hcompleted, hdropped, hdepth, hsize, rfl, rfl, rfl, rfl⟩

/-- A resubmission changes neither the counters nor what the callback has seen. -/
theorem Transfers.resubmit_frame (s : Transfers) (r : Round) :
    (s.resubmit r).reaps = s.reaps ∧ (s.resubmit r).calls = s.calls ∧
      (s.resubmit r).sequence = s.sequence ∧
      (s.resubmit r).pipeline.completed = s.pipeline.completed ∧
      (s.resubmit r).pipeline.dropped = s.pipeline.dropped := by
  have hsubmits := s.submits_urbSubmit r.index r.accepted
  unfold resubmit
  split
  · exact ⟨rfl, rfl, rfl, rfl, rfl⟩
  · split <;> rename_i t heq <;> rw [heq] at hsubmits <;>
      exact ⟨hsubmits.reaps, hsubmits.calls, hsubmits.sequence, hsubmits.completed,
        hsubmits.dropped⟩

theorem Pipeline.urbReap_counters (p : Pipeline) (i : Nat) (status actualLength : Int32) :
    (p.urbReap i status actualLength).completed =
        (if succeeded status actualLength then p.completed + 1 else p.completed) ∧
      (p.urbReap i status actualLength).dropped =
        if succeeded status actualLength then p.dropped else p.dropped + 1 := by
  unfold urbReap
  split <;> exact ⟨rfl, rfl⟩

theorem Transfers.deliver_pipeline (s : Transfers) (r : Round) :
    (s.deliver r).pipeline = s.pipeline ∧ (s.deliver r).kernel = s.kernel ∧
      (s.deliver r).reaps = s.reaps ∧ (s.deliver r).cancelRequested = s.cancelRequested := by
  unfold deliver
  split
  · exact ⟨rfl, rfl, rfl, rfl⟩
  · split <;> exact ⟨rfl, rfl, rfl, rfl⟩

theorem Transfers.deliver_calls (s : Transfers) (r : Round) :
    (s.deliver r).sequence = (if r.succeeded then s.sequence + 1 else s.sequence) ∧
      (s.deliver r).calls = if r.succeeded then
        s.calls ++ [⟨r.index, r.actualLength.toUInt32, r.timestampUs, s.sequence⟩] else s.calls := by
  unfold deliver
  split
  · exact ⟨rfl, rfl⟩
  · split <;> exact ⟨rfl, rfl⟩

/-- The reap that `handle` notes. -/
def Transfers.reaped (s : Transfers) (r : Round) : Reaped :=
  ⟨r, !(s.cancelRequested || r.cancelEarly)⟩

theorem Transfers.handle_frame (s : Transfers) (r : Round) :
    (s.handle r).reaps = s.reaps ++ [s.reaped r] ∧
      (s.handle r).pipeline.completed = s.pipeline.completed ∧
      (s.handle r).pipeline.dropped = s.pipeline.dropped := by
  obtain ⟨hreaps, -, -, hcompleted, hdropped⟩ :=
    (((s.note r).deliver r).request r.cancelLate).resubmit_frame r
  obtain ⟨hpipeline, -, hsame, -⟩ := (s.note r).deliver_pipeline r
  unfold handle
  dsimp only
  split
  · exact ⟨rfl, rfl, rfl⟩
  · refine ⟨hreaps.trans hsame, hcompleted.trans ?_, hdropped.trans ?_⟩
    · exact congrArg Pipeline.completed hpipeline
    · exact congrArg Pipeline.dropped hpipeline

theorem Transfers.handle_calls (s : Transfers) (r : Round) :
    (s.handle r).sequence =
        (if (s.reaped r).delivered then s.sequence + 1 else s.sequence) ∧
      (s.handle r).calls = if (s.reaped r).delivered then
        s.calls ++ [⟨r.index, r.actualLength.toUInt32, r.timestampUs, s.sequence⟩] else s.calls := by
  obtain ⟨-, hcalls, hsequence, -, -⟩ :=
    (((s.note r).deliver r).request r.cancelLate).resubmit_frame r
  obtain ⟨hsequence', hcalls'⟩ := (s.note r).deliver_calls r
  unfold handle
  dsimp only
  split
  · rename_i hcancel
    have hidle : (s.reaped r).delivered = false := by
      have hcancel : (s.cancelRequested || r.cancelEarly) = true := hcancel
      simp [Reaped.delivered, Transfers.reaped, hcancel]
    rw [hidle]
    exact ⟨rfl, rfl⟩
  · rename_i hlive
    have hdelivered : (s.reaped r).delivered = r.succeeded := by
      have hlive : ¬(s.cancelRequested || r.cancelEarly) = true := hlive
      simp only [Bool.not_eq_true] at hlive
      simp [Reaped.delivered, Transfers.reaped, hlive]
    rw [hdelivered]
    exact ⟨hsequence.trans hsequence', hcalls.trans hcalls'⟩

theorem Transfers.handle_cancel (s : Transfers) (r : Round)
    (h : (s.handle r).cancelRequested = false) : (s.reaped r).live = true := by
  unfold handle at h
  dsimp only at h
  split at h
  · rename_i hcancel
    exact absurd (hcancel.symm.trans h) (by decide)
  · rename_i hlive
    have hlive : ¬(s.cancelRequested || r.cancelEarly) = true := hlive
    simpa [Transfers.reaped] using hlive

/-! ### The counters and the calls over a run -/

/-- The counters and the calls of the callback are those of the reaps so far. -/
structure Transfers.Logged (s : Transfers) : Prop where
  completed : s.pipeline.completed = UInt32.ofNat (s.reaps.countP fun x => x.round.succeeded)
  dropped : s.pipeline.dropped = UInt32.ofNat (s.reaps.countP fun x => !x.round.succeeded)
  sequence : s.sequence = UInt32.ofNat (s.reaps.countP Reaped.delivered)
  calls : s.calls = expectedCalls s.reaps
  live : s.cancelRequested = false → ∀ x ∈ s.reaps, x.live = true
  ordered : s.reaps.Pairwise fun x y => y.live = true → x.live = true

theorem expectedCalls_append (reaps : List Reaped) (x : Reaped) :
    expectedCalls (reaps ++ [x]) =
      if x.delivered then expectedCalls reaps ++ [x.desc (reaps.countP Reaped.delivered)]
      else expectedCalls reaps := by
  unfold expectedCalls
  rw [List.filter_append, List.countP_eq_length_filter]
  cases hx : x.delivered <;> simp [hx, List.zipIdx_append]

/-- The reap that a live test notes comes before any request to cancel. -/
theorem Transfers.Logged.live_of_reaped (h : s.Logged) (hx : (s.reaped r).live = true) :
    ∀ x ∈ s.reaps, x.live = true := by
  apply h.live
  simp only [reaped, Bool.not_eq_true', Bool.or_eq_false_iff] at hx
  exact hx.1

theorem Transfers.Logged.round (h : s.Logged) (hround : s.round r = some t) : t.Logged := by
  obtain ⟨u, hreap, rfl⟩ := Option.map_eq_some_iff.mp hround
  obtain ⟨-, rfl⟩ := Transfers.reap_eq_some.mp hreap
  obtain ⟨hcompleted, hdropped⟩ := s.pipeline.urbReap_counters r.index r.status r.actualLength
  generalize hu : ({ s with
    pipeline := s.pipeline.urbReap r.index r.status r.actualLength
    kernel := s.kernel.erase r.index } : Transfers) = u at hround ⊢
  obtain ⟨hreaps, hcompleted', hdropped'⟩ := u.handle_frame r
  obtain ⟨hsequence, hcalls⟩ := u.handle_calls r
  have hcancel := u.handle_cancel r
  subst hu
  have hreaped : Transfers.reaped { s with
      pipeline := s.pipeline.urbReap r.index r.status r.actualLength
      kernel := s.kernel.erase r.index } r = s.reaped r := rfl
  rw [hreaped] at hreaps hsequence hcalls hcancel
  refine ⟨?_, ?_, ?_, ?_, fun hlive x hx => ?_, ?_⟩
  · rw [hcompleted', hreaps, hcompleted, h.completed, List.countP_append]
    have hx : (s.reaped r).round.succeeded = succeeded r.status r.actualLength := rfl
    cases hs : succeeded r.status r.actualLength <;> simp [hx, hs, UInt32.ofNat_add]
  · rw [hdropped', hreaps, hdropped, h.dropped, List.countP_append]
    have hx : (s.reaped r).round.succeeded = succeeded r.status r.actualLength := rfl
    cases hs : succeeded r.status r.actualLength <;> simp [hx, hs, UInt32.ofNat_add]
  · rw [hsequence, hreaps, h.sequence, List.countP_append]
    cases hx : (s.reaped r).delivered <;> simp [hx, UInt32.ofNat_add]
  · rw [hcalls, hreaps, expectedCalls_append, h.calls, h.sequence]
    rfl
  · rw [hreaps, List.mem_append, List.mem_singleton] at hx
    obtain hx | rfl := hx
    · exact h.live_of_reaped (hcancel hlive) x hx
    · exact hcancel hlive
  · rw [hreaps, List.pairwise_append]
    refine ⟨h.ordered, List.pairwise_singleton _ _, fun x hx y hy hlive => ?_⟩
    rw [List.mem_singleton] at hy
    exact h.live_of_reaped (hy ▸ hlive) x hx

/-- A stream that has not been cancelled has a URB in flight. -/
def Transfers.Flowing (s : Transfers) : Prop := s.cancelRequested = true ∨ 0 < s.pipeline.submitted

theorem Transfers.urbSubmit_accepted (h : s.pipeline.Counted s.kernel) {i : Nat}
    (hi : i ∉ s.kernel) (hsize : i < (s.pipeline.arena.getD []).length) :
    ∃ t, s.urbSubmit i true = (.ok (), t) ∧ t.pipeline.Counted t.kernel ∧
      t.kernel = insert i s.kernel := by
  obtain ⟨q, hq, hcounted⟩ := h.urbSubmit_accepted hi (List.getElem?_eq_getElem hsize)
  exact ⟨_, by rw [urbSubmit, hq], hcounted, rfl⟩

theorem Transfers.urbSubmit_refused (h : s.pipeline.Counted s.kernel) {i : Nat}
    (hi : i ∉ s.kernel) (hsize : i < (s.pipeline.arena.getD []).length) :
    ∃ t, s.urbSubmit i false = (.error .io, t) ∧ t.pipeline.Counted t.kernel ∧
      t.kernel = s.kernel := by
  obtain ⟨q, hq, hcounted, -⟩ := h.urbSubmit_refused hi (List.getElem?_eq_getElem hsize)
  exact ⟨{ s with pipeline := q }, by rw [urbSubmit, hq], hcounted, rfl⟩

theorem Transfers.resubmit_counted (h : s.pipeline.Counted s.kernel) (hi : r.index ∉ s.kernel)
    (hsize : r.index < (s.pipeline.arena.getD []).length) :
    (s.resubmit r).pipeline.Counted (s.resubmit r).kernel ∧ (s.resubmit r).Flowing := by
  unfold resubmit
  by_cases hcancel : s.cancelRequested = true
  · rw [if_pos hcancel]
    exact ⟨h, .inl hcancel⟩
  · rw [if_neg hcancel]
    cases haccepted : r.accepted with
    | true =>
      obtain ⟨t, ht, hcounted, hkernel⟩ := Transfers.urbSubmit_accepted h hi hsize
      rw [ht]
      have hheld : r.index ∈ t.kernel := hkernel ▸ Finset.mem_insert_self _ _
      exact ⟨hcounted, .inr (hcounted.pos hheld)⟩
    | false =>
      obtain ⟨t, ht, hcounted, -⟩ := Transfers.urbSubmit_refused h hi hsize
      rw [ht]
      refine ⟨hcounted, ?_⟩
      by_cases hnone : t.pipeline.submitted = 0
      · left
        simp [hnone]
      · right
        exact UInt32.pos_iff_ne_zero.mpr hnone

/-- An entry that has been reaped can be submitted. -/
theorem Pipeline.Counted.ready {p : Pipeline} {kernel : Finset Nat} {i : Nat}
    (h : p.Counted kernel) (hi : i ∈ kernel) (status actualLength : Int32) :
    i < ((p.urbReap i status actualLength).arena.getD []).length := by
  obtain ⟨v, hv, -⟩ := h.entry hi
  rw [Pipeline.urbReap_arena, Pipeline.getD_setUrb, List.length_modify]
  exact (List.getElem?_eq_some_iff.mp hv).1

/-- What the loop does between a reap and the resubmission leaves the URBs alone. -/
theorem Transfers.delivered_pipeline (s : Transfers) (r : Round) :
    (((s.note r).deliver r).request r.cancelLate).pipeline = s.pipeline ∧
      (((s.note r).deliver r).request r.cancelLate).kernel = s.kernel ∧
      (((s.note r).deliver r).request r.cancelLate).cancelRequested =
        (s.cancelRequested || r.cancelEarly || r.cancelLate) := by
  obtain ⟨hpipeline, hkernel, -, hcancel⟩ := (s.note r).deliver_pipeline r
  exact ⟨hpipeline, hkernel, congrArg (· || r.cancelLate) hcancel⟩

theorem Transfers.round_counted (h : s.pipeline.Counted s.kernel) (hround : s.round r = some t) :
    t.pipeline.Counted t.kernel ∧ t.Flowing := by
  obtain ⟨u, hreap, rfl⟩ := Option.map_eq_some_iff.mp hround
  obtain ⟨hi, rfl⟩ := Transfers.reap_eq_some.mp hreap
  have hcounted := h.urbReap hi r.status r.actualLength
  have hready := h.ready hi r.status r.actualLength
  unfold handle
  dsimp only
  split
  · rename_i hcancel
    exact ⟨hcounted, .inl hcancel⟩
  · obtain ⟨hpipeline, hkernel, -⟩ := Transfers.delivered_pipeline { s with
      pipeline := s.pipeline.urbReap r.index r.status r.actualLength
      kernel := s.kernel.erase r.index } r
    apply resubmit_counted
    · rw [hpipeline, hkernel]
      exact hcounted
    · rw [hkernel]
      exact Finset.notMem_erase _ _
    · rw [hpipeline]
      exact hready

/-- A URB that the kernel takes back stays in flight. -/
theorem Transfers.round_accepted (h : s.pipeline.Counted s.kernel) (hi : r.index ∈ s.kernel)
    (hcancel : (s.cancelRequested || r.cancelEarly || r.cancelLate) = false)
    (haccepted : r.accepted = true) :
    ∃ t, s.round r = some t ∧ r.index ∈ t.kernel ∧ t.cancelRequested = false := by
  let u : Transfers := { s with
    pipeline := s.pipeline.urbReap r.index r.status r.actualLength
    kernel := s.kernel.erase r.index }
  have hround : s.round r = some (u.handle r) := by
    rw [round, Transfers.reap_eq_some.mpr ⟨hi, rfl⟩]
    rfl
  obtain ⟨hpipeline, hkernel, hrequested⟩ := u.delivered_pipeline r
  have hlive : (u.note r).cancelRequested = false := by
    rw [Bool.or_eq_false_iff] at hcancel
    exact hcancel.1
  have hhandle : u.handle r = (((u.note r).deliver r).request r.cancelLate).resubmit r := by
    unfold handle
    dsimp only
    rw [hlive]
    rfl
  generalize ((u.note r).deliver r).request r.cancelLate = v at hpipeline hkernel hrequested hhandle
  obtain ⟨t, ht, -, hheld⟩ := Transfers.urbSubmit_accepted (s := v) (i := r.index)
    (by rw [hpipeline, hkernel]; exact h.urbReap hi r.status r.actualLength)
    (by rw [hkernel]; exact Finset.notMem_erase _ _)
    (by rw [hpipeline]; exact h.ready hi r.status r.actualLength)
  have hsubmits := v.submits_urbSubmit r.index true
  rw [ht] at hsubmits
  have hresult : u.handle r = t := by
    rw [hhandle, resubmit, hrequested.trans hcancel, haccepted, ht]
    rfl
  refine ⟨t, hround.trans (congrArg some hresult), ?_, ?_⟩
  · rw [hheld]
    exact Finset.mem_insert_self _ _
  · exact hsubmits.cancelRequested.trans (hrequested.trans hcancel)

theorem Transfers.round_reaps (hround : s.round r = some t) :
    t.reaps.map Reaped.round = s.reaps.map Reaped.round ++ [r] := by
  obtain ⟨u, hreap, rfl⟩ := Option.map_eq_some_iff.mp hround
  obtain ⟨-, rfl⟩ := Transfers.reap_eq_some.mp hreap
  rw [(Transfers.handle_frame _ r).1, List.map_append]
  rfl

end Rounds

/-! ### Submission of all URBs -/

section Submission

variable {s t : Transfers} {accepted : Nat → Bool} {is : List Nat}

theorem Transfers.submits_submitFrom (accepted : Nat → Bool) (is : List Nat) (s : Transfers) :
    s.Submits (submitFrom accepted is s).2 := by
  induction is generalizing s with
  | nil => exact Transfers.Submits.refl s
  | cons i is ih =>
    have hsubmits := s.submits_urbSubmit i (accepted i)
    unfold submitFrom
    split <;> rename_i t heq <;> rw [heq] at hsubmits
    · exact hsubmits.trans (ih t)
    · exact hsubmits

/-- Entries that the kernel does not hold are all submitted, or one of them is refused. -/
theorem Transfers.submitFrom_result (h : s.pipeline.Counted s.kernel) (hnodup : is.Nodup)
    (hfresh : ∀ i ∈ is, i ∉ s.kernel) (hsize : ∀ i ∈ is, i < (s.pipeline.arena.getD []).length)
    {out : Except SdrggError Unit} (hrun : submitFrom accepted is s = (out, t)) :
    t.pipeline.Counted t.kernel ∧
      ((out = .ok () ∧ (∀ i ∈ is, accepted i = true) ∧ t.kernel = s.kernel ∪ is.toFinset) ∨
        (out = .error .io ∧ ∃ i ∈ is, accepted i = false)) := by
  induction is generalizing s with
  | nil =>
    obtain ⟨rfl, rfl⟩ := Prod.mk.inj hrun
    exact ⟨h, .inl ⟨rfl, by simp, by simp⟩⟩
  | cons i is ih =>
    have hi := hfresh i List.mem_cons_self
    have hin := hsize i List.mem_cons_self
    have hsubmits := s.submits_urbSubmit i (accepted i)
    unfold submitFrom at hrun
    cases haccepted : accepted i with
    | false =>
      obtain ⟨u, hu, hcounted, -⟩ := Transfers.urbSubmit_refused h hi hin
      rw [haccepted, hu] at hrun
      obtain ⟨rfl, rfl⟩ := Prod.mk.inj hrun
      exact ⟨hcounted, .inr ⟨rfl, i, List.mem_cons_self, haccepted⟩⟩
    | true =>
      obtain ⟨u, hu, hcounted, hkernel⟩ := Transfers.urbSubmit_accepted h hi hin
      rw [haccepted, hu] at hrun hsubmits
      obtain ⟨hnotin, hrest⟩ := List.nodup_cons.mp hnodup
      have hfresh' (j : Nat) (hj : j ∈ is) : j ∉ u.kernel := by
        rw [hkernel, Finset.mem_insert, not_or]
        exact ⟨fun heq => hnotin (heq ▸ hj), hfresh j (List.mem_cons_of_mem _ hj)⟩
      have hsize' (j : Nat) (hj : j ∈ is) : j < (u.pipeline.arena.getD []).length := by
        rw [hsubmits.size]
        exact hsize j (List.mem_cons_of_mem _ hj)
      obtain ⟨hcounted', ⟨hok, hall, hkernel'⟩ | ⟨herror, j, hj, hrefused⟩⟩ :=
        ih hcounted hrest hfresh' hsize' hrun
      · refine ⟨hcounted', .inl ⟨hok, ?_, ?_⟩⟩
        · exact List.forall_mem_cons.mpr ⟨haccepted, hall⟩
        · rw [hkernel', hkernel, List.toFinset_cons, Finset.insert_union, Finset.union_insert]
      · exact ⟨hcounted', .inr ⟨herror, j, List.mem_cons_of_mem _ hj, hrefused⟩⟩

/-- `urb_submit_all` on URBs none of which the kernel holds. -/
theorem Transfers.urbSubmitAll_result (h : s.pipeline.Counted s.kernel) (hkernel : s.kernel = ∅)
    (hsize : (s.pipeline.arena.getD []).length = s.pipeline.arenaDepth.toNat)
    {out : Except SdrggError Unit} (hrun : s.urbSubmitAll accepted = (out, t)) :
    s.Submits t ∧ t.pipeline.Counted t.kernel ∧
      ((out = .ok () ∧ (∀ k < s.pipeline.arenaDepth.toNat, accepted k = true) ∧
          t.kernel = Finset.range s.pipeline.arenaDepth.toNat) ∨
        (out = .error .io ∧ ∃ k < s.pipeline.arenaDepth.toNat, accepted k = false)) := by
  have hmem (i : Nat) : i ∈ s.pipeline.indices ↔ i < s.pipeline.arenaDepth.toNat := List.mem_range
  have hsubmits := Transfers.submits_submitFrom accepted s.pipeline.indices s
  have hrun : submitFrom accepted s.pipeline.indices s = (out, t) := hrun
  rw [hrun] at hsubmits
  obtain ⟨hcounted, ⟨hout, hall, ht⟩ | ⟨hout, i, hi, hrefused⟩⟩ :=
    Transfers.submitFrom_result h List.nodup_range (by simp [hkernel])
      (fun i hi => hsize ▸ (hmem i).mp hi) hrun
  · refine ⟨hsubmits, hcounted, .inl ⟨hout, fun k hk => hall k ((hmem k).mpr hk), ?_⟩⟩
    rw [ht, hkernel]
    ext i
    simp
  · exact ⟨hsubmits, hcounted, .inr ⟨hout, i, (hmem i).mp hi, hrefused⟩⟩

end Submission

/-! ### Runs of passes -/

section Passes

variable {s t : Transfers} {rounds : List Round} {passes : List (List Round)}

/-- What holds between the rounds of a pass. -/
structure Transfers.Accounted (s : Transfers) : Prop where
  counted : s.pipeline.Counted s.kernel
  logged : s.Logged
  flowing : s.Flowing

theorem Transfers.Accounted.round {r : Round} (h : s.Accounted) (hround : s.round r = some t) :
    t.Accounted := by
  obtain ⟨hcounted, hflowing⟩ := Transfers.round_counted h.counted hround
  exact ⟨hcounted, h.logged.round hround, hflowing⟩

theorem Transfers.Accounted.processDeviceUrbs (h : s.Accounted)
    (hrun : s.processDeviceUrbs rounds = some t) : t.Accounted :=
  run_invariant (fun _ _ _ hs hround => hs.round hround) h hrun

theorem Transfers.Accounted.run (h : s.Accounted)
    (hrun : run Transfers.processDeviceUrbs s passes = some t) : t.Accounted :=
  run_invariant (fun _ _ _ hs hpass => hs.processDeviceUrbs hpass) h hrun

theorem Transfers.Started.accounted (h : s.Started) : s.Accounted := by
  obtain ⟨u, a, harena, hall⟩ := h.arena
  have hlength := h.wellFormed _ harena
  have hflags (i : Nat) : i ∈ s.kernel ↔ s.pipeline.flagged i = true := by
    rw [h.kernel, Finset.mem_range, ← hlength, Pipeline.flagged_eq_true, harena, Option.getD_some]
    constructor
    · intro hi
      exact ⟨(u :: a)[i], List.getElem?_eq_getElem hi, hall _ (List.getElem_mem hi)⟩
    · rintro ⟨v, hv, -⟩
      exact (List.getElem?_eq_some_iff.mp hv).1
  have hcount : s.pipeline.submitted.toNat = s.pipeline.flaggedCount := by
    rw [Pipeline.flaggedCount, harena, Option.getD_some, List.countP_eq_length.mpr hall, hlength,
      h.submitted]
  refine ⟨⟨h.wellFormed, hflags, hcount⟩, ?_, ?_⟩
  · refine ⟨?_, ?_, ?_, ?_, ?_, ?_⟩
    · rw [h.completed, h.reaps]
      rfl
    · rw [h.dropped, h.reaps]
      rfl
    · rw [h.sequence, h.reaps]
      rfl
    · rw [h.calls, h.reaps]
      rfl
    · simp [h.reaps]
    · simp [h.reaps]
  · right
    rw [UInt32.lt_iff_toNat_lt, hcount, Pipeline.flaggedCount, harena, Option.getD_some,
      List.countP_eq_length.mpr hall]
    simp

/-- A stream all of whose URBs the kernel has taken, and that has not reaped any. -/
theorem Transfers.Started.of_counted (h : s.pipeline.Counted s.kernel)
    (hkernel : s.kernel = Finset.range s.pipeline.arenaDepth.toNat)
    (hdepth : 0 < s.pipeline.arenaDepth.toNat) (hcompleted : s.pipeline.completed = 0)
    (hdropped : s.pipeline.dropped = 0) (hsequence : s.sequence = 0) (hreaps : s.reaps = [])
    (hcalls : s.calls = []) : s.Started := by
  obtain ⟨u, a, harena⟩ : ∃ u a, s.pipeline.arena = some (u :: a) := by
    obtain ⟨v, hv, -⟩ := h.entry (i := 0) (hkernel ▸ Finset.mem_range.mpr hdepth)
    cases ha : s.pipeline.arena with
    | none => simp [ha] at hv
    | some b =>
      cases b with
      | nil => simp [ha] at hv
      | cons u a => exact ⟨u, a, rfl⟩
  have hlength := h.wellFormed _ harena
  have hall : ∀ v ∈ u :: a, v.submitted = true := by
    intro v hv
    obtain ⟨i, hi⟩ := List.mem_iff_getElem?.mp hv
    have hheld : i ∈ s.kernel := by
      rw [hkernel, Finset.mem_range, ← hlength]
      exact (List.getElem?_eq_some_iff.mp hi).1
    obtain ⟨w, hw, hsubmitted⟩ := h.entry hheld
    rw [harena, Option.getD_some, hi, Option.some_inj] at hw
    exact hw ▸ hsubmitted
  refine ⟨h.wellFormed, ⟨u, a, harena, hall⟩, hkernel, ?_, hcompleted, hdropped, hsequence, hreaps,
    hcalls⟩
  rw [← UInt32.toNat_inj, h.count, Pipeline.flaggedCount, harena, Option.getD_some,
    List.countP_eq_length.mpr hall, hlength]

theorem Transfers.processDeviceUrbs_reaps (hrun : s.processDeviceUrbs rounds = some t) :
    t.reaps.map Reaped.round = s.reaps.map Reaped.round ++ rounds := by
  induction rounds generalizing s with
  | nil =>
    obtain rfl := Option.some_inj.mp hrun
    rw [List.append_nil]
  | cons r rounds ih =>
    obtain ⟨u, hround, hrest⟩ := Option.bind_eq_some_iff.mp hrun
    rw [ih hrest, Transfers.round_reaps hround, List.append_assoc, List.singleton_append]

theorem Transfers.run_reaps (hrun : run Transfers.processDeviceUrbs s passes = some t) :
    t.reaps.map Reaped.round = s.reaps.map Reaped.round ++ passes.flatten := by
  induction passes generalizing s with
  | nil =>
    obtain rfl := Option.some_inj.mp hrun
    rw [List.flatten_nil, List.append_nil]
  | cons rounds passes ih =>
    obtain ⟨u, hpass, hrest⟩ := Option.bind_eq_some_iff.mp hrun
    rw [ih hrest, Transfers.processDeviceUrbs_reaps hpass, List.flatten_cons, List.append_assoc]

/-- The two counters add up to the reaps, as far as 32 bits go. -/
theorem Transfers.Logged.total (h : s.Logged) :
    (s.pipeline.completed + s.pipeline.dropped).toNat = s.reaps.length % 2 ^ 32 := by
  have hsplit := List.length_eq_countP_add_countP (l := s.reaps) fun x => x.round.succeeded
  rw [h.completed, h.dropped, ← UInt32.ofNat_add, hsplit]
  simp

/-- A run of passes over URBs that have all been submitted: `submitted` counts the entries flagged,
also between a reap and its resubmission, the counters add up to the reaps modulo 2 ^ 32, the
callback sees each buffer that is reaped before the stream is cancelled once, in order, and a
stream that is not cancelled has a URB in flight. -/
theorem transfers_accounted (hs : s.Started)
    (hrun : run Transfers.processDeviceUrbs s passes = some t) :
    t.pipeline.submitted.toNat = t.pipeline.flaggedCount ∧
      (∀ r u, t.reap r = some u → u.pipeline.submitted.toNat = u.pipeline.flaggedCount) ∧
      t.reaps.map Reaped.round = passes.flatten ∧
      (t.pipeline.completed + t.pipeline.dropped).toNat = t.reaps.length % 2 ^ 32 ∧
      t.calls = expectedCalls t.reaps ∧
      (t.reaps.Pairwise fun x y => y.live = true → x.live = true) ∧
      (t.cancelRequested = true ∨ 0 < t.pipeline.submitted) := by
  have ht : t.Accounted := hs.accounted.run hrun
  refine ⟨ht.counted.count, fun r u hreap => ?_, ?_, ht.logged.total, ht.logged.calls,
    ht.logged.ordered, ht.flowing⟩
  · obtain ⟨hi, rfl⟩ := Transfers.reap_eq_some.mp hreap
    exact (ht.counted.urbReap hi _ _).count
  · rw [Transfers.run_reaps hrun, hs.reaps]
    rfl

end Passes

/-- One URB in flight. -/
def oneInFlight : Transfers :=
  { pipeline := ⟨some [⟨16384, true, 0, 0⟩], 1, 16384, 1, 0, 0, true⟩
    kernel := Finset.range 1
    cancelRequested := false
    sequence := 0
    stallsCleared := 0
    reaps := []
    calls := [] }

theorem oneInFlight_started : oneInFlight.Started where
  wellFormed a ha := by
    obtain rfl := Option.some_inj.mp ha
    rfl
  arena := ⟨_, _, rfl, by decide⟩
  kernel := rfl
  submitted := rfl
  completed := rfl
  dropped := rfl
  sequence := rfl
  reaps := rfl
  calls := rfl

/-- A full buffer that is delivered and resubmitted. -/
def fullRound : Round := ⟨0, 0, 16384, 0, false, false, true⟩

/-- A stalled URB that the kernel does not take back. -/
def stalledRound : Round := ⟨0, -32, 0, 0, false, false, false⟩

theorem transfers_accounted_stalled : ∃ t,
    run Transfers.processDeviceUrbs oneInFlight [[fullRound], [fullRound, stalledRound]] = some t ∧
      t.calls = expectedCalls t.reaps ∧ (t.cancelRequested = true ∨ 0 < t.pipeline.submitted) := by
  have hsome : (run Transfers.processDeviceUrbs oneInFlight
      [[fullRound], [fullRound, stalledRound]]).isSome = true := by decide +kernel
  obtain ⟨t, ht⟩ := Option.isSome_iff_exists.mp hsome
  obtain ⟨-, -, -, -, hcalls, -, hflowing⟩ := transfers_accounted oneInFlight_started ht
  exact ⟨t, ht, hcalls, hflowing⟩

/-- One URB can go round for ever. -/
theorem fullRounds_enabled (n : Nat) {s : Transfers} (hs : s.pipeline.Counted s.kernel)
    (hkernel : 0 ∈ s.kernel) (hcancel : s.cancelRequested = false) :
    ∃ t, s.processDeviceUrbs (List.replicate n fullRound) = some t := by
  induction n generalizing s with
  | zero => exact ⟨s, rfl⟩
  | succ n ih =>
    obtain ⟨u, hround, hkernel', hcancel'⟩ := Transfers.round_accepted (r := fullRound) hs hkernel
      (by rw [hcancel]; rfl) rfl
    obtain ⟨t, ht⟩ := ih (Transfers.round_counted hs hround).1 hkernel' hcancel'
    refine ⟨t, ?_⟩
    rw [Transfers.processDeviceUrbs, List.replicate_succ, run_cons, hround]
    exact ht

/-- After 2 ^ 32 full buffers, both counters are zero. -/
theorem counters_wrap : oneInFlight.Started ∧ ∃ t,
    run Transfers.processDeviceUrbs oneInFlight [List.replicate (2 ^ 32) fullRound] = some t ∧
      t.reaps.length = 2 ^ 32 ∧
      t.pipeline.completed.toNat + t.pipeline.dropped.toNat = 0 := by
  obtain ⟨t, ht⟩ := fullRounds_enabled (2 ^ 32) oneInFlight_started.accounted.counted
    (by decide) rfl
  have hreaps : t.reaps.map Reaped.round = List.replicate (2 ^ 32) fullRound := by
    rw [Transfers.processDeviceUrbs_reaps ht]
    rfl
  have hlogged := (oneInFlight_started.accounted.processDeviceUrbs ht).logged
  have hcount (q : Round → Bool) :
      t.reaps.countP (fun x => q x.round) = if q fullRound then 2 ^ 32 else 0 := by
    have hmap := List.countP_map (p := q) (f := Reaped.round) (l := t.reaps)
    rw [hreaps, List.countP_replicate] at hmap
    exact hmap.symm
  refine ⟨oneInFlight_started, t, by rw [run_cons, ht]; rfl, ?_, ?_⟩
  · rw [← List.length_map (f := Reaped.round), hreaps, List.length_replicate]
  · rw [hlogged.completed, hlogged.dropped, hcount Round.succeeded,
      hcount fun r => !r.succeeded]
    decide

end Sdrgg.Usb
