import Sdrgg.Ring.Lossless
import Sdrgg.Ring.Setup

/-! The reader of a tuner that is read asynchronously: the kernel fills the buffers of the URBs that it
holds, and `async_ring_cb` writes them to the ring from where they are. -/

namespace Sdrgg.Ring

open ProofKit Usb

/-- Where the event thread is in a round of `process_device_urbs`. -/
inductive RoundPhase where
  | idle
  | reaped (r : Round)
  | called (r : Round)

/-- The URBs of a device, the memory of each buffer of the arena, the ring, and where the event thread
is; the chunks that `ring_write` has been called on and what the kernel had left in the URBs that were
to be delivered when they were reaped, both oldest first. -/
structure Acquisition where
  transfers : Transfers
  memory : Nat → Nat → UInt8
  ring : IqRing UInt8
  phase : RoundPhase
  written : List (List UInt8)
  completed : List (List UInt8)

/-- The kernel puts bytes into a buffer, or the event thread takes one of the three parts of a round. -/
inductive UrbEvent where
  | fill (index : Nat) (bytes : Nat → UInt8)
  | reap (r : Round)
  | callback
  | resubmit

namespace Acquisition

/-- The bytes that `length` says are in buffer `index`. -/
def bytes (s : Acquisition) (r : Round) : List UInt8 :=
  memread (s.memory r.index) 0 r.actualLength.toUInt32.toNat

/-- `async_ring_cb`. -/
def asyncRingCb (s : Acquisition) (r : Round) : Acquisition :=
  { s with ring := ringWrite s.ring (s.bytes r), written := s.written ++ [s.bytes r] }

def step (s : Acquisition) : UrbEvent → Option Acquisition
  | .fill index bytes =>
    if index ∈ s.transfers.kernel then some { s with memory := Function.update s.memory index bytes }
    else none
  | .reap r =>
    match s.phase with
    | .idle =>
      -- the kernel reports no more than the buffer holds
      if r.actualLength.toUInt32 ≤ streamBufSize then
        (s.transfers.reap r).map fun transfers =>
          let transfers := transfers.note r
          if transfers.cancelRequested then { s with transfers }
          else { s with
            transfers
            phase := .reaped r
            completed := if r.succeeded then s.completed ++ [s.bytes r] else s.completed }
      else none
    | _ => none
  | .callback =>
    match s.phase with
    | .reaped r =>
      let s := if r.succeeded then s.asyncRingCb r else s
      some { s with transfers := s.transfers.deliver r, phase := .called r }
    | _ => none
  | .resubmit =>
    match s.phase with
    | .called r =>
      some { s with
        transfers := (s.transfers.request r.cancelLate).resubmit r
        phase := .idle }
    | _ => none

/-- A stream whose ring is new and whose URBs have been submitted. -/
def start (transfers : Transfers) (memory : Nat → Nat → UInt8) : Acquisition :=
  ⟨transfers, memory, ringInit 128, .idle, [], []⟩

/-- What the thread has reaped and not written yet. -/
def pending (s : Acquisition) : List (List UInt8) :=
  match s.phase with
  | .reaped r => if r.succeeded then [s.bytes r] else []
  | _ => []

/-- What holds after every run. -/
structure Intact (s : Acquisition) : Prop where
  owned : ∀ r, s.phase = .reaped r → r.index ∉ s.transfers.kernel
  completed : s.completed = s.written ++ s.pending
  fits : ∀ chunk ∈ s.completed, chunk.length ≤ 16384
  ring : s.ring = s.written.foldl ringWrite (ringInit 128)

theorem start_intact (transfers : Transfers) (memory : Nat → Nat → UInt8) :
    (start transfers memory).Intact where
  owned _ h := nomatch h
  completed := rfl
  fits _ h := absurd h List.not_mem_nil
  ring := rfl

theorem length_bytes (s : Acquisition) (r : Round) :
    (s.bytes r).length = r.actualLength.toUInt32.toNat := by
  simp [bytes, memread]

namespace Intact

variable {s t : Acquisition}

/-- The kernel fills a buffer that it holds, which is not the one that the thread has reaped. -/
theorem fill (h : s.Intact) {index : Nat} {data : Nat → UInt8}
    (hstep : s.step (.fill index data) = some t) : t.Intact := by
  simp only [step, Option.ite_none_right_eq_some, Option.some_inj] at hstep
  obtain ⟨hheld, rfl⟩ := hstep
  refine ⟨h.owned, ?_, h.fits, h.ring⟩
  have hcompleted := h.completed
  cases hphase : s.phase with
  | idle | called r =>
    simp only [pending, hphase] at hcompleted ⊢
    exact hcompleted
  | reaped r =>
    have hne : r.index ≠ index := by
      rintro rfl
      exact h.owned r hphase hheld
    simp only [pending, hphase, bytes, Function.update_of_ne hne] at hcompleted ⊢
    exact hcompleted

theorem reap (h : s.Intact) {r : Round} (hstep : s.step (.reap r) = some t) : t.Intact := by
  simp only [step] at hstep
  split at hstep
  · rename_i hphase
    simp only [Option.ite_none_right_eq_some, Option.map_eq_some_iff] at hstep
    obtain ⟨hsize, u, hreap, rfl⟩ := hstep
    obtain ⟨-, rfl⟩ := Transfers.reap_eq_some.mp hreap
    have hcompleted := h.completed
    simp only [pending, hphase, List.append_nil] at hcompleted
    split
    · refine ⟨fun r' hr' => ?_, ?_, h.fits, h.ring⟩
      · rw [hphase] at hr'
        cases hr'
      · simp only [pending, hphase, List.append_nil]
        exact hcompleted
    · refine ⟨fun r' hr' => ?_, ?_, fun chunk hchunk => ?_, h.ring⟩
      · cases hr'
        simp [Transfers.note, Transfers.request]
      · simp only [pending, bytes]
        split
        · rw [hcompleted]
        · rw [List.append_nil, hcompleted]
      · split at hchunk
        · obtain hchunk | hchunk := List.mem_append.mp hchunk
          · exact h.fits chunk hchunk
          · rw [List.mem_singleton.mp hchunk, length_bytes]
            exact UInt32.le_iff_toNat_le.mp hsize
        · exact h.fits chunk hchunk
  · cases hstep

theorem callback (h : s.Intact) (hstep : s.step .callback = some t) : t.Intact := by
  simp only [step] at hstep
  split at hstep
  · rename_i r hphase
    obtain rfl := Option.some_inj.mp hstep
    have hcompleted := h.completed
    simp only [pending, hphase] at hcompleted
    refine ⟨fun _ hr => (by cases hr), ?_, ?_, ?_⟩
    · split at hcompleted
      · rename_i hok
        simpa [pending, hok, asyncRingCb] using hcompleted
      · rename_i hok
        simpa [pending, hok] using hcompleted
    · split
      · exact h.fits
      · exact h.fits
    · split
      · simp only [asyncRingCb, List.foldl_append, ← h.ring]
        rfl
      · exact h.ring
  · cases hstep

theorem resubmit (h : s.Intact) (hstep : s.step .resubmit = some t) : t.Intact := by
  simp only [step] at hstep
  split at hstep
  · rename_i r hphase
    obtain rfl := Option.some_inj.mp hstep
    have hcompleted := h.completed
    simp only [pending, hphase] at hcompleted
    exact ⟨fun _ hr => (by cases hr), hcompleted, h.fits, h.ring⟩
  · cases hstep

theorem step (h : s.Intact) {e : UrbEvent} (hstep : s.step e = some t) : t.Intact := by
  cases e with
  | fill index data => exact h.fill hstep
  | reap r => exact h.reap hstep
  | callback => exact h.callback hstep
  | resubmit => exact h.resubmit hstep

theorem run (h : s.Intact) {events : List UrbEvent}
    (hrun : ProofKit.run Acquisition.step s events = some t) : t.Intact :=
  run_invariant (fun _ _ _ hs hstep => hs.step hstep) h hrun

end Intact

/-- The transfers of `s` are those of `u` and the part of a round that the thread is in. -/
def AtRound (u : Transfers) (s : Acquisition) : Prop :=
  match s.phase with
  | .idle => s.transfers = u
  | .reaped r => ∃ v, u.reap r = some v ∧ (v.note r).cancelRequested = false ∧ s.transfers = v.note r
  | .called r => ∃ v, u.reap r = some v ∧ (v.note r).cancelRequested = false ∧
    s.transfers = (v.note r).deliver r

/-- The parts of a round make up a round of `process_device_urbs`. -/
theorem AtRound.step {u : Transfers} {s t : Acquisition} (h : AtRound u s) {e : UrbEvent}
    (hstep : s.step e = some t) :
    ∃ rounds w, ProofKit.run Transfers.round u rounds = some w ∧ AtRound w t := by
  cases e with
  | fill index data =>
    simp only [Acquisition.step, Option.ite_none_right_eq_some, Option.some_inj] at hstep
    obtain ⟨-, rfl⟩ := hstep
    exact ⟨[], u, rfl, h⟩
  | reap r =>
    simp only [Acquisition.step] at hstep
    split at hstep
    · rename_i hphase
      simp only [AtRound, hphase] at h
      simp only [Option.ite_none_right_eq_some, Option.map_eq_some_iff] at hstep
      obtain ⟨-, v, hreap, rfl⟩ := hstep
      rw [h] at hreap
      split
      · rename_i hcancel
        refine ⟨[r], v.note r, ?_, by simp only [AtRound, hphase]⟩
        simp [Transfers.round, hreap, Transfers.handle, hcancel]
      · rename_i hlive
        exact ⟨[], u, rfl, v, hreap, by simpa using hlive, rfl⟩
    · cases hstep
  | callback =>
    simp only [Acquisition.step] at hstep
    split at hstep
    · rename_i r hphase
      obtain rfl := Option.some_inj.mp hstep
      simp only [AtRound, hphase] at h
      obtain ⟨v, hreap, hlive, htransfers⟩ := h
      refine ⟨[], u, rfl, v, hreap, hlive, ?_⟩
      rw [← htransfers]
      split <;> rfl
    · cases hstep
  | resubmit =>
    simp only [Acquisition.step] at hstep
    split at hstep
    · rename_i r hphase
      obtain rfl := Option.some_inj.mp hstep
      simp only [AtRound, hphase] at h
      obtain ⟨v, hreap, hlive, htransfers⟩ := h
      refine ⟨[r], _, ?_, rfl⟩
      simp [Transfers.round, hreap, Transfers.handle, hlive, htransfers]
    · cases hstep

theorem AtRound.run {u : Transfers} {s t : Acquisition} (h : AtRound u s) {events : List UrbEvent}
    (hrun : ProofKit.run Acquisition.step s events = some t) :
    ∃ rounds w, ProofKit.run Transfers.round u rounds = some w ∧ AtRound w t := by
  refine run_invariant
    (I := fun s => ∃ rounds w, ProofKit.run Transfers.round u rounds = some w ∧ AtRound w s)
    (fun s e t hs hstep => ?_) ⟨[], u, rfl, h⟩ hrun
  obtain ⟨rounds, w, hrounds, hw⟩ := hs
  obtain ⟨more, x, hmore, hx⟩ := hw.step hstep
  exact ⟨rounds ++ more, x, run_append_eq hrounds hmore, hx⟩

end Acquisition

/-- A round of one URB that the kernel has filled with ones. -/
def filledRound : List UrbEvent := [.fill 0 fun _ => 1, .reap fullRound, .callback, .resubmit]

theorem run_filledRound : ∃ t,
    run Acquisition.step (.start oneInFlight fun _ _ => 0) filledRound = some t ∧
    t.phase = .idle ∧ t.written = [List.replicate 16384 1] := by
  let s1 : Acquisition :=
    { Acquisition.start oneInFlight fun _ _ => 0 with
      memory := Function.update (fun _ _ => 0) 0 fun _ => 1 }
  have h1 : (Acquisition.start oneInFlight fun _ _ => 0).step (.fill 0 fun _ => 1) = some s1 := by
    have hheld : 0 ∈ (Acquisition.start oneInFlight fun _ _ => 0).transfers.kernel :=
      (show 0 ∈ oneInFlight.kernel by decide)
    simp only [Acquisition.step, if_pos hheld]
    rfl
  obtain ⟨u, hreap⟩ : ∃ u, oneInFlight.reap fullRound = some u :=
    ⟨_, Transfers.reap_eq_some.mpr ⟨by decide, rfl⟩⟩
  have hlive : (u.note fullRound).cancelRequested = false := by
    obtain ⟨-, rfl⟩ := Transfers.reap_eq_some.mp hreap
    rfl
  have hok : fullRound.succeeded = true := by decide
  let s2 : Acquisition :=
    { s1 with
      transfers := u.note fullRound
      phase := .reaped fullRound
      completed := [s1.bytes fullRound] }
  have h2 : s1.step (.reap fullRound) = some s2 := by
    have hreap' : s1.transfers.reap fullRound = some u := hreap
    have hsize : fullRound.actualLength.toUInt32 ≤ streamBufSize := by decide
    simp only [Acquisition.step, s1, Acquisition.start, hsize, ↓reduceIte] at hreap' ⊢
    rw [hreap']
    simp only [Option.map_some, hlive, hok, Bool.false_eq_true, ↓reduceIte]
    rfl
  let s3 : Acquisition :=
    { s2.asyncRingCb fullRound with
      transfers := (u.note fullRound).deliver fullRound
      phase := .called fullRound }
  have h3 : s2.step .callback = some s3 := by
    simp only [Acquisition.step, s2, hok, ↓reduceIte]
    rfl
  let s4 : Acquisition :=
    { s3 with transfers := (s3.transfers.request false).resubmit fullRound, phase := .idle }
  have h4 : s3.step .resubmit = some s4 := rfl
  refine ⟨s4, ?_, rfl, ?_⟩
  · simp only [filledRound, run_cons, h1, h2, h3, h4, Option.bind_some, run_nil]
  · have hlength : fullRound.actualLength.toUInt32.toNat = 16384 := by decide
    have hwritten : s4.written = [s1.bytes fullRound] := rfl
    have hmemory : s1.memory fullRound.index = fun _ => 1 := by
      simp only [s1, fullRound, Function.update_self]
    rw [hwritten, Acquisition.bytes, hmemory, hlength, memread, List.map_const', List.length_range]

end Sdrgg.Ring
