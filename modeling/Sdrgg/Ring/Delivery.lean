import Sdrgg.ProofKit.Run
import Sdrgg.Ring.Buffer
import Mathlib.Data.List.Chain

/-! One subscriber of the ring, whose iterations of `consumer_thread_fn` are each done whole between
calls of `ring_write`.  A `Feed` keeps, beside the program's state, the stream of all values written
and the index in it where the subscriber stands: both count without wrap. -/

namespace Sdrgg.Ring

open ProofKit ProofKit.Window

variable {α : Type}

/-- A callback: the buffer, and the index in the stream of its first value. -/
structure Delivery (α : Type) where
  buf : SdrggBuffer α
  start : Nat

/-- A ring, one subscriber of it, whether its thread is in its loop, the stream written so far, the
index of the first value that the subscriber has not passed, and its callbacks, oldest first. -/
structure Feed (α : Type) where
  ring : IqRing α
  sub : IqSubscriber
  running : Bool
  stream : List α
  readIndex : Nat
  deliveries : List (Delivery α)

inductive Event (α : Type) where
  | write (data : List α)
  | iterate (disconnected : Bool)

/-- A call of `ring_write` with a chunk that fits the ring, or an iteration of the consumer. -/
def Feed.step (s : Feed α) : Event α → Option (Feed α)
  | .write data =>
    if data.length ≤ s.ring.size.toNat then
      some { s with ring := ringWrite s.ring data, stream := s.stream ++ data }
    else none
  | .iterate disconnected =>
    if s.running then
      match consumerIteration s.ring s.sub disconnected with
      | .stop => some { s with running := false }
      | .sleep => some s
      | .deliver buf sub =>
        let readIndex := s.stream.length - (s.ring.writePos - sub.readPos).toNat
        some { s with
          sub, readIndex
          deliveries := s.deliveries ++ [⟨buf, readIndex - segmentSize.toNat⟩] }
    else none

/-- A subscriber that subscribes after the chunks `before` have been written to a new ring. -/
def subscribed (filler : α) (before : List (List α)) : Feed α :=
  let ring := before.foldl ringWrite (ringInit filler)
  ⟨ring, subscribeTo ring, true, before.flatten, before.flatten.length, []⟩

/-- The chunk that an event writes. -/
def Event.chunk : Event α → List α
  | .write data => data
  | .iterate _ => []

/-- The values written that the subscriber has not passed, counted without wrap. -/
def Feed.lag (s : Feed α) : Nat := s.stream.length - s.readIndex

/-! ### One iteration -/

/-- The state after an iteration that reads from index `start` of the stream. -/
def Feed.deliver (s : Feed α) (start : Nat) : Feed α :=
  { s with
    sub := ⟨false, UInt32.ofNat (start + 16384), s.sub.sequence + 1⟩
    readIndex := start + 16384
    deliveries := s.deliveries ++
      [⟨bufferOf ((s.stream.drop start).take 16384) s.sub.sequence, start⟩] }

/-- What holds after every run: the positions count the stream and the index modulo `2^32`, the
sequence numbers count the callbacks, and each callback received a slice of the stream. -/
structure Sync (s : Feed α) : Prop where
  records : Records s.ring s.stream
  cancel : s.sub.cancel = false
  readPos : s.sub.readPos = UInt32.ofNat s.readIndex
  le : s.readIndex ≤ s.stream.length
  next : s.sub.sequence = UInt32.ofNat s.deliveries.length
  numbered : ∀ k (hk : k < s.deliveries.length), s.deliveries[k].buf.sequence = UInt32.ofNat k
  slices : ∀ d ∈ s.deliveries, d.start + 16384 ≤ s.stream.length ∧
    d.buf.data = (s.stream.drop d.start).take 16384
  lengths : ∀ d ∈ s.deliveries, d.buf.length = 16384
  last : ∀ d, s.deliveries.getLast? = some d → s.readIndex = d.start + 16384

/-- The index from which an iteration reads. -/
def Feed.nextStart (s : Feed α) : Nat :=
  s.stream.length - reach s.ring.size.toNat (s.lag % 2 ^ 32)

theorem Feed.nextStart_bounds (s : Feed α) (h : 16384 ≤ s.lag % 2 ^ 32) :
    s.nextStart + 16384 ≤ s.stream.length ∧ s.stream.length ≤ s.nextStart + s.ring.size.toNat := by
  have h1 := @le_reach s.ring.size.toNat _ h
  have h2 := @reach_le_size _ (s.lag % 2 ^ 32) s.ring.segment_le_size
  have h3 := @reach_le s.ring.size.toNat _ h
  have h4 := Nat.mod_le s.lag (2 ^ 32)
  unfold nextStart
  have : s.lag ≤ s.stream.length := Nat.sub_le _ _
  omega

/-- The next buffer starts where the subscriber stands exactly when the lag fits the ring. -/
theorem Feed.nextStart_eq_iff {s : Feed α} (hle : s.readIndex ≤ s.stream.length)
    (h : 16384 ≤ s.lag % 2 ^ 32) : s.nextStart = s.readIndex ↔ s.lag ≤ s.ring.size.toNat := by
  have hsize := s.ring.segment_le_size
  have hlt := s.ring.size_lt
  have hmod := Nat.div_add_mod s.lag (2 ^ 32)
  have hlag : s.lag = s.stream.length - s.readIndex := rfl
  unfold nextStart reach
  split <;> omega

theorem Sync.consumerIteration_eq {s : Feed α} (h : Sync s) (disconnected : Bool) :
    consumerIteration s.ring s.sub disconnected =
      if s.lag % 2 ^ 32 < 16384 then if disconnected then .stop else .sleep
      else .deliver (bufferOf (copyOut s.ring (UInt32.ofNat s.nextStart)) s.sub.sequence)
        ⟨false, UInt32.ofNat s.nextStart + segmentSize, s.sub.sequence + 1⟩ := by
  simp only [consumerIteration, h.cancel, Bool.false_eq_true, ↓reduceIte, h.readPos,
    poll_eq h.records.writePos h.le]
  by_cases hshort : s.lag % 2 ^ 32 < 16384
  · rw [if_pos hshort, if_pos (show (s.stream.length - s.readIndex) % 2 ^ 32 < 16384 from hshort)]
  · rw [if_neg hshort, if_neg (show ¬(s.stream.length - s.readIndex) % 2 ^ 32 < 16384 from hshort)]
    rfl

/-- An iteration that does not find a segment leaves the loop or sleeps; every other one delivers
the slice of the stream from `nextStart` on. -/
theorem Sync.step_iterate {s : Feed α} (h : Sync s) (hrun : s.running = true)
    (disconnected : Bool) :
    s.step (.iterate disconnected) = some
      (if s.lag % 2 ^ 32 < 16384 then { s with running := !disconnected }
       else s.deliver s.nextStart) := by
  have hiter := h.consumerIteration_eq disconnected
  by_cases hshort : s.lag % 2 ^ 32 < 16384
  · rw [if_pos hshort] at hiter ⊢
    cases disconnected
    · simp only [Feed.step, hrun, ↓reduceIte, hiter, Bool.false_eq_true, Bool.not_false]
      rw [← hrun]
    · simp [Feed.step, hrun, hiter]
  · rw [if_neg hshort] at hiter ⊢
    obtain ⟨h1, h2⟩ := s.nextStart_bounds (by omega)
    have hlt := s.ring.size_lt
    have hpos : UInt32.ofNat s.nextStart + segmentSize = UInt32.ofNat (s.nextStart + 16384) := by
      rw [UInt32.ofNat_add]
      rfl
    have hread : s.stream.length - (s.ring.writePos - UInt32.ofNat (s.nextStart + 16384)).toNat =
        s.nextStart + 16384 := by
      rw [h.records.writePos, toNat_ofNat_sub h1, Nat.mod_eq_of_lt (by omega)]
      omega
    have hdata : copyOut s.ring (UInt32.ofNat s.nextStart) =
        (s.stream.drop s.nextStart).take 16384 := by
      rw [copyOut_eq, ← h.records.holds.slice_eq h1 h2]
      exact slice_congr (s.ring.mod_size _) _
    rw [hdata, hpos] at hiter
    simp only [Feed.step, hrun, ↓reduceIte, hiter, hread, segmentSize_toNat, Nat.add_sub_cancel,
      Feed.deliver]

/-! ### Every run -/

theorem subscribed_sync (filler : α) {before : List (List α)}
    (hfits : ∀ c ∈ before, c.length ≤ ringSize.toNat) : Sync (subscribed filler before) := by
  have hrec := foldl_ringWrite_records (ringInit_records filler) hfits
  rw [List.nil_append] at hrec
  exact
    { records := hrec
      cancel := rfl
      readPos := hrec.writePos
      le := Nat.le_refl _
      next := rfl
      numbered := fun k hk => absurd hk (Nat.not_lt_zero k)
      slices := fun d hd => absurd hd List.not_mem_nil
      lengths := fun d hd => absurd hd List.not_mem_nil
      last := fun d hd => nomatch hd }

theorem Sync.write {s : Feed α} (h : Sync s) {data : List α}
    (hfits : data.length ≤ s.ring.size.toNat) :
    Sync { s with ring := ringWrite s.ring data, stream := s.stream ++ data } where
  records := h.records.write hfits
  cancel := h.cancel
  readPos := h.readPos
  le := by have := h.le; simp; omega
  next := h.next
  numbered := h.numbered
  slices d hd := by
    obtain ⟨h1, h2⟩ := h.slices d hd
    refine ⟨by simp; omega, ?_⟩
    rw [h2, List.drop_append_of_le_length (by omega), List.take_append_of_le_length (by simp; omega)]
  lengths := h.lengths
  last := h.last

theorem Sync.deliver {s : Feed α} (h : Sync s) (hfull : 16384 ≤ s.lag % 2 ^ 32) :
    Sync (s.deliver s.nextStart) where
  records := h.records
  cancel := rfl
  readPos := rfl
  le := (s.nextStart_bounds hfull).1
  next := by simp [Feed.deliver, h.next]
  numbered k hk := by
    simp only [Feed.deliver, List.getElem_append]
    split
    · exact h.numbered k _
    · rename_i hk'
      have : k = s.deliveries.length := by simp [Feed.deliver] at hk; omega
      simp [bufferOf, h.next, this]
  slices d hd := by
    rcases List.mem_append.mp hd with hd | hd
    · exact h.slices d hd
    · rw [List.mem_singleton.mp hd]
      exact ⟨(s.nextStart_bounds hfull).1, rfl⟩
  lengths d hd := by
    rcases List.mem_append.mp hd with hd | hd
    · exact h.lengths d hd
    · rw [List.mem_singleton.mp hd]
      rfl
  last d hd := by
    simp only [Feed.deliver, List.getLast?_append, List.getLast?_singleton, Option.some_or,
      Option.some_inj] at hd
    rw [← hd]
    rfl

/-- What one event can do: it writes a chunk that fits, it leaves the feed as it is but for the
thread's loop, or it delivers. -/
theorem Sync.step_cases {s t : Feed α} (h : Sync s) {e : Event α} (hstep : s.step e = some t) :
    (∃ data, e = .write data ∧ data.length ≤ s.ring.size.toNat ∧
      t = { s with ring := ringWrite s.ring data, stream := s.stream ++ data }) ∨
    (∃ disconnected, e = .iterate disconnected ∧ s.lag % 2 ^ 32 < 16384 ∧
      t = { s with running := !disconnected }) ∨
    (∃ disconnected, e = .iterate disconnected ∧ 16384 ≤ s.lag % 2 ^ 32 ∧
      t = s.deliver s.nextStart) := by
  cases e with
  | write data =>
    simp only [Feed.step] at hstep
    split at hstep
    · exact .inl ⟨data, rfl, ‹_›, (Option.some_inj.mp hstep).symm⟩
    · cases hstep
  | iterate disconnected =>
    have hrun : s.running = true := by
      by_contra hrun
      simp [Feed.step, hrun] at hstep
    rw [h.step_iterate hrun, Option.some_inj] at hstep
    by_cases hshort : s.lag % 2 ^ 32 < 16384
    · rw [if_pos hshort] at hstep
      exact .inr (.inl ⟨disconnected, rfl, hshort, hstep.symm⟩)
    · rw [if_neg hshort] at hstep
      exact .inr (.inr ⟨disconnected, rfl, by omega, hstep.symm⟩)

theorem Sync.step {s t : Feed α} (h : Sync s) {e : Event α} (hstep : s.step e = some t) :
    Sync t := by
  obtain ⟨data, -, hfits, rfl⟩ | ⟨_, -, -, rfl⟩ | ⟨_, -, hfull, rfl⟩ := h.step_cases hstep
  · exact h.write hfits
  · exact { h with }
  · exact h.deliver hfull

theorem Sync.run {s t : Feed α} (h : Sync s) {evs : List (Event α)}
    (hrun : run Feed.step s evs = some t) : Sync t :=
  run_invariant (fun _ _ _ hs hstep => hs.step hstep) h hrun

theorem Feed.step_write {s : Feed α} {data : List α} (h : data.length ≤ s.ring.size.toNat) :
    s.step (.write data) =
      some { s with ring := ringWrite s.ring data, stream := s.stream ++ data } :=
  if_pos h

/-- A run appends its chunks to the stream and leaves the size of the ring. -/
theorem Sync.run_stream {s t : Feed α} (h : Sync s) {evs : List (Event α)}
    (hrun : ProofKit.run Feed.step s evs = some t) :
    t.stream = s.stream ++ (evs.map Event.chunk).flatten ∧ t.ring.size = s.ring.size := by
  induction evs generalizing s with
  | nil =>
    obtain rfl := Option.some_inj.mp hrun
    simp
  | cons e evs ih =>
    obtain ⟨u, hu, hrest⟩ := Option.bind_eq_some_iff.mp hrun
    obtain ⟨hstream, hsize⟩ := ih (h.step hu) hrest
    rw [hstream, hsize]
    obtain ⟨data, rfl, -, rfl⟩ | ⟨_, rfl, -, rfl⟩ | ⟨_, rfl, -, rfl⟩ := h.step_cases hu <;>
      simp [Event.chunk, Feed.deliver]

/-! ### Lossless delivery -/

/-- An iteration finds a lag of at most the ring. -/
def Feed.InTime (s : Feed α) : Event α → Prop
  | .write _ => True
  | .iterate _ => s.lag ≤ s.ring.size.toNat

/-- The callbacks received one segment after the other from index `first` on. -/
structure Contiguous (first : Nat) (s : Feed α) : Prop where
  starts : ∀ k (hk : k < s.deliveries.length), s.deliveries[k].start = first + 16384 * k
  readIndex : s.readIndex = first + 16384 * s.deliveries.length

theorem Contiguous.deliver {first : Nat} {s : Feed α} (h : Contiguous first s)
    (hstart : s.nextStart = s.readIndex) : Contiguous first (s.deliver s.nextStart) where
  starts k hk := by
    simp only [Feed.deliver, List.getElem_append]
    split
    · exact h.starts k _
    · have : k = s.deliveries.length := by simp [Feed.deliver] at hk; omega
      simp [hstart, h.readIndex, this]
  readIndex := by
    simp only [Feed.deliver, hstart, h.readIndex, List.length_append, List.length_singleton]
    omega

theorem Contiguous.step {first : Nat} {s t : Feed α} {e : Event α} (hsync : Sync s)
    (h : Contiguous first s) (htime : s.InTime e) (hstep : s.step e = some t) :
    Contiguous first t := by
  obtain ⟨_, -, -, rfl⟩ | ⟨_, -, -, rfl⟩ | ⟨_, rfl, hfull, rfl⟩ := hsync.step_cases hstep
  · exact ⟨h.starts, h.readIndex⟩
  · exact ⟨h.starts, h.readIndex⟩
  · exact h.deliver ((Feed.nextStart_eq_iff hsync.le hfull).mpr htime)

theorem Contiguous.run {first : Nat} {s t : Feed α} {evs : List (Event α)} (hsync : Sync s)
    (h : Contiguous first s) (htime : Along Feed.step Feed.InTime s evs)
    (hrun : ProofKit.run Feed.step s evs = some t) : Contiguous first t :=
  (htime.invariant (I := fun u => Sync u ∧ Contiguous first u)
    (fun _ _ _ hu hin hstep => ⟨hu.1.step hstep, hu.2.step hu.1 hin hstep⟩) ⟨hsync, h⟩ hrun).2

/-- A subscriber whose iterations all come in time receives the stream from its subscription on,
one segment a callback, in order and numbered, and an iteration that finds a segment delivers. -/
theorem delivery_lossless (filler : α) {before : List (List α)} {evs : List (Event α)} {t : Feed α}
    (hbefore : ∀ c ∈ before, c.length ≤ ringSize.toNat)
    (htime : Along Feed.step Feed.InTime (subscribed filler before) evs)
    (hrun : run Feed.step (subscribed filler before) evs = some t) :
    let stream := before.flatten ++ (evs.map Event.chunk).flatten
    let first := before.flatten.length
    (∀ k (hk : k < t.deliveries.length),
      first + 16384 * (k + 1) ≤ stream.length ∧
      t.deliveries[k].buf.data = (stream.drop (first + 16384 * k)).take 16384 ∧
      t.deliveries[k].buf.length = 16384 ∧
      t.deliveries[k].buf.sequence = UInt32.ofNat k) ∧
    (t.running = true → first + 16384 * (t.deliveries.length + 1) ≤ stream.length →
      ∀ disconnected, t.InTime (.iterate disconnected) → ∃ u,
        t.step (.iterate disconnected) = some u ∧ u.deliveries.length = t.deliveries.length + 1) := by
  intro stream first
  have hsync0 := subscribed_sync filler hbefore
  have hsync := hsync0.run hrun
  have hstream : t.stream = stream := (hsync0.run_stream hrun).1
  have hcont : Contiguous first t :=
    Contiguous.run hsync0 ⟨fun k hk => absurd hk (Nat.not_lt_zero k), rfl⟩ htime hrun
  rw [← hstream]
  refine ⟨fun k hk => ?_, fun hrunning hfull disconnected hin => ?_⟩
  · obtain ⟨hlen, hdata⟩ := hsync.slices _ (List.getElem_mem hk)
    rw [hcont.starts k hk] at hlen hdata
    have hend : first + 16384 * (k + 1) ≤ t.stream.length := by
      rwa [Nat.mul_succ, ← Nat.add_assoc]
    exact ⟨hend, hdata, hsync.lengths _ (List.getElem_mem hk), hsync.numbered k hk⟩
  · have hlag : t.lag = t.stream.length - t.readIndex := rfl
    have hread := hcont.readIndex
    have hle : t.lag ≤ t.ring.size.toNat := hin
    have hlt := t.ring.size_lt
    rw [hsync.step_iterate hrunning, if_neg (by omega)]
    exact ⟨_, rfl, by simp [Feed.deliver]⟩

/-- One segment is written after the subscription and the next iteration delivers it. -/
theorem delivery_lossless_segment : ∃ t,
    run Feed.step (subscribed (128 : UInt8) [])
      [.write (List.replicate 16384 1), .iterate false] = some t ∧
    ∃ hk : 0 < t.deliveries.length, t.deliveries[0].buf.data = List.replicate 16384 1 := by
  have hsync := @subscribed_sync UInt8 128 [] (by simp)
  obtain ⟨u, hu⟩ : ∃ u, (subscribed (128 : UInt8) []).step
      (.write (List.replicate 16384 1)) = some u :=
    ⟨_, Feed.step_write (by rw [List.length_replicate]; decide)⟩
  have hlag : u.lag = 16384 ∧ u.running = true := by
    rw [Feed.step_write (by rw [List.length_replicate]; decide), Option.some_inj] at hu
    subst hu
    simp [-List.reduceReplicate, Feed.lag, subscribed]
  have hiter := (hsync.step hu).step_iterate hlag.2 false
  rw [if_neg (by omega)] at hiter
  have hrun : run Feed.step (subscribed (128 : UInt8) [])
      [.write (List.replicate 16384 1), .iterate false] = some (u.deliver u.nextStart) := by
    rw [run_cons, hu, Option.bind_some, run_cons, hiter]
    rfl
  have htime : Along Feed.step Feed.InTime (subscribed (128 : UInt8) [])
      [.write (List.replicate 16384 1), .iterate false] := by
    refine ⟨trivial, fun v hv => ⟨?_, fun _ _ => trivial⟩⟩
    obtain rfl := Option.some_inj.mp (hu.symm.trans hv)
    exact hlag.1.trans_le u.ring.segment_le_size
  have hone : 0 < (u.deliver u.nextStart).deliveries.length := by simp [Feed.deliver]
  refine ⟨_, hrun, hone, ?_⟩
  rw [((delivery_lossless 128 (by simp) htime hrun).1 0 hone).2.1]
  simp [-List.reduceReplicate, Event.chunk]

/-! ### Sequence numbers -/

/-- When `e` has the sequence number after `d`, it starts where `d` ended. -/
def Delivery.Follows (d e : Delivery α) : Prop :=
  e.buf.sequence = d.buf.sequence + 1 → e.start = d.start + 16384

/-- An iteration is the first to deliver, does not deliver, or finds a lag of at most the ring. -/
def Feed.Kept (s : Feed α) : Event α → Prop
  | .write _ => True
  | .iterate _ => s.deliveries = [] ∨ s.lag % 2 ^ 32 < 16384 ∨ s.lag ≤ s.ring.size.toNat

/-- The buffer of an iteration has the next sequence number whether it follows or not. -/
theorem Sync.follows_deliver {s : Feed α} (h : Sync s) (hfull : 16384 ≤ s.lag % 2 ^ 32) :
    (s.deliver s.nextStart).deliveries.IsChain Delivery.Follows ↔
      s.deliveries.IsChain Delivery.Follows ∧ (s.deliveries = [] ∨ s.lag ≤ s.ring.size.toNat) := by
  simp only [Feed.deliver, List.isChain_append, List.IsChain.singleton, true_and]
  refine and_congr_right fun _ => ?_
  rcases List.eq_nil_or_concat s.deliveries with hnil | ⟨ds, d, hds⟩
  · simp [hnil]
  · have hread := h.last d (by simp [hds])
    have hseq : s.sub.sequence = d.buf.sequence + 1 := by
      have hnum := h.numbered ds.length (by simp [hds])
      have hnext := h.next
      simp only [hds, List.concat_eq_append, List.length_append, List.length_singleton,
        List.getElem_concat_length] at hnum hnext
      rw [hnum, hnext, UInt32.ofNat_add]
      rfl
    have hne : s.deliveries ≠ [] := by simp [hds]
    rw [or_iff_right hne, ← Feed.nextStart_eq_iff h.le hfull, hread]
    simp [hds, Delivery.Follows, bufferOf, hseq]

theorem Sync.follows_step {s t : Feed α} (h : Sync s) {e : Event α} (hstep : s.step e = some t) :
    t.deliveries.IsChain Delivery.Follows ↔
      s.deliveries.IsChain Delivery.Follows ∧ s.Kept e := by
  obtain ⟨_, rfl, -, rfl⟩ | ⟨_, rfl, hshort, rfl⟩ | ⟨_, rfl, hfull, rfl⟩ := h.step_cases hstep
  · simp [Feed.Kept]
  · exact (and_iff_left (.inr (.inl hshort))).symm
  · rw [h.follows_deliver hfull]
    exact and_congr_right fun _ => or_congr_right (or_iff_right (Nat.not_lt.mpr hfull)).symm

/-- Consecutive sequence numbers mean adjacent segments exactly in the runs that never resume from a
lag beyond the ring. -/
theorem sequence_detects_drops (filler : α) {before : List (List α)} {evs : List (Event α)}
    {t : Feed α} (hbefore : ∀ c ∈ before, c.length ≤ ringSize.toNat)
    (hrun : run Feed.step (subscribed filler before) evs = some t) :
    t.deliveries.IsChain Delivery.Follows ↔
      Along Feed.step Feed.Kept (subscribed filler before) evs := by
  have h := Along.iff_last (I := Sync) (P := fun s => s.deliveries.IsChain Delivery.Follows)
    (fun _ _ _ hs hstep => hs.step hstep) (fun _ _ _ hs hstep => hs.follows_step hstep)
    (subscribed_sync filler hbefore) hrun
  rw [h]
  exact and_iff_right .nil

/-- After one delivery, a whole ring and one more segment make the next iteration deliver the last
segment. -/
theorem run_lapped (filler : α) {a b c : List α} (ha : a.length = 16384) (hb : b.length = 4194304)
    (hc : c.length = 16384) : ∃ t,
    run Feed.step (subscribed filler [])
      [.write a, .iterate false, .write b, .write c, .iterate false] = some t ∧
    t.stream = a ++ b ++ c ∧ t.deliveries = [⟨bufferOf a 0, 0⟩, ⟨bufferOf c 1, 4210688⟩] := by
  have hsync := @subscribed_sync _ filler [] (by simp)
  obtain ⟨s1, hw1, hrun1, hsub1, hread1, hdel1, hstr1, hsize1⟩ : ∃ s1,
      (subscribed filler []).step (.write a) = some s1 ∧ s1.running = true ∧ s1.sub.sequence = 0 ∧
      s1.readIndex = 0 ∧ s1.deliveries = [] ∧ s1.stream = a ∧ s1.ring.size = ringSize :=
    ⟨_, Feed.step_write (ha.trans_le (ringInit filler).segment_le_size), rfl, rfl, rfl, rfl, rfl,
      rfl⟩
  have hlag1 : s1.lag = 16384 := by rw [Feed.lag, hstr1, hread1, ha]
  have hnext1 : s1.nextStart = 0 := by
    rw [Feed.nextStart, hlag1, hstr1, ha, hsize1]
    decide
  have hi1 := (hsync.step hw1).step_iterate hrun1 false
  rw [if_neg (by omega), hnext1] at hi1
  obtain ⟨s2, hw2, hrun2, hread2, hsub2, hdel2, hstr2, hsize2⟩ : ∃ s2,
      (s1.deliver 0).step (.write b) = some s2 ∧ s2.running = true ∧ s2.readIndex = 16384 ∧
      s2.sub.sequence = 1 ∧ s2.deliveries = [⟨bufferOf a 0, 0⟩] ∧ s2.stream = a ++ b ∧
      s2.ring.size = ringSize := by
    refine ⟨_, Feed.step_write (by rw [hb, Feed.deliver, hsize1]; decide), hrun1, rfl, ?_, ?_, ?_,
      hsize1⟩
    · simp [Feed.deliver, hsub1]
    · simp [Feed.deliver, hsub1, hdel1, hstr1, List.take_of_length_le (Nat.le_of_eq ha)]
    · simp [Feed.deliver, hstr1]
  obtain ⟨s3, hw3, hrun3, hread3, hsub3, hdel3, hstr3, hsize3⟩ : ∃ s3,
      s2.step (.write c) = some s3 ∧ s3.running = true ∧ s3.readIndex = 16384 ∧
      s3.sub.sequence = 1 ∧ s3.deliveries = [⟨bufferOf a 0, 0⟩] ∧ s3.stream = a ++ b ++ c ∧
      s3.ring.size = ringSize :=
    ⟨_, Feed.step_write (by rw [hc, hsize2]; decide), hrun2, hread2, hsub2, hdel2, by rw [hstr2],
      hsize2⟩
  have hlen : s3.stream.length = 4227072 := by
    rw [hstr3, List.length_append, List.length_append, ha, hb, hc]
  have hlag3 : s3.lag = 4210688 := by rw [Feed.lag, hlen, hread3]
  have hnext3 : s3.nextStart = 4210688 := by
    rw [Feed.nextStart, hlag3, hlen, hsize3]
    decide
  have hi3 := ((((hsync.step hw1).step hi1).step hw2).step hw3).step_iterate hrun3 false
  rw [if_neg (by omega), hnext3] at hi3
  have hlast : s3.stream.drop 4210688 = c := by
    rw [hstr3]
    exact List.drop_left' (by simp [ha, hb])
  refine ⟨s3.deliver 4210688, ?_, hstr3, ?_⟩
  · simp only [run_cons, run_nil, hw1, hi1, hw2, hw3, hi3, Option.bind_some]
  · simp [Feed.deliver, hdel3, hsub3, hlast, List.take_of_length_le (Nat.le_of_eq hc)]

/-- The run of `run_lapped` is one that resumes from a lag beyond the ring. -/
theorem sequence_detects_drops_lapped :
    ¬Along Feed.step Feed.Kept (subscribed (128 : UInt8) [])
      [.write (List.replicate 16384 0), .iterate false, .write (List.replicate 4194304 0),
        .write (List.replicate 16384 1), .iterate false] := by
  obtain ⟨t, hrun, -, hdel⟩ := run_lapped (128 : UInt8) (List.length_replicate (a := 0))
    (List.length_replicate (a := 0)) (List.length_replicate (a := 1))
  rw [← sequence_detects_drops 128 (by simp) hrun, hdel, List.isChain_cons_cons]
  exact fun h => absurd (h.1 rfl) (by decide)

/-- Ones that follow more zeros than the ring holds come right after the first zeros by number. -/
theorem sequence_hides_drop : ∃ t,
    run Feed.step (subscribed (128 : UInt8) [])
      [.write (List.replicate 16384 0), .iterate false, .write (List.replicate 4194304 0),
        .write (List.replicate 16384 1), .iterate false] = some t ∧
    ∃ d e, t.deliveries = [d, e] ∧ e.buf.sequence = d.buf.sequence + 1 ∧
      e.start ≠ d.start + 16384 ∧
      e.buf.data ≠ (t.stream.drop (d.start + 16384)).take 16384 := by
  obtain ⟨t, hrun, hstream, hdel⟩ := run_lapped (128 : UInt8) (List.length_replicate (a := 0))
    (List.length_replicate (a := 0)) (List.length_replicate (a := 1))
  refine ⟨t, hrun, _, _, hdel, rfl, by decide, fun heq => ?_⟩
  have hmem : (1 : UInt8) ∈ (t.stream.drop (0 + 16384)).take 16384 := by
    rw [← heq]
    simp [-List.reduceReplicate, bufferOf]
  rw [hstream, Nat.zero_add, List.append_assoc, List.drop_left' List.length_replicate,
    List.take_append_of_le_length (by simp [-List.reduceReplicate])] at hmem
  simp [-List.reduceReplicate] at hmem

end Sdrgg.Ring
