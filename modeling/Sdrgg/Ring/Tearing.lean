import Sdrgg.ProofKit.Run
import Sdrgg.Ring.Buffer

/-! The writer and one subscriber of the ring as two threads.  `ring_write` is two steps, the copy
into the cells and the store of `write_pos`; an iteration of `consumer_thread_fn` is four, the lag
check, the copy out of the ring, the callback and the advance of `read_pos`. -/

namespace Sdrgg.Ring

open ProofKit ProofKit.Window

variable {α : Type}

/-- Where the consumer thread is in its loop, with the position it reads from and its copy. -/
inductive Phase (α : Type) where
  | polling
  | checked (rp : UInt32)
  | copied (rp : UInt32) (data : List α)
  | called (rp : UInt32)
  | stopped

/-- The ring, whose cells may be ahead of its write position by the `unpublished` values, one
subscriber and its thread's phase, all values copied into the ring, and the buffers that the
callback received, oldest first. -/
structure Race (α : Type) where
  ring : IqRing α
  unpublished : Option (List α)
  sub : IqSubscriber
  phase : Phase α
  stream : List α
  received : List (SdrggBuffer α)

inductive Move (α : Type) where
  | copy (data : List α)
  | publish
  | load (disconnected : Bool)
  | copyOut
  | callback
  | advance

/-- The state after the copy of `ring_write`. -/
def Race.copyChunk (s : Race α) (data : List α) : Race α :=
  { s with
    ring := { s.ring with data := ringCopy s.ring data }
    unpublished := some data
    stream := s.stream ++ data }

/-- The state after the store of `write_pos` in `ring_write`. -/
def Race.publishChunk (s : Race α) (data : List α) : Race α :=
  { s with
    ring := { s.ring with writePos := s.ring.writePos + UInt32.ofNat data.length }
    unpublished := none }

/-- One step of the writer, which copies at most 16384 values at a time, or of the consumer. -/
def Race.step (s : Race α) : Move α → Option (Race α)
  | .copy data =>
    if s.unpublished = none ∧ data.length ≤ 16384 then some (s.copyChunk data) else none
  | .publish =>
    match s.unpublished with
    | some data => some (s.publishChunk data)
    | none => none
  | .load disconnected =>
    match s.phase with
    | .polling =>
      if s.sub.cancel then some { s with phase := .stopped }
      else
        match poll s.ring s.sub.readPos with
        | none => some { s with phase := if disconnected then .stopped else .polling }
        | some rp => some { s with sub := { s.sub with readPos := rp }, phase := .checked rp }
    | _ => none
  | .copyOut =>
    match s.phase with
    | .checked rp => some { s with phase := .copied rp (copyOut s.ring rp) }
    | _ => none
  | .callback =>
    match s.phase with
    | .copied rp data =>
      some { s with
        sub := { s.sub with sequence := s.sub.sequence + 1 }
        phase := .called rp
        received := s.received ++ [bufferOf data s.sub.sequence] }
    | _ => none
  | .advance =>
    match s.phase with
    | .called rp =>
      some { s with sub := { s.sub with readPos := rp + segmentSize }, phase := .polling }
    | _ => none

/-- A subscriber that subscribes after the chunks `before` have been written to a new ring. -/
def raceStart (filler : α) (before : List (List α)) : Race α :=
  let ring := before.foldl ringWrite (ringInit filler)
  ⟨ring, none, subscribeTo ring, .polling, before.flatten, []⟩

/-- The position after the last value copied into the ring. -/
def Race.writeFront (s : Race α) : UInt32 :=
  s.ring.writePos + UInt32.ofNat (s.unpublished.getD []).length

/-- The copy out of the ring happens while the cells it reads have the write front nowhere inside
them. -/
def Race.Clear (s : Race α) : Move α → Prop
  | .copyOut => ∀ rp, s.phase = .checked rp →
    (s.writeFront - rp).toNat % s.ring.size.toNat = 0 ∨
      16384 ≤ (s.writeFront - rp).toNat % s.ring.size.toNat
  | _ => True

/-- `data` is 16384 values of the stream that follow one another. -/
def Segment (stream data : List α) : Prop :=
  ∃ q, q + 16384 ≤ stream.length ∧ data = (stream.drop q).take 16384

theorem Segment.append {stream data : List α} (h : Segment stream data) (src : List α) :
    Segment (stream ++ src) data := by
  obtain ⟨q, hq, rfl⟩ := h
  refine ⟨q, by simp; omega, ?_⟩
  rw [List.drop_append_of_le_length (by omega), List.take_append_of_le_length (by simp; omega)]

/-- The position that an iteration under way reads from. -/
def Phase.reads : Phase α → Option UInt32
  | .checked rp | .copied rp _ | .called rp => some rp
  | .polling | .stopped => none

/-- The number of values published. -/
def Race.published (s : Race α) : Nat := s.stream.length - (s.unpublished.getD []).length

/-- What holds in every interleaving: the cells hold the values copied, the positions count modulo
`2^32`, and an iteration reads a segment that has been published. -/
structure Race.Sound (s : Race α) : Prop where
  copied : Holds s.ring.size.toNat s.ring.data s.stream
  le : (s.unpublished.getD []).length ≤ s.stream.length
  writePos : s.ring.writePos = UInt32.ofNat s.published
  readPos : ∃ r ≤ s.published, s.sub.readPos = UInt32.ofNat r
  reads : ∀ rp, s.phase.reads = some rp → ∃ p, p + 16384 ≤ s.published ∧ rp = UInt32.ofNat p

/-- Every copy of the ring that the callback received or is about to is a segment. -/
structure Race.Whole (s : Race α) : Prop where
  received : ∀ buf ∈ s.received, Segment s.stream buf.data
  copied : ∀ rp data, s.phase = .copied rp data → Segment s.stream data

theorem raceStart_sound (filler : α) {before : List (List α)}
    (hfits : ∀ c ∈ before, c.length ≤ ringSize.toNat) : (raceStart filler before).Sound := by
  have hrec := foldl_ringWrite_records (ringInit_records filler) hfits
  rw [List.nil_append] at hrec
  exact
    { copied := hrec.holds
      le := Nat.zero_le _
      writePos := hrec.writePos
      readPos := ⟨_, Nat.le_refl _, hrec.writePos⟩
      reads := fun _ h => nomatch h }

theorem raceStart_whole (filler : α) (before : List (List α)) :
    (raceStart filler before).Whole :=
  ⟨fun _ h => absurd h List.not_mem_nil, fun _ _ h => nomatch h⟩

theorem Race.Sound.copyChunk {s : Race α} (h : s.Sound) {data : List α}
    (hnone : s.unpublished = none) (hlen : data.length ≤ 16384) : (s.copyChunk data).Sound := by
  have hpub : s.published = s.stream.length := by simp [published, hnone]
  have hsame : (s.copyChunk data).published = s.published := by
    simp [published, Race.copyChunk, hnone]
  have hrec : Records s.ring s.stream := ⟨h.copied, hpub ▸ h.writePos⟩
  exact
    { copied := hrec.copy (hlen.trans s.ring.segment_le_size)
      le := by simp [Race.copyChunk]
      writePos := by rw [hsame]; exact h.writePos
      readPos := by rw [hsame]; exact h.readPos
      reads := by rw [hsame]; exact h.reads }

theorem Race.Sound.publishChunk {s : Race α} (h : s.Sound) {data : List α}
    (hsome : s.unpublished = some data) : (s.publishChunk data).Sound := by
  have hle := h.le
  have hpub : (s.publishChunk data).published = s.published + data.length := by
    simp only [hsome, Option.getD_some] at hle
    simp only [published, Race.publishChunk, hsome, Option.getD_some, Option.getD_none,
      List.length_nil]
    omega
  obtain ⟨r, hr, hread⟩ := h.readPos
  refine ⟨h.copied, Nat.zero_le _, ?_, ⟨r, by omega, hread⟩, fun rp hrp => ?_⟩
  · rw [hpub, UInt32.ofNat_add, ← h.writePos]
    rfl
  · obtain ⟨p, hp, rfl⟩ := h.reads rp hrp
    exact ⟨p, by omega, rfl⟩

/-- A step of the consumer leaves the ring as it is. -/
theorem Race.Sound.consume {s : Race α} (h : s.Sound) {sub : IqSubscriber} {phase : Phase α}
    {received : List (SdrggBuffer α)} (hread : ∃ r ≤ s.published, sub.readPos = UInt32.ofNat r)
    (hreads : ∀ rp, phase.reads = some rp → ∃ p, p + 16384 ≤ s.published ∧ rp = UInt32.ofNat p) :
    Race.Sound { s with sub, phase, received } :=
  ⟨h.copied, h.le, h.writePos, hread, hreads⟩

/-- The lag check finds a segment that has been published. -/
theorem Race.Sound.poll_published {s : Race α} (h : s.Sound) {rp : UInt32}
    (hpoll : poll s.ring s.sub.readPos = some rp) :
    ∃ p, p + 16384 ≤ s.published ∧ rp = UInt32.ofNat p := by
  obtain ⟨r, hr, hread⟩ := h.readPos
  rw [hread, poll_eq h.writePos hr] at hpoll
  split at hpoll
  · cases hpoll
  · rename_i hfull
    have hreach := @le_reach s.ring.size.toNat _ (Nat.not_lt.mp hfull)
    have hlow := @reach_le s.ring.size.toNat _ (Nat.not_lt.mp hfull)
    have hmod := Nat.mod_le (s.published - r) (2 ^ 32)
    exact ⟨_, by omega, (Option.some_inj.mp hpoll).symm⟩

theorem Race.Sound.load {s : Race α} (h : s.Sound) {rp : UInt32}
    (hpoll : poll s.ring s.sub.readPos = some rp) :
    Race.Sound { s with sub := { s.sub with readPos := rp }, phase := .checked rp } := by
  obtain ⟨p, hp, hrp⟩ := h.poll_published hpoll
  refine h.consume ⟨p, by omega, hrp⟩ fun rp' hrp' => ?_
  obtain rfl := Option.some_inj.mp hrp'
  exact ⟨p, hp, hrp⟩

theorem Race.Sound.advance {s : Race α} (h : s.Sound) {rp : UInt32} (hphase : s.phase = .called rp) :
    Race.Sound { s with sub := { s.sub with readPos := rp + segmentSize }, phase := .polling } := by
  obtain ⟨p, hp, rfl⟩ := h.reads rp (by rw [hphase]; rfl)
  refine h.consume ⟨p + 16384, hp, ?_⟩ fun _ hrp => nomatch hrp
  rw [UInt32.ofNat_add]
  rfl

/-- Every step of either thread keeps the state sound. -/
theorem Race.Sound.step {s t : Race α} (h : s.Sound) {m : Move α} (hstep : s.step m = some t) :
    t.Sound := by
  cases m with
  | copy data =>
    simp only [Race.step] at hstep
    split at hstep
    · obtain rfl := Option.some_inj.mp hstep
      rename_i hok
      exact h.copyChunk hok.1 hok.2
    · cases hstep
  | publish =>
    simp only [Race.step] at hstep
    split at hstep
    · obtain rfl := Option.some_inj.mp hstep
      exact h.publishChunk ‹_›
    · cases hstep
  | load disconnected =>
    simp only [Race.step] at hstep
    split at hstep
    · rename_i hphase
      split at hstep
      · obtain rfl := Option.some_inj.mp hstep
        exact h.consume h.readPos fun _ hrp => nomatch hrp
      · split at hstep <;> obtain rfl := Option.some_inj.mp hstep
        · refine h.consume h.readPos fun _ hrp => ?_
          cases disconnected <;> cases hrp
        · exact h.load ‹_›
    · cases hstep
  | copyOut =>
    simp only [Race.step] at hstep
    split at hstep
    · obtain rfl := Option.some_inj.mp hstep
      rename_i rp hphase
      exact h.consume h.readPos fun rp' hrp' => h.reads rp' (hphase ▸ hrp')
    · cases hstep
  | callback =>
    simp only [Race.step] at hstep
    split at hstep
    · obtain rfl := Option.some_inj.mp hstep
      rename_i rp data hphase
      exact h.consume h.readPos fun rp' hrp' => h.reads rp' (hphase ▸ hrp')
    · cases hstep
  | advance =>
    simp only [Race.step] at hstep
    split at hstep
    · obtain rfl := Option.some_inj.mp hstep
      exact h.advance ‹_›
    · cases hstep

theorem Race.Sound.run {s t : Race α} (h : s.Sound) {moves : List (Move α)}
    (hrun : run Race.step s moves = some t) : t.Sound :=
  run_invariant (fun _ _ _ hs hstep => hs.step hstep) h hrun

/-! ### Threads that take turns -/

/-- The two steps of the writer with nothing between them are `ring_write`. -/
theorem Race.run_write {s : Race α} (hnone : s.unpublished = none) {data : List α}
    (hlen : data.length ≤ 16384) :
    run Race.step s [.copy data, .publish] =
      some { s with ring := ringWrite s.ring data, stream := s.stream ++ data } := by
  simp [Race.step, hnone, hlen, copyChunk, publishChunk, ringWrite]

theorem Race.run_writes {chunks : List (List α)} {s : Race α} (hnone : s.unpublished = none)
    (hlen : ∀ c ∈ chunks, c.length ≤ 16384) :
    run Race.step s (chunks.flatMap fun c => [.copy c, .publish]) =
      some { s with
        ring := chunks.foldl ringWrite s.ring, stream := s.stream ++ chunks.flatten } := by
  induction chunks generalizing s with
  | nil => simp
  | cons c cs ih =>
    rw [List.flatMap_cons]
    refine run_append_eq (Race.run_write hnone (hlen c (by simp))) ?_
    have hrest := ih (s := { s with ring := ringWrite s.ring c, stream := s.stream ++ c }) hnone
      fun d hd => hlen d (List.mem_cons_of_mem c hd)
    rw [hrest]
    simp

/-- The four steps of the consumer with nothing between them are one iteration. -/
theorem Race.run_iteration {s : Race α} (hphase : s.phase = .polling) {disconnected : Bool}
    {buf : SdrggBuffer α} {sub : IqSubscriber}
    (hiter : consumerIteration s.ring s.sub disconnected = .deliver buf sub) :
    run Race.step s [.load disconnected, .copyOut, .callback, .advance] =
      some { s with sub, received := s.received ++ [buf] } := by
  simp only [consumerIteration] at hiter
  split at hiter
  · cases hiter
  · split at hiter
    · cases disconnected <;> cases hiter
    · obtain ⟨rfl, rfl⟩ := Iteration.deliver.inj hiter
      simp_all [Race.step]

/-! ### What the copy of the ring is -/

theorem Race.Sound.writeFront_eq {s : Race α} (h : s.Sound) :
    s.writeFront = UInt32.ofNat s.stream.length := by
  have hle := h.le
  rw [writeFront, h.writePos, ← UInt32.ofNat_add, published, Nat.sub_add_cancel hle]

/-- The copy of the ring as cells from the index in the stream that the thread reads from. -/
theorem Race.Sound.copyOut_eq {s : Race α} (h : s.Sound) {rp : UInt32}
    (hphase : s.phase = .checked rp) : ∃ p, p + 16384 ≤ s.stream.length ∧
      (s.writeFront - rp).toNat % s.ring.size.toNat = (s.stream.length - p) % s.ring.size.toNat ∧
      copyOut s.ring rp = slice s.ring.size.toNat s.ring.data p 16384 := by
  obtain ⟨p, hp, rfl⟩ := h.reads rp (by rw [hphase]; rfl)
  have hle : s.published ≤ s.stream.length := Nat.sub_le _ _
  refine ⟨p, by omega, ?_, ?_⟩
  · rw [h.writeFront_eq, toNat_ofNat_sub (by omega), Nat.mod_mod_of_dvd _ s.ring.size_dvd]
  · rw [Ring.copyOut_eq, slice_congr (s.ring.mod_size p)]

theorem Race.Sound.copyOut_segment {s : Race α} (h : s.Sound) {rp : UInt32}
    (hphase : s.phase = .checked rp) (hclear : s.Clear .copyOut) :
    Segment s.stream (Ring.copyOut s.ring rp) := by
  obtain ⟨p, hp, hfront, hcopy⟩ := h.copyOut_eq hphase
  have hsize := s.ring.segment_le_size
  have hnew : newest s.ring.size.toNat s.stream.length p + 16384 ≤ s.stream.length :=
    (newest_add_le_iff (by omega) hsize (by omega)).mpr (hfront ▸ hclear rp hphase)
  refine ⟨_, hnew, ?_⟩
  rw [hcopy, ← h.copied.slice_eq hnew (le_newest_add (by omega)), slice_congr (newest_mod _ p)]

/-- When no value occurs twice in the stream, a copy with the write front inside it is no
segment. -/
theorem Race.Sound.copyOut_torn {s : Race α} (h : s.Sound) {rp : UInt32}
    (hphase : s.phase = .checked rp) (hnodup : s.stream.Nodup) (hclear : ¬s.Clear .copyOut) :
    ¬Segment s.stream (Ring.copyOut s.ring rp) := by
  rintro ⟨q, hq, heq⟩
  obtain ⟨p, hp, hfront, hcopy⟩ := h.copyOut_eq hphase
  have hsize := s.ring.segment_le_size
  have hnew := h.copied.slice_inj hnodup (by omega) (by omega) (by omega) hq (hcopy ▸ heq)
  refine hclear fun rp' hrp' => ?_
  obtain rfl : rp = rp' := by simpa [hphase] using hrp'
  rw [hfront]
  exact (newest_add_le_iff (by omega) hsize (by omega)).mp (hnew ▸ hq)

theorem Race.Whole.grow {s t : Race α} (h : s.Whole) (hphase : t.phase = s.phase)
    (hreceived : t.received = s.received) {data : List α} (hstream : t.stream = s.stream ++ data) :
    t.Whole where
  received buf hbuf := hstream ▸ (h.received buf (hreceived ▸ hbuf)).append data
  copied rp data' hrp := hstream ▸ (h.copied rp data' (hphase ▸ hrp)).append data

/-- Every step that meets the condition keeps the copies whole. -/
theorem Race.Whole.step {s t : Race α} (hsound : s.Sound) (h : s.Whole) {m : Move α}
    (hclear : s.Clear m) (hstep : s.step m = some t) : t.Whole := by
  cases m with
  | copy data =>
    simp only [Race.step] at hstep
    split at hstep
    · obtain rfl := Option.some_inj.mp hstep
      exact h.grow rfl rfl rfl
    · cases hstep
  | publish =>
    simp only [Race.step] at hstep
    split at hstep
    · obtain rfl := Option.some_inj.mp hstep
      exact h.grow rfl rfl (List.append_nil _).symm
    · cases hstep
  | load disconnected =>
    simp only [Race.step] at hstep
    split at hstep
    · split at hstep
      · obtain rfl := Option.some_inj.mp hstep
        exact ⟨h.received, fun _ _ hrp => nomatch hrp⟩
      · split at hstep <;> obtain rfl := Option.some_inj.mp hstep
        · refine ⟨h.received, fun _ _ hrp => ?_⟩
          cases disconnected <;> cases hrp
        · exact ⟨h.received, fun _ _ hrp => nomatch hrp⟩
    · cases hstep
  | copyOut =>
    simp only [Race.step] at hstep
    split at hstep
    · obtain rfl := Option.some_inj.mp hstep
      rename_i rp hphase
      refine ⟨h.received, fun rp' data hcopied => ?_⟩
      obtain ⟨-, rfl⟩ := Phase.copied.inj hcopied
      exact hsound.copyOut_segment hphase hclear
    · cases hstep
  | callback =>
    simp only [Race.step] at hstep
    split at hstep
    · obtain rfl := Option.some_inj.mp hstep
      rename_i rp data hphase
      refine ⟨fun buf hbuf => ?_, fun _ _ hrp => nomatch hrp⟩
      rcases List.mem_append.mp hbuf with hbuf | hbuf
      · exact h.received buf hbuf
      · rw [List.mem_singleton.mp hbuf]
        exact h.copied rp data hphase
    · cases hstep
  | advance =>
    simp only [Race.step] at hstep
    split at hstep
    · obtain rfl := Option.some_inj.mp hstep
      exact ⟨h.received, fun _ _ hrp => nomatch hrp⟩
    · cases hstep

/-- In every interleaving whose copies out of the ring are clear of the write front, every buffer
that the callback receives is a segment of the stream. -/
theorem delivery_whole (filler : α) {before : List (List α)} {moves : List (Move α)} {t : Race α}
    (hbefore : ∀ c ∈ before, c.length ≤ ringSize.toNat)
    (hclear : Along Race.step Race.Clear (raceStart filler before) moves)
    (hrun : run Race.step (raceStart filler before) moves = some t) :
    ∀ buf ∈ t.received, Segment t.stream buf.data :=
  (hclear.invariant (I := fun s : Race α => s.Sound ∧ s.Whole)
    (fun _ _ _ hs hc hstep => ⟨hs.1.step hstep, hs.2.step hs.1 hc hstep⟩)
    ⟨raceStart_sound filler hbefore, raceStart_whole filler before⟩ hrun).2.received

/-- After chunks that fill at least a segment and at most the ring, the first lag check lets the
thread read from position 0. -/
theorem Race.run_filled (filler : α) {chunks : List (List α)}
    (hlen : ∀ c ∈ chunks, c.length ≤ 16384) (hlow : 16384 ≤ chunks.flatten.length)
    (hhigh : chunks.flatten.length ≤ 4194304) : ∃ s,
    run Race.step (raceStart filler [])
      ((chunks.flatMap fun c => [.copy c, .publish]) ++ [.load false]) = some s ∧
    s.Sound ∧ s.unpublished = none ∧ s.phase = .checked 0 ∧ s.received = [] ∧
    s.stream = chunks.flatten ∧ s.ring.size = ringSize := by
  obtain ⟨s, hwrites, hnone, hphase, hsub, hrec, hstream, hsize⟩ : ∃ s,
      run Race.step (raceStart filler []) (chunks.flatMap fun c => [.copy c, .publish]) = some s ∧
      s.unpublished = none ∧ s.phase = .polling ∧ s.sub = ⟨false, 0, 0⟩ ∧ s.received = [] ∧
      s.stream = chunks.flatten ∧ s.ring.size = ringSize :=
    ⟨_, Race.run_writes rfl hlen, rfl, rfl, rfl, rfl, List.nil_append _,
      foldl_ringWrite_size chunks _⟩
  have hsound := (@raceStart_sound _ filler [] (by simp)).run hwrites
  have hpub : s.published = chunks.flatten.length := by simp [published, hnone, hstream]
  have hpoll : poll s.ring s.sub.readPos = some 0 := by
    have hring : ringSize.toNat = 4194304 := rfl
    have h := @poll_eq _ _ _ 0 hsound.writePos (Nat.zero_le _)
    rw [hpub, hsize, Nat.sub_zero, Nat.mod_eq_of_lt (by omega), if_neg (by omega), reach, hring,
      if_neg (by omega), Nat.sub_self] at h
    rw [hsub]
    exact h
  have hload : s.step (.load false) =
      some { s with sub := { s.sub with readPos := 0 }, phase := .checked 0 } := by
    have hcancel : s.sub.cancel = false := by rw [hsub]
    simp only [Race.step, hphase, hpoll, hcancel, Bool.false_eq_true, ↓reduceIte]
  exact ⟨_, run_append_eq hwrites (by rw [run_cons, hload]; rfl), hsound.step hload, hnone, rfl,
    hrec, hstream, hsize⟩

/-- The next two steps of the consumer deliver what the cells it reads hold. -/
theorem Race.run_deliver {s : Race α} {rp : UInt32} (hphase : s.phase = .checked rp) : ∃ t,
    run Race.step s [.copyOut, .callback] = some t ∧ t.stream = s.stream ∧
    t.received = s.received ++ [bufferOf (Ring.copyOut s.ring rp) s.sub.sequence] := by
  refine ⟨{ s with
    sub := { s.sub with sequence := s.sub.sequence + 1 }
    phase := .called rp
    received := s.received ++ [bufferOf (Ring.copyOut s.ring rp) s.sub.sequence] }, ?_, rfl, rfl⟩
  simp [Race.step, hphase]

/-- One segment is written, and the next iteration delivers it. -/
theorem delivery_whole_segment : ∃ t,
    run Race.step (raceStart (128 : UInt8) [])
      [.copy (List.replicate 16384 1), .publish, .load false, .copyOut, .callback] = some t ∧
    t.received.length = 1 ∧ ∀ buf ∈ t.received, Segment t.stream buf.data := by
  obtain ⟨s, hfill, hsound, hnone, hphase, hrec, hstream, hsize⟩ :=
    @Race.run_filled UInt8 128 [List.replicate 16384 1]
      (by simp [-List.reduceReplicate]) (by simp [-List.reduceReplicate])
      (by simp [-List.reduceReplicate])
  obtain ⟨t, hdeliver, -, hreceived⟩ := Race.run_deliver hphase
  have hrun := run_append_eq hfill hdeliver
  have hfront : s.writeFront = 16384 := by
    rw [hsound.writeFront_eq, hstream]
    simp [-List.reduceReplicate]
  have hclear : Along Race.step Race.Clear (raceStart (128 : UInt8) [])
      ([.copy (List.replicate 16384 1), .publish, .load false] ++ [.copyOut, .callback]) := by
    refine Along.append.mpr ⟨⟨trivial, fun _ _ => ⟨trivial, fun _ _ => ⟨trivial, fun _ _ => trivial⟩⟩⟩,
      fun u hu => ⟨fun rp hrp => .inr ?_, fun _ _ => ⟨trivial, fun _ _ => trivial⟩⟩⟩
    obtain rfl := Option.some_inj.mp (hfill.symm.trans hu)
    obtain rfl := Phase.checked.inj (hphase.symm.trans hrp)
    rw [hfront, hsize]
    decide
  exact ⟨t, hrun, by simp [hreceived, hrec], delivery_whole 128 (by simp) hclear hrun⟩

/-- When the lag check finds the ring full and the writer then copies a chunk, the thread's copy
starts with that chunk. -/
theorem Race.run_overrun (filler : α) {chunks : List (List α)} {data : List α}
    (hlen : ∀ c ∈ chunks, c.length ≤ 16384) (hfull : chunks.flatten.length = 4194304)
    (hpos : 0 < data.length) (hdata : data.length ≤ 16384) : ∃ t,
    run Race.step (raceStart filler []) ((chunks.flatMap fun c => [.copy c, .publish]) ++
      [.load false, .copy data, .copyOut, .callback]) = some t ∧
    t.stream = chunks.flatten ++ data ∧ ∃ buf ∈ t.received, buf.data[0]? = some data[0] := by
  obtain ⟨s, hfill, hsound, hnone, hphase, -, hstream, hsize⟩ :=
    Race.run_filled filler hlen (by omega) (by omega)
  have hcopy : s.step (.copy data) = some (s.copyChunk data) := if_pos ⟨hnone, hdata⟩
  have hlast : (s.copyChunk data).stream = chunks.flatten ++ data := by rw [← hstream]; rfl
  obtain ⟨t, hdeliver, hstream', hreceived⟩ := Race.run_deliver (s := s.copyChunk data) hphase
  refine ⟨t, ?_, hstream'.trans hlast, _, hreceived ▸ List.mem_append_right _ List.mem_cons_self, ?_⟩
  · have htail : run Race.step s [.copy data, .copyOut, .callback] = some t := by
      rw [run_cons, hcopy]
      exact hdeliver
    have := run_append_eq hfill htail
    rwa [List.append_assoc] at this
  · have hring : (s.copyChunk data).ring.size.toNat = 4194304 := congrArg UInt32.toNat hsize
    have hcell := (hsound.step hcopy).copied 4194304
    simp only [hlast, hring, List.length_append, hfull] at hcell
    have hfirst := hcell (by omega) (by omega)
    rw [List.getElem_append_right (by omega)] at hfirst
    simp only [bufferOf, Ring.copyOut_eq, slice, hring, hfull, Nat.sub_self] at hfirst ⊢
    simpa using hfirst

/-- Half of a segment of ones overwrites the zeros that the thread is about to copy. -/
theorem delivery_torn : ∃ t,
    run Race.step (raceStart (128 : UInt8) [])
      ((List.replicate 256 (List.replicate 16384 0)).flatMap (fun c => [.copy c, .publish]) ++
        [.load false, .copy (List.replicate 8192 1), .copyOut, .callback]) = some t ∧
    ∃ buf ∈ t.received, ¬Segment t.stream buf.data := by
  obtain ⟨t, hrun, hstream, buf, hbuf, hfirst⟩ :=
    @Race.run_overrun UInt8 128 (List.replicate 256 (List.replicate 16384 0))
      (List.replicate 8192 1)
      (fun c hc => by simp [-List.reduceReplicate, List.eq_of_mem_replicate hc])
      (by simp [-List.reduceReplicate]) (by simp [-List.reduceReplicate])
      (by simp [-List.reduceReplicate])
  refine ⟨t, hrun, buf, hbuf, ?_⟩
  rintro ⟨q, hq, heq⟩
  rw [List.flatten_replicate_replicate] at hstream
  rw [hstream, List.length_append, List.length_replicate, List.length_replicate] at hq
  have hzero : buf.data[0]? = some 0 := by
    rw [heq, hstream]
    simp only [List.getElem?_take, List.getElem?_drop, Nat.add_zero]
    rw [List.getElem?_append_left (by rw [List.length_replicate]; omega),
      List.getElem?_replicate_of_lt (by omega)]
    rfl
  rw [hzero] at hfirst
  simp [-List.reduceReplicate] at hfirst

/-! ### What every interleaving keeps -/

/-- The ring has the size that it was set up with, and no cell outside it has been written. -/
structure Race.Inside (filler : α) (s : Race α) : Prop where
  size : s.ring.size = ringSize
  outside : ∀ i, ringSize.toNat ≤ i → s.ring.data i = filler

theorem raceStart_inside (filler : α) {before : List (List α)}
    (hfits : ∀ c ∈ before, c.length ≤ ringSize.toNat) : (raceStart filler before).Inside filler :=
  ⟨foldl_ringWrite_size before (ringInit filler), fun _ hi => foldl_ringWrite_bounds hfits hi⟩

/-- The copy of the writer is the only step that writes cells. -/
theorem Race.Inside.step {filler : α} {s t : Race α} (h : s.Inside filler) {m : Move α}
    (hstep : s.step m = some t) : t.Inside filler := by
  cases m with
  | copy data =>
    obtain ⟨⟨-, hlen⟩, hstep⟩ := Option.ite_none_right_eq_some.mp hstep
    obtain rfl := Option.some_inj.mp hstep
    refine ⟨h.size, fun i hi => ?_⟩
    rw [← h.outside i hi]
    exact ringCopy_bounds s.ring (hlen.trans s.ring.segment_le_size) (h.size ▸ hi)
  | publish =>
    simp only [Race.step] at hstep
    split at hstep
    · obtain rfl := Option.some_inj.mp hstep
      exact ⟨h.size, h.outside⟩
    · cases hstep
  | load disconnected =>
    simp only [Race.step] at hstep
    split at hstep
    · split at hstep
      · obtain rfl := Option.some_inj.mp hstep
        exact ⟨h.size, h.outside⟩
      · split at hstep <;> obtain rfl := Option.some_inj.mp hstep <;> exact ⟨h.size, h.outside⟩
    · cases hstep
  | copyOut | callback | advance =>
    simp only [Race.step] at hstep
    split at hstep
    · obtain rfl := Option.some_inj.mp hstep
      exact ⟨h.size, h.outside⟩
    · cases hstep

end Sdrgg.Ring
