import Sdrgg.ProofKit.Window
import Mathlib.Tactic.Ring

/-! The IQ ring of `sdrgg_ring.cpp`: `ring_write`, and the steps of `consumer_thread_fn` on the ring.
`Records ring stream` relates the cells and the 32-bit write position of a ring to the stream of all
values written to it. -/

namespace Sdrgg.Ring

open ProofKit.Window

/-- `SDRGG_RING_SIZE`. -/
def ringSize : UInt32 := 4 * 1024 * 1024

/-- `segment_size` in `consumer_thread_fn`: the bytes of one delivery. -/
def segmentSize : UInt32 := 16384

/-- `iq_ring` without its subscribers: the cells, their number, which is a power of two that holds
at least one segment, and the position after the last value written, modulo `2^32`. -/
structure IqRing (α : Type) where
  data : Nat → α
  size : UInt32
  writePos : UInt32
  size_pow : ∃ k, 14 ≤ k ∧ k < 32 ∧ size.toNat = 2 ^ k

/-- `ring_init`: every cell holds `filler`, which is the byte 128 in the source. -/
def ringInit {α : Type} (filler : α) : IqRing α where
  data _ := filler
  size := ringSize
  writePos := 0
  size_pow := ⟨22, by decide, by decide, by decide⟩

/-- The part of `iq_subscriber` that the consumer thread works on. -/
structure IqSubscriber where
  cancel : Bool
  readPos : UInt32
  sequence : UInt32
deriving DecidableEq, Repr

/-- `sdrgg_buffer_t`: what a callback receives. -/
structure SdrggBuffer (α : Type) where
  data : List α
  length : UInt32
  timestampUs : UInt64
  sequence : UInt32
deriving DecidableEq, Repr

variable {α : Type}

/-- `memcpy` of `src` to the cells from `dst` on. -/
def memcpy (cells : Nat → α) (dst : Nat) (src : List α) : Nat → α := fun i =>
  if h : dst ≤ i ∧ i - dst < src.length then src[i - dst] else cells i

/-- `memcpy` of `n` cells from `start` on into a buffer. -/
def memread (cells : Nat → α) (start n : Nat) : List α := (List.range n).map fun j => cells (start + j)

/-- The copy of `ring_write`: the cells after `data` is in the ring and before it is published. -/
def ringCopy (ring : IqRing α) (data : List α) : Nat → α :=
  let len := UInt32.ofNat data.length
  let wp := ring.writePos
  let mask := ring.size - 1
  let first := ring.size - (wp &&& mask)
  if first ≥ len then
    memcpy ring.data (wp &&& mask).toNat data
  else
    memcpy (memcpy ring.data (wp &&& mask).toNat (data.take first.toNat)) 0 (data.drop first.toNat)

/-- `ring_write`. -/
def ringWrite (ring : IqRing α) (data : List α) : IqRing α :=
  { ring with
    data := ringCopy ring data
    writePos := ring.writePos + UInt32.ofNat data.length }

/-- The load of `write_pos` and the lag check of `consumer_thread_fn`: none when less than a segment
is available, and otherwise the position to read from. -/
def poll (ring : IqRing α) (readPos : UInt32) : Option UInt32 :=
  let wp := ring.writePos
  let avail := wp - readPos
  if avail < segmentSize then none
  else if avail > ring.size then some (wp - segmentSize)
  else some readPos

/-- The copy of one segment out of the ring. -/
def copyOut (ring : IqRing α) (rp : UInt32) : List α :=
  let mask := ring.size - 1
  let start := rp &&& mask
  let first := ring.size - start
  if first ≥ segmentSize then
    memread ring.data start.toNat segmentSize.toNat
  else
    memread ring.data start.toNat first.toNat ++ memread ring.data 0 (segmentSize - first).toNat

/-- The descriptor that `consumer_thread_fn` passes to the callback. -/
def bufferOf (data : List α) (sequence : UInt32) : SdrggBuffer α := ⟨data, segmentSize, 0, sequence⟩

/-- How one iteration of `consumer_thread_fn` ends: it leaves the loop, it sleeps, or it passes a
buffer to the callback and moves on. -/
inductive Iteration (α : Type) where
  | stop
  | sleep
  | deliver (buf : SdrggBuffer α) (sub : IqSubscriber)

/-- One iteration of the loop of `consumer_thread_fn`, where `disconnected` is the test of
`dev->health`. -/
def consumerIteration (ring : IqRing α) (sub : IqSubscriber) (disconnected : Bool) : Iteration α :=
  if sub.cancel then .stop
  else
    match poll ring sub.readPos with
    | none => if disconnected then .stop else .sleep
    | some rp =>
      .deliver (bufferOf (copyOut ring rp) sub.sequence)
        { sub with sequence := sub.sequence + 1, readPos := rp + segmentSize }

/-- What `sdr::subscribe` sets for a new subscriber. -/
def subscribeTo (ring : IqRing α) : IqSubscriber := ⟨false, ring.writePos, 0⟩

/-! ### Sizes and positions -/

@[simp] theorem segmentSize_toNat : segmentSize.toNat = 16384 := rfl

section Sizes

variable (ring : IqRing α)

theorem IqRing.segment_le_size : 16384 ≤ ring.size.toNat := by
  obtain ⟨k, hlow, -, hk⟩ := ring.size_pow
  rw [hk]
  exact Nat.pow_le_pow_right (n := 2) (by decide) hlow

theorem IqRing.size_dvd : ring.size.toNat ∣ 2 ^ 32 := by
  obtain ⟨k, -, hhigh, hk⟩ := ring.size_pow
  rw [hk]
  exact pow_dvd_pow 2 (Nat.le_of_lt hhigh)

theorem IqRing.size_lt : ring.size.toNat < 2 ^ 32 := ring.size.toNat_lt

/-- The mask `size - 1` takes a position modulo the size. -/
theorem IqRing.mask_toNat (pos : UInt32) :
    (pos &&& (ring.size - 1)).toNat = pos.toNat % ring.size.toNat := by
  have hpos := ring.segment_le_size
  obtain ⟨k, -, -, hk⟩ := ring.size_pow
  have hone : (1 : UInt32) ≤ ring.size := UInt32.le_iff_toNat_le.mpr (by simp; omega)
  rw [UInt32.toNat_and, UInt32.toNat_sub_of_le _ _ hone, hk]
  exact Nat.and_two_pow_sub_one_eq_mod _ k

theorem IqRing.mod_size (n : Nat) : (UInt32.ofNat n).toNat % ring.size.toNat = n % ring.size.toNat := by
  rw [UInt32.toNat_ofNat']
  exact Nat.mod_mod_of_dvd n ring.size_dvd

/-- The cells from a masked position to the end of the ring. -/
theorem IqRing.first_toNat (pos : UInt32) :
    (ring.size - (pos &&& (ring.size - 1))).toNat =
      ring.size.toNat - pos.toNat % ring.size.toNat := by
  have hlt := Nat.mod_lt pos.toNat (show ring.size.toNat > 0 by have := ring.segment_le_size; omega)
  rw [UInt32.toNat_sub_of_le _ _ (UInt32.le_iff_toNat_le.mpr (by rw [ring.mask_toNat]; omega)),
    ring.mask_toNat]

end Sizes

/-- The distance between two positions that stand for counts less than `2^32` apart is the distance
of the counts modulo `2^32`. -/
theorem toNat_ofNat_sub {a b : Nat} (h : b ≤ a) :
    (UInt32.ofNat a - UInt32.ofNat b).toNat = (a - b) % 2 ^ 32 := by
  simp only [UInt32.toNat_sub, UInt32.toNat_ofNat']
  omega

/-! ### The lag check -/

/-- How far behind the write position `consumer_thread_fn` reads when the positions are `avail`
apart. -/
def reach (size avail : Nat) : Nat := if size < avail then 16384 else avail

theorem le_reach {size avail : Nat} (h : 16384 ≤ avail) : 16384 ≤ reach size avail := by
  unfold reach
  split <;> omega

theorem reach_le_size {size avail : Nat} (h : 16384 ≤ size) : reach size avail ≤ size := by
  unfold reach
  split <;> omega

theorem reach_le {size avail : Nat} (h : 16384 ≤ avail) : reach size avail ≤ avail := by
  unfold reach
  split <;> omega

/-- With positions that stand for `len` and `readIndex`, the lag check finds the position `reach`
values before `len`. -/
theorem poll_eq {ring : IqRing α} {len readIndex : Nat} (hpos : ring.writePos = UInt32.ofNat len)
    (hle : readIndex ≤ len) :
    poll ring (UInt32.ofNat readIndex) =
      if (len - readIndex) % 2 ^ 32 < 16384 then none
      else some (UInt32.ofNat (len - reach ring.size.toNat ((len - readIndex) % 2 ^ 32))) := by
  have havail := toNat_ofNat_sub hle
  simp only [poll, hpos, gt_iff_lt, UInt32.lt_iff_toNat_lt, havail, segmentSize_toNat, reach]
  split
  · rfl
  · rename_i hfull
    have hmod := Nat.div_add_mod (len - readIndex) (2 ^ 32)
    split <;> rw [Option.some_inj, ← UInt32.toNat_inj]
    · simp only [UInt32.toNat_sub, UInt32.toNat_ofNat', segmentSize_toNat]
      omega
    · simp only [UInt32.toNat_ofNat']
      omega

/-! ### The copies -/

theorem memcpy_of_lt {cells : Nat → α} {dst j : Nat} {src : List α} (h : j < src.length) :
    memcpy cells dst src (dst + j) = src[j] := by
  simp [memcpy, h]

theorem memcpy_of_outside {cells : Nat → α} {dst i : Nat} {src : List α}
    (h : i < dst ∨ dst + src.length ≤ i) : memcpy cells dst src i = cells i := by
  have : ¬(dst ≤ i ∧ i - dst < src.length) := by omega
  simp [memcpy, this]

/-- The copy of `ring_write` puts the chunk in the cells from the write position on. -/
theorem ringCopy_puts (ring : IqRing α) {data : List α} (h : data.length ≤ ring.size.toNat) :
    Puts ring.size.toNat ring.data (ringCopy ring data) ring.writePos.toNat data := by
  have hsize := ring.segment_le_size
  have hlen : (UInt32.ofNat data.length).toNat = data.length := by
    rw [UInt32.toNat_ofNat', Nat.mod_eq_of_lt (by have := ring.size_lt; omega)]
  have hoff := Nat.mod_lt ring.writePos.toNat (show ring.size.toNat > 0 by omega)
  apply Puts.pos_mod
  simp only [ringCopy, ge_iff_le, UInt32.le_iff_toNat_le, ring.first_toNat, ring.mask_toNat, hlen]
  generalize ring.writePos.toNat % ring.size.toNat = off at hoff ⊢
  generalize ring.size.toNat = n at *
  split
  · rename_i hfits
    refine ⟨fun j hj => ?_, fun i hi hne => memcpy_of_outside ?_⟩
    · rw [Nat.mod_eq_of_lt (show off + j < n by omega)]
      exact memcpy_of_lt hj
    · by_contra hin
      refine hne (i - off) (by omega) ?_
      rw [Nat.mod_eq_of_lt] <;> omega
  · rename_i hsplit
    refine ⟨fun j hj => ?_, fun i hi hne => ?_⟩
    · by_cases hend : off + j < n
      · rw [Nat.mod_eq_of_lt hend, memcpy_of_outside (by simp; omega),
          memcpy_of_lt (by simp; omega), List.getElem_take]
      · rw [Nat.mod_eq_sub_mod (by omega), Nat.mod_eq_of_lt (by omega)]
        have hput := @memcpy_of_lt α (memcpy ring.data off (data.take (n - off))) 0
          (off + j - n) (data.drop (n - off)) (by simp; omega)
        rw [Nat.zero_add] at hput
        rw [hput, List.getElem_drop]
        congr 1
        omega
    · have hlow : data.length - (n - off) ≤ i := by
        by_contra hin
        refine hne (i + n - off) (by omega) ?_
        rw [show off + (i + n - off) = i + n by omega, Nat.add_mod_right, Nat.mod_eq_of_lt hi]
      have hhigh : i < off := by
        by_contra hin
        refine hne (i - off) (by omega) ?_
        rw [Nat.mod_eq_of_lt] <;> omega
      rw [memcpy_of_outside (by simp; omega), memcpy_of_outside (by omega)]

/-- `ring_write` stays inside the ring's memory. -/
theorem ringCopy_bounds (ring : IqRing α) {data : List α} (h : data.length ≤ ring.size.toNat)
    {i : Nat} (hi : ring.size.toNat ≤ i) : ringCopy ring data i = ring.data i := by
  have hsize := ring.segment_le_size
  have hlen : (UInt32.ofNat data.length).toNat = data.length := by
    rw [UInt32.toNat_ofNat', Nat.mod_eq_of_lt (by have := ring.size_lt; omega)]
  have hoff := Nat.mod_lt ring.writePos.toNat (show ring.size.toNat > 0 by omega)
  simp only [ringCopy, ge_iff_le, UInt32.le_iff_toNat_le, ring.first_toNat, ring.mask_toNat, hlen]
  split
  · exact memcpy_of_outside (by omega)
  · rw [memcpy_of_outside (by simp; omega), memcpy_of_outside (by simp; omega)]

/-- The copy out of the ring reads the cells from the read position on. -/
theorem copyOut_eq (ring : IqRing α) (rp : UInt32) :
    copyOut ring rp = slice ring.size.toNat ring.data rp.toNat 16384 := by
  have hsize := ring.segment_le_size
  have hoff := Nat.mod_lt rp.toNat (show ring.size.toNat > 0 by omega)
  rw [slice_congr (Nat.mod_mod rp.toNat ring.size.toNat).symm]
  have hrest : 16384 > ring.size.toNat - rp.toNat % ring.size.toNat →
      (segmentSize - (ring.size - (rp &&& (ring.size - 1)))).toNat =
        16384 - (ring.size.toNat - rp.toNat % ring.size.toNat) := by
    intro hsplit
    rw [UInt32.toNat_sub_of_le _ _ (UInt32.le_iff_toNat_le.mpr (by
      rw [ring.first_toNat, segmentSize_toNat]; omega)), ring.first_toNat, segmentSize_toNat]
  simp only [copyOut, ge_iff_le, UInt32.le_iff_toNat_le, ring.first_toNat, ring.mask_toNat,
    segmentSize_toNat]
  split
  · generalize rp.toNat % ring.size.toNat = off at *
    refine List.map_congr_left fun j hj => ?_
    have := List.mem_range.mp hj
    rw [Nat.mod_eq_of_lt (by omega)]
  · rename_i hsplit
    rw [hrest (by omega)]
    generalize rp.toNat % ring.size.toNat = off at *
    generalize ring.size.toNat = n at *
    apply List.ext_getElem
    · simp only [memread, slice_length, List.length_append, List.length_map, List.length_range]
      omega
    · intro j hj _
      simp only [memread, List.length_append, List.length_map, List.length_range] at hj
      simp only [memread, slice, List.getElem_append, List.getElem_map, List.getElem_range,
        List.length_map, List.length_range]
      split
      · rw [Nat.mod_eq_of_lt (by omega)]
      · rw [Nat.mod_eq_sub_mod (by omega), Nat.mod_eq_of_lt (by omega)]
        congr 1
        omega

/-! ### The stream in the ring -/

/-- The ring holds the last values of `stream` and its write position counts them. -/
structure Records (ring : IqRing α) (stream : List α) : Prop where
  holds : Holds ring.size.toNat ring.data stream
  writePos : ring.writePos = UInt32.ofNat stream.length

theorem ringInit_records (filler : α) : Records (ringInit filler) [] := ⟨holds_nil, rfl⟩

/-- Copying a chunk makes the cells hold the stream with the chunk, published or not. -/
theorem Records.copy {ring : IqRing α} {stream : List α} (h : Records ring stream) {data : List α}
    (hlen : data.length ≤ ring.size.toNat) :
    Holds ring.size.toNat (ringCopy ring data) (stream ++ data) := by
  have hpos : 0 < ring.size.toNat := by have := ring.segment_le_size; omega
  refine h.holds.append (Puts.pos_mod ?_) hpos
  have hputs := ringCopy_puts ring hlen
  rw [h.writePos, UInt32.toNat_ofNat'] at hputs
  have hmod : stream.length % 2 ^ 32 % ring.size.toNat = stream.length % ring.size.toNat :=
    Nat.mod_mod_of_dvd _ ring.size_dvd
  refine ⟨fun j hj => ?_, fun i hi hne => hputs.keep i hi fun j hj => ?_⟩
  · rw [← hputs.put j hj, Nat.mod_add_mod, Nat.add_mod (stream.length % 2 ^ 32), hmod, ← Nat.add_mod]
  · rw [Nat.add_mod, hmod, ← Nat.add_mod]
    have := hne j hj
    rwa [Nat.mod_add_mod] at this

/-- `ring_write` appends the chunk to the stream. -/
theorem Records.write {ring : IqRing α} {stream : List α} (h : Records ring stream)
    {data : List α} (hlen : data.length ≤ ring.size.toNat) :
    Records (ringWrite ring data) (stream ++ data) := by
  refine ⟨h.copy hlen, ?_⟩
  simp only [ringWrite, h.writePos, List.length_append]
  apply UInt32.toNat_inj.mp
  simp

@[simp] theorem ringWrite_size (ring : IqRing α) (data : List α) :
    (ringWrite ring data).size = ring.size := rfl

theorem foldl_ringWrite_records {chunks : List (List α)} {ring : IqRing α} {stream : List α}
    (h : Records ring stream) (hfits : ∀ c ∈ chunks, c.length ≤ ring.size.toNat) :
    Records (chunks.foldl ringWrite ring) (stream ++ chunks.flatten) := by
  induction chunks generalizing ring stream with
  | nil => simpa using h
  | cons c cs ih =>
    have hc := h.write (hfits c (by simp))
    simpa using ih hc fun d hd => hfits d (List.mem_cons_of_mem c hd)

theorem foldl_ringWrite_size (chunks : List (List α)) (ring : IqRing α) :
    (chunks.foldl ringWrite ring).size = ring.size := by
  induction chunks generalizing ring with
  | nil => rfl
  | cons c cs ih => exact (ih (ringWrite ring c)).trans (ringWrite_size ring c)

theorem foldl_ringWrite_bounds {chunks : List (List α)} {ring : IqRing α}
    (hfits : ∀ c ∈ chunks, c.length ≤ ring.size.toNat) {i : Nat} (hi : ring.size.toNat ≤ i) :
    (chunks.foldl ringWrite ring).data i = ring.data i := by
  induction chunks generalizing ring with
  | nil => rfl
  | cons c cs ih =>
    obtain ⟨hc, hcs⟩ := List.forall_mem_cons.mp hfits
    exact (@ih (ringWrite ring c) hcs hi).trans (ringCopy_bounds ring hc hi)

end Sdrgg.Ring
