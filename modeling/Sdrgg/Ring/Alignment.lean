import Sdrgg.Ring.Slots
import Sdrgg.Ring.Tearing

/-! The ring with its writer, the consumer threads of all its subscribers, and any number of threads
in `sdr::subscribe` and `sdr::unsubscribe`, callbacks of subscribers among them.  The samples of an I/Q
stream alternate between the two components: `Alternates I Q data` says that of a list of bytes, and the
ring never loses it. -/

namespace Sdrgg.Ring

open ProofKit ProofKit.Window

variable {α : Type}

/-- The ring, the values that its cells are ahead of its write position by, the slots, `read_pos` and
`sequence` of each slot, and for each consumer thread where it is in its loop and the buffers that
its callback received, oldest first. -/
structure Broadcast (α : Type) where
  ring : IqRing α
  unpublished : Option (List α)
  slots : Slots
  readPos : Nat → UInt32
  sequence : Nat → UInt32
  phase : Nat → Phase α
  received : Nat → List (SdrggBuffer α)

/-- A step of the writer, of a call of `subscribe`, with the outcome of `pthread_create` and of the
`malloc` in the new thread, of a call of `unsubscribe`, or of a consumer thread. -/
inductive Turn (α : Type) where
  | copy (data : List α)
  | publish
  | subscribe (created memory : Bool)
  | slots (step : SlotStep)
  | load (thread : Nat) (disconnected : Bool)
  | copyOut (thread : Nat)
  | callback (thread : Nat)
  | advance (thread : Nat)

namespace Broadcast

def setPhase (s : Broadcast α) (c : Nat) (phase : Phase α) : Broadcast α :=
  { s with phase := Function.update s.phase c phase }

def setReadPos (s : Broadcast α) (h : Nat) (pos : UInt32) : Broadcast α :=
  { s with readPos := Function.update s.readPos h pos }

/-- The first part of `subscribe` on slot `h`, before `pthread_create`. -/
def prepare (s : Broadcast α) (h : Nat) : Broadcast α :=
  { s.setReadPos h s.ring.writePos with sequence := Function.update s.sequence h 0 }

/-- The callback on the copy `data` in thread `c` of slot `h`. -/
def deliver (s : Broadcast α) (c h : Nat) (data : List α) : Broadcast α :=
  { s with
    sequence := Function.update s.sequence h (s.sequence h + 1)
    received := Function.update s.received c (s.received c ++ [bufferOf data (s.sequence h)]) }

/-- The slot of a consumer thread. -/
def slotOf (s : Broadcast α) (c : Nat) : Nat := (s.slots.consumer c).slot

/-- A thread is where it can call: a consumer thread is in its callback. -/
def atCall (s : Broadcast α) : Thread → Bool
  | .app _ | .reader _ => true
  | .consumer c =>
    match s.phase c with
    | .called _ => true
    | _ => false

/-- A step of `unsubscribe`, or the end of a consumer thread that has left its loop. -/
def slotStep (s : Broadcast α) : SlotStep → Option (Broadcast α)
  | .subscribe _ => none
  | .begin caller h =>
    if s.atCall caller then (s.slots.step (.begin caller h)).map fun slots => { s with slots }
    else none
  | .exit c =>
    match s.phase c with
    | .stopped => (s.slots.step (.exit c)).map fun slots => { s with slots }
    | _ => none
  | a => (s.slots.step a).map fun slots => { s with slots }

def step (s : Broadcast α) : Turn α → Option (Broadcast α)
  | .copy data =>
    if s.unpublished = none ∧ data.length ≤ s.ring.size.toNat then
      some { s with
        ring := { s.ring with data := ringCopy s.ring data }
        unpublished := some data }
    else none
  | .publish =>
    match s.unpublished with
    | some data =>
      some { s with
        ring := { s.ring with writePos := s.ring.writePos + UInt32.ofNat data.length }
        unpublished := none }
    | none => none
  | .subscribe created memory =>
    match s.slots.free with
    | none => some s
    | some h =>
      (s.slots.step (.subscribe created)).map fun slots =>
        let s' := if created then
            (s.prepare h).setPhase s.slots.born (if memory then .polling else .stopped)
          else s.prepare h
        { s' with slots }
  | .slots a => s.slotStep a
  | .load c disconnected =>
    match s.phase c with
    | .polling =>
      let h := s.slotOf c
      if (s.slots.slot h).cancel then some (s.setPhase c .stopped)
      else
        match poll s.ring (s.readPos h) with
        | none => some (s.setPhase c (if disconnected then .stopped else .polling))
        | some rp => some ((s.setReadPos h rp).setPhase c (.checked rp))
    | _ => none
  | .copyOut c =>
    match s.phase c with
    | .checked rp => some (s.setPhase c (.copied rp (Ring.copyOut s.ring rp)))
    | _ => none
  | .callback c =>
    match s.phase c with
    | .copied rp data => some ((s.deliver c (s.slotOf c) data).setPhase c (.called rp))
    | _ => none
  | .advance c =>
    match s.phase c with
    | .called rp =>
      -- the callback has returned, and so have its calls
      if s.slots.call (.consumer c) = .idle then
        some ((s.setReadPos (s.slotOf c) (rp + segmentSize)).setPhase c .polling)
      else none
    | _ => none

/-- A ring after `ring_init`, with no subscriber. -/
def start (filler : α) : Broadcast α where
  ring := ringInit filler
  unpublished := none
  slots := slotsInit
  readPos _ := 0
  sequence _ := 0
  phase _ := .stopped
  received _ := []

end Broadcast

/-- Each even index holds a value in `I` and each odd one a value in `Q`. -/
def Alternates (I Q : α → Prop) (data : List α) : Prop :=
  ∀ k (hk : k < data.length), (k % 2 = 0 → I data[k]) ∧ (k % 2 = 1 → Q data[k])

/-- A chunk of the transport: whole samples, the I component first. -/
def Samples (I Q : α → Prop) (data : List α) : Prop := data.length % 2 = 0 ∧ Alternates I Q data

/-- Which values a cell may hold by the parity of its index. -/
def component (I Q : α → Prop) (r : Nat) (a : α) : Prop := (r = 0 → I a) ∧ (r = 1 → Q a)

/-- The position of a segment under way, and its copy. -/
def Phase.Even (I Q : α → Prop) : Phase α → Prop
  | .checked rp | .called rp => rp.toNat % 2 = 0
  | .copied rp data => rp.toNat % 2 = 0 ∧ Alternates I Q data
  | .polling | .stopped => True

/-- All positions are even, and the cells and all copies of them alternate. -/
structure Broadcast.Aligned (I Q : α → Prop) (s : Broadcast α) : Prop where
  cells : Classed 2 s.ring.size.toNat (component I Q) s.ring.data
  writePos : s.ring.writePos.toNat % 2 = 0
  unpublished : ∀ data, s.unpublished = some data → data.length % 2 = 0
  readPos : ∀ h, (s.readPos h).toNat % 2 = 0
  phase : ∀ c, (s.phase c).Even I Q
  received : ∀ c, ∀ buf ∈ s.received c, Alternates I Q buf.data

variable {I Q : α → Prop}

theorem Alternates.mono {I' Q' : α → Prop} {data : List α} (h : Alternates I Q data)
    (hI : ∀ a, I a → I' a) (hQ : ∀ a, Q a → Q' a) : Alternates I' Q' data :=
  fun k hk => ⟨fun h0 => hI _ ((h k hk).1 h0), fun h1 => hQ _ ((h k hk).2 h1)⟩

theorem even_size (ring : IqRing α) : 2 ∣ ring.size.toNat := by
  obtain ⟨k, hlow, -, hk⟩ := ring.size_pow
  rw [hk]
  exact dvd_pow_self 2 (by omega)

/-- The wrap of a position keeps its parity. -/
theorem even_add {a b : UInt32} (ha : a.toNat % 2 = 0) (hb : b.toNat % 2 = 0) :
    (a + b).toNat % 2 = 0 := by
  rw [UInt32.toNat_add]
  omega

theorem even_ofNat {n : Nat} (h : n % 2 = 0) : (UInt32.ofNat n).toNat % 2 = 0 := by
  rw [UInt32.toNat_ofNat']
  omega

/-- The lag check finds an even position, the resynchronised one too. -/
theorem even_poll {ring : IqRing α} {readPos rp : UInt32} (hwrite : ring.writePos.toNat % 2 = 0)
    (hread : readPos.toNat % 2 = 0) (hpoll : poll ring readPos = some rp) : rp.toNat % 2 = 0 := by
  simp only [poll] at hpoll
  split at hpoll
  · cases hpoll
  · split at hpoll
    · obtain rfl := Option.some_inj.mp hpoll
      rw [UInt32.toNat_sub, segmentSize_toNat]
      omega
    · exact Option.some_inj.mp hpoll ▸ hread

theorem copyOut_alternates {ring : IqRing α} {rp : UInt32}
    (hcells : Classed 2 ring.size.toNat (component I Q) ring.data) (hrp : rp.toNat % 2 = 0) :
    Alternates I Q (copyOut ring rp) := by
  have hsize := ring.segment_le_size
  rw [copyOut_eq]
  intro k hk
  exact hcells.slice (even_size ring) (by omega) hrp k hk

theorem ringCopy_classed {ring : IqRing α} {data : List α}
    (hcells : Classed 2 ring.size.toNat (component I Q) ring.data)
    (hwrite : ring.writePos.toNat % 2 = 0) (hlen : data.length ≤ ring.size.toNat)
    (hdata : Alternates I Q data) :
    Classed 2 ring.size.toNat (component I Q) (ringCopy ring data) :=
  (ringCopy_puts ring hlen).classed (even_size ring) hwrite hdata hcells

theorem Broadcast.slotStep_eq {s t : Broadcast α} {a : SlotStep} (h : s.slotStep a = some t) :
    ∃ slots, t = { s with slots } := by
  unfold slotStep at h
  split at h
  · cases h
  · split at h
    · obtain ⟨slots, -, rfl⟩ := Option.map_eq_some_iff.mp h
      exact ⟨slots, rfl⟩
    · cases h
  · split at h
    · obtain ⟨slots, -, rfl⟩ := Option.map_eq_some_iff.mp h
      exact ⟨slots, rfl⟩
    · cases h
  · obtain ⟨slots, -, rfl⟩ := Option.map_eq_some_iff.mp h
    exact ⟨slots, rfl⟩

namespace Broadcast.Aligned

variable {s t : Broadcast α}

theorem start {filler : α} (hI : I filler) (hQ : Q filler) : (start filler).Aligned I Q where
  cells _ _ := ⟨fun _ => hI, fun _ => hQ⟩
  writePos := rfl
  unpublished _ h := nomatch h
  readPos _ := rfl
  phase _ := trivial
  received _ _ h := absurd h List.not_mem_nil

theorem setPhase (h : s.Aligned I Q) (c : Nat) {phase : Phase α} (hphase : phase.Even I Q) :
    (s.setPhase c phase).Aligned I Q := by
  refine { h with phase := fun d => ?_ }
  simp only [Broadcast.setPhase, Function.update_apply]
  split
  · exact hphase
  · exact h.phase d

theorem setReadPos (h : s.Aligned I Q) (k : Nat) {pos : UInt32} (hpos : pos.toNat % 2 = 0) :
    (s.setReadPos k pos).Aligned I Q := by
  refine { h with readPos := fun d => ?_ }
  simp only [Broadcast.setReadPos, Function.update_apply]
  split
  · exact hpos
  · exact h.readPos d

theorem prepare (h : s.Aligned I Q) (k : Nat) : (s.prepare k).Aligned I Q :=
  { h.setReadPos k h.writePos with }

theorem deliver (h : s.Aligned I Q) (c k : Nat) {data : List α} (hdata : Alternates I Q data) :
    (s.deliver c k data).Aligned I Q := by
  refine { h with received := fun d buf hbuf => ?_ }
  simp only [Broadcast.deliver, Function.update_apply] at hbuf
  split at hbuf
  · rcases List.mem_append.mp hbuf with hbuf | hbuf
    · exact h.received c buf hbuf
    · rw [List.mem_singleton.mp hbuf]
      exact hdata
  · exact h.received d buf hbuf

theorem withSlots (h : s.Aligned I Q) (slots : Slots) : Aligned I Q { s with slots } := { h with }

theorem copyChunk (h : s.Aligned I Q) {data : List α} (hlen : data.length ≤ s.ring.size.toNat)
    (hdata : Samples I Q data) :
    Aligned I Q { s with
      ring := { s.ring with data := ringCopy s.ring data }
      unpublished := some data } where
  cells := ringCopy_classed h.cells h.writePos hlen hdata.2
  writePos := h.writePos
  unpublished _ heq := Option.some_inj.mp heq ▸ hdata.1
  readPos := h.readPos
  phase := h.phase
  received := h.received

theorem publishChunk (h : s.Aligned I Q) {data : List α} (hsome : s.unpublished = some data) :
    Aligned I Q { s with
      ring := { s.ring with writePos := s.ring.writePos + UInt32.ofNat data.length }
      unpublished := none } where
  cells := h.cells
  writePos := even_add h.writePos (even_ofNat (h.unpublished data hsome))
  unpublished _ heq := nomatch heq
  readPos := h.readPos
  phase := h.phase
  received := h.received

/-- Every step of every thread keeps the ring aligned, when the chunks are. -/
theorem step (h : s.Aligned I Q) {a : Turn α} (hdata : ∀ data, a = .copy data → Samples I Q data)
    (hstep : s.step a = some t) : t.Aligned I Q := by
  cases a with
  | copy data =>
    simp only [Broadcast.step, Option.ite_none_right_eq_some, Option.some_inj] at hstep
    obtain ⟨hok, rfl⟩ := hstep
    exact h.copyChunk hok.2 (hdata data rfl)
  | publish =>
    simp only [Broadcast.step] at hstep
    split at hstep
    · obtain rfl := Option.some_inj.mp hstep
      exact h.publishChunk ‹_›
    · cases hstep
  | subscribe created memory =>
    simp only [Broadcast.step] at hstep
    split at hstep
    · exact Option.some_inj.mp hstep ▸ h
    · rename_i k _
      obtain ⟨slots, -, rfl⟩ := Option.map_eq_some_iff.mp hstep
      cases created
      · exact (h.prepare k).withSlots slots
      · exact ((h.prepare k).setPhase s.slots.born (by cases memory <;> trivial)).withSlots slots
  | slots a =>
    obtain ⟨slots, rfl⟩ := Broadcast.slotStep_eq hstep
    exact h.withSlots slots
  | load c disconnected =>
    simp only [Broadcast.step] at hstep
    split at hstep
    · split at hstep
      · exact Option.some_inj.mp hstep ▸ h.setPhase c trivial
      · split at hstep <;> obtain rfl := Option.some_inj.mp hstep
        · exact h.setPhase c (by cases disconnected <;> trivial)
        · rename_i hpoll
          have hrp := even_poll h.writePos (h.readPos _) hpoll
          exact (h.setReadPos _ hrp).setPhase c hrp
    · cases hstep
  | copyOut c =>
    simp only [Broadcast.step] at hstep
    split at hstep
    · rename_i rp hphase
      obtain rfl := Option.some_inj.mp hstep
      have hrp : rp.toNat % 2 = 0 := by simpa [hphase, Phase.Even] using h.phase c
      exact h.setPhase c ⟨hrp, copyOut_alternates h.cells hrp⟩
    · cases hstep
  | callback c =>
    simp only [Broadcast.step] at hstep
    split at hstep
    · rename_i rp data hphase
      obtain rfl := Option.some_inj.mp hstep
      have hcopy : rp.toNat % 2 = 0 ∧ Alternates I Q data := by
        simpa [hphase, Phase.Even] using h.phase c
      exact (h.deliver c _ hcopy.2).setPhase c hcopy.1
    · cases hstep
  | advance c =>
    simp only [Broadcast.step] at hstep
    split at hstep
    · rename_i rp hphase
      simp only [Option.ite_none_right_eq_some, Option.some_inj] at hstep
      obtain ⟨-, rfl⟩ := hstep
      have hrp : rp.toNat % 2 = 0 := by simpa [hphase, Phase.Even] using h.phase c
      exact (h.setReadPos _ (even_add hrp rfl)).setPhase c trivial
    · cases hstep

theorem run (h : s.Aligned I Q) {turns : List (Turn α)}
    (hchunks : ∀ data, .copy data ∈ turns → Samples I Q data)
    (hrun : run Broadcast.step s turns = some t) : t.Aligned I Q := by
  have hturns : ∀ a ∈ turns, ∀ data, a = .copy data → Samples I Q data :=
    fun _ ha data heq => hchunks data (heq ▸ ha)
  have halong : Along Broadcast.step (fun _ a => ∀ data, a = .copy data → Samples I Q data) s
      turns := Along.of_mem hturns s
  exact halong.invariant (fun _ _ _ h hdata hstep => h.step hdata hstep) h hrun

end Broadcast.Aligned

/-- When the transport hands over whole samples, in every interleaving each even index of every buffer
that any subscriber's callback receives holds an I value or the initial filler, and each odd one a Q
value or the filler. -/
theorem delivered_alternates {filler : α} {turns : List (Turn α)} {t : Broadcast α}
    (hchunks : ∀ data, .copy data ∈ turns → Samples I Q data)
    (hrun : run Broadcast.step (.start filler) turns = some t) (c : Nat) :
    ∀ buf ∈ t.received c,
      Alternates (fun a => I a ∨ a = filler) (fun a => Q a ∨ a = filler) buf.data :=
  ((Broadcast.Aligned.start (.inr rfl) (.inr rfl)).run
    (fun data hdata => ⟨(hchunks data hdata).1,
      (hchunks data hdata).2.mono (fun _ => .inl) (fun _ => .inl)⟩) hrun).received c

/-- One iteration of a consumer thread that finds a segment. -/
theorem Broadcast.run_deliver {s : Broadcast α} {c : Nat} {rp : UInt32}
    (hphase : s.phase c = .polling) (hcancel : (s.slots.slot (s.slotOf c)).cancel = false)
    (hpoll : poll s.ring (s.readPos (s.slotOf c)) = some rp) : ∃ t,
    run step s [.load c false, .copyOut c, .callback c] = some t ∧
    t.received c = s.received c ++ [bufferOf (Ring.copyOut s.ring rp) (s.sequence (s.slotOf c))] := by
  rw [slotOf] at hcancel hpoll
  simp [step, setPhase, setReadPos, deliver, slotOf, hphase, hcancel, hpoll]

/-- The first subscriber of a new ring, and a chunk. -/
theorem Broadcast.run_chunk (filler : α) {data : List α} (hlen : data.length ≤ 4194304) : ∃ s,
    run step (.start filler) [.subscribe true true, .copy data, .publish] = some s ∧
    s.phase 0 = .polling ∧ (s.slots.slot (s.slotOf 0)).cancel = false ∧
    s.readPos (s.slotOf 0) = 0 ∧ s.received 0 = [] ∧
    s.ring = ringWrite (ringInit filler) data := by
  have hfree : slotsInit.free = some 0 := by decide
  have hsub : step (start filler) (.subscribe true true) =
      some { ((start filler).prepare 0).setPhase 0 .polling with slots := slotsInit.occupy 0 } := by
    simp only [step, start, Slots.step, hfree, Option.map_some, ↓reduceIte]
    rfl
  have hfits : data.length ≤ (ringInit filler).size.toNat := hlen
  refine ⟨{ ((start filler).prepare 0).setPhase 0 .polling with
    slots := slotsInit.occupy 0
    ring := ringWrite (ringInit filler) data }, ?_, rfl, rfl, rfl, rfl, rfl⟩
  rw [run_cons, hsub, Option.bind_some, run_cons]
  simp [step, start, prepare, setPhase, setReadPos, hfits, ringWrite]

/-- A subscriber of a new ring receives a segment of alternating samples. -/
theorem delivered_alternates_segment : ∃ t,
    run Broadcast.step (.start (128 : UInt8))
      [.subscribe true true, .copy ((List.range 16384).map fun k => if k % 2 = 0 then 1 else 2),
        .publish, .load 0 false, .copyOut 0, .callback 0] = some t ∧
    (t.received 0).length = 1 ∧ ∀ buf ∈ t.received 0,
      Alternates (fun a => a = 1 ∨ a = 128) (fun a => a = 2 ∨ a = 128) buf.data := by
  generalize hdata : ((List.range 16384).map fun k => if k % 2 = 0 then (1 : UInt8) else 2) = data
  have hlen : data.length = 16384 := by rw [← hdata, List.length_map, List.length_range]
  obtain ⟨s, hchunk, hphase, hcancel, hread, hrec, hring⟩ :=
    @Broadcast.run_chunk UInt8 128 data (by omega)
  have hpoll : poll s.ring (s.readPos (s.slotOf 0)) = some 0 := by
    have hpos : s.ring.writePos = UInt32.ofNat 16384 := by rw [hring, ringWrite, hlen]; rfl
    have hsize : s.ring.size = ringSize := by rw [hring]; rfl
    have h := @poll_eq _ _ _ 0 hpos (Nat.zero_le _)
    rw [hsize] at h
    rw [hread]
    exact h
  obtain ⟨t, hdeliver, hreceived⟩ := Broadcast.run_deliver hphase hcancel hpoll
  have hrun := run_append_eq hchunk hdeliver
  refine ⟨t, hrun, by rw [hreceived, hrec]; rfl, ?_⟩
  refine @delivered_alternates UInt8 (· = 1) (· = 2) 128 _ t (fun chunk hchunk => ?_) hrun 0
  obtain rfl : chunk = data := by simpa using hchunk
  refine ⟨by rw [hlen], fun k hk => ?_⟩
  subst hdata
  simp only [List.getElem_map, List.getElem_range]
  constructor <;> intro h <;> simp [h]

end Sdrgg.Ring
