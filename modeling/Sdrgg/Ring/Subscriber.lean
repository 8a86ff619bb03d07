import Sdrgg.Ring.Alignment

/-! Each subscriber of a ring as if it were the only one: what one consumer thread does, however the
other threads run, is a run of the writer and one consumer. -/

namespace Sdrgg.Ring

open ProofKit ProofKit.Window

variable {α : Type}

/-- The values that a turn copies into the ring. -/
def Turn.chunk : Turn α → List α
  | .copy data => data
  | _ => []

/-- What a turn is to consumer thread `c`: a move of the writer, a move of its own, or nothing. -/
def Turn.seen (c : Nat) : Turn α → Option (Move α)
  | .copy data => some (.copy data)
  | .publish => some .publish
  | .load d disconnected => if d = c then some (.load disconnected) else none
  | .copyOut d => if d = c then some .copyOut else none
  | .callback d => if d = c then some .callback else none
  | .advance d => if d = c then some .advance else none
  | .subscribe _ _ | .slots _ => none

namespace Broadcast

/-- The writer copies at most 16384 values at a time, as both reader threads do, and no two calls of
`unsubscribe` are at work on one slot, nor one in a thread that would have to wait for itself. -/
def Ordered (s : Broadcast α) : Turn α → Prop
  | .copy data => data.length ≤ 16384
  | .slots a => s.slots.Alone a
  | _ => True

/-- The slots are owned, a thread in its loop is alive, and one that is yet to be created has received
nothing. -/
structure Threads (s : Broadcast α) : Prop where
  slots : s.slots.Inv
  live : ∀ c, s.phase c ≠ .stopped → (s.slots.consumer c).live = true
  unborn : ∀ c, s.slots.born ≤ c → s.received c = []

theorem setPhase_self (s : Broadcast α) (c : Nat) (phase : Phase α) :
    (s.setPhase c phase).phase c = phase := Function.update_self _ _ _

/-- What a step of `unsubscribe` leaves of the threads. -/
theorem slots_step_threads {s t : Slots} {a : SlotStep} (hsub : ∀ b, a ≠ .subscribe b)
    (hexit : ∀ c, a ≠ .exit c) (hstep : s.step a = some t) :
    t.born = s.born ∧ ∀ c, (t.consumer c).live = (s.consumer c).live ∧
      (t.consumer c).slot = (s.consumer c).slot := by
  cases a with
  | subscribe b => exact absurd rfl (hsub b)
  | exit c => exact absurd rfl (hexit c)
  | begin caller h =>
    simp only [Slots.step] at hstep
    split at hstep
    · obtain rfl := Option.some_inj.mp hstep
      split <;> exact ⟨rfl, fun _ => ⟨rfl, rfl⟩⟩
    · cases hstep
  | test caller =>
    simp only [Slots.step] at hstep
    split at hstep
    · obtain rfl := Option.some_inj.mp hstep
      exact ⟨rfl, fun _ => ⟨rfl, rfl⟩⟩
    · cases hstep
  | join caller =>
    simp only [Slots.step] at hstep
    split at hstep
    · split at hstep
      · obtain rfl := Option.some_inj.mp hstep
        exact ⟨rfl, fun _ => ⟨rfl, rfl⟩⟩
      split at hstep
      · cases hstep
      · obtain rfl := Option.some_inj.mp hstep
        refine ⟨rfl, fun c => ?_⟩
        simp only [Slots.setCall, Slots.setConsumer, Function.update_apply]
        split <;> simp_all
    · cases hstep
  | clear caller =>
    simp only [Slots.step] at hstep
    split at hstep
    · obtain rfl := Option.some_inj.mp hstep
      exact ⟨rfl, fun _ => ⟨rfl, rfl⟩⟩
    · cases hstep
  | finish caller =>
    simp only [Slots.step] at hstep
    split at hstep
    · obtain rfl := Option.some_inj.mp hstep
      exact ⟨rfl, fun _ => ⟨rfl, rfl⟩⟩
    · cases hstep

/-- A step of `unsubscribe`, or the end of a thread that has left its loop: threads keep their slots,
and those in their loops stay alive. -/
theorem slotStep_spec {s t : Broadcast α} {a : SlotStep} (hstep : s.slotStep a = some t) :
    ∃ slots, s.slots.step a = some slots ∧ t = { s with slots } ∧ slots.born = s.slots.born ∧
      ∀ c, (slots.consumer c).slot = (s.slots.consumer c).slot ∧
        (s.phase c ≠ .stopped → (slots.consumer c).live = (s.slots.consumer c).live) := by
  cases a with
  | subscribe b => cases hstep
  | exit d =>
    simp only [slotStep] at hstep
    split at hstep
    · rename_i hphase
      obtain ⟨slots, hslots, rfl⟩ := Option.map_eq_some_iff.mp hstep
      refine ⟨slots, hslots, rfl, ?_⟩
      simp only [Slots.step] at hslots
      split at hslots
      · obtain rfl := Option.some_inj.mp hslots
        refine ⟨rfl, fun c => ?_⟩
        simp only [Slots.setConsumer, Function.update_apply]
        split
        · rename_i heq
          exact ⟨by rw [heq], fun hrun => absurd (heq ▸ hphase) hrun⟩
        · exact ⟨rfl, fun _ => rfl⟩
      · cases hslots
    · cases hstep
  | begin caller h =>
    simp only [slotStep, Option.ite_none_right_eq_some, Option.map_eq_some_iff] at hstep
    obtain ⟨-, slots, hslots, rfl⟩ := hstep
    obtain ⟨hborn, hkept⟩ := slots_step_threads (by simp) (by simp) hslots
    exact ⟨slots, hslots, rfl, hborn, fun c => ⟨(hkept c).2, fun _ => (hkept c).1⟩⟩
  | test caller | join caller | clear caller | finish caller =>
    obtain ⟨slots, hslots, rfl⟩ := Option.map_eq_some_iff.mp hstep
    obtain ⟨hborn, hkept⟩ := slots_step_threads (by simp) (by simp) hslots
    exact ⟨slots, hslots, rfl, hborn, fun c => ⟨(hkept c).2, fun _ => (hkept c).1⟩⟩

/-- A subscriber and its thread, when there is a slot and `pthread_create` succeeds. -/
theorem step_subscribe {s t : Broadcast α} {created memory : Bool}
    (hstep : s.step (.subscribe created memory) = some t) :
    (s.slots.free = none ∧ t = s) ∨
      (∃ h, s.slots.free = some h ∧ created = false ∧
        t = { s.prepare h with slots := s.slots.setSlot h { s.slots.slot h with cancel := false } }) ∨
      ∃ h, s.slots.free = some h ∧ created = true ∧
        t = { (s.prepare h).setPhase s.slots.born (if memory then .polling else .stopped) with
          slots := s.slots.occupy h } := by
  simp only [step] at hstep
  split at hstep
  · exact .inl ⟨‹_›, (Option.some_inj.mp hstep).symm⟩
  · rename_i h hfree
    obtain ⟨slots, hslots, rfl⟩ := Option.map_eq_some_iff.mp hstep
    simp only [Slots.step, hfree, Option.some_inj] at hslots
    subst hslots
    cases created
    · exact .inr (.inl ⟨h, hfree, rfl, rfl⟩)
    · exact .inr (.inr ⟨h, hfree, rfl, rfl⟩)

/-- The end of an iteration, whose callback has returned. -/
theorem step_advance {s t : Broadcast α} {c : Nat} (hstep : s.step (.advance c) = some t) :
    ∃ rp, s.phase c = .called rp ∧
      t = (s.setReadPos (s.slotOf c) (rp + segmentSize)).setPhase c .polling := by
  simp only [step] at hstep
  split at hstep
  · rename_i rp hphase
    simp only [Option.ite_none_right_eq_some, Option.some_inj] at hstep
    exact ⟨rp, hphase, hstep.2.symm⟩
  · cases hstep

theorem start_threads (filler : α) : (start filler).Threads where
  slots := slotsInit_inv
  live _ h := absurd rfl h
  unborn _ _ := rfl

/-- A step of a consumer changes its phase, from one in its loop, and nobody else's. -/
theorem Threads.setPhase {s t : Broadcast α} (hs : s.Threads) {c : Nat} {phase : Phase α}
    (hrunning : s.phase c ≠ .stopped) (hslots : t.slots = s.slots)
    (hphase : t.phase = Function.update s.phase c phase)
    (hreceived : ∀ d, d ≠ c → t.received d = s.received d) : t.Threads where
  slots := hslots ▸ hs.slots
  live d hd := by
    rw [hslots]
    by_cases heq : d = c
    · exact heq ▸ hs.live c hrunning
    · rw [hphase, Function.update_of_ne heq] at hd
      exact hs.live d hd
  unborn d hd := by
    rw [hslots] at hd
    have hne : d ≠ c := by
      rintro rfl
      exact absurd (hs.live d hrunning) (by rw [(hs.slots.unborn d hd).1]; decide)
    rw [hreceived d hne]
    exact hs.unborn d hd

theorem Threads.step {s t : Broadcast α} (hs : s.Threads) {a : Turn α} (ha : s.Ordered a)
    (hstep : s.step a = some t) : t.Threads := by
  cases a with
  | copy data =>
    simp only [Broadcast.step, Option.ite_none_right_eq_some, Option.some_inj] at hstep
    obtain ⟨-, rfl⟩ := hstep
    exact { hs with }
  | publish =>
    simp only [Broadcast.step] at hstep
    split at hstep
    · obtain rfl := Option.some_inj.mp hstep
      exact { hs with }
    · cases hstep
  | subscribe created memory =>
    obtain ⟨-, rfl⟩ | ⟨h, hfree, -, rfl⟩ | ⟨h, hfree, -, rfl⟩ := step_subscribe hstep
    · exact hs
    · exact ⟨hs.slots.setCancel h false, hs.live, hs.unborn⟩
    · refine ⟨hs.slots.occupy (Slots.free_spec hfree).2, fun c hc => ?_, fun c hc => ?_⟩
      · simp only [Broadcast.setPhase, Function.update_apply] at hc
        simp only [Slots.occupy, Slots.setConsumer, Function.update_apply]
        split
        · rfl
        · rename_i hne
          rw [if_neg hne] at hc
          exact hs.live c hc
      · exact hs.unborn c (Nat.le_of_succ_le hc)
  | slots a =>
    obtain ⟨slots, hslots, rfl, hborn, hkept⟩ := slotStep_spec hstep
    exact
      { slots := hs.slots.step ha hslots
        live := fun c hc => ((hkept c).2 hc).trans (hs.live c hc)
        unborn := fun c hc => hs.unborn c (by rw [← hborn]; exact hc) }
  | load c disconnected =>
    simp only [Broadcast.step] at hstep
    split at hstep
    · rename_i hphase
      have hrunning : s.phase c ≠ .stopped := by simp [hphase]
      split at hstep
      · obtain rfl := Option.some_inj.mp hstep
        exact hs.setPhase hrunning rfl rfl fun _ _ => rfl
      · split at hstep <;> obtain rfl := Option.some_inj.mp hstep
        · exact hs.setPhase hrunning rfl rfl fun _ _ => rfl
        · exact hs.setPhase hrunning rfl rfl fun _ _ => rfl
    · cases hstep
  | copyOut c =>
    simp only [Broadcast.step] at hstep
    split at hstep
    · rename_i hphase
      obtain rfl := Option.some_inj.mp hstep
      exact hs.setPhase (by simp [hphase]) rfl rfl fun _ _ => rfl
    · cases hstep
  | callback c =>
    simp only [Broadcast.step] at hstep
    split at hstep
    · rename_i hphase
      obtain rfl := Option.some_inj.mp hstep
      exact hs.setPhase (by simp [hphase]) rfl rfl fun _ hne => Function.update_of_ne hne _ _
    · cases hstep
  | advance c =>
    obtain ⟨rp, hphase, rfl⟩ := step_advance hstep
    exact hs.setPhase (by simp [hphase]) rfl rfl fun _ _ => rfl

end Broadcast

/-! ### One subscriber -/

/-- The values that a move copies into the ring. -/
def Move.chunk : Move α → List α
  | .copy data => data
  | _ => []

/-- `r` is what consumer thread `c` sees of `s`: the ring and the writer, and while it is in its loop its
own position and phase. -/
structure Shadows (c : Nat) (s : Broadcast α) (r : Race α) : Prop where
  born : c < s.slots.born
  ring : r.ring = s.ring
  unpublished : r.unpublished = s.unpublished
  received : r.received = s.received c
  running : s.phase c ≠ .stopped →
    r.phase = s.phase c ∧ r.sub = ⟨false, s.readPos (s.slotOf c), s.sequence (s.slotOf c)⟩

/-- Turn `a` leads to `t`, and what `c` sees of it to a state that `c` sees of `t`. -/
def Matched (c : Nat) (a : Turn α) (r : Race α) (t : Broadcast α) : Prop :=
  ∃ ms, ms.Sublist (a.seen c).toList ∧ ms.flatMap Move.chunk = a.chunk ∧
    ∃ r', run Race.step r ms = some r' ∧ Shadows c t r'

namespace Shadows

variable {c d : Nat} {s t : Broadcast α} {r : Race α}

/-- Two threads in their loops work on different slots. -/
theorem slot_ne (hs : s.Threads) (hne : d ≠ c) (hc : s.phase c ≠ .stopped)
    (hd : s.phase d ≠ .stopped) : s.slotOf c ≠ s.slotOf d :=
  fun heq => hne (hs.slots.owned.unique c d (hs.live c hc) (hs.live d hd) heq).symm

/-- A thread in its loop has a slot that is not free. -/
theorem slot_ne_free (hs : s.Threads) (hc : s.phase c ≠ .stopped) {k : Nat}
    (hfree : s.slots.free = some k) : s.slotOf c ≠ k := by
  have hk := (Slots.free_spec hfree).2
  rintro rfl
  rw [Broadcast.slotOf, (hs.slots.live c (hs.live c hc)).1] at hk
  cases hk

/-- A step that `c` does not see. -/
theorem frame (h : Shadows c s r) (hborn : c < t.slots.born) (hring : t.ring = s.ring)
    (hunpublished : t.unpublished = s.unpublished) (hreceived : t.received c = s.received c)
    (hphase : t.phase c = s.phase c)
    (hrunning : s.phase c ≠ .stopped → t.slotOf c = s.slotOf c ∧
      t.readPos (s.slotOf c) = s.readPos (s.slotOf c) ∧
      t.sequence (s.slotOf c) = s.sequence (s.slotOf c)) : Shadows c t r where
  born := hborn
  ring := h.ring.trans hring.symm
  unpublished := h.unpublished.trans hunpublished.symm
  received := h.received.trans hreceived.symm
  running hrun := by
    rw [hphase] at hrun ⊢
    obtain ⟨hslot, hread, hseq⟩ := hrunning hrun
    rw [hslot, hread, hseq]
    exact h.running hrun

/-- A step of another consumer, on its own slot. -/
theorem other (h : Shadows c s r) (hs : s.Threads) (hne : d ≠ c) (hd : s.phase d ≠ .stopped)
    (hslots : t.slots = s.slots) (hring : t.ring = s.ring)
    (hunpublished : t.unpublished = s.unpublished)
    (hreceived : ∀ e, e ≠ d → t.received e = s.received e)
    (hphase : ∀ e, e ≠ d → t.phase e = s.phase e)
    (hkept : ∀ k, k ≠ s.slotOf d → t.readPos k = s.readPos k ∧ t.sequence k = s.sequence k) :
    Shadows c t r :=
  h.frame (hslots ▸ h.born) hring hunpublished (hreceived c hne.symm) (hphase c hne.symm)
    fun hc => ⟨by rw [Broadcast.slotOf, Broadcast.slotOf, hslots],
      hkept _ (slot_ne hs hne hc hd)⟩

/-- A move of `c`, or of the writer. -/
theorem moved {a : Turn α} {m : Move α} (r' : Race α) (hseen : a.seen c = some m)
    (hout : m.chunk = a.chunk) (hmove : r.step m = some r') (h : Shadows c t r') :
    Matched c a r t := by
  refine ⟨[m], ?_, ?_, r', ?_, h⟩
  · rw [hseen]
    exact .refl _
  · rw [List.flatMap_singleton, hout]
  · rw [run_cons, hmove]
    rfl

/-- No move. -/
theorem stays {a : Turn α} (hout : a.chunk = []) (h : Shadows c t r) : Matched c a r t :=
  ⟨[], List.nil_sublist _, hout.symm, r, rfl, h⟩

/-- A call of `subscribe`, on a slot that no thread in its loop has. -/
theorem subscribe (hs : s.Threads) (h : Shadows c s r) {created memory : Bool}
    (hstep : s.step (.subscribe created memory) = some t) :
    Matched c (.subscribe created memory) r t := by
  refine stays rfl ?_
  obtain ⟨-, rfl⟩ | ⟨k, hfree, -, rfl⟩ | ⟨k, hfree, -, rfl⟩ := Broadcast.step_subscribe hstep
  · exact h
  · refine h.frame h.born rfl rfl rfl rfl fun hc => ⟨rfl, ?_⟩
    have hne := slot_ne_free hs hc hfree
    exact ⟨Function.update_of_ne hne _ _, Function.update_of_ne hne _ _⟩
  · have hold : c ≠ s.slots.born := Nat.ne_of_lt h.born
    refine h.frame (Nat.lt_succ_of_lt h.born) rfl rfl rfl (Function.update_of_ne hold _ _)
      fun hc => ⟨?_, ?_⟩
    · simp [Broadcast.slotOf, Slots.occupy, Slots.setConsumer, Slots.setSlot,
        Function.update_of_ne hold]
    · have hne := slot_ne_free hs hc hfree
      exact ⟨Function.update_of_ne hne _ _, Function.update_of_ne hne _ _⟩

/-- A lag check, of `c` or of another thread. -/
theorem load (hs : s.Threads) (h : Shadows c s r) {disconnected : Bool}
    (hstep : s.step (.load d disconnected) = some t) :
    Matched c (.load d disconnected) r t := by
  simp only [Broadcast.step] at hstep
  split at hstep
  · rename_i hphase
    have hd : s.phase d ≠ .stopped := by simp [hphase]
    by_cases hne : d = c
    · subst hne
      obtain ⟨hrphase, hsub⟩ := h.running hd
      rw [hphase] at hrphase
      split at hstep
      · obtain rfl := Option.some_inj.mp hstep
        exact stays rfl ⟨h.born, h.ring, h.unpublished, h.received,
          fun hrun => absurd (Broadcast.setPhase_self _ _ _) hrun⟩
      · have hcancel : r.sub.cancel = false := by rw [hsub]
        have hread : r.sub.readPos = s.readPos (s.slotOf d) := by rw [hsub]
        split at hstep <;> obtain rfl := Option.some_inj.mp hstep
        · rename_i hpoll
          refine moved { r with phase := if disconnected then .stopped else .polling }
            (if_pos rfl) rfl ?_ ⟨h.born, h.ring, h.unpublished, h.received, fun _ => ⟨?_, hsub⟩⟩
          · simp only [Race.step, hrphase, hcancel, Bool.false_eq_true, if_false, h.ring, hread,
              hpoll]
          · exact (Broadcast.setPhase_self _ _ _).symm
        · rename_i rp hpoll
          refine moved { r with sub := { r.sub with readPos := rp }, phase := .checked rp }
            (if_pos rfl) rfl ?_ ⟨h.born, h.ring, h.unpublished, h.received, fun _ => ⟨?_, ?_⟩⟩
          · simp only [Race.step, hrphase, hcancel, Bool.false_eq_true, if_false, h.ring, hread,
              hpoll]
          · exact (Broadcast.setPhase_self _ _ _).symm
          · simp [hsub, Broadcast.setReadPos, Broadcast.setPhase, Broadcast.slotOf]
    · refine stays rfl ?_
      have hself : ∀ (phase : Phase α) e, e ≠ d → Function.update s.phase d phase e = s.phase e :=
        fun _ e he => Function.update_of_ne he _ _
      split at hstep
      · obtain rfl := Option.some_inj.mp hstep
        exact h.other hs hne hd rfl rfl rfl (fun _ _ => rfl) (hself _) fun _ _ => ⟨rfl, rfl⟩
      · split at hstep <;> obtain rfl := Option.some_inj.mp hstep
        · exact h.other hs hne hd rfl rfl rfl (fun _ _ => rfl) (hself _) fun _ _ => ⟨rfl, rfl⟩
        · exact h.other hs hne hd rfl rfl rfl (fun _ _ => rfl) (hself _)
            fun k hk => ⟨Function.update_of_ne hk _ _, rfl⟩
  · cases hstep

theorem copyOut (hs : s.Threads) (h : Shadows c s r)
    (hstep : s.step (.copyOut d) = some t) :
    Matched c (.copyOut d) r t := by
  simp only [Broadcast.step] at hstep
  split at hstep
  · rename_i rp hphase
    obtain rfl := Option.some_inj.mp hstep
    have hd : s.phase d ≠ .stopped := by simp [hphase]
    by_cases hne : d = c
    · subst hne
      obtain ⟨hrphase, hsub⟩ := h.running hd
      rw [hphase] at hrphase
      refine moved { r with phase := .copied rp (copyOut s.ring rp) } (if_pos rfl) rfl ?_
        ⟨h.born, h.ring, h.unpublished, h.received, fun _ => ⟨?_, hsub⟩⟩
      · simp only [Race.step, hrphase, h.ring]
      · exact (Broadcast.setPhase_self _ _ _).symm
    · exact stays rfl (h.other hs hne hd rfl rfl rfl (fun _ _ => rfl)
        (fun _ he => Function.update_of_ne he _ _) fun _ _ => ⟨rfl, rfl⟩)
  · cases hstep

theorem callback (hs : s.Threads) (h : Shadows c s r)
    (hstep : s.step (.callback d) = some t) :
    Matched c (.callback d) r t := by
  simp only [Broadcast.step] at hstep
  split at hstep
  · rename_i rp data hphase
    obtain rfl := Option.some_inj.mp hstep
    have hd : s.phase d ≠ .stopped := by simp [hphase]
    by_cases hne : d = c
    · subst hne
      obtain ⟨hrphase, hsub⟩ := h.running hd
      rw [hphase] at hrphase
      have hseq : r.sub.sequence = s.sequence (s.slotOf d) := by rw [hsub]
      refine moved { r with
          sub := { r.sub with sequence := r.sub.sequence + 1 }
          phase := .called rp
          received := r.received ++ [bufferOf data r.sub.sequence] } (if_pos rfl) rfl ?_
        ⟨h.born, h.ring, h.unpublished, ?_, fun _ => ⟨?_, ?_⟩⟩
      · simp only [Race.step, hrphase]
      · simp [Broadcast.deliver, Broadcast.setPhase, h.received, hseq]
      · exact (Broadcast.setPhase_self _ _ _).symm
      · simp [hsub, Broadcast.deliver, Broadcast.setPhase, Broadcast.slotOf]
    · exact stays rfl (h.other hs hne hd rfl rfl rfl (fun _ he => Function.update_of_ne he _ _)
        (fun _ he => Function.update_of_ne he _ _)
        fun k hk => ⟨rfl, Function.update_of_ne hk _ _⟩)
  · cases hstep

theorem advance (hs : s.Threads) (h : Shadows c s r)
    (hstep : s.step (.advance d) = some t) :
    Matched c (.advance d) r t := by
  obtain ⟨rp, hphase, rfl⟩ := Broadcast.step_advance hstep
  have hd : s.phase d ≠ .stopped := by simp [hphase]
  by_cases hne : d = c
  · subst hne
    obtain ⟨hrphase, hsub⟩ := h.running hd
    rw [hphase] at hrphase
    refine moved { r with
        sub := { r.sub with readPos := rp + segmentSize }
        phase := .polling } (if_pos rfl) rfl ?_
      ⟨h.born, h.ring, h.unpublished, h.received, fun _ => ⟨?_, ?_⟩⟩
    · simp only [Race.step, hrphase]
    · exact (Broadcast.setPhase_self _ _ _).symm
    · simp [hsub, Broadcast.setReadPos, Broadcast.setPhase, Broadcast.slotOf]
  · exact stays rfl (h.other hs hne hd rfl rfl rfl (fun _ _ => rfl)
      (fun _ he => Function.update_of_ne he _ _)
      fun k hk => ⟨Function.update_of_ne hk _ _, rfl⟩)

theorem step {a : Turn α} (hs : s.Threads) (h : Shadows c s r) (ha : s.Ordered a)
    (hstep : s.step a = some t) : Matched c a r t := by
  cases a with
  | copy data =>
    simp only [Broadcast.step, Option.ite_none_right_eq_some, Option.some_inj] at hstep
    obtain ⟨⟨hnone, -⟩, rfl⟩ := hstep
    have hmove : r.step (.copy data) = some (r.copyChunk data) := if_pos ⟨h.unpublished.trans hnone, ha⟩
    refine moved _ rfl rfl hmove ⟨h.born, ?_, rfl, h.received, h.running⟩
    simp only [Race.copyChunk, h.ring]
  | publish =>
    simp only [Broadcast.step] at hstep
    split at hstep
    · rename_i data hsome
      obtain rfl := Option.some_inj.mp hstep
      have hmove : r.step .publish = some (r.publishChunk data) := by
        simp only [Race.step, h.unpublished, hsome]
      refine moved _ rfl rfl hmove ⟨h.born, ?_, rfl, h.received, h.running⟩
      simp only [Race.publishChunk, h.ring]
    · cases hstep
  | slots a =>
    obtain ⟨slots, -, rfl, hborn, hkept⟩ := Broadcast.slotStep_spec hstep
    refine stays rfl (h.frame (hborn.symm ▸ h.born) rfl rfl rfl rfl fun _ => ⟨(hkept c).1, rfl, rfl⟩)
  | subscribe created memory => exact h.subscribe hs hstep
  | load d disconnected => exact h.load hs hstep
  | copyOut d => exact h.copyOut hs hstep
  | callback d => exact h.callback hs hstep
  | advance d => exact h.advance hs hstep

end Shadows

/-! ### The writer before a subscription -/

/-- The writer has copied `stream`, in chunks of which the last one may not be published yet. -/
def Broadcast.Recorded (filler : α) (s : Broadcast α) (stream : List α) : Prop :=
  ∃ before : List (List α), (∀ chunk ∈ before, chunk.length ≤ 16384) ∧
    let ring := before.foldl ringWrite (ringInit filler)
    (s.unpublished = none ∧ s.ring = ring ∧ stream = before.flatten) ∨
      ∃ data : List α, data.length ≤ 16384 ∧ s.unpublished = some data ∧
        s.ring = { ring with data := ringCopy ring data } ∧ stream = before.flatten ++ data

namespace Broadcast

variable {filler : α} {s t : Broadcast α} {stream : List α}

/-- Only the writer changes the ring. -/
theorem step_ring {a : Turn α} (hcopy : ∀ data, a ≠ .copy data) (hpublish : a ≠ .publish)
    (hstep : s.step a = some t) : t.ring = s.ring ∧ t.unpublished = s.unpublished ∧ a.chunk = [] := by
  cases a with
  | copy data => exact absurd rfl (hcopy data)
  | publish => exact absurd rfl hpublish
  | subscribe created memory =>
    obtain ⟨-, rfl⟩ | ⟨h, -, -, rfl⟩ | ⟨h, -, -, rfl⟩ := step_subscribe hstep <;>
      exact ⟨rfl, rfl, rfl⟩
  | slots a =>
    obtain ⟨slots, -, rfl, -⟩ := slotStep_spec hstep
    exact ⟨rfl, rfl, rfl⟩
  | load c disconnected =>
    simp only [step] at hstep
    split at hstep
    · split at hstep
      · obtain rfl := Option.some_inj.mp hstep
        exact ⟨rfl, rfl, rfl⟩
      · split at hstep <;> obtain rfl := Option.some_inj.mp hstep <;> exact ⟨rfl, rfl, rfl⟩
    · cases hstep
  | copyOut c | callback c =>
    simp only [step] at hstep
    split at hstep
    · obtain rfl := Option.some_inj.mp hstep
      exact ⟨rfl, rfl, rfl⟩
    · cases hstep
  | advance c =>
    obtain ⟨rp, -, rfl⟩ := step_advance hstep
    exact ⟨rfl, rfl, rfl⟩

theorem Recorded.step (h : s.Recorded filler stream) {a : Turn α} (ha : s.Ordered a)
    (hstep : s.step a = some t) : t.Recorded filler (stream ++ a.chunk) := by
  obtain ⟨before, hbefore, hwriter⟩ := h
  by_cases hcopy : ∃ data, a = .copy data
  · obtain ⟨data, rfl⟩ := hcopy
    simp only [Broadcast.step, Option.ite_none_right_eq_some, Option.some_inj] at hstep
    obtain ⟨⟨hnone, -⟩, rfl⟩ := hstep
    obtain ⟨-, hring, rfl⟩ | ⟨old, -, hsome, -⟩ := hwriter
    · exact ⟨before, hbefore, .inr ⟨data, ha, rfl, by rw [hring], rfl⟩⟩
    · rw [hnone] at hsome
      cases hsome
  by_cases hpublish : a = .publish
  · subst hpublish
    simp only [Broadcast.step] at hstep
    split at hstep
    · rename_i data hsome
      obtain rfl := Option.some_inj.mp hstep
      obtain ⟨hnone, -⟩ | ⟨data', hlen, hsome', hring, rfl⟩ := hwriter
      · rw [hnone] at hsome
        cases hsome
      · obtain rfl := Option.some_inj.mp (hsome.symm.trans hsome')
        refine ⟨before ++ [data], fun chunk hchunk => ?_, .inl ⟨rfl, ?_, ?_⟩⟩
        · obtain hchunk | hchunk := List.mem_append.mp hchunk
          · exact hbefore chunk hchunk
          · rw [List.mem_singleton.mp hchunk]
            exact hlen
        · rw [hring, List.foldl_append]
          rfl
        · simp [Turn.chunk]
    · cases hstep
  · obtain ⟨hring, hunpublished, hchunk⟩ :=
      step_ring (fun data heq => hcopy ⟨data, heq⟩) hpublish hstep
    rw [hchunk, List.append_nil]
    exact ⟨before, hbefore, by rw [hring, hunpublished]; exact hwriter⟩

/-- A run from a new ring keeps the threads and records what it copies. -/
theorem run_recorded {turns : List (Turn α)} (hs : s.Threads) (h : s.Recorded filler stream)
    (hord : Along step Ordered s turns) (hrun : run step s turns = some t) :
    t.Threads ∧ t.Recorded filler (stream ++ turns.flatMap Turn.chunk) := by
  induction turns generalizing s stream with
  | nil =>
    cases hrun
    exact ⟨hs, by simpa using h⟩
  | cons a turns ih =>
    obtain ⟨u, hu, hrest⟩ := Option.bind_eq_some_iff.mp hrun
    have hlast := ih (hs.step hord.1 hu) (h.step hord.1 hu) (hord.2 u hu) hrest
    rwa [List.append_assoc, ← List.flatMap_cons] at hlast

/-- What is copied and not published has been copied in the run. -/
theorem run_unpublished {turns : List (Turn α)} {data : List α} (hrun : run step s turns = some t)
    (hsome : t.unpublished = some data) : s.unpublished = some data ∨ .copy data ∈ turns := by
  induction turns generalizing s with
  | nil =>
    cases hrun
    exact .inl hsome
  | cons a turns ih =>
    obtain ⟨u, hu, hrest⟩ := Option.bind_eq_some_iff.mp hrun
    obtain hu' | hmem := ih hrest
    · by_cases hcopy : ∃ data, a = .copy data
      · obtain ⟨data', rfl⟩ := hcopy
        simp only [step, Option.ite_none_right_eq_some, Option.some_inj] at hu
        obtain ⟨-, rfl⟩ := hu
        obtain rfl := Option.some_inj.mp hu'
        exact .inr List.mem_cons_self
      by_cases hpublish : a = .publish
      · subst hpublish
        simp only [step] at hu
        split at hu
        · obtain rfl := Option.some_inj.mp hu
          cases hu'
        · cases hu
      · have hsame := (step_ring (fun data heq => hcopy ⟨data, heq⟩) hpublish hu).2.1
        exact .inl (hsame.symm.trans hu')
    · exact .inr (List.mem_cons_of_mem a hmem)

theorem start_recorded (filler : α) : (start filler).Recorded filler [] :=
  ⟨[], by simp, .inl ⟨rfl, rfl, rfl⟩⟩

theorem step_born {a : Turn α} (hstep : s.step a = some t) :
    t.slots.born = s.slots.born ∨ t.slots.born = s.slots.born + 1 ∧
      ∃ memory h, a = .subscribe true memory ∧ s.slots.free = some h := by
  cases a with
  | copy data =>
    simp only [step, Option.ite_none_right_eq_some, Option.some_inj] at hstep
    obtain ⟨-, rfl⟩ := hstep
    exact .inl rfl
  | publish =>
    simp only [step] at hstep
    split at hstep
    · obtain rfl := Option.some_inj.mp hstep
      exact .inl rfl
    · cases hstep
  | subscribe created memory =>
    obtain ⟨-, rfl⟩ | ⟨h, -, -, rfl⟩ | ⟨h, hfree, rfl, rfl⟩ := step_subscribe hstep
    · exact .inl rfl
    · exact .inl rfl
    · exact .inr ⟨rfl, memory, h, rfl, hfree⟩
  | slots a =>
    obtain ⟨slots, -, rfl, hborn, -⟩ := slotStep_spec hstep
    exact .inl hborn
  | load c disconnected =>
    simp only [step] at hstep
    split at hstep
    · split at hstep
      · obtain rfl := Option.some_inj.mp hstep
        exact .inl rfl
      · split at hstep <;> obtain rfl := Option.some_inj.mp hstep <;> exact .inl rfl
    · cases hstep
  | copyOut c | callback c =>
    simp only [step] at hstep
    split at hstep
    · obtain rfl := Option.some_inj.mp hstep
      exact .inl rfl
    · cases hstep
  | advance c =>
    obtain ⟨rp, -, rfl⟩ := step_advance hstep
    exact .inl rfl

/-- A thread that exists at the end of a run was created by a `subscribe` of it. -/
theorem run_birth {turns : List (Turn α)} {c : Nat} (hold : s.slots.born ≤ c)
    (hnew : c < t.slots.born) (hrun : run step s turns = some t) :
    ∃ pre memory post u v h, turns = pre ++ .subscribe true memory :: post ∧
      run step s pre = some u ∧ u.slots.born = c ∧ u.slots.free = some h ∧
      u.step (.subscribe true memory) = some v ∧ run step v post = some t := by
  induction turns generalizing s with
  | nil =>
    cases hrun
    omega
  | cons a turns ih =>
    obtain ⟨u, hu, hrest⟩ := Option.bind_eq_some_iff.mp hrun
    by_cases hlater : u.slots.born ≤ c
    · obtain ⟨pre, memory, post, v, w, h, rfl, hpre, hborn, hfree, hstep, hpost⟩ := ih hlater hrest
      exact ⟨a :: pre, memory, post, v, w, h, rfl, by rw [run_cons, hu]; exact hpre, hborn, hfree,
        hstep, hpost⟩
    · obtain hsame | ⟨hone, memory, h, rfl, hfree⟩ := step_born hu
      · omega
      · exact ⟨[], memory, turns, s, u, h, rfl, rfl, by omega, hfree, hu, hrest⟩

/-- The new thread at its first step, beside a writer that has copied `stream`. -/
theorem subscribed_shadows {memory : Bool} {h : Nat} (hs : s.Threads) (hfree : s.slots.free = some h)
    (hstep : s.step (.subscribe true memory) = some t) (stream : List α) :
    Shadows s.slots.born t ⟨s.ring, s.unpublished, subscribeTo s.ring, .polling, stream, []⟩ := by
  obtain ⟨hnone, -⟩ | ⟨_, -, hfalse, -⟩ | ⟨k, hk, -, rfl⟩ := step_subscribe hstep
  · rw [hfree] at hnone
    cases hnone
  · cases hfalse
  · refine ⟨Nat.lt_succ_self _, rfl, rfl, (hs.unborn _ (Nat.le_refl _)).symm, fun hrun => ⟨?_, ?_⟩⟩
    · have hphase : (if memory then Phase.polling else Phase.stopped : Phase α) = .polling := by
        cases memory
        · exact absurd (setPhase_self _ _ _) hrun
        · rfl
      exact hphase.symm.trans (setPhase_self _ _ _).symm
    · simp [subscribeTo, slotOf, Slots.occupy, Slots.setConsumer, Slots.setSlot, setPhase, prepare,
        setReadPos]

end Broadcast

/-- The writer and a new subscriber alone, after the same chunks. -/
theorem Broadcast.Recorded.raceStart {filler : α} {s : Broadcast α} {stream : List α}
    (h : s.Recorded filler stream) : ∃ (before : List (List α)) (ms : List (Move α)),
      (∀ chunk ∈ before, chunk.length ≤ 16384) ∧
      ms = (s.unpublished.map Move.copy).toList ∧
      before.flatten ++ ms.flatMap Move.chunk = stream ∧
      run Race.step (Ring.raceStart filler before) ms =
        some ⟨s.ring, s.unpublished, subscribeTo s.ring, .polling, stream, []⟩ := by
  obtain ⟨before, hbefore, ⟨hnone, hring, rfl⟩ | ⟨data, hlen, hsome, hring, rfl⟩⟩ := h
  · refine ⟨before, [], hbefore, by rw [hnone]; rfl, by simp, ?_⟩
    rw [hring, hnone]
    rfl
  · refine ⟨before, [.copy data], hbefore, by rw [hsome]; rfl, by simp [Move.chunk], ?_⟩
    have hcopy : (Ring.raceStart filler before).step (.copy data) =
        some ((Ring.raceStart filler before).copyChunk data) := if_pos ⟨rfl, hlen⟩
    rw [run_cons, hcopy, hring, hsome]
    rfl

/-- The position after the last value that a consumer has copied out of the ring. -/
def Phase.next (readPos : UInt32) : Phase α → UInt32
  | .copied rp _ | .called rp => rp + segmentSize
  | .polling | .checked _ | .stopped => readPos

/-- The ring still holds all that consumer `c` has not copied yet, unless it has left its loop. -/
def Broadcast.KeepsUp (c : Nat) (s : Broadcast α) : Prop :=
  s.phase c ≠ .stopped →
    (s.ring.writePos + UInt32.ofNat (s.unpublished.getD []).length -
      (s.phase c).next (s.readPos (s.slotOf c))).toNat ≤ s.ring.size.toNat

/-! ### Every run -/

/-- The lag check of a subscriber that had passed all before a chunk of a segment. -/
theorem poll_segment (ring : IqRing α) {data : List α} (hlen : data.length = 16384) :
    poll (ringWrite ring data) ring.writePos = some ring.writePos := by
  have hcount : UInt32.ofNat data.length = segmentSize := by rw [hlen]; rfl
  have hahead : ring.writePos + segmentSize - ring.writePos = segmentSize := by
    rw [UInt32.add_comm, UInt32.add_sub_cancel]
  simp only [poll, ringWrite, hcount, hahead]
  rw [if_neg (UInt32.lt_irrefl _), if_neg]
  exact UInt32.not_lt.mpr (UInt32.le_iff_toNat_le.mpr ring.segment_le_size)

namespace Broadcast

/-- Two subscribers of a new ring. -/
theorem run_subscribed (filler : α) : ∃ s,
    run step (.start filler) [.subscribe true true, .subscribe true true] = some s ∧
    s.ring = ringInit filler ∧ s.unpublished = none ∧ s.slots.born = 2 ∧ s.phase 1 = .polling ∧
    (s.slots.slot (s.slotOf 1)).cancel = false ∧ s.readPos (s.slotOf 1) = 0 ∧ s.received 1 = [] ∧
    Along step (fun s a => s.Ordered a ∧ ∀ u, s.step a = some u → u.KeepsUp 1) (.start filler)
      [.subscribe true true, .subscribe true true] := by
  have hfree : slotsInit.free = some 0 := by decide
  have hnext : (slotsInit.occupy 0).free = some 1 := by decide
  let s1 : Broadcast α :=
    { ((start filler).prepare 0).setPhase 0 .polling with slots := slotsInit.occupy 0 }
  let s2 : Broadcast α :=
    { (s1.prepare 1).setPhase 1 .polling with slots := (slotsInit.occupy 0).occupy 1 }
  have h1 : (start filler).step (.subscribe true true) = some s1 := by
    simp only [step, start, Slots.step, hfree, Option.map_some, ↓reduceIte]
    rfl
  have h2 : s1.step (.subscribe true true) = some s2 := by
    simp only [step, s1, Slots.step, hnext, Option.map_some, ↓reduceIte]
    rfl
  refine ⟨s2, by simp only [run_cons, h1, h2, Option.bind_some, run_nil], rfl, rfl, rfl, rfl, rfl, rfl,
    rfl, ?_⟩
  refine .cons ⟨trivial, fun u hu hrun => ?_⟩ h1 (.cons ⟨trivial, fun u hu _ => ?_⟩ h2 trivial)
  · obtain rfl := Option.some_inj.mp (h1.symm.trans hu)
    exact absurd rfl hrun
  · obtain rfl := Option.some_inj.mp (h2.symm.trans hu)
    show ((0 : UInt32) + UInt32.ofNat 0 - 0).toNat ≤ _
    simp

/-- A chunk of a segment, and its delivery to a consumer that had passed all that was published. -/
theorem run_segment {s : Broadcast α} {c : Nat} {data : List α} (hnone : s.unpublished = none)
    (hphase : s.phase c = .polling) (hcancel : (s.slots.slot (s.slotOf c)).cancel = false)
    (hread : s.readPos (s.slotOf c) = s.ring.writePos) (hlen : data.length = 16384) : ∃ t,
    run step s [.copy data, .publish, .load c false, .copyOut c, .callback c] = some t ∧
    t.slots = s.slots ∧ (t.received c).length = (s.received c).length + 1 ∧
    Along step (fun s a => s.Ordered a ∧ ∀ u, s.step a = some u → u.KeepsUp c) s
      [.copy data, .publish, .load c false, .copyOut c, .callback c] := by
  generalize hrp : s.readPos (s.slotOf c) = rp at hread
  have hsize := s.ring.segment_le_size
  have hcount : UInt32.ofNat data.length = segmentSize := by rw [hlen]; rfl
  have hahead : s.ring.writePos + segmentSize - rp = segmentSize := by
    rw [← hread, UInt32.add_comm, UInt32.add_sub_cancel]
  let s1 : Broadcast α := { s with
    ring := { s.ring with data := ringCopy s.ring data }
    unpublished := some data }
  let s2 : Broadcast α := { s with ring := ringWrite s.ring data }
  let s3 := (s2.setReadPos (s.slotOf c) rp).setPhase c (.checked rp)
  let s4 := s3.setPhase c (.copied rp (Ring.copyOut s2.ring rp))
  let s5 := (s4.deliver c (s.slotOf c) (Ring.copyOut s2.ring rp)).setPhase c (.called rp)
  have hpoll : poll s2.ring rp = some rp := by
    rw [hread]
    exact poll_segment s.ring hlen
  have h1 : s.step (.copy data) = some s1 := if_pos ⟨hnone, hlen ▸ hsize⟩
  have h2 : s1.step .publish = some s2 := by
    simp only [step, s1, s2, ringWrite, hnone]
  have h3 : s2.step (.load c false) = some s3 := by
    have hcancel' : (s2.slots.slot (s2.slotOf c)).cancel = false := hcancel
    have hread' : s2.readPos (s2.slotOf c) = rp := hrp
    have hphase' : s2.phase c = .polling := hphase
    simp only [step, hphase', hcancel', Bool.false_eq_true, ↓reduceIte, hread', hpoll]
    rfl
  have hphase3 : s3.phase c = .checked rp := setPhase_self _ _ _
  have hphase4 : s4.phase c = .copied rp (Ring.copyOut s2.ring rp) := setPhase_self _ _ _
  have h4 : s3.step (.copyOut c) = some s4 := by
    simp only [step, hphase3]
    rfl
  have h5 : s4.step (.callback c) = some s5 := by
    simp only [step, hphase4]
    rfl
  refine ⟨s5, ?_, rfl, ?_, ?_⟩
  · simp only [run_cons, h1, h2, h3, h4, h5, Option.bind_some, run_nil]
  · simp [s5, s4, s3, s2, setPhase, deliver, setReadPos]
  · have hfits : segmentSize.toNat ≤ s.ring.size.toNat := hsize
    have hkept : ∀ {u v : Broadcast α} {a : Turn α}, u.step a = some v → v.KeepsUp c →
        ∀ w, u.step a = some w → w.KeepsUp c :=
      fun hstep hv w hw => Option.some_inj.mp (hstep.symm.trans hw) ▸ hv
    have hfull : ∀ (u : Broadcast α), u.ring.size = s.ring.size →
        u.ring.writePos + UInt32.ofNat (u.unpublished.getD []).length =
          s.ring.writePos + segmentSize →
        ((u.phase c).next (u.readPos (u.slotOf c)) = rp ∨
          (u.phase c).next (u.readPos (u.slotOf c)) = rp + segmentSize) → u.KeepsUp c := by
      intro u husize hfront hnext _
      rw [hfront, husize]
      obtain hnext | hnext := hnext <;> rw [hnext]
      · rw [hahead]
        exact hfits
      · rw [hread, UInt32.sub_self]
        exact Nat.zero_le _
    have hwritten : s2.ring.writePos + UInt32.ofNat (s2.unpublished.getD []).length =
        s.ring.writePos + segmentSize := by
      simp only [s2, ringWrite, hcount, hnone]
      exact UInt32.add_zero _
    refine .cons ⟨hlen.le, hkept h1 (hfull s1 rfl ?_ (.inl ?_))⟩ h1 ?_
    · simp only [s1, Option.getD_some, hcount]
    · simp only [s1, hphase, Phase.next]
      exact hrp
    refine .cons ⟨trivial, hkept h2 (hfull s2 rfl hwritten (.inl ?_))⟩ h2 ?_
    · simp only [s2, hphase, Phase.next]
      exact hrp
    refine .cons ⟨trivial, hkept h3 (hfull s3 rfl hwritten (.inl ?_))⟩ h3 ?_
    · rw [hphase3]
      exact Function.update_self _ _ _
    refine .cons ⟨trivial, hkept h4 (hfull s4 rfl hwritten (.inr ?_))⟩ h4 ?_
    · rw [hphase4]
      rfl
    refine .cons ⟨trivial, hkept h5 (hfull s5 rfl hwritten (.inr ?_))⟩ h5 trivial
    have hphase5 : s5.phase c = .called rp := setPhase_self _ _ _
    rw [hphase5]
    rfl

/-- Two subscribers of a new ring, a chunk, and its delivery to the second. -/
def sample : List (Turn UInt8) :=
  [.subscribe true true, .subscribe true true] ++
    [.copy (List.replicate 16384 1), .publish, .load 1 false, .copyOut 1, .callback 1]

theorem run_sample (filler : UInt8) : ∃ t, run step (.start filler) sample = some t ∧ 1 < t.slots.born ∧
    (t.received 1).length = 1 ∧
    Along step (fun s a => s.Ordered a ∧ ∀ u, s.step a = some u → u.KeepsUp 1) (.start filler)
      sample := by
  obtain ⟨s, hsub, hring, hnone, hborn, hphase, hcancel, hread, hrec, hord⟩ :=
    run_subscribed filler
  obtain ⟨t, hseg, hslots, hreceived, hkeep⟩ := run_segment hnone hphase hcancel
    (hread.trans (by rw [hring]; rfl)) (@List.length_replicate UInt8 16384 1)
  refine ⟨t, run_append_eq hsub hseg, by rw [hslots, hborn]; decide, by rw [hreceived, hrec]; rfl,
    Along.append.mpr ⟨hord, fun u hu => ?_⟩⟩
  obtain rfl := Option.some_inj.mp (hsub.symm.trans hu)
  exact hkeep

end Broadcast

/-- Every subscriber sees the ring as if the writer and it were alone: what its callback receives comes
of a run of these two, in which it makes only moves that it makes in the run of all threads, and the
writer the same copies. -/
theorem subscriber_alone {filler : α} {turns : List (Turn α)} {t : Broadcast α} {c : Nat}
    (hord : Along Broadcast.step Broadcast.Ordered (.start filler) turns)
    (hrun : run Broadcast.step (.start filler) turns = some t) (hc : c < t.slots.born) :
    ∃ (before : List (List α)) (moves : List (Move α)) (r : Race α),
      (∀ chunk ∈ before, chunk.length ≤ 16384) ∧
      moves.Sublist (turns.filterMap (Turn.seen c)) ∧
      before.flatten ++ moves.flatMap Move.chunk = turns.flatMap Turn.chunk ∧
      run Race.step (raceStart filler before) moves = some r ∧
      r.ring = t.ring ∧ r.received = t.received c := by
  obtain ⟨pre, memory, post, u, v, h, rfl, hpre, rfl, hfree, hstep, hpost⟩ :=
    Broadcast.run_birth (Nat.zero_le c) hc hrun
  obtain ⟨hordPre, hordPost⟩ := Along.append.mp hord
  obtain ⟨-, hordPost⟩ := hordPost u hpre
  obtain ⟨hthreads, hrecorded⟩ := Broadcast.run_recorded (Broadcast.start_threads filler)
    (Broadcast.start_recorded filler) hordPre hpre
  rw [List.nil_append] at hrecorded
  obtain ⟨before, ms, hbefore, hms, hchunks, hrace⟩ := hrecorded.raceStart
  have hsim : ∀ (s : Broadcast α) (a : Turn α) (t : Broadcast α) (r : Race α),
      s.Threads ∧ Shadows u.slots.born s r → s.Ordered a → s.step a = some t →
      ∃ ms, ms.Sublist (a.seen u.slots.born).toList ∧ ms.flatMap Move.chunk = a.chunk ∧
        ∃ r', run Race.step r ms = some r' ∧ t.Threads ∧ Shadows u.slots.born t r' := by
    rintro s a t r ⟨hs, hr⟩ ha hstep
    obtain ⟨ms, hsub, hout, r', hr', hshadows⟩ := hr.step hs ha hstep
    exact ⟨ms, hsub, hout, r', hr', hs.step ha hstep, hshadows⟩
  have hv : v.Threads :=
    hthreads.step (show u.Ordered (.subscribe true memory) from trivial) hstep
  have hnew := Broadcast.subscribed_shadows hthreads hfree hstep (pre.flatMap Turn.chunk)
  obtain ⟨moves, hmoves, hout, r, hr, -, hshadows⟩ :=
    Along.simulates hsim ⟨hv, hnew⟩ (hordPost v hstep) hpost
  refine ⟨before, ms ++ moves, r, hbefore, ?_, ?_, run_append_eq hrace hr, hshadows.ring,
    hshadows.received⟩
  · rw [List.filterMap_append]
    refine List.Sublist.append ?_ hmoves
    rw [hms]
    cases hsome : u.unpublished with
    | none => exact List.nil_sublist _
    | some data =>
      refine List.singleton_sublist.mpr (List.mem_filterMap.mpr ⟨.copy data, ?_, rfl⟩)
      exact (Broadcast.run_unpublished hpre hsome).resolve_left (by simp [Broadcast.start])
  · rw [List.flatMap_append, ← List.append_assoc, hchunks, hout, List.flatMap_append,
      List.flatMap_cons]
    rfl

theorem subscriber_alone_sample : ∃ t, run Broadcast.step (.start 0) Broadcast.sample = some t ∧
    ∃ (before : List (List UInt8)) (moves : List (Move UInt8)) (r : Race UInt8),
      (∀ chunk ∈ before, chunk.length ≤ 16384) ∧
      moves.Sublist (Broadcast.sample.filterMap (Turn.seen 1)) ∧
      before.flatten ++ moves.flatMap Move.chunk = Broadcast.sample.flatMap Turn.chunk ∧
      run Race.step (raceStart 0 before) moves = some r ∧
      r.ring = t.ring ∧ r.received = t.received 1 := by
  obtain ⟨t, hrun, hborn, -, hord⟩ := Broadcast.run_sample 0
  exact ⟨t, hrun, subscriber_alone (hord.mono fun _ _ ha => ha.1) hrun hborn⟩

end Sdrgg.Ring
