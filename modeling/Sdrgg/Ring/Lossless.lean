import Sdrgg.Ring.Subscriber

/-! A subscriber that keeps up with the writer receives the stream, however the threads of the ring are
scheduled. -/

namespace Sdrgg.Ring

open ProofKit ProofKit.Window

variable {α : Type}

/-- The index in the stream at which segment `k` begins for a subscriber whose first value is at
`first`. -/
def segmentStart (first k : Nat) : Nat := first + 16384 * k

theorem segmentStart_succ (first k : Nat) :
    segmentStart first (k + 1) = segmentStart first k + 16384 := by
  rw [segmentStart, segmentStart, Nat.mul_succ, Nat.add_assoc]

/-- The callback has received the segments from index `first` on, one after the other and numbered. -/
def Consecutive (first : Nat) (stream : List α) (received : List (SdrggBuffer α)) : Prop :=
  ∀ k (hk : k < received.length), segmentStart first k + 16384 ≤ stream.length ∧
    received[k].data = (stream.drop (segmentStart first k)).take 16384 ∧
    received[k].sequence = UInt32.ofNat k

theorem Consecutive.append {first : Nat} {stream : List α} {received : List (SdrggBuffer α)}
    (h : Consecutive first stream received) (src : List α) :
    Consecutive first (stream ++ src) received := by
  intro k hk
  obtain ⟨hle, hdata, hseq⟩ := h k hk
  refine ⟨by rw [List.length_append]; omega, ?_, hseq⟩
  rw [hdata, List.drop_append_of_le_length (by omega),
    List.take_append_of_le_length (by simp; omega)]

namespace Race

/-- The number of segments that the consumer has copied. -/
def copies (r : Race α) : Nat :=
  match r.phase with
  | .copied _ _ => r.received.length + 1
  | _ => r.received.length

/-- What holds of a consumer that keeps up, while it is in its loop. -/
structure InOrder (first : Nat) (r : Race α) : Prop where
  sequence : r.sub.sequence = UInt32.ofNat r.received.length
  next : r.phase.next r.sub.readPos = UInt32.ofNat (segmentStart first r.copies)
  le : segmentStart first r.copies ≤ r.published
  lag : r.stream.length ≤ segmentStart first r.copies + r.ring.size.toNat
  checked : ∀ rp, r.phase = .checked rp → rp = r.sub.readPos ∧
    segmentStart first r.copies + 16384 ≤ r.published
  copied : ∀ rp data, r.phase = .copied rp data →
    data = (r.stream.drop (segmentStart first r.received.length)).take 16384

variable {first : Nat} {r r' : Race α}

/-- A copy of the writer that the consumer keeps up with. -/
theorem InOrder.copyChunk (hsound : r.Sound) (h : r.InOrder first) {data : List α}
    (hnone : r.unpublished = none) (hlen : data.length ≤ 16384)
    (hkeep : ((r.copyChunk data).writeFront - r.phase.next r.sub.readPos).toNat ≤
      r.ring.size.toNat) : (r.copyChunk data).InOrder first := by
  have hpub : r.published = r.stream.length := by simp [published, hnone]
  have hsame : (r.copyChunk data).published = r.published := by
    simp [published, Race.copyChunk, hnone]
  have hcopies : (r.copyChunk data).copies = r.copies := rfl
  have hgrown : (r.copyChunk data).stream.length = r.stream.length + data.length :=
    List.length_append
  have hle := h.le
  have hlag := h.lag
  have hsize : r.ring.size.toNat ≤ 2 ^ 31 := by
    obtain ⟨k, -, hk, hsize⟩ := r.ring.size_pow
    rw [hsize]
    exact Nat.pow_le_pow_right (by decide) (by omega)
  refine ⟨h.sequence, h.next, by rw [hsame]; exact hle, ?_, by rw [hsame]; exact h.checked,
    fun rp seg hphase => ?_⟩
  · rw [(hsound.copyChunk hnone hlen).writeFront_eq, h.next, toNat_ofNat_sub (by omega),
      hgrown] at hkeep
    rw [hcopies, hgrown]
    have hring : (r.copyChunk data).ring.size = r.ring.size := rfl
    rw [hring]
    omega
  · have hcopied : r.phase = .copied rp seg := hphase
    have hone : r.copies = r.received.length + 1 := by simp [copies, hcopied]
    rw [hone, segmentStart_succ] at hle
    rw [h.copied rp seg hcopied]
    simp only [Race.copyChunk]
    rw [List.drop_append_of_le_length (by omega),
      List.take_append_of_le_length (by simp; omega)]

theorem InOrder.publishChunk (h : r.InOrder first) {data : List α} (hle : data.length ≤ r.stream.length)
    (hsome : r.unpublished = some data) : (r.publishChunk data).InOrder first := by
  have hpub : r.published ≤ (r.publishChunk data).published := by
    simp only [published, Race.publishChunk, hsome, Option.getD_some, Option.getD_none,
      List.length_nil]
    omega
  exact ⟨h.sequence, h.next, h.le.trans hpub, h.lag,
    fun rp hrp => ⟨(h.checked rp hrp).1, (h.checked rp hrp).2.trans hpub⟩, h.copied⟩

/-- The lag check of a consumer that keeps up finds the next segment. -/
theorem InOrder.poll (hsound : r.Sound) (h : r.InOrder first) (hphase : r.phase = .polling)
    {rp : UInt32} (hpoll : Ring.poll r.ring r.sub.readPos = some rp) :
    rp = r.sub.readPos ∧ segmentStart first r.copies + 16384 ≤ r.published := by
  have hle := h.le
  have hlag := h.lag
  have hlt := r.ring.size_lt
  have hpub : r.published ≤ r.stream.length := Nat.sub_le _ _
  have hread : r.sub.readPos = UInt32.ofNat (segmentStart first r.copies) := by
    have hnext := h.next
    rwa [hphase] at hnext
  rw [hread, poll_eq hsound.writePos hle, Nat.mod_eq_of_lt (by omega), reach,
    if_neg (show ¬r.ring.size.toNat < r.published - segmentStart first r.copies by omega)] at hpoll
  split at hpoll
  · cases hpoll
  · rw [Nat.sub_sub_self hle] at hpoll
    exact ⟨(Option.some_inj.mp hpoll).symm.trans hread.symm, by omega⟩

/-- A step that leaves no copy at hand. -/
theorem InOrder.moved (hsequence : r'.sub.sequence = UInt32.ofNat r'.received.length)
    (hnext : r'.phase.next r'.sub.readPos = UInt32.ofNat (segmentStart first r'.copies))
    (hle : segmentStart first r'.copies ≤ r'.published)
    (hlag : r'.stream.length ≤ segmentStart first r'.copies + r'.ring.size.toNat)
    (hchecked : ∀ rp, r'.phase ≠ .checked rp) (hcopied : ∀ rp data, r'.phase ≠ .copied rp data) :
    r'.InOrder first :=
  ⟨hsequence, hnext, hle, hlag, fun rp h => absurd h (hchecked rp),
    fun rp data h => absurd h (hcopied rp data)⟩

/-- The lag check. -/
theorem InOrder.load (hsound : r.Sound) (h : r.InOrder first) {disconnected : Bool}
    (hstep : r.step (.load disconnected) = some r')
    (hreceived : Consecutive first r.stream r.received) :
    (r'.phase ≠ .stopped → r'.InOrder first) ∧ Consecutive first r'.stream r'.received := by
  simp only [Race.step] at hstep
  split at hstep
  · rename_i hphase
    have hcopies : r.copies = r.received.length := by simp [copies, hphase]
    have hnext := h.next
    rw [hphase, hcopies] at hnext
    have hle := h.le
    have hlag := h.lag
    rw [hcopies] at hle hlag
    split at hstep
    · obtain rfl := Option.some_inj.mp hstep
      exact ⟨fun hrun => absurd rfl hrun, hreceived⟩
    · split at hstep <;> obtain rfl := Option.some_inj.mp hstep
      · refine ⟨fun hrun => ?_, hreceived⟩
        cases disconnected
        · exact .moved h.sequence hnext hle hlag (by simp) (by simp)
        · exact absurd rfl hrun
      · rename_i rp hpoll
        obtain ⟨rfl, hfull⟩ := h.poll hsound hphase hpoll
        rw [hcopies] at hfull
        refine ⟨fun _ => ⟨h.sequence, hnext, hle, hlag, fun rp hrp => ?_, fun rp data hrp => ?_⟩,
          hreceived⟩
        · cases hrp
          exact ⟨rfl, hfull⟩
        · cases hrp
  · cases hstep

/-- The copy of a segment. -/
theorem InOrder.copyOut (hsound : r.Sound) (h : r.InOrder first)
    (hstep : r.step .copyOut = some r') (hreceived : Consecutive first r.stream r.received) :
    (r'.phase ≠ .stopped → r'.InOrder first) ∧ Consecutive first r'.stream r'.received := by
  simp only [Race.step] at hstep
  split at hstep
  · rename_i rp hphase
    obtain rfl := Option.some_inj.mp hstep
    have hcopies : r.copies = r.received.length := by simp [copies, hphase]
    obtain ⟨hrp, hfull⟩ := h.checked rp hphase
    have hpub : r.published ≤ r.stream.length := Nat.sub_le _ _
    have hnext := h.next
    have hlag := h.lag
    rw [hcopies] at hfull hnext hlag
    rw [hphase] at hnext
    refine ⟨fun _ => ⟨h.sequence, ?_, ?_, ?_, fun rp' hrp' => ?_, fun rp' data hrp' => ?_⟩,
      hreceived⟩
    · simp only [Phase.next, copies, segmentStart_succ, UInt32.ofNat_add]
      rw [hrp.trans hnext]
      rfl
    · simp only [copies, segmentStart_succ]
      exact hfull
    · simp only [copies, segmentStart_succ]
      omega
    · cases hrp'
    · cases hrp'
      rw [Ring.copyOut_eq, hrp.trans hnext, slice_congr (r.ring.mod_size _)]
      exact hsound.copied.slice_eq (hfull.trans hpub) hlag
  · cases hstep

/-- The callback, which gets the next segment. -/
theorem InOrder.callback (h : r.InOrder first) (hstep : r.step .callback = some r')
    (hreceived : Consecutive first r.stream r.received) :
    (r'.phase ≠ .stopped → r'.InOrder first) ∧ Consecutive first r'.stream r'.received := by
  simp only [Race.step] at hstep
  split at hstep
  · rename_i rp data hphase
    obtain rfl := Option.some_inj.mp hstep
    have hcopies : r.copies = r.received.length + 1 := by simp [copies, hphase]
    have hdata := h.copied rp data hphase
    have hpub : r.published ≤ r.stream.length := Nat.sub_le _ _
    have hnext := h.next
    have hle := h.le
    have hlag := h.lag
    rw [hcopies] at hnext hle hlag
    simp only [hphase, Phase.next] at hnext
    have hmore : (r.received ++ [bufferOf data r.sub.sequence]).length = r.received.length + 1 :=
      List.length_append
    refine ⟨fun _ => .moved ?_ ?_ ?_ ?_ (by simp) (by simp), fun k hk => ?_⟩
    · rw [hmore, UInt32.ofNat_add, ← h.sequence]
      rfl
    · simp only [Phase.next, copies, hmore, hnext]
    · simp only [copies, hmore]
      exact hle
    · simp only [copies, hmore]
      exact hlag
    · rw [hmore] at hk
      rw [List.getElem_append]
      split
      · exact hreceived k _
      · obtain rfl : k = r.received.length := by omega
        simp only [List.getElem_singleton, bufferOf]
        rw [segmentStart_succ] at hle
        exact ⟨hle.trans hpub, hdata, h.sequence⟩
  · cases hstep

theorem InOrder.advance (h : r.InOrder first) (hstep : r.step .advance = some r')
    (hreceived : Consecutive first r.stream r.received) :
    (r'.phase ≠ .stopped → r'.InOrder first) ∧ Consecutive first r'.stream r'.received := by
  simp only [Race.step] at hstep
  split at hstep
  · rename_i rp hphase
    obtain rfl := Option.some_inj.mp hstep
    have hcopies : r.copies = r.received.length := by simp [copies, hphase]
    have hnext := h.next
    have hle := h.le
    have hlag := h.lag
    rw [hcopies] at hnext hle hlag
    simp only [hphase, Phase.next] at hnext
    refine ⟨fun _ => .moved h.sequence ?_ ?_ ?_ (by simp) (by simp), hreceived⟩
    · simp only [Phase.next, copies, hnext]
    · simpa only [copies, published] using hle
    · simpa only [copies] using hlag
  · cases hstep

/-- A step of a consumer in its loop that keeps up. -/
theorem InOrder.consume (hsound : r.Sound) (h : r.InOrder first) {m : Move α}
    (hcopy : ∀ data, m ≠ .copy data) (hpublish : m ≠ .publish) (hstep : r.step m = some r')
    (hreceived : Consecutive first r.stream r.received) :
    (r'.phase ≠ .stopped → r'.InOrder first) ∧ Consecutive first r'.stream r'.received := by
  cases m with
  | copy data => exact absurd rfl (hcopy data)
  | publish => exact absurd rfl hpublish
  | load disconnected => exact h.load hsound hstep hreceived
  | copyOut => exact h.copyOut hsound hstep hreceived
  | callback => exact h.callback hstep hreceived
  | advance => exact h.advance hstep hreceived

end Race

namespace Broadcast

variable {s t : Broadcast α} {a : Turn α} {c : Nat}

/-- The writer and the other threads leave the phase of a thread that exists. -/
theorem step_phase (hc : c < s.slots.born) (hstep : s.step a = some t)
    (hown : ∀ m, a.seen c = some m → m = .publish ∨ ∃ data, m = .copy data) :
    t.phase c = s.phase c := by
  cases a with
  | copy data =>
    simp only [step, Option.ite_none_right_eq_some, Option.some_inj] at hstep
    obtain ⟨-, rfl⟩ := hstep
    rfl
  | publish =>
    simp only [step] at hstep
    split at hstep
    · obtain rfl := Option.some_inj.mp hstep
      rfl
    · cases hstep
  | subscribe created memory =>
    obtain ⟨-, rfl⟩ | ⟨h, -, -, rfl⟩ | ⟨h, -, -, rfl⟩ := step_subscribe hstep
    · rfl
    · rfl
    · exact Function.update_of_ne (Nat.ne_of_lt hc) _ _
  | slots a =>
    obtain ⟨slots, -, rfl, -⟩ := slotStep_spec hstep
    rfl
  | load d disconnected =>
    have hne : c ≠ d := by
      rintro rfl
      simpa using hown _ (if_pos rfl)
    simp only [step] at hstep
    split at hstep
    · split at hstep
      · obtain rfl := Option.some_inj.mp hstep
        exact Function.update_of_ne hne _ _
      · split at hstep <;> obtain rfl := Option.some_inj.mp hstep <;>
          exact Function.update_of_ne hne _ _
    · cases hstep
  | copyOut d | callback d =>
    have hne : c ≠ d := by
      rintro rfl
      simpa using hown _ (if_pos rfl)
    simp only [step] at hstep
    split at hstep
    · obtain rfl := Option.some_inj.mp hstep
      exact Function.update_of_ne hne _ _
    · cases hstep
  | advance d =>
    have hne : c ≠ d := by
      rintro rfl
      simpa using hown _ (if_pos rfl)
    obtain ⟨rp, -, rfl⟩ := step_advance hstep
    exact Function.update_of_ne hne _ _

/-- Only a thread in its loop takes a step of it. -/
theorem step_own {m : Move α} (hseen : a.seen c = some m) (hcopy : ∀ data, m ≠ .copy data)
    (hpublish : m ≠ .publish) (hstep : s.step a = some t) : s.phase c ≠ .stopped := by
  cases a with
  | copy data => exact absurd (Option.some_inj.mp hseen).symm (hcopy data)
  | publish => exact absurd (Option.some_inj.mp hseen).symm hpublish
  | subscribe created memory | slots a => cases hseen
  | load d disconnected | copyOut d | callback d | advance d =>
    obtain rfl : d = c := by
      by_contra hne
      rw [Turn.seen, if_neg hne] at hseen
      cases hseen
    intro hstop
    simp only [step, hstop] at hstep
    cases hstep

/-- A thread that has left its loop does not come back. -/
theorem step_running (hc : c < s.slots.born) (hstep : s.step a = some t)
    (hrun : t.phase c ≠ .stopped) : s.phase c ≠ .stopped := by
  by_cases hown : ∀ m, a.seen c = some m → m = .publish ∨ ∃ data, m = .copy data
  · rwa [← step_phase hc hstep hown]
  · push Not at hown
    obtain ⟨m, hseen, hpublish, hcopy⟩ := hown
    exact step_own hseen hcopy hpublish hstep

end Broadcast

/-- What the run of all threads keeps of a subscriber that keeps up, beside the run of the writer and it
alone. -/
structure Follows (first c : Nat) (s : Broadcast α) (r : Race α) : Prop where
  threads : s.Threads
  shadows : Shadows c s r
  sound : r.Sound
  received : Consecutive first r.stream r.received
  inOrder : s.phase c ≠ .stopped → r.InOrder first

namespace Follows

variable {first c : Nat} {s t : Broadcast α} {r r' : Race α} {a : Turn α}

/-- A copy of the writer. -/
theorem copy (h : Follows first c s r) (hkeep : t.KeepsUp c) {data : List α} (ht : t.Threads)
    (hshadows : Shadows c t r') (hmove : r.step (.copy data) = some r')
    (hrunning : t.phase c ≠ .stopped → s.phase c ≠ .stopped) : Follows first c t r' := by
  have hsound := h.sound.step hmove
  simp only [Race.step, Option.ite_none_right_eq_some, Option.some_inj] at hmove
  obtain ⟨⟨hnone, hlen⟩, rfl⟩ := hmove
  refine ⟨ht, hshadows, hsound, h.received.append data, fun hrun => ?_⟩
  obtain ⟨hphase, hsub⟩ := hshadows.running hrun
  have hread : (r.copyChunk data).sub.readPos = t.readPos (t.slotOf c) := by rw [hsub]
  refine (h.inOrder (hrunning hrun)).copyChunk h.sound hnone hlen ?_
  have hfits := hkeep hrun
  rw [← hshadows.ring, ← hshadows.unpublished, ← hphase, ← hread] at hfits
  exact hfits

/-- The store of `write_pos`. -/
theorem publish (h : Follows first c s r) (ht : t.Threads) (hshadows : Shadows c t r')
    (hmove : r.step .publish = some r') (hrunning : t.phase c ≠ .stopped → s.phase c ≠ .stopped) :
    Follows first c t r' := by
  have hsound := h.sound.step hmove
  have hle := h.sound.le
  simp only [Race.step] at hmove
  split at hmove
  · rename_i data hsome
    obtain rfl := Option.some_inj.mp hmove
    rw [hsome] at hle
    exact ⟨ht, hshadows, hsound, h.received,
      fun hrun => (h.inOrder (hrunning hrun)).publishChunk hle hsome⟩
  · cases hmove

theorem step (h : Follows first c s r) (ha : s.Ordered a) (hkeep : t.KeepsUp c)
    (hstep : s.step a = some t) :
    ∃ ms, ms.Sublist (a.seen c).toList ∧ ms.flatMap Move.chunk = a.chunk ∧
      ∃ r', run Race.step r ms = some r' ∧ Follows first c t r' := by
  obtain ⟨ms, hsub, hout, r', hr', hshadows⟩ := h.shadows.step h.threads ha hstep
  refine ⟨ms, hsub, hout, r', hr', ?_⟩
  have ht := h.threads.step ha hstep
  have hrunning := Broadcast.step_running h.shadows.born hstep
  match ms, hsub with
  | [], _ =>
    obtain rfl := Option.some_inj.mp hr'
    exact ⟨ht, hshadows, h.sound, h.received, fun hrun => h.inOrder (hrunning hrun)⟩
  | m :: ms, hsub =>
    obtain ⟨hseen, rfl⟩ : a.seen c = some m ∧ ms = [] := by
      cases hseen : a.seen c with
      | none =>
        rw [hseen] at hsub
        cases hsub
      | some m' =>
        rw [hseen] at hsub
        cases hsub with
        | cons _ hnil => cases hnil
        | cons_cons _ hnil => exact ⟨rfl, List.sublist_nil.mp hnil⟩
    have hmove : r.step m = some r' := by simpa using hr'
    by_cases hcopy : ∃ data, m = .copy data
    · obtain ⟨data, rfl⟩ := hcopy
      exact h.copy hkeep ht hshadows hmove hrunning
    by_cases hpublish : m = .publish
    · subst hpublish
      exact h.publish ht hshadows hmove hrunning
    · push Not at hcopy
      have hrun := Broadcast.step_own hseen hcopy hpublish hstep
      obtain ⟨hnext, hreceived⟩ :=
        (h.inOrder hrun).consume h.sound hcopy hpublish hmove h.received
      refine ⟨ht, hshadows, h.sound.step hmove, hreceived, fun hrun' => hnext ?_⟩
      rw [(hshadows.running hrun').1]
      exact hrun'

end Follows

/-- A new subscriber, whose first value is the next one to be published. -/
theorem Race.InOrder.subscribed {ring : IqRing α} {unpublished : Option (List α)} {stream : List α}
    (hsound : Race.Sound ⟨ring, unpublished, subscribeTo ring, .polling, stream, []⟩)
    (hlen : (unpublished.getD []).length ≤ 16384) :
    Race.InOrder (stream.length - (unpublished.getD []).length)
      ⟨ring, unpublished, subscribeTo ring, .polling, stream, []⟩ where
  sequence := rfl
  next := hsound.writePos
  le := Nat.le_refl _
  lag := by
    have hsize := ring.segment_le_size
    simp only [copies, List.length_nil, segmentStart, Nat.mul_zero, Nat.add_zero]
    omega
  checked _ h := nomatch h
  copied _ _ h := nomatch h

theorem Race.run_stream {r r' : Race α} {ms : List (Move α)} (hrun : run Race.step r ms = some r') :
    r'.stream = r.stream ++ ms.flatMap Move.chunk := by
  induction ms generalizing r with
  | nil =>
    obtain rfl := Option.some_inj.mp hrun
    simp
  | cons m ms ih =>
    obtain ⟨q, hq, hrest⟩ := Option.bind_eq_some_iff.mp hrun
    rw [ih hrest, List.flatMap_cons, ← List.append_assoc]
    refine congrArg (· ++ _) ?_
    cases m with
    | copy data =>
      simp only [Race.step, Option.ite_none_right_eq_some, Option.some_inj] at hq
      obtain ⟨-, rfl⟩ := hq
      rfl
    | publish | copyOut | callback | advance =>
      simp only [Race.step] at hq
      split at hq
      · obtain rfl := Option.some_inj.mp hq
        exact (List.append_nil _).symm
      · cases hq
    | load disconnected =>
      simp only [Race.step] at hq
      split at hq
      · split at hq
        · obtain rfl := Option.some_inj.mp hq
          exact (List.append_nil _).symm
        · split at hq <;> obtain rfl := Option.some_inj.mp hq <;> exact (List.append_nil _).symm
      · cases hq

/-- The lag check of a consumer that keeps up finds a segment once one is published. -/
theorem Race.InOrder.poll_some {first : Nat} {r : Race α} (hsound : r.Sound) (h : r.InOrder first)
    (hphase : r.phase = .polling)
    (hfull : segmentStart first r.received.length + 16384 ≤ r.published) :
    Ring.poll r.ring r.sub.readPos = some r.sub.readPos := by
  have hcopies : r.copies = r.received.length := by simp [copies, hphase]
  have hle := h.le
  have hlag := h.lag
  have hlt := r.ring.size_lt
  have hpub : r.published ≤ r.stream.length := Nat.sub_le _ _
  have hread := h.next
  simp only [hphase, Phase.next] at hread
  rw [hcopies] at hle hlag hread
  rw [hread, poll_eq hsound.writePos hle, Nat.mod_eq_of_lt (by omega), if_neg (by omega), reach,
    if_neg (show ¬r.ring.size.toNat < _ by omega), Nat.sub_sub_self hle]

/-- The number of values that a run publishes. -/
def Broadcast.published (turns : List (Turn α)) (s : Broadcast α) : Nat :=
  (turns.flatMap Turn.chunk).length - (s.unpublished.getD []).length

/-- A subscriber that keeps up, from the `subscribe` that creates its thread to the end of a run. -/
theorem run_follows {filler : α} {turns : List (Turn α)} {t : Broadcast α} {c : Nat}
    (hord : Along Broadcast.step
      (fun s a => s.Ordered a ∧ ∀ u, s.step a = some u → u.KeepsUp c) (.start filler) turns)
    (hrun : run Broadcast.step (.start filler) turns = some t) (hc : c < t.slots.born) :
    ∃ pre memory u v r, pre ++ [.subscribe true memory] <+: turns ∧
      run Broadcast.step (.start filler) pre = some u ∧ u.step (.subscribe true memory) = some v ∧
      u.slots.born = c ∧ v.slots.born = c + 1 ∧ r.stream = turns.flatMap Turn.chunk ∧
      Follows (u.published pre) c t r := by
  obtain ⟨pre, memory, post, u, v, h, rfl, hpre, rfl, hfree, hstep, hpost⟩ :=
    Broadcast.run_birth (Nat.zero_le c) hc hrun
  obtain ⟨hordPre, hordPost⟩ := Along.append.mp hord
  obtain ⟨-, hordPost⟩ := hordPost u hpre
  obtain ⟨hthreads, hrecorded⟩ := Broadcast.run_recorded (Broadcast.start_threads filler)
    (Broadcast.start_recorded filler) (hordPre.mono fun _ _ ha => ha.1) hpre
  rw [List.nil_append] at hrecorded
  obtain ⟨before, ms, hbefore, hms, hchunks, hrace⟩ := hrecorded.raceStart
  have hsound := (raceStart_sound filler fun chunk hchunk =>
    (hbefore chunk hchunk).trans (by decide)).run hrace
  have hlen : (u.unpublished.getD []).length ≤ 16384 := by
    obtain ⟨-, -, ⟨hnone, -⟩ | ⟨data, hdata, hsome, -⟩⟩ := hrecorded
    · simp [hnone]
    · simpa [hsome] using hdata
  have hnew := Broadcast.subscribed_shadows hthreads hfree hstep (pre.flatMap Turn.chunk)
  have hfollows : Follows (u.published pre) u.slots.born v
      ⟨u.ring, u.unpublished, subscribeTo u.ring, .polling, pre.flatMap Turn.chunk, []⟩ :=
    ⟨hthreads.step (show u.Ordered (.subscribe true memory) from trivial) hstep, hnew, hsound,
      fun k hk => absurd hk (Nat.not_lt_zero k), fun _ => .subscribed hsound hlen⟩
  obtain ⟨moves, -, hout, r, hr, hlast⟩ := Along.simulates
    (fun _ _ _ _ hs ha hstep => hs.step ha.1 (ha.2 _ hstep) hstep) hfollows (hordPost v hstep)
    hpost
  have hborn : v.slots.born = u.slots.born + 1 := by
    obtain hsame | ⟨hone, -⟩ := Broadcast.step_born hstep
    · exact absurd hnew.born (by omega)
    · exact hone
  refine ⟨pre, memory, u, v, r, ⟨post, by simp⟩, hpre, hstep, rfl, hborn, ?_, hlast⟩
  rw [Race.run_stream hr, hout, List.flatMap_append, List.flatMap_cons]
  rfl

/-- The value of a copy of the writer. -/
def Turn.copied : Turn α → Option (List α)
  | .copy data => some data
  | _ => none

theorem flatMap_chunk (turns : List (Turn α)) :
    turns.flatMap Turn.chunk = (turns.filterMap Turn.copied).flatten := by
  induction turns with
  | nil => rfl
  | cons a turns ih =>
    rw [List.flatMap_cons, List.filterMap_cons, ih]
    cases a <;> rfl

theorem Consecutive.mono {first : Nat} {stream more : List α} {received : List (SdrggBuffer α)}
    (h : Consecutive first stream received) (hextends : stream <+: more) :
    Consecutive first more received := by
  obtain ⟨rest, rfl⟩ := hextends
  exact h.append rest

/-- No two calls of `unsubscribe` are at work on one slot. -/
def Broadcast.Calm (s : Broadcast α) : Turn α → Prop
  | .slots a => s.slots.Alone a
  | _ => True

theorem Broadcast.calm_of_ordered {c : Nat} (s : Broadcast α) (a : Turn α)
    (h : s.Ordered a ∧ ∀ u, s.step a = some u → u.KeepsUp c) :
    s.Calm a ∧ ∀ u, s.step a = some u → u.KeepsUp c := by
  refine ⟨?_, h.2⟩
  cases a with
  | slots a => exact h.1
  | _ => trivial

/-- A subscriber that keeps up with a writer of the chunks `chunks` receives their values. -/
theorem run_consecutive {filler : α} {turns : List (Turn α)} {t : Broadcast α} {c : Nat}
    {chunks : List (List α)} (hfits : ∀ chunk ∈ chunks, chunk.length ≤ 16384)
    (hcopies : turns.filterMap Turn.copied <+: chunks)
    (hord : Along Broadcast.step
      (fun s a => s.Calm a ∧ ∀ u, s.step a = some u → u.KeepsUp c) (.start filler) turns)
    (hrun : run Broadcast.step (.start filler) turns = some t) (hc : c < t.slots.born) :
    ∃ pre memory u v, pre ++ [.subscribe true memory] <+: turns ∧
      run Broadcast.step (.start filler) pre = some u ∧ u.step (.subscribe true memory) = some v ∧
      u.slots.born = c ∧ v.slots.born = c + 1 ∧
      Consecutive (u.published pre) chunks.flatten (t.received c) := by
  have hcopy : ∀ a ∈ turns, ∀ data, a = .copy data → data.length ≤ 16384 := by
    rintro a ha data rfl
    exact hfits data (hcopies.subset (List.mem_filterMap.mpr ⟨_, ha, rfl⟩))
  have hboth := hord.and (Along.of_mem hcopy (Broadcast.start filler))
  obtain ⟨pre, memory, u, v, r, hpre, hu, hv, hborn, hnext, hstream, h⟩ :=
    run_follows (hboth.mono fun s a ha => by
      refine ⟨?_, ha.1.2⟩
      cases a with
      | copy data => exact ha.2 data rfl
      | slots a => exact ha.1.1
      | _ => trivial) hrun hc
  refine ⟨pre, memory, u, v, hpre, hu, hv, hborn, hnext, ?_⟩
  have hall := h.received
  rw [hstream, h.shadows.received, flatMap_chunk] at hall
  obtain ⟨rest, rfl⟩ := hcopies
  exact hall.mono ⟨rest.flatten, List.flatten_append.symm⟩

/-- However the threads are scheduled, a subscriber that keeps up receives the stream from its
subscription on, one segment a callback, in order and numbered, and its lag check finds a segment when
one is published. -/
theorem subscriber_lossless {filler : α} {turns : List (Turn α)} {t : Broadcast α} {c : Nat}
    (hord : Along Broadcast.step
      (fun s a => s.Ordered a ∧ ∀ u, s.step a = some u → u.KeepsUp c) (.start filler) turns)
    (hrun : run Broadcast.step (.start filler) turns = some t) (hc : c < t.slots.born) :
    ∃ pre memory u v, pre ++ [.subscribe true memory] <+: turns ∧
      run Broadcast.step (.start filler) pre = some u ∧ u.step (.subscribe true memory) = some v ∧
      u.slots.born = c ∧ v.slots.born = c + 1 ∧
      Consecutive (u.published pre) (turns.flatMap Turn.chunk) (t.received c) ∧
      (t.phase c = .polling →
        segmentStart (u.published pre) (t.received c).length + 16384 ≤ t.published turns →
        poll t.ring (t.readPos (t.slotOf c)) = some (t.readPos (t.slotOf c))) := by
  obtain ⟨pre, memory, u, v, r, hpre, hu, hv, hborn, hnext, hstream, h⟩ := run_follows hord hrun hc
  refine ⟨pre, memory, u, v, hpre, hu, hv, hborn, hnext, ?_, fun hphase hfull => ?_⟩
  · rw [← hstream, ← h.shadows.received]
    exact h.received
  · have hrunning : t.phase c ≠ .stopped := by simp [hphase]
    obtain ⟨hrphase, hsub⟩ := h.shadows.running hrunning
    have hpoll := (h.inOrder hrunning).poll_some h.sound (hrphase.trans hphase) (by
      rw [h.shadows.received, Race.published, hstream, h.shadows.unpublished]
      exact hfull)
    rwa [h.shadows.ring, hsub] at hpoll

theorem subscriber_lossless_sample : ∃ t, run Broadcast.step (.start 0) Broadcast.sample = some t ∧
    (t.received 1).length = 1 ∧
    ∃ pre memory u v, pre ++ [.subscribe true memory] <+: Broadcast.sample ∧
      run Broadcast.step (.start 0) pre = some u ∧ u.step (.subscribe true memory) = some v ∧
      u.slots.born = 1 ∧ v.slots.born = 2 ∧
      Consecutive (u.published pre) (Broadcast.sample.flatMap Turn.chunk) (t.received 1) ∧
      (t.phase 1 = .polling →
        segmentStart (u.published pre) (t.received 1).length + 16384 ≤ t.published Broadcast.sample →
        poll t.ring (t.readPos (t.slotOf 1)) = some (t.readPos (t.slotOf 1))) := by
  obtain ⟨t, hrun, hborn, hone, hord⟩ := Broadcast.run_sample 0
  exact ⟨t, hrun, hone, subscriber_lossless hord hrun hborn⟩

end Sdrgg.Ring
