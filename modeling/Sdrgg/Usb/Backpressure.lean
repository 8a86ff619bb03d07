import Sdrgg.Usb.Pass

/-! The counter and the back-pressure flag of a pipeline over every sequence of URB operations. -/

namespace Sdrgg.Usb

open ProofKit

/-! ### The operations -/

/-- The loop of `urb_submit_all`. -/
def Pipeline.submitFrom (accepted : Nat → Bool) :
    List Nat → Pipeline → Except SdrggError Unit × Pipeline
  | [], p => (.ok (), p)
  | i :: is, p =>
    match p.urbSubmit i (accepted i) with
    | (.ok _, p) => submitFrom accepted is p
    | (.error e, p) => (.error e, p)

/-- `urb_submit_all`. -/
def Pipeline.urbSubmitAll (p : Pipeline) (accepted : Nat → Bool) :
    Except SdrggError Unit × Pipeline :=
  submitFrom accepted p.indices p

/-- An operation on a pipeline and what the system answers.  A URB is named by its index, and
`urb_reap` may find none. -/
inductive UrbOp where
  | urbAlloc (count bufSize : UInt32) (alloc : Allocation)
  | urbSubmit (i : Nat) (accepted : Bool)
  | urbSubmitAll (accepted : Nat → Bool)
  | urbReap (reaped : Option (Nat × Int32 × Int32))
  | urbCancelAll (answers : List (Option Nat))
  | urbFree (answers : List (Option Nat))

/-- The number of entries in the arena. -/
def Pipeline.entries (p : Pipeline) : Nat := (p.arena.getD []).length

/-- The pipeline after an operation that is not given a URB of another arena. -/
def Pipeline.op (p : Pipeline) : UrbOp → Option Pipeline
  | .urbAlloc count bufSize alloc =>
    if count > 0 then some (p.urbAlloc count bufSize alloc).2 else none
  | .urbSubmit i accepted => if i < p.entries then some (p.urbSubmit i accepted).2 else none
  | .urbSubmitAll accepted =>
    if p.arenaDepth.toNat ≤ p.entries then some (p.urbSubmitAll accepted).2 else none
  | .urbReap none => some p
  | .urbReap (some (i, status, actualLength)) =>
    if i < p.entries then some (p.urbReap i status actualLength) else none
  | .urbCancelAll answers => some (Usb.urbCancelAll p answers).pipeline
  | .urbFree answers => some (Usb.urbFree p answers).1.pipeline

/-- The pipeline of a device that has just been opened. -/
def Pipeline.closed : Pipeline := ⟨none, 0, 0, 0, 0, 0, false⟩

/-- The flag says that all entries are in flight, and the counter how many are. -/
structure Pipeline.Tells (p : Pipeline) : Prop where
  submitted : p.submitted.toNat = p.flaggedCount
  backpressure : p.backpressure = true ↔
    p.arena.isSome = true ∧ p.flaggedCount = p.arenaDepth.toNat

/-- The arena, where there is one, has entries. -/
structure Pipeline.Sound (p : Pipeline) : Prop where
  wellFormed : p.WellFormed
  depth : p.arena.isSome = true → 0 < p.arenaDepth.toNat

/-- No URB is in flight when there is no memory for the arena, none is reaped that is not flagged
while others are, and the URBs are cancelled or freed while not all of them are in flight. -/
def Pipeline.Restores (p : Pipeline) : UrbOp → Prop
  | .urbAlloc _ _ alloc => alloc = .noArena → p.submitted = 0
  | .urbReap (some (i, _, _)) => p.flagged i = true ∨ p.submitted = 0
  | .urbCancelAll _ | .urbFree _ => p.backpressure = false
  | _ => True

instance (p : Pipeline) (op : UrbOp) : Decidable (p.Restores op) :=
  match op with
  | .urbAlloc _ _ alloc => inferInstanceAs (Decidable (alloc = .noArena → p.submitted = 0))
  | .urbReap (some (i, _, _)) =>
    inferInstanceAs (Decidable (p.flagged i = true ∨ p.submitted = 0))
  | .urbCancelAll _ | .urbFree _ => inferInstanceAs (Decidable (p.backpressure = false))
  | .urbSubmit _ _ | .urbSubmitAll _ | .urbReap none => .isTrue trivial

/-! ### Submission -/

section Steps

variable {p q : Pipeline}

theorem Pipeline.Tells.of_eq (h : p.Tells) (hsubmitted : q.submitted = p.submitted)
    (hcount : q.flaggedCount = p.flaggedCount) (hpressure : q.backpressure = p.backpressure)
    (hsome : q.arena.isSome = p.arena.isSome) (hdepth : q.arenaDepth = p.arenaDepth) : q.Tells := by
  refine ⟨?_, ?_⟩
  · rw [hsubmitted, hcount, h.submitted]
  · rw [hpressure, hsome, hcount, hdepth, h.backpressure]

theorem Pipeline.entry_of_lt {i : Nat} (h : i < p.entries) :
    ∃ u, (p.arena.getD [])[i]? = some u :=
  ⟨_, List.getElem?_eq_getElem h⟩

theorem Pipeline.isSome_of_lt {i : Nat} (h : i < p.entries) : p.arena.isSome = true := by
  cases ha : p.arena with
  | none => simp [entries, ha] at h
  | some a => rfl

theorem Pipeline.entries_setUrb (p : Pipeline) (i : Nat) (f : Urb → Urb) :
    (p.setUrb i f).entries = p.entries := by
  rw [entries, entries, getD_setUrb, List.length_modify]

theorem Pipeline.isSome_setUrb (p : Pipeline) (i : Nat) (f : Urb → Urb) :
    (p.setUrb i f).arena.isSome = p.arena.isSome :=
  Option.isSome_map

/-- A submission keeps both, whatever the kernel answers. -/
theorem Pipeline.urbSubmit_tells (hp : p.Sound) (h : p.Tells) {i : Nat} (hi : i < p.entries)
    (accepted : Bool) :
    (p.urbSubmit i accepted).2.Tells ∧ (p.urbSubmit i accepted).2.Sound ∧
      (p.urbSubmit i accepted).2.entries = p.entries := by
  obtain ⟨u, hu⟩ := entry_of_lt hi
  have hsome := isSome_of_lt hi
  unfold urbSubmit
  split
  · exact ⟨h, hp, rfl⟩
  · rename_i hidle
    have hidle : u.submitted = false := by
      simpa [flagged, hu] using hidle
    cases accepted with
    | false =>
      have hcount : (p.setUrb i Urb.reset).flaggedCount = p.flaggedCount :=
        Nat.add_right_cancel (flaggedCount_setUrb (f := Urb.reset) hu)
      refine ⟨h.of_eq rfl hcount rfl (isSome_setUrb _ _ _) rfl,
        ⟨hp.wellFormed.setUrb, fun _ => hp.depth hsome⟩, entries_setUrb _ _ _⟩
    | true =>
      have hwell : ((p.setUrb i Urb.reset).setUrb i Urb.taken).WellFormed :=
        hp.wellFormed.setUrb.setUrb
      have hle : ((p.setUrb i Urb.reset).setUrb i Urb.taken).flaggedCount ≤ p.arenaDepth.toNat :=
        hwell.flaggedCount_le
      have hcount := hp.wellFormed.submitted_taken h.submitted hu hidle
      refine ⟨⟨hcount, ?_⟩, ⟨hwell, fun _ => hp.depth hsome⟩, ?_⟩
      · change decide (p.submitted + 1 ≥ p.arenaDepth) = true ↔
          ((p.setUrb i Urb.reset).setUrb i Urb.taken).arena.isSome = true ∧
            ((p.setUrb i Urb.reset).setUrb i Urb.taken).flaggedCount = p.arenaDepth.toNat
        rw [isSome_setUrb, isSome_setUrb, decide_eq_true_iff, ge_iff_le, UInt32.le_iff_toNat_le]
        simp only [hsome, true_and]
        omega
      · exact (entries_setUrb _ _ _).trans (entries_setUrb _ _ _)

theorem Pipeline.submitFrom_tells (accepted : Nat → Bool) (is : List Nat) (hp : p.Sound)
    (h : p.Tells) (his : ∀ i ∈ is, i < p.entries) :
    (submitFrom accepted is p).2.Tells ∧ (submitFrom accepted is p).2.Sound := by
  induction is generalizing p with
  | nil => exact ⟨h, hp⟩
  | cons i is ih =>
    obtain ⟨hi, hrest⟩ := List.forall_mem_cons.mp his
    obtain ⟨htells, hsound, hentries⟩ := urbSubmit_tells hp h hi (accepted i)
    unfold submitFrom
    rcases hsubmit : p.urbSubmit i (accepted i) with ⟨e | _, q⟩ <;>
      rw [hsubmit] at htells hsound hentries
    · exact ⟨htells, hsound⟩
    · exact ih hsound htells (hentries ▸ hrest)

/-- The pipeline of a streaming device takes the same steps. -/
theorem Transfers.submitFrom_pipeline (accepted : Nat → Bool) (is : List Nat) (s : Transfers) :
    (Transfers.submitFrom accepted is s).2.pipeline =
      (Pipeline.submitFrom accepted is s.pipeline).2 := by
  induction is generalizing s with
  | nil => rfl
  | cons i is ih =>
    unfold Transfers.submitFrom Pipeline.submitFrom Transfers.urbSubmit
    rcases s.pipeline.urbSubmit i (accepted i) with ⟨e | _, p⟩
    · rfl
    · exact ih _

theorem Transfers.urbSubmitAll_tells {s t : Transfers} {accepted : Nat → Bool}
    {out : Except SdrggError Unit} (hp : s.pipeline.Sound) (h : s.pipeline.Tells)
    (hdepth : s.pipeline.arenaDepth.toNat ≤ s.pipeline.entries)
    (hrun : s.urbSubmitAll accepted = (out, t)) : t.pipeline.Tells ∧ t.pipeline.Sound := by
  have hpipeline := Transfers.submitFrom_pipeline accepted s.pipeline.indices s
  rw [show Transfers.submitFrom accepted s.pipeline.indices s = (out, t) from hrun] at hpipeline
  rw [hpipeline]
  exact Pipeline.submitFrom_tells accepted _ hp h fun i hi =>
    Nat.lt_of_lt_of_le (List.mem_range.mp hi) hdepth

/-! ### Allocation and reaping -/

/-- A pipeline without an arena. -/
theorem Pipeline.tells_of_none (h : p.arena = none) :
    p.Tells ↔ p.submitted = 0 ∧ p.backpressure = false := by
  have hcount : p.flaggedCount = 0 := by
    rw [flaggedCount, h]
    rfl
  constructor
  · rintro ⟨hsubmitted, hpressure⟩
    refine ⟨UInt32.toNat_inj.mp (hsubmitted.trans hcount), Bool.eq_false_iff.mpr fun htrue => ?_⟩
    have hsome := (hpressure.mp htrue).1
    rw [h] at hsome
    cases hsome
  · rintro ⟨hsubmitted, hpressure⟩
    refine ⟨by rw [hsubmitted, hcount]; rfl, ?_⟩
    rw [hpressure, h]
    simp

/-- While no URB is in flight the flag is clear. -/
theorem Pipeline.Tells.clear (h : p.Tells) (hp : p.Sound) (hzero : p.submitted = 0) :
    p.backpressure = false := by
  refine Bool.eq_false_iff.mpr fun htrue => ?_
  obtain ⟨hsome, hfull⟩ := h.backpressure.mp htrue
  have hcount := h.submitted
  have hdepth := hp.depth hsome
  rw [hzero, UInt32.toNat_zero] at hcount
  omega

theorem Pipeline.sound_of_none (h : p.arena = none) : p.Sound :=
  ⟨fun a ha => (nomatch h.symm.trans ha), fun hsome => by simp [h] at hsome⟩

/-- A new arena has none of its URBs in flight. -/
theorem Pipeline.urbAlloc_fresh (p : Pipeline) {count bufSize : UInt32} (hcount : count > 0)
    {alloc : Allocation} (harena : alloc ≠ .noArena) (halloc : alloc.succeeds count = true) :
    (p.urbAlloc count bufSize alloc).2.Tells ∧ (p.urbAlloc count bufSize alloc).2.Sound := by
  have hpos : 0 < count.toNat := UInt32.lt_iff_toNat_lt.mp hcount
  have hempty (p : Pipeline)
      (ha : p.arena = some (List.replicate count.toNat ⟨bufSize, false, 0, 0⟩)) :
      p.flaggedCount = 0 := by
    simp [flaggedCount, ha, List.countP_replicate]
  rw [urbAlloc, if_neg harena, if_pos halloc]
  refine ⟨⟨(hempty _ rfl).symm, ?_⟩, fun a ha => ?_, fun _ => hpos⟩
  · rw [hempty _ rfl]
    exact iff_of_false (by simp) fun h => Nat.ne_of_lt hpos h.2
  · obtain rfl := Option.some_inj.mp ha
    exact List.length_replicate

theorem Pipeline.urbAlloc_tells (hp : p.Sound) (h : p.Tells) {count bufSize : UInt32}
    (hcount : count > 0) (alloc : Allocation) :
    ((p.urbAlloc count bufSize alloc).2.Tells ↔ (alloc = .noArena → p.submitted = 0)) ∧
      (p.urbAlloc count bufSize alloc).2.Sound := by
  by_cases harena : alloc = .noArena
  · rw [urbAlloc, if_pos harena]
    refine ⟨?_, sound_of_none rfl⟩
    rw [tells_of_none rfl]
    exact ⟨fun hq _ => hq.1, fun hzero => ⟨hzero harena, h.clear hp (hzero harena)⟩⟩
  · by_cases halloc : alloc.succeeds count = true
    · obtain ⟨htells, hsound⟩ := @urbAlloc_fresh p count bufSize hcount alloc harena halloc
      exact ⟨iff_of_true htells fun h => absurd h harena, hsound⟩
    · rw [urbAlloc, if_neg harena, if_neg halloc]
      exact ⟨iff_of_true ((tells_of_none rfl).mpr ⟨rfl, rfl⟩) fun h => absurd h harena,
        sound_of_none rfl⟩

theorem Pipeline.urbReap_backpressure (p : Pipeline) (i : Nat) (status actualLength : Int32) :
    (p.urbReap i status actualLength).backpressure = false := by
  unfold urbReap
  split <;> rfl

/-- The entry that is reaped is not in flight. -/
theorem Pipeline.flaggedCount_reaped_lt (hp : p.WellFormed) {i : Nat} {u : Urb}
    (hu : (p.arena.getD [])[i]? = some u) (status actualLength : Int32) :
    (p.setUrb i (Urb.returned status actualLength)).flaggedCount < p.arenaDepth.toNat := by
  have htaken := flaggedCount_setUrb (f := Urb.taken)
    (getElem?_setUrb_self (f := Urb.returned status actualLength) hu)
  have hle : ((p.setUrb i (Urb.returned status actualLength)).setUrb i Urb.taken).flaggedCount ≤
      p.arenaDepth.toNat := hp.setUrb.setUrb.flaggedCount_le
  simp only [Urb.returned, Urb.taken, Bool.toNat_false, Bool.toNat_true] at htaken
  omega

/-- A reap takes one off the counter, whether or not the URB is flagged. -/
theorem Pipeline.urbReap_tells (hp : p.Sound) (h : p.Tells) {i : Nat} (hi : i < p.entries)
    (status actualLength : Int32) :
    ((p.urbReap i status actualLength).Tells ↔ p.flagged i = true ∨ p.submitted = 0) ∧
      (p.urbReap i status actualLength).Sound := by
  obtain ⟨u, hu⟩ := entry_of_lt hi
  have harena := p.urbReap_arena i status actualLength
  have hdepth := p.urbReap_arenaDepth i status actualLength
  have hroom := flaggedCount_reaped_lt hp.wellFormed hu status actualLength
  have hsame : (p.urbReap i status actualLength).flaggedCount =
      (p.setUrb i (Urb.returned status actualLength)).flaggedCount := by
    rw [flaggedCount, flaggedCount, harena]
  have htells : (p.urbReap i status actualLength).Tells ↔
      p.submitted.toNat - 1 = (p.setUrb i (Urb.returned status actualLength)).flaggedCount := by
    rw [← urbReap_submitted p i status actualLength, ← hsame]
    refine ⟨Tells.submitted, fun hcounted => ⟨hcounted, ?_⟩⟩
    rw [urbReap_backpressure, hdepth, hsame]
    exact iff_of_false (by simp) fun hfull => absurd hfull.2 (Nat.ne_of_lt hroom)
  refine ⟨?_, fun a ha => ?_, fun hsome => ?_⟩
  · have hcounted := h.submitted
    have hcount := flaggedCount_setUrb (f := Urb.returned status actualLength) hu
    have hflag : p.flagged i = u.submitted := by
      rw [flagged, hu]
      rfl
    rw [htells, hflag, ← UInt32.toNat_inj, UInt32.toNat_zero]
    simp only [Urb.returned, Bool.toNat_false, Nat.add_zero] at hcount
    cases hu' : u.submitted with
    | false =>
      rw [hu', Bool.toNat_false, Nat.add_zero] at hcount
      simp only [Bool.false_eq_true, false_or]
      omega
    | true =>
      rw [hu', Bool.toNat_true] at hcount
      simp only [true_or, iff_true]
      omega
  · rw [hdepth]
    exact hp.wellFormed.setUrb a (harena ▸ ha)
  · rw [hdepth]
    exact hp.depth (isSome_of_lt hi)

/-! ### Cancelling -/

/-- The loops of `urb_cancel_all` change flags and the counter. -/
structure Pipeline.SameShape (p q : Pipeline) : Prop where
  depth : q.arenaDepth = p.arenaDepth
  backpressure : q.backpressure = p.backpressure
  isSome : q.arena.isSome = p.arena.isSome
  entries : q.entries = p.entries

theorem Pipeline.SameShape.refl (p : Pipeline) : p.SameShape p := ⟨rfl, rfl, rfl, rfl⟩

theorem Pipeline.SameShape.trans {r : Pipeline} (h : p.SameShape q) (h' : q.SameShape r) :
    p.SameShape r :=
  ⟨h'.depth.trans h.depth, h'.backpressure.trans h.backpressure, h'.isSome.trans h.isSome,
    h'.entries.trans h.entries⟩

theorem Pipeline.WellFormed.entries {a : List Urb} (h : p.WellFormed) (ha : p.arena = some a) :
    p.entries = p.arenaDepth.toNat := by
  rw [Pipeline.entries, ha]
  exact h a ha

theorem Pipeline.SameShape.sound (h : p.SameShape q) (hp : p.Sound) : q.Sound := by
  refine ⟨fun b hb => ?_, fun hsome => ?_⟩
  · have hsome : p.arena.isSome = true := by rw [← h.isSome, hb]; rfl
    obtain ⟨a, ha⟩ := Option.isSome_iff_exists.mp hsome
    rw [h.depth, ← hp.wellFormed.entries ha, ← h.entries, Pipeline.entries, hb]
    rfl
  · rw [h.depth]
    exact hp.depth (h.isSome ▸ hsome)

theorem Pipeline.sameShape_unflag (p : Pipeline) (i : Nat) : p.SameShape (p.unflag i) :=
  ⟨rfl, rfl, isSome_setUrb p i _, entries_setUrb p i _⟩

theorem Cancel.sameShape_reap (s : Cancel) (i : Nat) : s.pipeline.SameShape (s.reap i).pipeline := by
  unfold reap
  split
  · split
    · rename_i u answers hans
      obtain ⟨hdepth, hpressure, hsome, hentries⟩ := s.pipeline.sameShape_unflag u
      exact ⟨hdepth, hpressure, hsome, hentries⟩
    · exact .refl _
    · exact .refl _
  · exact .refl _

theorem Pipeline.sameShape_foldl (is : List Nat) (p : Pipeline) :
    p.SameShape (is.foldl unflag p) := by
  induction is generalizing p with
  | nil => exact .refl p
  | cons i is ih => exact (p.sameShape_unflag i).trans (ih _)

theorem Cancel.sameShape_foldl (is : List Nat) (s : Cancel) :
    s.pipeline.SameShape (is.foldl Cancel.reap s).pipeline := by
  induction is generalizing s with
  | nil => exact .refl _
  | cons i is ih => exact (s.sameShape_reap i).trans (ih _)

theorem Pipeline.flagged_foldl (is : List Nat) (p : Pipeline) (j : Nat) :
    (is.foldl unflag p).flagged j = (p.flagged j && decide (j ∉ is)) := by
  induction is generalizing p with
  | nil => simp
  | cons i is ih =>
    rw [List.foldl_cons, ih, flagged_unflag, Bool.and_assoc]
    congr 1
    rw [← Bool.decide_and]
    simp [eq_comm]

/-- The last loop clears every flag. -/
theorem Pipeline.flaggedCount_foldl (h : p.entries = p.arenaDepth.toNat) :
    (p.indices.foldl unflag p).flaggedCount = 0 := by
  refine List.countP_eq_zero.mpr fun u hu hflag => ?_
  obtain ⟨j, hj, rfl⟩ := List.mem_iff_getElem.mp hu
  have hentries := (p.sameShape_foldl p.indices).entries
  have hmem : j ∈ p.indices := by
    rw [indices, List.mem_range, ← h, ← hentries]
    exact hj
  have hflagged : (p.indices.foldl unflag p).flagged j = true := by
    rw [flagged_eq_true]
    exact ⟨_, List.getElem?_eq_getElem hj, hflag⟩
  rw [flagged_foldl] at hflagged
  simp [hmem] at hflagged

/-- What `urb_cancel_all` leaves of a pipeline with an arena. -/
theorem urbCancelAll_spec {a : List Urb} (hp : p.WellFormed) (ha : p.arena = some a)
    (answers : List (Option Nat)) :
    p.SameShape (urbCancelAll p answers).pipeline ∧
      (urbCancelAll p answers).pipeline.flaggedCount = 0 ∧
      (urbCancelAll p answers).pipeline.submitted = 0 := by
  have hnone : p.arena.isNone = false := by rw [ha]; rfl
  have hreaped := Cancel.sameShape_foldl p.indices ⟨p, answers, p.inFlight, []⟩
  have hcleared := Pipeline.sameShape_foldl p.indices
    (p.indices.foldl Cancel.reap ⟨p, answers, p.inFlight, []⟩).pipeline
  have hindices : (p.indices.foldl Cancel.reap ⟨p, answers, p.inFlight, []⟩).pipeline.indices =
      p.indices := by
    rw [Pipeline.indices, hreaped.depth, Pipeline.indices]
  have hcount := Pipeline.flaggedCount_foldl
    (p := (p.indices.foldl Cancel.reap ⟨p, answers, p.inFlight, []⟩).pipeline)
    (by rw [hreaped.entries, hreaped.depth, hp.entries ha])
  rw [hindices] at hcount
  have hshape := hreaped.trans hcleared
  rw [urbCancelAll, if_neg (by simp [hnone])]
  exact ⟨⟨hshape.depth, hshape.backpressure, hshape.isSome, hshape.entries⟩, hcount, rfl⟩

theorem Pipeline.urbCancelAll_tells (hp : p.Sound) (h : p.Tells) (answers : List (Option Nat)) :
    ((urbCancelAll p answers).pipeline.Tells ↔ p.backpressure = false) ∧
      (urbCancelAll p answers).pipeline.Sound := by
  cases ha : p.arena with
  | none =>
    have hsame : (urbCancelAll p answers).pipeline = p := by
      rw [urbCancelAll, if_pos (by rw [ha]; rfl)]
    rw [hsame]
    exact ⟨iff_of_true h ((tells_of_none ha).mp h).2, hp⟩
  | some a =>
    obtain ⟨hshape, hcount, hsubmitted⟩ := urbCancelAll_spec hp.wellFormed ha answers
    have hsound := hshape.sound hp
    have hdepth : 0 < p.arenaDepth.toNat := hp.depth (by rw [ha]; rfl)
    refine ⟨⟨fun hq => hshape.backpressure ▸ hq.clear hsound hsubmitted, fun hclear => ⟨?_, ?_⟩⟩,
      hsound⟩
    · rw [hsubmitted, hcount]
      rfl
    · rw [hshape.backpressure, hclear, hcount, hshape.depth]
      exact iff_of_false (by simp) fun hfull => Nat.ne_of_lt hdepth hfull.2

theorem Pipeline.urbFree_tells (hp : p.Sound) (h : p.Tells) (answers : List (Option Nat)) :
    ((urbFree p answers).1.pipeline.Tells ↔ p.backpressure = false) ∧
      (urbFree p answers).1.pipeline.Sound := by
  cases ha : p.arena with
  | none =>
    have hsame : (urbFree p answers).1.pipeline = p := by
      rw [urbFree, if_pos (by rw [ha]; rfl)]
    rw [hsame]
    exact ⟨iff_of_true h ((tells_of_none ha).mp h).2, hp⟩
  | some a =>
    obtain ⟨hshape, -, -⟩ := urbCancelAll_spec hp.wellFormed ha answers
    have hnone : p.arena.isNone = false := by rw [ha]; rfl
    rw [urbFree, if_neg (by simp [hnone])]
    refine ⟨(tells_of_none rfl).trans ?_, sound_of_none rfl⟩
    rw [← hshape.backpressure]
    exact and_iff_right rfl

end Steps

/-! ### The pipeline of a streaming device -/

section Passes

variable {s t : Transfers} {r : Round} {passes : List (List Round)}

theorem Pipeline.entries_urbReap (p : Pipeline) (i : Nat) (status actualLength : Int32) :
    (p.urbReap i status actualLength).entries = p.entries := by
  rw [entries, urbReap_arena]
  exact entries_setUrb p i _

theorem Transfers.resubmit_tells (hp : s.pipeline.Sound) (h : s.pipeline.Tells)
    (hi : r.index < s.pipeline.entries) :
    (s.resubmit r).pipeline.Tells ∧ (s.resubmit r).pipeline.Sound := by
  obtain ⟨htells, hsound, -⟩ := Pipeline.urbSubmit_tells hp h hi r.accepted
  unfold resubmit Transfers.urbSubmit
  split
  · exact ⟨h, hp⟩
  · rcases hsubmit : s.pipeline.urbSubmit r.index r.accepted with ⟨e | _, q⟩ <;>
      rw [hsubmit] at htells hsound <;> exact ⟨htells, hsound⟩

/-- The kernel hands back what it holds, so a round keeps both. -/
theorem Transfers.round_tells (hcounted : s.pipeline.Counted s.kernel) (hp : s.pipeline.Sound)
    (h : s.pipeline.Tells) (hround : s.round r = some t) :
    t.pipeline.Tells ∧ t.pipeline.Sound := by
  obtain ⟨u, hreap, rfl⟩ := Option.map_eq_some_iff.mp hround
  obtain ⟨hi, rfl⟩ := Transfers.reap_eq_some.mp hreap
  have hflag := (hcounted.flags r.index).mp hi
  have hlt : r.index < s.pipeline.entries := by
    obtain ⟨v, hv, -⟩ := hcounted.entry hi
    exact (List.getElem?_eq_some_iff.mp hv).1
  obtain ⟨htells, hsound⟩ := Pipeline.urbReap_tells hp h hlt r.status r.actualLength
  have htells := htells.mpr (.inl hflag)
  unfold handle
  dsimp only
  split
  · exact ⟨htells, hsound⟩
  · obtain ⟨hpipeline, -, -⟩ := Transfers.delivered_pipeline { s with
      pipeline := s.pipeline.urbReap r.index r.status r.actualLength
      kernel := s.kernel.erase r.index } r
    refine Transfers.resubmit_tells (hpipeline ▸ hsound) (hpipeline ▸ htells) ?_
    rw [hpipeline]
    exact (s.pipeline.entries_urbReap _ _ _).symm ▸ hlt

/-- What holds of a streaming device between the rounds of its passes. -/
structure Transfers.Sound (s : Transfers) : Prop where
  accounted : s.Accounted
  tells : s.pipeline.Tells
  pipeline : s.pipeline.Sound

theorem Transfers.Sound.round (h : s.Sound) (hround : s.round r = some t) : t.Sound :=
  have hpipeline := Transfers.round_tells h.accounted.counted h.pipeline h.tells hround
  ⟨h.accounted.round hround, hpipeline.1, hpipeline.2⟩

theorem Transfers.Sound.processDeviceUrbs {rounds : List Round} (h : s.Sound)
    (hrun : s.processDeviceUrbs rounds = some t) : t.Sound :=
  run_invariant (fun _ _ _ hs hround => hs.round hround) h hrun

theorem Transfers.Sound.run (h : s.Sound)
    (hrun : run Transfers.processDeviceUrbs s passes = some t) : t.Sound :=
  run_invariant (fun _ _ _ hs hpass => hs.processDeviceUrbs hpass) h hrun

end Passes

/-! ### Runs -/

/-- An operation keeps the counter and the flag right exactly when it restores them. -/
theorem Pipeline.op_tells {p q : Pipeline} {op : UrbOp} (hp : p.Sound) (h : p.Tells)
    (hop : p.op op = some q) : (q.Tells ↔ p.Restores op) ∧ q.Sound := by
  cases op with
  | urbAlloc count bufSize alloc =>
    obtain ⟨hcount, hq⟩ := Option.ite_none_right_eq_some.mp hop
    obtain rfl := Option.some_inj.mp hq
    exact urbAlloc_tells hp h hcount alloc
  | urbSubmit i accepted =>
    obtain ⟨hi, hq⟩ := Option.ite_none_right_eq_some.mp hop
    obtain rfl := Option.some_inj.mp hq
    obtain ⟨htells, hsound, -⟩ := urbSubmit_tells hp h hi accepted
    exact ⟨iff_of_true htells trivial, hsound⟩
  | urbSubmitAll accepted =>
    obtain ⟨hdepth, hq⟩ := Option.ite_none_right_eq_some.mp hop
    obtain rfl := Option.some_inj.mp hq
    obtain ⟨htells, hsound⟩ := submitFrom_tells accepted p.indices hp h fun i hi =>
      Nat.lt_of_lt_of_le (List.mem_range.mp hi) hdepth
    exact ⟨iff_of_true htells trivial, hsound⟩
  | urbReap reaped =>
    rcases reaped with _ | ⟨i, status, actualLength⟩
    · obtain rfl := Option.some_inj.mp hop
      exact ⟨iff_of_true h trivial, hp⟩
    · obtain ⟨hi, hq⟩ := Option.ite_none_right_eq_some.mp hop
      obtain rfl := Option.some_inj.mp hq
      exact urbReap_tells hp h hi status actualLength
  | urbCancelAll answers =>
    obtain rfl := Option.some_inj.mp hop
    exact urbCancelAll_tells hp h answers
  | urbFree answers =>
    obtain rfl := Option.some_inj.mp hop
    exact urbFree_tells hp h answers

/-- In every run of the operations on a device, the counter and the flag are right after every
operation exactly when every operation restores them. -/
theorem backpressure_iff {ops : List UrbOp} {p : Pipeline}
    (hrun : run Pipeline.op .closed ops = some p) :
    (∀ pre, pre <+: ops → ∀ q, run Pipeline.op .closed pre = some q → q.Tells) ↔
      Along Pipeline.op Pipeline.Restores .closed ops :=
  Along.iff_forall_prefix (I := Pipeline.Sound)
    (fun _ _ _ hs htells hop _ => (Pipeline.op_tells hs htells hop).2)
    (fun _ _ _ hs htells hop => (Pipeline.op_tells hs htells hop).1)
    (Pipeline.sound_of_none rfl) ((Pipeline.tells_of_none rfl).mpr ⟨rfl, rfl⟩) hrun

/-- Two URBs are submitted, one is reaped, and then the URBs are cancelled and freed. -/
def drainedOps : List UrbOp :=
  [ .urbAlloc 2 16384 .complete, .urbSubmitAll fun _ => true, .urbReap (some (0, 0, 16384)),
    .urbCancelAll [some 1], .urbFree [] ]

theorem backpressure_drained :
    run Pipeline.op .closed drainedOps = some ⟨none, 0, 16384, 0, 1, 0, false⟩ ∧
    ∀ pre, pre <+: drainedOps → ∀ q, run Pipeline.op .closed pre = some q → q.Tells := by
  have hrun : run Pipeline.op .closed drainedOps =
      some ⟨none, 0, 16384, 0, 1, 0, false⟩ := by decide +kernel
  exact ⟨hrun, (backpressure_iff hrun).mpr (by decide +kernel)⟩

/-- A cancellation while all URBs are in flight leaves the flag set. -/
theorem backpressure_stays :
    run Pipeline.op .closed
        [.urbAlloc 1 16384 .complete, .urbSubmitAll fun _ => true, .urbCancelAll [some 0]] =
      some ⟨some [⟨16384, false, 0, 0⟩], 1, 16384, 0, 0, 0, true⟩ ∧
    ¬Pipeline.Tells ⟨some [⟨16384, false, 0, 0⟩], 1, 16384, 0, 0, 0, true⟩ :=
  ⟨by decide +kernel, fun h => absurd (h.backpressure.mp rfl).2 (by decide)⟩

end Sdrgg.Usb
