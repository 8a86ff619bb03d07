import Mathlib.Data.List.Nodup
import Mathlib.Data.List.Perm.Basic

/-! The URB arena of a device and `usb::urb_cancel_all` and `usb::urb_free`.  The kernel is the list
of its answers: what each `USBDEVFS_REAPURB` hands back, as an index of the arena. -/

namespace Sdrgg.Usb

/-- `sdrgg_urb_t`, with what the kernel has left in its `usbdevfs_urb`. -/
structure Urb where
  bufSize : UInt32
  submitted : Bool
  status : Int32
  actualLength : Int32
deriving DecidableEq, Repr

/-- `stream_pipeline`. -/
structure Pipeline where
  arena : Option (List Urb)
  arenaDepth : UInt32
  segmentSize : UInt32
  submitted : UInt32
  completed : UInt32
  dropped : UInt32
  backpressure : Bool
deriving DecidableEq, Repr

/-- `arena[i].submitted`. -/
def Pipeline.flagged (p : Pipeline) (i : Nat) : Bool :=
  ((p.arena.getD [])[i]?.map Urb.submitted).getD false

/-- The arena with the flag of entry `i` cleared. -/
def Pipeline.unflag (p : Pipeline) (i : Nat) : Pipeline :=
  { p with arena := p.arena.map fun a => a.modify i fun u => { u with submitted := false } }

/-- The indices that the loops over the arena take. -/
def Pipeline.indices (p : Pipeline) : List Nat := List.range p.arenaDepth.toNat

/-- The entries flagged submitted, in the order of the arena. -/
def Pipeline.inFlight (p : Pipeline) : List Nat := p.indices.filter fun i => p.flagged i

/-- The pipeline in the middle of `urb_cancel_all`: the answers to come, and the entries that have
been discarded and reaped so far. -/
structure Cancel where
  pipeline : Pipeline
  answers : List (Option Nat)
  discarded : List Nat
  reaped : List Nat
deriving DecidableEq, Repr

/-- One iteration of the second loop of `urb_cancel_all`.  An answer `none` is an error, or no URB. -/
def Cancel.reap (s : Cancel) (i : Nat) : Cancel :=
  if s.pipeline.flagged i then
    match s.answers with
    | some u :: answers =>
      let p := s.pipeline.unflag u
      { s with
        pipeline := { p with submitted := if p.submitted > 0 then p.submitted - 1 else p.submitted }
        answers
        reaped := s.reaped ++ [u] }
    | none :: answers => { s with answers }
    | [] => s
  else s

/-- `urb_cancel_all`. -/
def urbCancelAll (p : Pipeline) (answers : List (Option Nat)) : Cancel :=
  if p.arena.isNone then ⟨p, answers, [], []⟩
  else
    let s := p.indices.foldl Cancel.reap ⟨p, answers, p.inFlight, []⟩
    { s with
      pipeline := { p.indices.foldl Pipeline.unflag s.pipeline with submitted := 0 } }

/-- `urb_free`, with the entries whose buffers it frees. -/
def urbFree (p : Pipeline) (answers : List (Option Nat)) : Cancel × List Nat :=
  if p.arena.isNone then (⟨p, answers, [], []⟩, [])
  else
    let s := urbCancelAll p answers
    ({ s with pipeline := { s.pipeline with arena := none, arenaDepth := 0, submitted := 0 } },
      s.pipeline.indices)

/-! ### The flags -/

theorem Pipeline.flagged_unflag (p : Pipeline) (i j : Nat) :
    (p.unflag i).flagged j = (p.flagged j && decide (i ≠ j)) := by
  cases ha : p.arena with
  | none => simp [flagged, unflag, ha]
  | some a =>
    simp only [flagged, unflag, ha, Option.map_some, Option.getD_some, List.getElem?_modify]
    by_cases hij : i = j <;> cases a[j]? <;> simp [hij]

@[simp] theorem Pipeline.indices_unflag (p : Pipeline) (i : Nat) : (p.unflag i).indices = p.indices :=
  rfl

theorem Pipeline.mem_inFlight {p : Pipeline} {i : Nat} :
    i ∈ p.inFlight ↔ i < p.arenaDepth.toNat ∧ p.flagged i = true := by
  simp [inFlight, indices]

/-! ### The reap loop -/

section Reaping

variable {s : Cancel} {order : List Nat}

theorem Cancel.reap_of_not_flagged {i : Nat} (h : s.pipeline.flagged i = false) : s.reap i = s := by
  simp [reap, h]

theorem Cancel.reap_some {i u : Nat} {answers : List (Option Nat)}
    (h : s.pipeline.flagged i = true) (hans : s.answers = some u :: answers) :
    (s.reap i).answers = answers ∧ (s.reap i).reaped = s.reaped ++ [u] ∧
      ∀ j, (s.reap i).pipeline.flagged j = (s.pipeline.flagged j && decide (u ≠ j)) := by
  simp only [reap, h, ↓reduceIte, hans, true_and]
  exact fun j => s.pipeline.flagged_unflag u j

/-- A loop over `is` reaps all that the kernel has left exactly when it hands back the entries of
`is` that are flagged, in the order of `is`. -/
theorem Cancel.foldl_reap (is : List Nat) (hnodup : is.Nodup) (hans : s.answers = order.map some)
    (horder : order.Nodup) (hflags : ∀ i, i ∈ order ↔ s.pipeline.flagged i = true) :
    (is.foldl Cancel.reap s).answers = [] ↔ order = is.filter fun i => s.pipeline.flagged i := by
  induction is generalizing s order with
  | nil => simp [hans]
  | cons i is ih =>
    obtain ⟨hi, htail⟩ := List.nodup_cons.mp hnodup
    rw [List.foldl_cons]
    cases hflag : s.pipeline.flagged i with
    | false =>
      rw [reap_of_not_flagged hflag, ih htail hans horder hflags]
      simp [hflag]
    | true =>
      obtain ⟨u, rest, rfl⟩ : ∃ u rest, order = u :: rest :=
        List.exists_cons_of_ne_nil (List.ne_nil_of_mem ((hflags i).mpr hflag))
      obtain ⟨hu, hrest⟩ := List.nodup_cons.mp horder
      obtain ⟨hans', -, hflags'⟩ := Cancel.reap_some hflag hans
      have hiff : ∀ j, j ∈ rest ↔ (s.reap i).pipeline.flagged j = true := fun j => by
        rw [hflags', Bool.and_eq_true, decide_eq_true_eq, ← hflags]
        grind
      rw [ih htail hans' hrest hiff, List.filter_cons_of_pos hflag]
      -- an entry that is reaped out of turn leaves `i` flagged behind the loop
      have hsame : u = i →
          (is.filter fun j => (s.reap i).pipeline.flagged j) =
            is.filter fun j => s.pipeline.flagged j := by
        rintro rfl
        refine List.filter_congr fun j hj => ?_
        rw [hflags']
        have : u ≠ j := fun h => hi (h ▸ hj)
        simp [this]
      constructor
      · intro heq
        by_cases hui : u = i
        · rw [hui, heq, hsame hui]
        · have hmem : i ∈ rest := (hiff i).mpr (by simp [hflags', hflag, hui])
          rw [heq] at hmem
          exact absurd (List.mem_filter.mp hmem).1 hi
      · intro heq
        obtain ⟨hui, htl⟩ := List.cons.inj heq
        rw [htl, hsame hui]

/-- What has been reaped is what the kernel handed back. -/
theorem Cancel.foldl_reaped (is : List Nat) (hans : s.answers = order.map some) :
    ∃ rest, (is.foldl Cancel.reap s).answers = rest.map some ∧
      s.reaped ++ order = (is.foldl Cancel.reap s).reaped ++ rest := by
  induction is generalizing s order with
  | nil => exact ⟨order, hans, rfl⟩
  | cons i is ih =>
    rw [List.foldl_cons]
    cases hflag : s.pipeline.flagged i with
    | false =>
      rw [reap_of_not_flagged hflag]
      exact ih hans
    | true =>
      cases order with
      | nil =>
        have hsame : s.reap i = s := by simp [reap, hans]
        rw [hsame]
        exact ih hans
      | cons u rest =>
        obtain ⟨hans', hreaped, -⟩ := Cancel.reap_some hflag hans
        obtain ⟨rest', h1, h2⟩ := ih hans'
        exact ⟨rest', h1, by rw [← h2, hreaped]; simp⟩

end Reaping

/-! ### What `urb_cancel_all` leaves in the kernel -/

/-- The arena has the entries that its depth says. -/
def Pipeline.WellFormed (p : Pipeline) : Prop := ∀ a, p.arena = some a → a.length = p.arenaDepth.toNat

theorem Pipeline.WellFormed.mem_inFlight {p : Pipeline} (hp : p.WellFormed) {i : Nat} :
    i ∈ p.inFlight ↔ p.flagged i = true := by
  rw [Pipeline.mem_inFlight, and_iff_right_iff_imp]
  intro hflag
  cases ha : p.arena with
  | none => simp [flagged, ha] at hflag
  | some a =>
    rw [← hp a ha]
    by_contra hge
    simp [flagged, ha, List.getElem?_eq_none (Nat.not_lt.mp hge)] at hflag

theorem Pipeline.inFlight_of_isNone {p : Pipeline} (h : p.arena.isNone = true) :
    p.inFlight = [] := by
  rw [Option.isNone_iff_eq_none] at h
  simp [inFlight, flagged, h]

theorem Pipeline.inFlight_nodup (p : Pipeline) : p.inFlight.Nodup := List.nodup_range.filter _

/-- `urb_cancel_all` reaps everything exactly when the kernel hands the URBs back in the order of the
arena. -/
theorem urbCancelAll_answers {p : Pipeline} (hp : p.WellFormed) {order : List Nat}
    (horder : order.Perm p.inFlight) :
    (urbCancelAll p (order.map some)).answers = [] ↔ order.Pairwise (· < ·) := by
  have hsorted : p.inFlight.Pairwise (· < ·) := List.pairwise_lt_range.filter _
  have heq : order = p.inFlight ↔ order.Pairwise (· < ·) := by
    refine ⟨fun h => h ▸ hsorted, fun h => ?_⟩
    exact horder.eq_of_pairwise (fun a b _ _ h1 h2 => absurd h1 (Nat.lt_asymm h2)) h hsorted
  rw [← heq]
  unfold urbCancelAll
  split
  · rename_i hnone
    rw [Pipeline.inFlight_of_isNone hnone, List.map_eq_nil_iff]
  · exact Cancel.foldl_reap (s := ⟨p, order.map some, p.inFlight, []⟩) p.indices List.nodup_range rfl
      (horder.nodup_iff.mpr p.inFlight_nodup) fun i => horder.mem_iff.trans hp.mem_inFlight

theorem urbCancelAll_reaped {p : Pipeline} {order : List Nat} (horder : order.Perm p.inFlight) :
    (∀ i ∈ p.inFlight, i ∈ (urbCancelAll p (order.map some)).reaped) ↔
      (urbCancelAll p (order.map some)).answers = [] := by
  obtain ⟨rest, hans, hsplit⟩ : ∃ rest, (urbCancelAll p (order.map some)).answers = rest.map some ∧
      order = (urbCancelAll p (order.map some)).reaped ++ rest := by
    unfold urbCancelAll
    split
    · exact ⟨order, rfl, rfl⟩
    · exact Cancel.foldl_reaped (s := ⟨p, order.map some, p.inFlight, []⟩) p.indices rfl
  have hnodup := horder.nodup_iff.mpr p.inFlight_nodup
  rw [hsplit] at hnodup
  rw [hans, List.map_eq_nil_iff]
  constructor
  · intro hall
    refine List.eq_nil_iff_forall_not_mem.mpr fun i hi => ?_
    have hin : i ∈ p.inFlight := horder.mem_iff.mp (hsplit ▸ List.mem_append_right _ hi)
    exact List.disjoint_of_nodup_append hnodup (hall i hin) hi
  · rintro rfl i hi
    rw [List.append_nil] at hsplit
    exact hsplit ▸ horder.mem_iff.mpr hi

theorem Cancel.reap_indices (s : Cancel) (i : Nat) :
    (s.reap i).pipeline.indices = s.pipeline.indices := by
  unfold reap
  split
  · split <;> rfl
  · rfl

theorem urbCancelAll_indices (p : Pipeline) (answers : List (Option Nat)) :
    (urbCancelAll p answers).pipeline.indices = p.indices := by
  have hreap : ∀ (is : List Nat) (s : Cancel),
      (is.foldl Cancel.reap s).pipeline.indices = s.pipeline.indices := by
    intro is s
    induction is generalizing s with
    | nil => rfl
    | cons i is ih => rw [List.foldl_cons, ih, s.reap_indices]
  have hunflag : ∀ (is : List Nat) (q : Pipeline),
      (is.foldl Pipeline.unflag q).indices = q.indices := by
    intro is q
    induction is generalizing q with
    | nil => rfl
    | cons i is ih => rw [List.foldl_cons, ih, q.indices_unflag]
  unfold urbCancelAll
  split
  · rfl
  · exact (hunflag p.indices _).trans (hreap p.indices _)

/-- `urb_cancel_all` leaves no URB in the kernel, and `urb_free` frees no buffer of one that it has
left there, exactly when the kernel hands the URBs back in the order of the arena. -/
theorem cancel_leaves_nothing {p : Pipeline} (hp : p.WellFormed) {order : List Nat}
    (horder : order.Perm p.inFlight) :
    ((∀ i ∈ p.inFlight, i ∈ (urbCancelAll p (order.map some)).reaped) ↔ order.Pairwise (· < ·)) ∧
    ((∀ i ∈ (urbFree p (order.map some)).2, i ∈ p.inFlight →
      i ∈ (urbFree p (order.map some)).1.reaped) ↔ order.Pairwise (· < ·)) := by
  have hreap := (urbCancelAll_reaped horder).trans (urbCancelAll_answers hp horder)
  refine ⟨hreap, ?_⟩
  rw [← hreap]
  unfold urbFree
  split
  · rename_i hnone
    simp [Pipeline.inFlight_of_isNone hnone]
  · simp only [urbCancelAll_indices]
    exact ⟨fun h i hi => h i (List.mem_filter.mp hi).1 hi, fun h i _ hi => h i hi⟩

/-- Two URBs in flight, and the kernel hands back the second one first. -/
def twoInFlight : Pipeline :=
  ⟨some [⟨16384, true, 0, 0⟩, ⟨16384, true, 0, 0⟩], 2, 16384, 2, 0, 0, true⟩

theorem cancel_leaves_nothing_two :
    (∀ i ∈ twoInFlight.inFlight, i ∈ (urbCancelAll twoInFlight ([0, 1].map some)).reaped) ∧
    ¬∀ i ∈ twoInFlight.inFlight, i ∈ (urbCancelAll twoInFlight ([1, 0].map some)).reaped := by
  have hp : twoInFlight.WellFormed := fun a ha => by
    obtain rfl := Option.some_inj.mp ha
    rfl
  exact ⟨(cancel_leaves_nothing hp (.refl _)).1.mpr (by decide),
    fun h => absurd ((cancel_leaves_nothing hp (.swap 0 1 [])).1.mp h) (by decide)⟩

/-- URB 0 is freed without having been reaped. -/
theorem cancel_leaves_urb :
    [1, 0].Perm twoInFlight.inFlight ∧ (urbCancelAll twoInFlight [some 1, some 0]).reaped = [1] ∧
    (urbCancelAll twoInFlight [some 1, some 0]).answers = [some 0] ∧
    0 ∈ twoInFlight.inFlight ∧ 0 ∈ (urbFree twoInFlight [some 1, some 0]).2 :=
  ⟨.swap 0 1 [], by decide, by decide, by decide, by decide⟩

end Sdrgg.Usb
