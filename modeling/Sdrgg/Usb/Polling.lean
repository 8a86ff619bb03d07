import Sdrgg.ProofKit.Drain
import Sdrgg.Usb.Pass
import Mathlib.Data.Finset.Card

/-! How long `process_device_urbs` runs.  Between two polls the kernel completes some of the URBs that
it holds, those that the loop has resubmitted included, and `USBDEVFS_REAPURBNDELAY` hands back one
that has completed. -/

namespace Sdrgg.Usb

open ProofKit

/-- What happens around one poll: the URBs that complete before it, and the round of the loop when
one of them is reaped. -/
structure Turn where
  completions : Finset Nat
  round : Round
deriving DecidableEq

/-- The URBs of a device between two polls, and those that have completed and wait to be reaped. -/
structure Polling where
  transfers : Transfers
  completed : Finset Nat

/-- The URBs that the next poll finds completed. -/
def Polling.ready (p : Polling) (t : Turn) : Finset Nat := p.completed ∪ t.completions

/-- One turn of the loop.  It is left when the poll finds nothing to reap. -/
def Polling.turn (p : Polling) (t : Turn) : Option Polling :=
  if p.ready t = ∅ then none
  else (p.transfers.round t.round).map fun s => ⟨s, (p.ready t).erase t.round.index⟩

/-- The kernel completes URBs that it holds, each once, and hands back one that has completed. -/
structure Polling.Allows (p : Polling) (t : Turn) : Prop where
  held : t.completions ⊆ p.transfers.kernel
  once : Disjoint t.completions p.completed
  index : p.ready t ≠ ∅ → t.round.index ∈ p.ready t

/-- The kernel does what it may at every poll of the loop. -/
def Polling.Serves (p : Polling) (ts : Nat → Turn) : Prop :=
  ∀ n q, turns Polling.turn ts p n = some q → q.Allows (ts n)

/-- The URBs that have completed by the poll after `j` reaps. -/
def Polling.completedBy (p : Polling) (ts : Nat → Turn) (j : Nat) : Nat :=
  arrived (fun p => p.completed.card) (fun t => t.completions.card) ts p j

/-- `process_device_urbs` returns, and leaves `s`. -/
def Polling.Returns (p : Polling) (ts : Nat → Turn) (s : Transfers) : Prop :=
  ∃ n q, turns Polling.turn ts p n = some q ∧ q.ready (ts n) = ∅ ∧ q.transfers = s

/-! ### One turn -/

section Turns

variable {p q : Polling} {t : Turn} {s u : Transfers} {r : Round}

/-- A submission takes no URB out of the kernel. -/
theorem Transfers.urbSubmit_kernel (s : Transfers) (i : Nat) (accepted : Bool) :
    s.kernel ⊆ (s.urbSubmit i accepted).2.kernel := by
  unfold urbSubmit
  split
  · exact Finset.subset_insert _ _
  · exact subset_rfl

theorem Transfers.resubmit_kernel (s : Transfers) (r : Round) : s.kernel ⊆ (s.resubmit r).kernel := by
  have hsubmit := s.urbSubmit_kernel r.index r.accepted
  unfold resubmit
  split
  · exact subset_rfl
  · split <;> rename_i heq <;> rw [heq] at hsubmit <;> exact hsubmit

/-- A round of the loop takes no URB out of the kernel but the one that it reaps. -/
theorem Transfers.round_kernel (h : s.round r = some u) : s.kernel.erase r.index ⊆ u.kernel := by
  obtain ⟨v, hreap, rfl⟩ := Option.map_eq_some_iff.mp h
  obtain ⟨-, rfl⟩ := Transfers.reap_eq_some.mp hreap
  unfold handle
  dsimp only
  split
  · exact subset_rfl
  · obtain ⟨-, hkernel, -⟩ := Transfers.delivered_pipeline { s with
      pipeline := s.pipeline.urbReap r.index r.status r.actualLength
      kernel := s.kernel.erase r.index } r
    exact hkernel.ge.trans (Transfers.resubmit_kernel _ r)

theorem Polling.turn_eq_none (hkernel : p.ready t ⊆ p.transfers.kernel) (h : p.Allows t) :
    p.turn t = none ↔ p.ready t = ∅ := by
  unfold turn
  split
  · rename_i hempty
    simp [hempty]
  · rename_i hready
    have hheld : t.round.index ∈ p.transfers.kernel := hkernel (h.index hready)
    simp [Transfers.round, Transfers.reap, hheld, hready]

theorem Polling.turn_eq_some (h : p.turn t = some q) : p.transfers.round t.round = some q.transfers ∧
    p.ready t ≠ ∅ ∧ q.completed = (p.ready t).erase t.round.index := by
  unfold turn at h
  split at h
  · exact absurd h (by simp)
  · rename_i hready
    obtain ⟨s, hround, rfl⟩ := Option.map_eq_some_iff.mp h
    exact ⟨hround, hready, rfl⟩

theorem Polling.card_ready (h : p.Allows t) :
    (p.ready t).card = p.completed.card + t.completions.card :=
  Finset.card_union_of_disjoint h.once.symm

end Turns

/-! ### A pass -/

section Passes

variable {p q : Polling} {ts : Nat → Turn} (hp : p.completed ⊆ p.transfers.kernel)
  (hserves : p.Serves ts)

/-- The loop after `n` turns has reaped `n` URBs. -/
theorem Polling.turns_reaps {n : Nat} (h : turns Polling.turn ts p n = some q) :
    q.transfers.reaps.length = p.transfers.reaps.length + n := by
  induction n generalizing q with
  | zero =>
    obtain rfl := Option.some_inj.mp h
    rfl
  | succ n ih =>
    obtain ⟨u, hu, hturn⟩ := Option.bind_eq_some_iff.mp h
    obtain ⟨hround, -, -⟩ := Polling.turn_eq_some hturn
    have hlength := congrArg List.length (Transfers.round_reaps hround)
    simp only [List.length_map, List.length_append, List.length_singleton] at hlength
    rw [hlength, ih hu, Nat.add_assoc]

include hp hserves

/-- The URBs that have completed are among those that the kernel holds. -/
theorem Polling.turns_held {n : Nat} (h : turns Polling.turn ts p n = some q) :
    q.completed ⊆ q.transfers.kernel := by
  induction n generalizing q with
  | zero =>
    obtain rfl := Option.some_inj.mp h
    exact hp
  | succ n ih =>
    obtain ⟨u, hu, hturn⟩ := Option.bind_eq_some_iff.mp h
    obtain ⟨hround, -, hcompleted⟩ := Polling.turn_eq_some hturn
    have hready : u.ready (ts n) ⊆ u.transfers.kernel :=
      Finset.union_subset (ih hu) (hserves n u hu).held
    rw [hcompleted]
    exact (Finset.erase_subset_erase _ hready).trans (Transfers.round_kernel hround)

/-- The loop drains the URBs that have completed. -/
theorem Polling.drains : Drains Polling.turn (fun p => p.completed.card)
    (fun t => t.completions.card) ts p where
  ends n q hq := by
    have hallows := hserves n q hq
    rw [Polling.turn_eq_none (Finset.union_subset (Polling.turns_held hp hserves hq) hallows.held)
      hallows, ← Finset.card_eq_zero, Polling.card_ready hallows]
  takes n q u hq hturn := by
    have hallows := hserves n q hq
    obtain ⟨-, hready, hcompleted⟩ := Polling.turn_eq_some hturn
    rw [hcompleted, Finset.card_erase_add_one (hallows.index hready), Polling.card_ready hallows]

/-- The loop is left when it has reaped all the URBs that have completed, and not before. -/
theorem Polling.returns_iff : (∃ s, p.Returns ts s) ↔ ∃ j, p.completedBy ts j ≤ j := by
  have hdrains := Polling.drains hp hserves
  constructor
  · rintro ⟨_, n, q, hq, hempty, rfl⟩
    refine ⟨n, (hdrains.ends_iff hq).mp ?_⟩
    simp [turn, hempty]
  · rintro ⟨j, hj⟩
    obtain ⟨n, -, q, hq, hend⟩ := (hdrains.ends_within_iff j).mpr ⟨j, le_rfl, hj⟩
    have hallows := hserves n q hq
    have hheld := Finset.union_subset (Polling.turns_held hp hserves hq) hallows.held
    exact ⟨q.transfers, n, q, hq, (Polling.turn_eq_none hheld hallows).mp hend, rfl⟩

/-- A pass returns after at most `arena_depth` reaps exactly when, after one of them, no more URBs
have completed than it has reaped. -/
theorem pass_bounded_iff :
    (∃ s, p.Returns ts s ∧ s.reaps.length ≤
      p.transfers.reaps.length + p.transfers.pipeline.arenaDepth.toNat) ↔
    ∃ j ≤ p.transfers.pipeline.arenaDepth.toNat, p.completedBy ts j ≤ j := by
  have hdrains := Polling.drains hp hserves
  refine Iff.trans ?_ (hdrains.ends_within_iff _)
  constructor
  · rintro ⟨_, ⟨n, q, hq, hempty, rfl⟩, hle⟩
    rw [Polling.turns_reaps hq] at hle
    refine ⟨n, Nat.le_of_add_le_add_left hle, q, hq, ?_⟩
    simp [Polling.turn, hempty]
  · rintro ⟨n, hn, q, hq, hend⟩
    have hallows := hserves n q hq
    have hheld := Finset.union_subset (Polling.turns_held hp hserves hq) hallows.held
    refine ⟨q.transfers, ⟨n, q, hq, (Polling.turn_eq_none hheld hallows).mp hend, rfl⟩, ?_⟩
    rw [Polling.turns_reaps hq]
    exact Nat.add_le_add_left hn _

end Passes

/-! ### An endpoint that keeps failing -/

/-- The stream before its first pass, with nothing completed. -/
def idle : Polling := ⟨oneInFlight, ∅⟩

/-- A bus error, after which the kernel takes the URB back. -/
def failedRound : Round := ⟨0, -71, 0, 0, false, false, true⟩

/-- URB 0 fails before each poll for which `fails` says so. -/
def failing (fails : Nat → Bool) (n : Nat) : Turn := ⟨if fails n then {0} else ∅, failedRound⟩

/-- The one URB goes round: between two polls it is in flight. -/
theorem idle_turns {fails : Nat → Bool} {n : Nat} {q : Polling}
    (h : turns Polling.turn (failing fails) idle n = some q) :
    q.completed = ∅ ∧ q.transfers.pipeline.Counted q.transfers.kernel ∧ 0 ∈ q.transfers.kernel ∧
      q.transfers.cancelRequested = false := by
  induction n generalizing q with
  | zero =>
    obtain rfl := Option.some_inj.mp h
    exact ⟨rfl, oneInFlight_started.accounted.counted, by decide, rfl⟩
  | succ n ih =>
    obtain ⟨u, hu, hturn⟩ := Option.bind_eq_some_iff.mp h
    obtain ⟨hempty, hcounted, hheld, hlive⟩ := ih hu
    obtain ⟨hround, -, hcompleted⟩ := Polling.turn_eq_some hturn
    obtain ⟨s, hs, hheld', hlive'⟩ := Transfers.round_accepted (r := failedRound) hcounted hheld
      (by rw [hlive]; rfl) rfl
    obtain rfl := Option.some_inj.mp (hs.symm.trans hround)
    refine ⟨?_, Transfers.round_counted hcounted hround |>.1, hheld', hlive'⟩
    rw [hcompleted, Polling.ready, hempty, Finset.empty_union]
    unfold failing
    cases fails n <;> rfl

theorem idle_serves (fails : Nat → Bool) : idle.Serves (failing fails) := by
  intro n q h
  obtain ⟨hempty, -, hheld, -⟩ := idle_turns h
  refine ⟨?_, ?_, fun hready => ?_⟩
  · unfold failing
    cases fails n <;> simp [hheld]
  · simp [hempty]
  · rw [Polling.ready, hempty, Finset.empty_union] at hready ⊢
    unfold failing at hready ⊢
    cases hfails : fails n <;> simp_all [failedRound]

/-- A URB that fails once is reaped, and the pass returns. -/
theorem pass_bounded_once : ∃ s, idle.Returns (failing fun n => n = 0) s ∧ s.reaps.length ≤ 1 :=
  (pass_bounded_iff (Finset.empty_subset _) (idle_serves fun n => n = 0)).mpr
    ⟨1, by decide, by decide⟩

/-- A URB that fails again each time before the next poll is reaped for ever. -/
theorem pass_endless : idle.completed ⊆ idle.transfers.kernel ∧
    idle.Serves (failing fun _ => true) ∧
    (∀ n, ∃ q, turns Polling.turn (failing fun _ => true) idle n = some q ∧
      q.transfers.reaps.length = n) ∧
    ¬∃ s, idle.Returns (failing fun _ => true) s := by
  have hserves := idle_serves fun _ => true
  have hheld : idle.completed ⊆ idle.transfers.kernel := Finset.empty_subset _
  have hmore (j : Nat) : idle.completedBy (failing fun _ => true) j = j + 1 := by
    induction j with
    | zero => rfl
    | succ j ih =>
      rw [Polling.completedBy, arrived, ← Polling.completedBy, ih]
      rfl
  refine ⟨hheld, hserves, fun n => ?_, fun hreturns => ?_⟩
  · obtain ⟨q, hq⟩ := ((Polling.drains hheld hserves).lasts_iff n).mpr fun j _ =>
      (Nat.lt_succ_self j).trans_eq (hmore j).symm
    refine ⟨q, hq, (Polling.turns_reaps hq).trans ?_⟩
    exact Nat.zero_add n
  · obtain ⟨j, hj⟩ := (Polling.returns_iff hheld hserves).mp hreturns
    rw [hmore] at hj
    exact absurd hj (Nat.not_succ_le_self j)

end Sdrgg.Usb
