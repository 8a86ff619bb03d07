import Sdrgg.ProofKit.Ladder
import Sdrgg.R820t.Codec

/-! The gain table of the R820T against the walk along the steps of its stages, first the LNA and
then the mixer. -/

namespace Sdrgg.R820t

open ProofKit

def lnaDb : List Int := [0, 9, 13, 40, 38, 13, 31, 22, 26, 31, 26, 14, 19, 5, 35, 13]

def mixerDb : List Int := [0, 5, 10, 10, 19, 9, 10, 25, 17, 10, 8, 16, 13, 6, 3, -8]

/-- The stages on the way to a gain. -/
structure GainSteps where
  lna : Nat
  mixer : Nat
  total : Int
deriving DecidableEq, Repr

def GainSteps.lnaStep (s : GainSteps) : GainSteps :=
  { s with lna := s.lna + 1, total := s.total + lnaDb.getD (s.lna + 1) 0 }

def GainSteps.mixerStep (s : GainSteps) : GainSteps :=
  { s with mixer := s.mixer + 1, total := s.total + mixerDb.getD (s.mixer + 1) 0 }

/-- Fifteen rounds. -/
def gainMoves : List (GainSteps → GainSteps) :=
  (List.replicate 15 [GainSteps.lnaStep, GainSteps.mixerStep]).flatten

/-- The walk from no gain on. -/
def gainWalk (target : Int) : GainSteps := walk GainSteps.total target gainMoves ⟨0, 0, 0⟩

def gainStates : List GainSteps := states gainMoves ⟨0, 0, 0⟩

/-- The states with the mixer's last step, which lowers the gain, left out. -/
def risingStates : List GainSteps := gainStates.dropLast

/-- The increments of a stage up to an index. -/
def gainUpTo (db : List Int) : Nat → Int
  | 0 => 0
  | k + 1 => gainUpTo db k + db.getD (k + 1) 0

def GainProfile.steps (p : GainProfile) : GainSteps :=
  ⟨p.lnaIndex.toNat, p.mixerIndex.toNat, p.totalTenthDb.toInt⟩

theorem risingStates_rising : risingStates.Pairwise fun a b => a.total < b.total := by
  decide +kernel

/-- The table has every state of the rising walk but the one of 48.3 dB. -/
theorem manualGainProfiles_steps :
    manualGainProfiles.map GainProfile.steps = risingStates.filter fun s => s.total ≠ 483 := by
  decide +kernel

theorem gainStates_eq : gainStates = risingStates ++ [⟨15, 15, 488⟩] := by
  decide +kernel

theorem manualGainProfiles_sum : ∀ p ∈ manualGainProfiles,
    p.totalTenthDb.toInt =
      gainUpTo lnaDb p.lnaIndex.toNat + gainUpTo mixerDb p.mixerIndex.toNat := by
  decide +kernel

/-- A target that the rising walk reaches is reached there. -/
theorem gainWalk_rising {t : Int} (h : t ≤ 496) :
    reaching GainSteps.total t risingStates = some (gainWalk t) := by
  have hlast : (⟨15, 14, 496⟩ : GainSteps) ∈ risingStates := by decide +kernel
  obtain ⟨a, ha⟩ := @reaching_of_mem _ GainSteps.total t _ _ hlast h
  have hall : reaching GainSteps.total t gainStates = some a := by
    rw [gainStates_eq]
    exact reaching_append ha _
  rw [ha, gainWalk, walk_of_reaching hall]

section Select

variable {target : Int32}

theorem selectGainProfile_eq (h0 : 0 ≤ target) :
    selectGainProfile target =
      (reaching (fun p => p.totalTenthDb.toInt) target.toInt manualGainProfiles).or
        (some ⟨496, 15, 14, 8⟩) := by
  have hreach : (fun p : GainProfile => decide (target ≤ p.totalTenthDb)) =
      fun p => decide (target.toInt ≤ p.totalTenthDb.toInt) :=
    funext fun _ => decide_eq_decide.mpr Int32.le_iff_toInt_le
  rw [selectGainProfile, if_neg (Int32.not_lt.mpr h0), hreach]
  rfl

/-- The row that the table has for a state of the walk. -/
theorem selectGainProfile_row (h0 : 0 ≤ target) {s : GainSteps}
    (h : reaching GainSteps.total target.toInt (manualGainProfiles.map GainProfile.steps) = some s) :
    ∃ p ∈ manualGainProfiles, selectGainProfile target = some p ∧ p.steps = s := by
  rw [reaching_map] at h
  obtain ⟨p, hp, hsteps⟩ := Option.map_eq_some_iff.mp h
  refine ⟨p, (reaching_some hp).2, ?_, hsteps⟩
  rw [selectGainProfile_eq h0]
  exact congrArg (Option.or · _) hp

/-- Beyond the last row. -/
theorem selectGainProfile_last (h0 : 0 ≤ target) (h : 496 < target.toInt) :
    selectGainProfile target = some ⟨496, 15, 14, 8⟩ := by
  have hall : ∀ p ∈ manualGainProfiles, p.totalTenthDb.toInt ≤ 496 := by decide +kernel
  rw [selectGainProfile_eq h0, reaching_none fun p hp => Int.lt_of_le_of_lt (hall p hp) h]
  rfl

/-- Between the row of 48.0 dB and the last one, where the walk has a state of 48.3 dB. -/
theorem selectGainProfile_gap (hlo : 480 < target.toInt) (hhi : target.toInt < 484) :
    selectGainProfile target = some ⟨496, 15, 14, 8⟩ := by
  have hcases : target.toInt = 481 ∨ target.toInt = 482 ∨ target.toInt = 483 := by omega
  obtain h | h | h := hcases
  · obtain rfl : target = 481 := Int32.toInt_inj.mp h
    rfl
  · obtain rfl : target = 482 := Int32.toInt_inj.mp h
    rfl
  · obtain rfl : target = 483 := Int32.toInt_inj.mp h
    rfl

/-- Below and above the gap the walk does not stop at 48.3 dB. -/
theorem gainWalk_ne_gap {t : Int} (h : t ≤ 480 ∨ 484 ≤ t) (hmax : t ≤ 496) :
    (gainWalk t).total ≠ 483 := by
  have hrow : (⟨14, 13, 480⟩ : GainSteps) ∈ risingStates := by decide +kernel
  have hwalk := gainWalk_rising hmax
  obtain h | h := h
  · have hleast := reaching_least risingStates_rising hwalk hrow h
    dsimp only at hleast
    omega
  · have hreach := (reaching_some hwalk).1
    omega

end Select

/-- For every target the table gives the stages at which the walk stops, except for targets from
48.1 dB to 48.3 dB and above 49.6 dB, for which it gives its last row; and for targets up to 49.6 dB
the gain is the least total of the walk that reaches the target, but for the totals of 48.3 dB and
48.8 dB, which have no row. -/
theorem selectGainProfile_walk (target : Int32) (h0 : 0 ≤ target) :
    ∃ p, selectGainProfile target = some p ∧
      p.totalTenthDb.toInt =
        gainUpTo lnaDb p.lnaIndex.toNat + gainUpTo mixerDb p.mixerIndex.toNat ∧
      p.steps =
        (if 480 < target.toInt ∧ target.toInt < 484 ∨ 496 < target.toInt then ⟨15, 14, 496⟩
        else gainWalk target.toInt) ∧
      (target.toInt ≤ 496 → target.toInt ≤ p.totalTenthDb.toInt ∧
        ∀ g : Int, target.toInt ≤ (gainWalk g).total →
          p.totalTenthDb.toInt ≤ (gainWalk g).total ∨
            (gainWalk g).total = 483 ∨ (gainWalk g).total = 488) := by
  have hstates (g : Int) : gainWalk g ∈ gainStates := mem_states_walk gainMoves ⟨0, 0, 0⟩
  by_cases hgap : 480 < target.toInt ∧ target.toInt < 484 ∨ 496 < target.toInt
  · refine ⟨⟨496, 15, 14, 8⟩, ?_, by decide +kernel, (if_pos hgap).symm, fun hmax => ?_⟩
    · obtain ⟨hlo, hhi⟩ | hhi := hgap
      · exact selectGainProfile_gap hlo hhi
      · exact selectGainProfile_last h0 hhi
    · have hupper : ∀ s ∈ gainStates, 480 < s.total → 496 ≤ s.total ∨ s.total = 483 ∨ s.total = 488 := by
        decide +kernel
      have hlast : (496 : Int32).toInt = 496 := rfl
      rw [hlast]
      exact ⟨hmax, fun g hg => hupper _ (hstates g) (by omega)⟩
  · rw [if_neg hgap]
    have hmax : target.toInt ≤ 496 := by omega
    have hwalk := gainWalk_rising hmax
    have hkeep := reaching_filter (fun s => s.total ≠ 483) hwalk
      (decide_eq_true (gainWalk_ne_gap (by omega) hmax))
    rw [← manualGainProfiles_steps] at hkeep
    obtain ⟨p, hp, hselect, hsteps⟩ := selectGainProfile_row h0 hkeep
    have htotal : p.totalTenthDb.toInt = (gainWalk target.toInt).total := congrArg GainSteps.total hsteps
    refine ⟨p, hselect, manualGainProfiles_sum p hp, hsteps, fun _ => ?_⟩
    rw [htotal]
    refine ⟨(reaching_some hwalk).1, fun g hg => ?_⟩
    have hmem := hstates g
    rw [gainStates_eq] at hmem
    obtain hrising | hlast := List.mem_append.mp hmem
    · exact .inl (reaching_least risingStates_rising hwalk hrising hg)
    · rw [List.mem_singleton.mp hlast]
      exact .inr (.inr rfl)

/-- A target of 13 dB. -/
theorem selectGainProfile_walk_130 :
    selectGainProfile 130 = some ⟨144, 4, 4, 8⟩ ∧ gainWalk 130 = ⟨4, 4, 144⟩ := by
  obtain ⟨p, hp, -, hsteps, -⟩ := selectGainProfile_walk 130 (by decide)
  have hrow : selectGainProfile 130 = some ⟨144, 4, 4, 8⟩ := rfl
  obtain rfl := Option.some_inj.mp (hrow.symm.trans hp)
  exact ⟨rfl, (hsteps.trans (if_neg (by decide))).symm⟩

/-- A target of 48.1 dB, which the walk reaches with 48.3 dB, and one above every total. -/
theorem selectGainProfile_off :
    selectGainProfile 481 = some ⟨496, 15, 14, 8⟩ ∧ gainWalk 481 = ⟨14, 14, 483⟩ ∧
    selectGainProfile 497 = some ⟨496, 15, 14, 8⟩ ∧ gainWalk 497 = ⟨15, 15, 488⟩ := by
  decide +kernel

end Sdrgg.R820t
