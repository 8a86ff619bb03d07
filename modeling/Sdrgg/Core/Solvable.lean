import Sdrgg.Core.Reported
import Sdrgg.R820t.Reference

/-! The frequencies for which the synthesiser of an R820T finds a candidate, against the LO target
as a number without bound. -/

namespace Sdrgg.R820t

/-- A candidate list as `rank_and_select` gets it: one solution for a target within the octave of the
VCO, none for another. -/
structure Solves (ppm : Int32) (targetKhz : Nat) (candidates : List PllSolution) : Prop where
  count : candidates.length = if 27657 ≤ targetKhz ∧ targetKhz ≤ 1769999 then 1 else 0
  ranked : ∀ f, rankAndSelect (candidates.map f) = (candidates.map f).head?
  exact : ∀ sol ∈ candidates,
    sol.nInteger.toNat * 2 * (correctedKhz ppm).toNat + sol.fractionalNum.toNat =
        targetKhz * 2 ^ sol.dividerOrder.toNat ∧
      sol.fractionalNum.toNat < 2 * (correctedKhz ppm).toNat

/-- A reference that is positive is one of 32 bits. -/
theorem referenceKhz_positive {req : SynthRequest} (hosc : req.referenceHz = 28800000)
    (hpos : 0 < correctedKhz req.correctionPpm) :
    (referenceKhz req).toNat = (correctedKhz req.correctionPpm).toNat := by
  obtain ⟨-, hhigh⟩ := correctedKhz_range req.correctionPpm
  rw [referenceKhz_crystal hosc]
  simp [UInt32.ofInt]
  omega

theorem enumerateCandidates_solves {req : SynthRequest} (hosc : req.referenceHz = 28800000)
    (hpos : 0 < correctedKhz req.correctionPpm) :
    ∃ candidates, enumerateCandidates req = some candidates ∧
      Solves req.correctionPpm (req.targetHz.toNat / 1000) candidates := by
  have href := referenceKhz_positive hosc hpos
  obtain ⟨-, hhigh⟩ := correctedKhz_range req.correctionPpm
  have hnonzero : 2 * referenceKhz req ≠ 0 := fun hzero => by
    have hdenom : (2 * referenceKhz req).toNat = 2 * (correctedKhz req.correctionPpm).toNat := by
      rw [UInt32.toNat_mul, href]
      exact Nat.mod_eq_of_lt (show 2 * _ < 2 ^ 32 by omega)
    rw [hzero, UInt32.toNat_zero] at hdenom
    omega
  obtain ⟨candidates, hc⟩ := enumerateCandidates_of_ref hnonzero
  refine ⟨candidates, hc, ?_⟩
  have hwindow := enumerateCandidates_ne_nil hc
  by_cases hne : candidates = []
  · subst hne
    have hout := mt hwindow.mpr (by simp)
    refine ⟨?_, fun _ => rfl, by simp⟩
    rw [if_neg (by omega)]
    rfl
  · obtain ⟨hlo, hhi⟩ := hwindow.mp hne
    obtain ⟨sol, rfl, horder, hinteger, hfrac, -, -⟩ :=
      enumerateCandidates_eq href (by omega) (by omega) hc hne rfl
    refine ⟨?_, fun _ => rfl, ?_⟩
    · rw [if_pos (by omega)]
      rfl
    · intro s hs
      obtain rfl := List.mem_singleton.mp hs
      rw [horder, hinteger, hfrac, Nat.mul_assoc, Nat.mul_comm]
      exact ⟨Nat.div_add_mod _ _, Nat.mod_lt _ (by omega)⟩

end Sdrgg.R820t

namespace Sdrgg.Sdr

open ProofKit Usb R820t

/-- The LO target in kHz, of a sum that does not wrap. -/
def exactLoKhz (freqHz ifHz : UInt32) : Nat := (freqHz.toNat + ifHz.toNat) / 1000

/-- A sum that wraps has no candidate, and neither has the one that does not. -/
theorem loKhz_window {freqHz ifHz : UInt32} (hif : ifHz.toNat ≤ 4570000) :
    (freqHz + ifHz).toNat / 1000 = exactLoKhz freqHz ifHz ∨
      (freqHz + ifHz).toNat / 1000 < 27657 ∧ 1769999 < exactLoKhz freqHz ifHz := by
  have hlt := freqHz.toNat_lt
  unfold exactLoKhz
  rw [UInt32.toNat_add]
  omega

/-- Over every history of a device and for every correction with a positive reference, the
synthesiser finds one candidate for an LO target from 27,657 kHz to 1,769,999 kHz and none for
another. -/
theorem solvable_iff {env : Env} {caps : TunerCaps} (hcaps : caps ∈ implementedCaps) {w0 w : World}
    {calls : List ApiCall} (hopen : Opened caps.tunerType caps.i2cAddr caps.ifFreqHz w0)
    (hrun : run (apiStep env) w0 calls = some w) {ppm : Int32} (hppm : 0 < correctedKhz ppm)
    (freqHz : UInt32) :
    ∃ candidates,
      enumerateCandidates ⟨freqHz + w.dev.tuning.ifOffsetHz, w.dev.baseband.oscillatorHz, ppm⟩ =
        some candidates ∧
      Solves ppm (exactLoKhz freqHz w.dev.tuning.ifOffsetHz) candidates := by
  have hfooted := run_footed hcaps (hopen.footed hcaps) hrun
  obtain ⟨candidates, hc, hsolves⟩ := @enumerateCandidates_solves
    ⟨freqHz + w.dev.tuning.ifOffsetHz, w.dev.baseband.oscillatorHz, ppm⟩ hfooted.oscillator hppm
  refine ⟨candidates, hc, ?_⟩
  have hlow : w.dev.tuning.ifOffsetHz.toNat ≤ 4570000 := hfooted.lowIf
  obtain heq | ⟨hwrapped, hhigh⟩ := @loKhz_window freqHz _ hlow
  · rw [← heq]
    exact hsolves
  · have hcount := hsolves.count
    dsimp only at hcount
    rw [if_neg (by omega)] at hcount
    obtain rfl := List.length_eq_zero_iff.mp hcount
    refine ⟨?_, fun _ => rfl, by simp⟩
    rw [if_neg (by omega)]
    rfl

/-- At 100 MHz, and at the last frequency of 32 bits, whose sum with the low IF wraps. -/
theorem solvable_iff_crystal :
    (∃ sol, enumerateCandidates ⟨100000000 + 3570000, 28800000, 0⟩ = some [sol]) ∧
    enumerateCandidates ⟨4294967295 + 3570000, 28800000, 0⟩ = some [] := by
  have hpos : 0 < correctedKhz 0 := by decide
  have hnone : run (apiStep steadyEnv) openedR820t [] = some openedR820t := rfl
  have hcaps : r820tCaps ∈ implementedCaps := by simp [implementedCaps]
  obtain ⟨low, hlow, hlowSolves⟩ := solvable_iff hcaps openedR820t_opened hnone hpos 100000000
  obtain ⟨high, hhigh, hhighSolves⟩ := solvable_iff hcaps openedR820t_opened hnone hpos 4294967295
  have hone : low.length = 1 := hlowSolves.count.trans (by decide)
  have hzero : high.length = 0 := hhighSolves.count.trans (by decide)
  obtain ⟨sol, rfl⟩ := List.length_eq_one_iff.mp hone
  obtain rfl := List.length_eq_zero_iff.mp hzero
  exact ⟨⟨sol, hlow⟩, hhigh⟩

end Sdrgg.Sdr
