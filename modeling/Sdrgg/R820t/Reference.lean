import Sdrgg.ProofKit.Greedy
import Sdrgg.R820t.Accuracy
import Mathlib.Tactic.Linarith
import Mathlib.Tactic.Ring

/-! The PLL of the R820T with any corrected reference: where its arithmetic is defined, and how far
the VCO that it programs is from the one that is asked for. -/

namespace Sdrgg.R820t

open ProofKit

/-! ### The loop of the sigma-delta word -/

/-- The loop of `pack_pll_solution` with an accumulator without bound. -/
def sdmLoopWide (pllRefKhz : UInt32) : Nat → UInt16 → Nat → UInt32 → Option Nat
  | 0, _, _, _ => none
  | n + 1, weight, accumulator, residual =>
    if residual ≤ 1 then some accumulator
    else if weight = 0 then none
    else if residual > 2 * pllRefKhz / weight.toUInt32 then
      let accumulator := accumulator + 0x8000 / (weight.toNat / 2)
      let residual := residual - 2 * pllRefKhz / weight.toUInt32
      if weight ≥ 0x8000 then some accumulator
      else sdmLoopWide pllRefKhz n (weight <<< 1) accumulator residual
    else sdmLoopWide pllRefKhz n (weight <<< 1) accumulator residual

theorem sdmBit (weight : UInt16) :
    (0x8000 : UInt16) / (weight / 2) = UInt16.ofNat (0x8000 / (weight.toNat / 2)) := by
  rw [← UInt16.ofNat_toNat (x := 0x8000 / (weight / 2)), UInt16.toNat_div, UInt16.toNat_div]
  rfl

/-- The 16 bits of the accumulator are those of one without bound. -/
theorem sdmLoop_wide (pllRefKhz : UInt32) (n : Nat) (weight : UInt16) (accumulator : Nat)
    (residual : UInt32) :
    sdmLoop pllRefKhz n weight (UInt16.ofNat accumulator) residual =
      (sdmLoopWide pllRefKhz n weight accumulator residual).map UInt16.ofNat := by
  induction n generalizing weight accumulator residual with
  | zero => rfl
  | succ n ih =>
    rw [sdmLoop, sdmLoopWide]
    split
    · rfl
    · split
      · rfl
      · split
        · dsimp only
          rw [sdmBit, ← UInt16.ofNat_add]
          split
          · rfl
          · exact ih _ _ _
        · exact ih _ _ _

/-- The weight that is shifted `k` times less than the last one. -/
theorem sdmWeight_value : ∀ k < 15,
    (0x8000 >>> UInt16.ofNat k : UInt16).toNat = 2 ^ (15 - k) ∧
      (0x8000 >>> UInt16.ofNat k : UInt16) ≠ 0 ∧
      0x8000 / ((0x8000 >>> UInt16.ofNat k : UInt16).toNat / 2) = 65536 / 2 ^ (15 - k) ∧
      ((0x8000 >>> UInt16.ofNat k : UInt16) ≥ 0x8000 ↔ k = 0) := by
  decide

/-- The part of the reference that a weight stands for, against a residual. -/
theorem gt_sdmPart {pllRefKhz residual : UInt32} {d k : Nat} (hd : (2 * pllRefKhz).toNat = d)
    (hk : k < 15) :
    residual > (2 * pllRefKhz : UInt32) / (0x8000 >>> UInt16.ofNat k : UInt16).toUInt32 ↔
      d / 2 ^ (15 - k) < residual.toNat := by
  rw [gt_iff_lt, UInt32.lt_iff_toNat_lt, UInt32.toNat_div, hd, UInt16.toNat_toUInt32,
    (sdmWeight_value k hk).1]

theorem toNat_sub_sdmPart {pllRefKhz residual : UInt32} {d k : Nat}
    (hd : (2 * pllRefKhz).toNat = d) (hk : k < 15) (h : d / 2 ^ (15 - k) < residual.toNat) :
    (residual - (2 * pllRefKhz : UInt32) / (0x8000 >>> UInt16.ofNat k : UInt16).toUInt32).toNat =
      residual.toNat - d / 2 ^ (15 - k) := by
  rw [UInt32.toNat_sub_of_le _ _ (UInt32.le_of_lt ((gt_sdmPart hd hk).mpr h)), UInt32.toNat_div, hd,
    UInt16.toNat_toUInt32, (sdmWeight_value k hk).1]

/-- The loop expands its residual into the halves of twice the reference.  At the last weight the
residual must be at most one, or more than that half. -/
theorem sdmLoopWide_expand {pllRefKhz : UInt32} {d : Nat} (hd : (2 * pllRefKhz).toNat = d)
    (hlast : 1 ≤ d / 2 ^ 15) {k : Nat} (hk : k ≤ 14) (accumulator : Nat) (residual : UInt32) :
    sdmLoopWide pllRefKhz (k + 2) (0x8000 >>> UInt16.ofNat k) accumulator residual =
      let parts := expand (halves d (15 - k) k) residual.toNat
      let word := digitSum (halves 65536 (15 - k) k) parts.1
      if parts.2 ≤ 1 then some (accumulator + word)
      else if parts.2 ≤ d / 2 ^ 15 then none
      else some (accumulator + word + 2) := by
  have hle (r : UInt32) : r ≤ 1 ↔ r.toNat ≤ 1 := UInt32.le_iff_toNat_le
  induction k generalizing accumulator residual with
  | zero =>
    have hgt := @gt_sdmPart _ residual _ _ hd (show 0 < 15 by omega)
    obtain ⟨-, hweight, -, hlarge⟩ := sdmWeight_value 0 (by omega)
    have hwrapped : (0x8000 >>> UInt16.ofNat 0 : UInt16) <<< 1 = 0 := by decide
    simp only [halves, expand, digitSum, Nat.add_zero]
    rw [Nat.zero_add, sdmLoopWide]
    by_cases hone : residual ≤ 1
    · rw [if_pos hone, if_pos ((hle residual).mp hone)]
    · rw [if_neg hone, if_neg hweight, if_neg (mt (hle residual).mpr hone)]
      by_cases hbig : d / 2 ^ 15 < residual.toNat
      · rw [if_pos (hgt.mpr hbig), if_neg (Nat.not_le.mpr hbig), if_pos (hlarge.mpr rfl)]
        rfl
      · rw [if_neg (mt hgt.mp hbig), if_pos (Nat.not_lt.mp hbig), hwrapped, sdmLoopWide,
          if_neg hone, if_pos rfl]
  | succ k ih =>
    obtain ⟨-, hweight, hbit, hlarge⟩ := sdmWeight_value (k + 1) (by omega)
    obtain ⟨hshift, -⟩ := sdmWeight k (by omega)
    have hgt := @gt_sdmPart _ residual _ _ hd (show k + 1 < 15 by omega)
    by_cases hone : residual ≤ 1
    · have hsmall : ∀ w ∈ halves d (15 - (k + 1)) (k + 1), residual.toNat ≤ w := fun w hw => by
        have := le_of_mem_halves hw
        rw [show 15 - (k + 1) + (k + 1) = 15 by omega] at this
        have := (hle residual).mp hone
        omega
      obtain ⟨hrest, hsum⟩ := expand_of_le hsmall
      dsimp only
      rw [sdmLoopWide, if_pos hone, hrest, hsum, if_pos ((hle residual).mp hone)]
      rfl
    · have hlevel : 15 - (k + 1) + 1 = 15 - k := by omega
      rw [show k + 1 + 2 = (k + 2) + 1 by omega, sdmLoopWide, if_neg hone, if_neg hweight, hshift,
        hbit, halves, halves, hlevel, expand]
      by_cases hbig : d / 2 ^ (15 - (k + 1)) < residual.toNat
      · rw [if_pos (hgt.mpr hbig), if_pos hbig]
        dsimp only
        rw [if_neg (mt hlarge.mp (by omega)), ih (by omega), toNat_sub_sdmPart hd (by omega) hbig]
        simp only [digitSum, if_true, Nat.add_assoc]
      · rw [if_neg (mt hgt.mp hbig), if_neg hbig, ih (by omega)]
        simp only [digitSum, Bool.false_eq_true, if_false, Nat.zero_add]

/-- The residual of a fraction, in kHz, that reaches the last weight. -/
def sdmRest (d frac : Nat) : Nat := (expand (halves d 1 14) frac).2

/-- With a last weight of one kHz the loop ends with a word of 16 bits, which is within 16 kHz of
the fraction. -/
theorem sdmLoopWide_accurate {pllRefKhz frac : UInt32} {r : Nat} (href : pllRefKhz.toNat = r)
    (hlo : 16384 ≤ r) (hhi : r ≤ 32767) (hfrac : frac.toNat ≤ 2 * r) :
    ∃ word, sdmLoopWide pllRefKhz 16 2 0 frac = some word ∧ word < 65536 ∧
      65536 * frac.toNat ≤ 2 * r * word + 65536 * 16 ∧
      2 * r * word ≤ 65536 * (frac.toNat + 16) := by
  have hd : (2 * pllRefKhz).toNat = 2 * r := by
    rw [UInt32.toNat_mul, href]
    exact Nat.mod_eq_of_lt (show 2 * r < 2 ^ 32 by omega)
  have hloop := sdmLoopWide_expand hd (by omega) (Nat.le_refl 14) 0 frac
  have hfirst : (0x8000 >>> UInt16.ofNat 14 : UInt16) = 2 := by decide
  rw [hfirst] at hloop
  have hsum := expand_sum (halves (2 * r) 1 14) frac.toNat
  have hrest := @expand_halves_le (2 * r) 0 14 frac.toNat (by simpa using hfrac)
  have hword := digitSum_halves_le 65536 0 14 (expand (halves (2 * r) 1 14) frac.toNat).1
  obtain ⟨hscaleLow, hscaleHigh⟩ :=
    digitSum_scale (2 * r) 16 1 14 (expand (halves (2 * r) 1 14) frac.toNat).1 (by omega)
  simp only [Nat.zero_add, Nat.reducePow, Nat.reduceSub, Nat.reduceAdd]
    at hloop hrest hword hscaleLow hscaleHigh
  generalize digitSum (halves 65536 1 14) (expand (halves (2 * r) 1 14) frac.toNat).1 = word at *
  generalize digitSum (halves (2 * r) 1 14) (expand (halves (2 * r) 1 14) frac.toNat).1 = sum at *
  by_cases hone : (expand (halves (2 * r) 1 14) frac.toNat).2 ≤ 1
  · rw [if_pos hone] at hloop
    exact ⟨word, hloop, by omega, by omega, by omega⟩
  · rw [if_neg hone, if_neg (by omega)] at hloop
    refine ⟨word + 2, hloop, by omega, ?_, ?_⟩ <;> rw [Nat.mul_add] <;> omega

/-! ### The neighbourhoods of the multiples of the reference -/

/-- The integer and the fraction, in kHz, that the spur normalisation makes of others. -/
def spurAvoided (r n frac : Nat) : Nat × Nat :=
  if frac < r / 64 then (n, 0)
  else if r * 127 / 64 < frac then (n + 1, 0)
  else if r * 127 / 128 < frac ∧ frac < r then (n, r * 127 / 128)
  else if r < frac ∧ frac < r * 129 / 128 then (n, r * 129 / 128)
  else (n, frac)

theorem normalize_spurAvoided {pllRefKhz : UInt32} {sol : PllSolution} {r : Nat}
    (href : pllRefKhz.toNat = r) (hfits : r < 2 ^ 24) (hn : sol.nInteger.toNat < 2 ^ 31) :
    ((normalizeSpurAvoidance pllRefKhz sol).nInteger.toNat,
      (normalizeSpurAvoidance pllRefKhz sol).fractionalNum.toNat) =
        spurAvoided r sol.nInteger.toNat sol.fractionalNum.toNat := by
  have hnear : (pllRefKhz / 64).toNat = r / 64 := by
    rw [UInt32.toNat_div, href]
    rfl
  have hscale (c d : UInt32) (hc : c.toNat < 2 ^ 8) :
      (pllRefKhz * c / d).toNat = r * c.toNat / d.toNat := by
    have hle : r * c.toNat ≤ 2 ^ 24 * 2 ^ 8 :=
      Nat.mul_le_mul (Nat.le_of_lt hfits) (Nat.le_of_lt hc)
    have hlt : r * c.toNat < 2 ^ 32 := by
      have := Nat.mul_le_mul_left r (show c.toNat ≤ 255 by omega)
      omega
    rw [UInt32.toNat_div, UInt32.toNat_mul, href, Nat.mod_eq_of_lt hlt]
  have hfar := hscale 127 64 (by decide)
  have hbelow := hscale 127 128 (by decide)
  have habove := hscale 129 128 (by decide)
  have hnext : (sol.nInteger + 1).toNat = sol.nInteger.toNat + 1 := by
    rw [UInt32.toNat_add, UInt32.toNat_one]
    omega
  simp only [normalizeSpurAvoidance, spurAvoided, UInt32.lt_iff_toNat_lt, gt_iff_lt, hnear, hfar,
    hbelow, habove, href, UInt32.reduceToNat]
  split_ifs <;> simp [hnext, hbelow, habove]

/-- A neighbourhood reaches a 64th of the reference from an even multiple and a 128th from an odd
one. -/
theorem spurAvoided_near {r n frac : Nat} (hpos : 0 < r) (hfrac : frac < 2 * r) :
    (spurAvoided r n frac).2 ≤ 2 * r ∧
    n ≤ (spurAvoided r n frac).1 ∧ (spurAvoided r n frac).1 ≤ n + 1 ∧
    ((spurAvoided r n frac).2 = 0 →
      64 * (2 * r * (spurAvoided r n frac).1) ≤ 64 * (2 * r * n + frac) + r ∧
        64 * (2 * r * n + frac) ≤ 64 * (2 * r * (spurAvoided r n frac).1) + r) ∧
    ((spurAvoided r n frac).2 ≠ 0 → (spurAvoided r n frac).1 = n ∧
      128 * (spurAvoided r n frac).2 ≤ 128 * frac + r ∧
        128 * frac ≤ 128 * (spurAvoided r n frac).2 + r) := by
  unfold spurAvoided
  split_ifs
  · exact ⟨by omega, by omega, by omega, fun _ => by dsimp only; omega, fun h => absurd rfl h⟩
  · refine ⟨by omega, by omega, by omega, fun _ => ?_, fun h => absurd rfl h⟩
    simp only [Nat.mul_add]
    omega
  · dsimp only
    omega
  · dsimp only
    omega
  · dsimp only
    omega

/-! ### The VCO of what is programmed -/

/-- The VCO, in kHz, that the PLL makes of a reference of `r` kHz. -/
def PllFields.vcoKhz (r : Nat) (p : PllFields) : ℚ := 2 * r * (p.nInteger + p.sdm / 65536)

theorem vcoKhz_integer {r n vco order : Nat} (hle : 64 * (2 * r * n) ≤ 64 * vco + r)
    (hge : 64 * vco ≤ 64 * (2 * r * n) + r) :
    |(⟨order, n, 0⟩ : PllFields).vcoKhz r - vco| ≤ (r : ℚ) / 64 := by
  have hle : (64 * (2 * r * n) : ℚ) ≤ 64 * vco + r := by exact_mod_cast hle
  have hge : (64 * vco : ℚ) ≤ 64 * (2 * r * n) + r := by exact_mod_cast hge
  have hvco : (⟨order, n, 0⟩ : PllFields).vcoKhz r = 2 * r * n := by simp [PllFields.vcoKhz]
  rw [hvco, abs_le]
  constructor <;> linarith

theorem vcoKhz_fractional {r n word frac chosen order : Nat}
    (hle : 65536 * chosen ≤ 2 * r * word + 65536 * 16)
    (hge : 2 * r * word ≤ 65536 * (chosen + 16)) (hnear : 128 * chosen ≤ 128 * frac + r)
    (hfar : 128 * frac ≤ 128 * chosen + r) :
    |(⟨order, n, word⟩ : PllFields).vcoKhz r - (2 * r * n + frac : Nat)| ≤ (r : ℚ) / 128 + 16 := by
  have hle : (65536 * chosen : ℚ) ≤ 2 * r * word + 65536 * 16 := by exact_mod_cast hle
  have hge : (2 * r * word : ℚ) ≤ 65536 * (chosen + 16) := by exact_mod_cast hge
  have hnear : (128 * chosen : ℚ) ≤ 128 * frac + r := by exact_mod_cast hnear
  have hfar : (128 * frac : ℚ) ≤ 128 * chosen + r := by exact_mod_cast hfar
  have hvco : (⟨order, n, word⟩ : PllFields).vcoKhz r = 2 * r * n + 2 * r * word / 65536 := by
    unfold PllFields.vcoKhz
    ring
  rw [hvco, abs_le]
  push_cast
  constructor <;> linarith

/-- The integer of a VCO within the window is of six bits of `NI` and two of `SI`. -/
theorem niSi_fits {n : UInt32} (h : 13 ≤ n.toNat ∧ n.toNat < 269) :
    ((n - 13) / 4).toNat < 64 ∧ (n - 4 * ((n - 13) / 4) - 13).toNat < 4 := by
  have hall : ∀ k < 269, 13 ≤ k → ((UInt32.ofNat k - 13) / 4).toNat < 64 ∧
      (UInt32.ofNat k - 4 * ((UInt32.ofNat k - 13) / 4) - 13).toNat < 4 := by
    decide +kernel
  simpa using hall n.toNat h.2 h.1

/-- For every reference from 16384 to 32767 kHz and every target with a candidate, `set_pll` works
out an encoding without a division by zero or a wrap, and the VCO in its registers is within a 64th
of the reference, or within a 128th and 16 kHz when the sigma-delta modulator is on. -/
theorem synthesis_accurate {req : SynthRequest} {r : Nat} (href : (referenceKhz req).toNat = r)
    (hlo : 16384 ≤ r) (hhi : r ≤ 32767) :
    ∃ candidates, enumerateCandidates req = some candidates ∧
      (candidates ≠ [] → ∃ chosen enc word,
        rankAndSelect (candidates.map (normalizeSpurAvoidance (referenceKhz req))) = some chosen ∧
        packPllSolution chosen (referenceKhz req) = some enc ∧
        13 ≤ chosen.nInteger.toNat ∧ ((chosen.nInteger - 13) / 4).toNat < 64 ∧
        (chosen.nInteger - 4 * ((chosen.nInteger - 13) / 4) - 13).toNat < 4 ∧
        sdmLoopWide (referenceKhz req) 16 2 0 chosen.fractionalNum = some word ∧ word < 2 ^ 16 ∧
        ∀ regs, Holds regs enc →
          (pllFields regs).order = chosen.dividerOrder.toNat ∧
          |(pllFields regs).vcoKhz r -
              (req.targetHz.toNat / 1000 * 2 ^ (pllFields regs).order : Nat)| ≤
            if chosen.isFractional then (r : ℚ) / 128 + 16 else (r : ℚ) / 64) := by
  have hnonzero : 2 * referenceKhz req ≠ 0 := fun hzero => by
    have hdenom : (2 * referenceKhz req).toNat = 2 * r := by
      rw [UInt32.toNat_mul, href]
      exact Nat.mod_eq_of_lt (show 2 * r < 2 ^ 32 by omega)
    rw [hzero, UInt32.toNat_zero] at hdenom
    omega
  obtain ⟨candidates, hc⟩ := enumerateCandidates_of_ref hnonzero
  refine ⟨candidates, hc, fun hne => ?_⟩
  obtain ⟨sol, rfl, horder, hinteger, hfrac, hfloor, hceil⟩ :=
    enumerateCandidates_eq href (by omega) (by omega) hc hne rfl
  generalize hvco : req.targetHz.toNat / 1000 * 2 ^ orderOf (req.targetHz.toNat / 1000) = vco at *
  have hrange := orderOf_range (req.targetHz.toNat / 1000)
  have hsplit := Nat.div_add_mod vco (2 * r)
  rw [← hinteger, ← hfrac] at hsplit
  have hrest : sol.fractionalNum.toNat < 2 * r := by
    rw [hfrac]
    exact Nat.mod_lt _ (by omega)
  have hlow : 27 ≤ sol.nInteger.toNat := by
    rw [hinteger, Nat.le_div_iff_mul_le (by omega)]
    omega
  have hhigh : sol.nInteger.toNat < 109 := by
    rw [hinteger, Nat.div_lt_iff_lt_mul (by omega)]
    omega
  -- the one candidate is the one that is chosen
  generalize hchosen : normalizeSpurAvoidance (referenceKhz req) sol = chosen
  have havoided := @normalize_spurAvoided _ sol _ href (by omega) (by omega)
  obtain ⟨hfits, hn, hnext, hzero, hpos⟩ :=
    spurAvoided_near (n := sol.nInteger.toNat) (show 0 < r by omega) hrest
  rw [hchosen] at havoided
  rw [← havoided] at hfits hn hnext hzero hpos
  dsimp only at hfits hn hnext hzero hpos
  obtain ⟨word, hword, hlt, hwordLow, hwordHigh⟩ := sdmLoopWide_accurate href hlo hhi hfits
  have hloop : sdmLoop (referenceKhz req) 16 2 0 chosen.fractionalNum =
      some (UInt16.ofNat word) := by
    have hwide := sdmLoop_wide (referenceKhz req) 16 2 0 chosen.fractionalNum
    rw [hword] at hwide
    exact hwide
  obtain ⟨enc, henc⟩ : ∃ enc, packPllSolution chosen (referenceKhz req) = some enc := by
    cases hf : chosen.isFractional <;> simp [packPllSolution, hf, hloop]
  have hinteger : 13 ≤ chosen.nInteger.toNat ∧ chosen.nInteger.toNat < 269 := by omega
  have hchosenOrder : chosen.dividerOrder.toNat = orderOf (req.targetHz.toNat / 1000) := by
    rw [← hchosen]
    exact horder
  refine ⟨chosen, enc, word, by rw [← hchosen]; rfl, henc, hinteger.1, (niSi_fits hinteger).1,
    (niSi_fits hinteger).2, hword, hlt, fun regs hregs => ?_⟩
  have hfields := hregs.packed (by rw [hchosenOrder]; exact hrange) hinteger hloop hlt henc
  rw [hfields]
  refine ⟨rfl, ?_⟩
  dsimp only
  rw [hchosenOrder, hvco, ← hsplit]
  have hmode : chosen.isFractional = true ↔ chosen.fractionalNum ≠ 0 := by
    rw [← hchosen]
    exact normalize_isFractional _ sol
  split
  · rename_i hf
    obtain ⟨heq, hnear, hfar⟩ := hpos (fun hnum => hmode.mp hf (UInt32.toNat_inj.mp hnum))
    rw [heq]
    exact vcoKhz_fractional hwordLow hwordHigh hnear hfar
  · rename_i hf
    have hnum : chosen.fractionalNum = 0 := not_not.mp (mt hmode.mpr hf)
    obtain ⟨hle, hge⟩ := hzero (by rw [hnum]; rfl)
    exact vcoKhz_integer hle hge

/-- The encoding for 100 MHz above the low IF, with the crystal as it is. -/
theorem synthesis_accurate_crystal : ∃ chosen enc,
    packPllSolution chosen 28800 = some enc ∧ ∀ regs, Holds regs enc →
      |(pllFields regs).vcoKhz 28800 - (103570 * 2 ^ (pllFields regs).order : Nat)| ≤
        if chosen.isFractional then ((28800 : Nat) : ℚ) / 128 + 16 else ((28800 : Nat) : ℚ) / 64 := by
  have href : referenceKhz ⟨103570000, 28800000, 0⟩ = 28800 := by decide
  obtain ⟨candidates, hc, h⟩ := @synthesis_accurate ⟨103570000, 28800000, 0⟩ 28800
    (by rw [href]; rfl) (by decide) (by decide)
  obtain ⟨chosen, enc, word, -, henc, -, -, -, -, -, hvco⟩ :=
    h ((enumerateCandidates_ne_nil hc).mpr (by decide))
  rw [href] at henc
  exact ⟨chosen, enc, henc, fun regs hregs => (hvco regs hregs).2⟩

/-! ### Where the arithmetic is defined -/

/-- The reference in kHz of the crystal of 28.8 MHz with a correction, before it is taken for a
number of 32 bits. -/
def correctedKhz (ppm : Int32) : Int := (28800 * (1000000 + ppm.toInt)).tdiv 1000000

theorem referenceKhz_crystal {req : SynthRequest} (hosc : req.referenceHz = 28800000) :
    referenceKhz req = UInt32.ofInt (correctedKhz req.correctionPpm) := by
  have hkhz : ((28800000 : UInt32) / 1000) = 28800 := by decide
  unfold referenceKhz
  dsimp only
  rw [hosc, hkhz]
  split
  · rfl
  · rename_i hppm
    rw [not_not.mp hppm]
    decide

theorem correctedKhz_range (ppm : Int32) :
    -2 ^ 26 < correctedKhz ppm ∧ correctedKhz ppm < 2 ^ 26 := by
  have hlow := ppm.le_toInt
  have hhigh := ppm.toInt_lt
  unfold correctedKhz
  generalize hx : 28800 * (1000000 + ppm.toInt) = x
  have hbound : |x| ≤ 61900000000000 := by
    rw [abs_le]
    omega
  have habs : |x.tdiv 1000000| ≤ |x| / 1000000 := by
    obtain h | h := Int.le_total 0 x
    · rw [Int.tdiv_eq_ediv_of_nonneg h, abs_of_nonneg h, abs_of_nonneg (by omega)]
    · obtain ⟨y, rfl⟩ : ∃ y, x = -y := ⟨-x, by omega⟩
      rw [Int.neg_tdiv, abs_neg, abs_neg, Int.tdiv_eq_ediv_of_nonneg (by omega),
        abs_of_nonneg (by omega), abs_of_nonneg (by omega)]
  have hlt : |x.tdiv 1000000| < 2 ^ 26 := by omega
  exact abs_lt.mp hlt

/-- A fraction that the loop takes apart into parts of the fourteen weights before the last and a
rest of more than one kHz, from which the last weight does not come off. -/
def Stuck (r frac : Nat) : Prop :=
  ∃ (digits : List Bool) (rest : Nat), digits.length = 14 ∧ 2 ≤ rest ∧ rest ≤ 2 * r / 2 ^ 15 ∧
    frac = digitSum (halves (2 * r) 1 14) digits + rest

theorem stuck_iff (r frac : Nat) :
    Stuck r frac ↔ 1 < sdmRest (2 * r) frac ∧ sdmRest (2 * r) frac ≤ 2 * r / 2 ^ 15 := by
  constructor
  · rintro ⟨digits, rest, hlen, htwo, hrest, rfl⟩
    have hhalf : 2 * r / 2 ^ 15 ≤ 2 * r / 2 ^ (0 + 14) :=
      Nat.div_le_div_left (by decide) (by decide)
    have hexpand := expand_digitSum (d := 2 * r) (i := 0) hlen (show 0 < rest by omega)
      (Nat.le_trans hrest hhalf)
    rw [sdmRest, hexpand]
    exact ⟨htwo, hrest⟩
  · rintro ⟨hone, hle⟩
    refine ⟨_, _, length_expand (halves (2 * r) 1 14) frac, hone, hle, ?_⟩
    exact (expand_sum (halves (2 * r) 1 14) frac).symm

/-- The loop ends unless it reaches the last weight with a rest that is stuck there. -/
theorem sdmLoop_isSome_iff {pllRefKhz frac : UInt32} {r : Nat} (href : pllRefKhz.toNat = r)
    (hfits : r < 2 ^ 31) :
    (∃ word, sdmLoop pllRefKhz 16 2 0 frac = some word) ↔ ¬Stuck r frac.toNat := by
  have hd : (2 * pllRefKhz).toNat = 2 * r := by
    rw [UInt32.toNat_mul, href]
    exact Nat.mod_eq_of_lt (show 2 * r < 2 ^ 32 by omega)
  have hfirst : (0x8000 >>> UInt16.ofNat 14 : UInt16) = 2 := by decide
  rw [stuck_iff]
  obtain hzero | hlast := Nat.eq_zero_or_pos (2 * r / 2 ^ 15)
  · have hsmall : (2 * pllRefKhz : UInt32) / 0x8000 ≤ 1 := by
      rw [UInt32.le_iff_toNat_le, UInt32.toNat_div, hd]
      exact Nat.le_trans (Nat.le_of_eq hzero) (by decide)
    have hloop := sdmLoop_of_ref hsmall (show 14 < 15 by decide) 0 frac
    rw [hfirst] at hloop
    rw [hzero]
    exact iff_of_true hloop (by omega)
  · have hloop := sdmLoopWide_expand hd hlast (Nat.le_refl 14) 0 frac
    have hwide := sdmLoop_wide pllRefKhz 16 2 0 frac
    rw [hfirst] at hloop
    rw [show (0 : UInt16) = UInt16.ofNat 0 from rfl, hwide, hloop]
    change (∃ word, Option.map UInt16.ofNat (if sdmRest (2 * r) frac.toNat ≤ 1 then _ else
      if sdmRest (2 * r) frac.toNat ≤ 2 * r / 2 ^ 15 then _ else _) = some word) ↔ _
    split
    · exact iff_of_true ⟨_, rfl⟩ (by omega)
    · split
      · exact iff_of_false (by simp) (by omega)
      · exact iff_of_true ⟨_, rfl⟩ (by omega)

/-- An integer of at least thirteen, after the neighbourhoods have been avoided. -/
theorem spurAvoided_integer {r vco : Nat} (hpos : 0 < r) :
    13 ≤ (spurAvoided r (vco / (2 * r)) (vco % (2 * r))).1 ↔ 24 * r + r * 127 / 64 < vco := by
  have hsplit := Nat.div_add_mod vco (2 * r)
  have hrest := Nat.mod_lt vco (show 0 < 2 * r by omega)
  have hinteger : ∀ k, k ≤ vco / (2 * r) ↔ k * (2 * r) ≤ vco :=
    fun k => Nat.le_div_iff_mul_le (by omega)
  have htwelve := hinteger 12
  have hthirteen := hinteger 13
  generalize vco / (2 * r) = n at *
  generalize vco % (2 * r) = frac at *
  have hlast : n = 12 → 2 * r * n = 24 * r := by
    rintro rfl
    omega
  unfold spurAvoided
  split_ifs <;> dsimp only <;> omega

/-- What `set_pll` computes for a request involves no division by zero, and no subtraction of
thirteen from a smaller integer. -/
def Faultless (req : SynthRequest) : Prop :=
  ∃ candidates, enumerateCandidates req = some candidates ∧
    ∀ chosen,
      rankAndSelect (candidates.map (normalizeSpurAvoidance (referenceKhz req))) = some chosen →
        13 ≤ chosen.nInteger.toNat ∧ ∃ enc, packPllSolution chosen (referenceKhz req) = some enc

/-- A target, in kHz, that has no candidate or whose VCO is more than twelve times twice the
corrected reference and its upper neighbourhood, with a fraction that does not get stuck. -/
def Programmable (ppm : Int32) (targetKhz : Nat) : Prop :=
  let r := (correctedKhz ppm).toNat
  let vco := targetKhz * 2 ^ orderOf targetKhz
  27657 ≤ targetKhz → targetKhz < 1770000 →
    0 < correctedKhz ppm ∧ 24 * r + r * 127 / 64 < vco ∧
      ¬Stuck r (spurAvoided r (vco / (2 * r)) (vco % (2 * r))).2

theorem normalize_nInteger_le (pllRefKhz : UInt32) {sol : PllSolution}
    (hn : sol.nInteger.toNat = 0) :
    (normalizeSpurAvoidance pllRefKhz sol).nInteger.toNat ≤ 1 := by
  have hzero : sol.nInteger = 0 := UInt32.toNat_inj.mp hn
  simp only [normalizeSpurAvoidance, hzero]
  split_ifs <;> simp

theorem packPllSolution_isSome {sol : PllSolution} {pllRefKhz : UInt32}
    (hmode : sol.isFractional = true ↔ sol.fractionalNum ≠ 0) :
    (∃ enc, packPllSolution sol pllRefKhz = some enc) ↔
      ∃ word, sdmLoop pllRefKhz 16 2 0 sol.fractionalNum = some word := by
  cases hf : sol.isFractional with
  | false =>
    have hzero : sol.fractionalNum = 0 := not_not.mp (mt hmode.mpr (by simp [hf]))
    refine iff_of_true ⟨_, by simp only [packPllSolution, hf]; rfl⟩ ⟨0, ?_⟩
    rw [hzero]
    rfl
  | true =>
    cases hloop : sdmLoop pllRefKhz 16 2 0 sol.fractionalNum <;> simp [packPllSolution, hf, hloop]

theorem faultless_of_no_candidate {req : SynthRequest}
    (h : ¬(27657 ≤ req.targetHz.toNat / 1000 ∧ req.targetHz.toNat / 1000 < 1770000)) :
    Faultless req := by
  have hkhz : (req.targetHz / 1000).toNat = req.targetHz.toNat / 1000 := by simp
  have hnone : (dividerOrders.filter fun order =>
      vcoKhz (req.targetHz / 1000) order ≥ vcoFloorKhz &&
        vcoKhz (req.targetHz / 1000) order < vcoCeilKhz) = [] := by
    refine List.filter_eq_nil_iff.mpr fun order horder hviable => h ?_
    rw [← hkhz]
    exact exists_order.mp ⟨order, horder, (viable_iff horder).mp hviable⟩
  refine ⟨[], ?_, fun chosen hchosen => ?_⟩
  · rw [enumerateCandidates, hnone]
    rfl
  · cases hchosen

/-- With the crystal, a request is computed without a fault exactly when its target is
programmable. -/
theorem faultless_iff {req : SynthRequest} (hosc : req.referenceHz = 28800000) :
    Faultless req ↔ Programmable req.correctionPpm (req.targetHz.toNat / 1000) := by
  have hkhz : (req.targetHz / 1000).toNat = req.targetHz.toNat / 1000 := by simp
  generalize htarget : req.targetHz.toNat / 1000 = targetKhz at *
  by_cases hwindow : 27657 ≤ targetKhz ∧ targetKhz < 1770000
  swap
  · exact iff_of_true (faultless_of_no_candidate (htarget ▸ hwindow))
      fun hlo hhi => absurd ⟨hlo, hhi⟩ hwindow
  obtain ⟨hlo, hhi⟩ := hwindow
  obtain ⟨hfloor, hceil⟩ := orderOf_window hlo hhi
  obtain ⟨horder, hmem⟩ := orderOf_divider targetKhz
  obtain ⟨hrefLow, hrefHigh⟩ := correctedKhz_range req.correctionPpm
  have hceil' : (req.targetHz / 1000).toNat * 2 ^ (UInt8.ofNat (orderOf targetKhz)).toNat <
      3540000 := by
    rw [horder, hkhz]
    exact hceil
  have href := referenceKhz_crystal hosc
  have hsolve := enumerateCandidates_solve htarget hlo hhi
  have hofInt : ((UInt32.ofInt (correctedKhz req.correctionPpm)).toNat : Int) =
      correctedKhz req.correctionPpm % 2 ^ 32 := by
    simp [UInt32.ofInt]
    omega
  have htwice : (2 * referenceKhz req).toNat = 2 * (referenceKhz req).toNat % 2 ^ 32 :=
    UInt32.toNat_mul 2 (referenceKhz req)
  rw [← href] at hofInt
  have hprogrammable : Programmable req.correctionPpm targetKhz ↔
      0 < correctedKhz req.correctionPpm ∧
        24 * (correctedKhz req.correctionPpm).toNat +
            (correctedKhz req.correctionPpm).toNat * 127 / 64 < targetKhz * 2 ^ orderOf targetKhz ∧
          ¬Stuck (correctedKhz req.correctionPpm).toNat
            (spurAvoided (correctedKhz req.correctionPpm).toNat
              (targetKhz * 2 ^ orderOf targetKhz / (2 * (correctedKhz req.correctionPpm).toNat))
              (targetKhz * 2 ^ orderOf targetKhz %
                (2 * (correctedKhz req.correctionPpm).toNat))).2 :=
    ⟨fun h => h hlo hhi, fun h _ _ => h⟩
  rw [hprogrammable]
  by_cases hzero : 2 * referenceKhz req = 0
  · -- the first division is by zero
    rw [solve, if_pos hzero] at hsolve
    rw [hzero, UInt32.toNat_zero] at htwice
    refine iff_of_false ?_ (by omega)
    rintro ⟨candidates, hc, -⟩
    rw [hsolve] at hc
    cases hc
  obtain ⟨sol, hsol⟩ := solve_of_ref hzero (req.targetHz / 1000) (UInt8.ofNat (orderOf targetKhz))
  have hinteger := solve_nInteger hmem hceil' hsol
  rw [hsol] at hsolve
  have hfaultless : Faultless req ↔
      13 ≤ (normalizeSpurAvoidance (referenceKhz req) sol).nInteger.toNat ∧
        ∃ enc, packPllSolution (normalizeSpurAvoidance (referenceKhz req) sol)
          (referenceKhz req) = some enc := by
    rw [Faultless, hsolve]
    simp [rankAndSelect]
  rw [hfaultless]
  rw [horder, hkhz] at hinteger
  by_cases hlarge : 2 ^ 25 ≤ (2 * referenceKhz req).toNat
  · -- the reference is above the window of the VCO, or below zero
    have hnone : sol.nInteger.toNat = 0 := by
      rw [hinteger]
      exact Nat.div_eq_of_lt (by omega)
    have hle := normalize_nInteger_le (referenceKhz req) hnone
    refine iff_of_false (by omega) ?_
    rintro ⟨hpos, hvco, -⟩
    have hsmall : (correctedKhz req.correctionPpm).toNat < 2 ^ 24 := by omega
    have hr : (referenceKhz req).toNat = (correctedKhz req.correctionPpm).toNat := by omega
    rw [hr, Nat.mod_eq_of_lt (by omega)] at htwice
    omega
  have hpositive : 0 < correctedKhz req.correctionPpm := by
    have hne : (2 * referenceKhz req).toNat ≠ 0 :=
      fun h => hzero (UInt32.toNat_inj.mp h)
    omega
  have hr : (referenceKhz req).toNat = (correctedKhz req.correctionPpm).toNat := by omega
  generalize (correctedKhz req.correctionPpm).toNat = r at hr ⊢
  obtain ⟨-, hquot, hrest⟩ := solve_ref hr (by omega) (by omega) hmem hceil' hsol
  rw [horder, hkhz] at hquot hrest
  have havoided := @normalize_spurAvoided _ sol _ hr (by omega) (by
    rw [hquot]
    exact Nat.lt_of_le_of_lt (Nat.div_le_self _ _) (by omega))
  rw [packPllSolution_isSome (normalize_isFractional _ sol), sdmLoop_isSome_iff hr (by omega),
    ← spurAvoided_integer (by omega), ← hquot, ← hrest, ← havoided]
  simp only [hpositive, true_and]

end Sdrgg.R820t
