import Sdrgg.Rtl.Demod
import Sdrgg.Rtl.Rate
import Mathlib.Tactic.Ring

/-! The ratio registers of the resampler against the ratio of a rate: which quotients they stand for,
and where the arithmetic that fills them is that of the integers. -/

namespace Sdrgg.Rtl

open ProofKit Usb

/-! ### What the registers stand for -/

/-- The ratio in its registers. -/
def ratioWord (regs : List UInt8) : Nat := regs.foldl (fun n byte => 256 * n + byte.toNat) 0

/-- The ratio that the resampler takes its registers for, whose bit 28 repeats bit 27. -/
def decodedRatio (regs : List UInt8) : Nat := (effectiveRatio (UInt32.ofNat (ratioWord regs))).toNat

/-- A ratio is the quotient of a crystal by a rate, rounded down to four units. -/
def Decodes (ratio xtal rate : Nat) : Prop :=
  ratio ≤ xtal * 2 ^ 22 / rate ∧ xtal * 2 ^ 22 / rate < ratio + 4

theorem ratioWord_ratioBytes (ratio : UInt32) : ratioWord (ratioBytes ratio) = ratio.toNat := by
  have hlt := ratio.toNat_lt
  have hmask (n : UInt32) : (n &&& 0xFFFF).toNat = n.toNat % 65536 :=
    (UInt32.toNat_and n 0xFFFF).trans (Nat.and_two_pow_sub_one_eq_mod n.toNat 16)
  simp only [ratioWord, ratioBytes, payload, show (2 : UInt8) ≠ 1 from by decide, if_false,
    List.cons_append, List.nil_append, List.foldl_cons, List.foldl_nil, UInt16.toNat_toUInt8,
    UInt16.toNat_shiftRight, UInt32.toNat_toUInt16, hmask, UInt32.toNat_shiftRight,
    Nat.shiftRight_eq_div_pow]
  simp only [UInt16.reduceToNat, UInt32.reduceToNat, Nat.reduceMod, Nat.reducePow]
  omega

theorem decodedRatio_resampler {xtal rateHz : UInt32} :
    decodedRatio (ratioBytes (resamplerRatio xtal rateHz)) =
      if exactRatio xtal.toNat rateHz.toNat < 2 ^ 27 then exactRatio xtal.toNat rateHz.toNat
      else exactRatio xtal.toNat rateHz.toNat + 2 ^ 28 := by
  rw [decodedRatio, ratioWord_ratioBytes, UInt32.ofNat_toNat, toNat_effectiveRatio_resampler]

/-- The registers stand for quotients below `2 ^ 27`, and for those from `3 * 2 ^ 27` to `2 ^ 29`. -/
theorem decodes_iff (xtal rate : Nat) :
    Decodes (if exactRatio xtal rate < 2 ^ 27 then exactRatio xtal rate
      else exactRatio xtal rate + 2 ^ 28) xtal rate ↔
        xtal * 2 ^ 22 / rate < 2 ^ 27 ∨
          3 * 2 ^ 27 ≤ xtal * 2 ^ 22 / rate ∧ xtal * 2 ^ 22 / rate < 2 ^ 29 := by
  unfold Decodes exactRatio
  generalize xtal * 2 ^ 22 / rate = q
  split <;> omega

/-- The rates that the registers stand for with the crystal as it is. -/
theorem decodes_crystal_iff {rate : Nat} (hpos : 0 < rate) :
    Decodes (if exactRatio 28800000 rate < 2 ^ 27 then exactRatio 28800000 rate
      else exactRatio 28800000 rate + 2 ^ 28) 28800000 rate ↔
        225000 < rate ∧ rate ≤ 300000 ∨ 900000 < rate := by
  have hbelow (n : Nat) : 28800000 * 2 ^ 22 / rate < n ↔ 28800000 * 2 ^ 22 < n * rate :=
    Nat.div_lt_iff_lt_mul hpos
  rw [decodes_iff, hbelow, hbelow, Nat.le_div_iff_mul_le hpos]
  omega

/-! ### Where the arithmetic is that of the integers -/

/-- The arithmetic of `set_sample_rate` is that of the integers: the sum is of 32 bits, the divisors
are not zero, and the quotients that are taken for numbers of 32 bits are. -/
structure RateFaultless (b : BasebandState) (rateHz : UInt32) : Prop where
  sum : b.freqOffsetPpm ≠ 0 → 1000000 + b.freqOffsetPpm.toInt < 2 ^ 31
  crystal : b.freqOffsetPpm ≠ 0 →
    0 ≤ ((b.oscillatorHz.toNat : Int) * (1000000 + b.freqOffsetPpm.toInt)).tdiv 1000000 ∧
      ((b.oscillatorHz.toNat : Int) * (1000000 + b.freqOffsetPpm.toInt)).tdiv 1000000 < 2 ^ 32
  divisors : rateHz ≠ 0 ∧
    ∀ xtal, correctedXtal b = some xtal → effectiveRatio (resamplerRatio xtal rateHz) ≠ 0
  quotients : ∀ xtal, correctedXtal b = some xtal →
    xtal.toNat * 2 ^ 22 / rateHz.toNat < 2 ^ 32 ∧
      xtal.toNat * 2 ^ 22 / (effectiveRatio (resamplerRatio xtal rateHz)).toNat < 2 ^ 32

/-- The ratio of a crystal in its registers, in units of four. -/
theorem exactRatio_mod (xtal : Nat) {rate : Nat} (hpos : 0 < rate) :
    exactRatio xtal rate = xtal % (64 * rate) * 2 ^ 20 / rate * 4 := by
  have hsplit := Nat.div_add_mod xtal (64 * rate)
  have hunits : xtal * 2 ^ 22 = xtal % (64 * rate) * 2 ^ 22 + 2 ^ 28 * (xtal / (64 * rate)) * rate := by
    generalize xtal / (64 * rate) = k at *
    generalize xtal % (64 * rate) = rest at *
    rw [← hsplit]
    ring
  have hrest := Nat.mod_lt xtal (show 0 < 64 * rate by omega)
  have hlow : xtal % (64 * rate) * 2 ^ 22 / rate < 2 ^ 28 := by
    rw [Nat.div_lt_iff_lt_mul hpos]
    omega
  rw [exactRatio, hunits, Nat.add_mul_div_right _ _ hpos, Nat.add_mul_mod_self_left,
    Nat.mod_eq_of_lt hlow, Nat.div_div_eq_div_mul, Nat.mul_comm rate 4,
    ← Nat.div_div_eq_div_mul]
  congr 2
  omega

/-- The crystal by a ratio of `k` units of four, with its bit 28, is of 32 bits. -/
theorem achieved_lt_iff {xtal : Nat} (k : Nat) (hxtal : xtal < 2 ^ 32) :
    ((if k * 4 < 2 ^ 27 then k * 4 else k * 4 + 2 ^ 28) ≠ 0 ∧
      xtal * 2 ^ 22 / (if k * 4 < 2 ^ 27 then k * 4 else k * 4 + 2 ^ 28) < 2 ^ 32) ↔
      xtal / 4096 + 1 ≤ k := by
  by_cases hlow : k * 4 < 2 ^ 27
  · rw [if_pos hlow]
    obtain rfl | hk := Nat.eq_zero_or_pos k
    · exact iff_of_false (fun h => h.1 (Nat.zero_mul 4)) (by omega)
    · rw [Nat.div_lt_iff_lt_mul (by omega)]
      omega
  · rw [if_neg hlow, Nat.div_lt_iff_lt_mul (by omega)]
    omega

/-- The rate achieved is of 32 bits when enough of the crystal is left over by 64 times the rate. -/
theorem achieved_fits_iff {xtal rate : Nat} (hxtal : xtal < 2 ^ 32) (hpos : 0 < rate) :
    ((if exactRatio xtal rate < 2 ^ 27 then exactRatio xtal rate
        else exactRatio xtal rate + 2 ^ 28) ≠ 0 ∧
      xtal * 2 ^ 22 / (if exactRatio xtal rate < 2 ^ 27 then exactRatio xtal rate
        else exactRatio xtal rate + 2 ^ 28) < 2 ^ 32) ↔
      rate * (xtal / 4096 + 1) ≤ xtal % (64 * rate) * 2 ^ 20 := by
  rw [exactRatio_mod xtal hpos, achieved_lt_iff _ hxtal, Nat.le_div_iff_mul_le hpos, Nat.mul_comm]

/-- The crystal of 28.8 MHz with a correction, in whole Hz. -/
def crystalHz (ppm : Int32) : Int := 28800000 * (1000000 + ppm.toInt) / 1000000

theorem toNat_ofInt {x : Int} (h0 : 0 ≤ x) (hfits : x < 2 ^ 32) :
    ((UInt32.ofInt x).toNat : Int) = x := by
  simp [UInt32.ofInt]
  omega

section Crystal

variable {b : BasebandState} (hosc : b.oscillatorHz = 28800000)

include hosc

theorem crystal_tdiv_nonneg :
    0 ≤ ((b.oscillatorHz.toNat : Int) * (1000000 + b.freqOffsetPpm.toInt)).tdiv 1000000 ↔
      0 ≤ 1000000 + b.freqOffsetPpm.toInt := by
  have hcrystal : ((28800000 : UInt32).toNat : Int) = 28800000 := rfl
  rw [hosc, hcrystal]
  generalize 1000000 + b.freqOffsetPpm.toInt = factor
  obtain h | h := Int.le_total 0 factor
  · rw [Int.tdiv_eq_ediv_of_nonneg (by omega)]
    omega
  · obtain ⟨g, rfl⟩ : ∃ g, factor = -g := ⟨-factor, by omega⟩
    rw [Int.mul_neg, Int.neg_tdiv, Int.tdiv_eq_ediv_of_nonneg (by omega)]
    omega

theorem crystal_tdiv (h : 0 ≤ 1000000 + b.freqOffsetPpm.toInt) :
    ((b.oscillatorHz.toNat : Int) * (1000000 + b.freqOffsetPpm.toInt)).tdiv 1000000 =
      crystalHz b.freqOffsetPpm := by
  have hcrystal : ((28800000 : UInt32).toNat : Int) = 28800000 := rfl
  rw [hosc, hcrystal, Int.tdiv_eq_ediv_of_nonneg (by omega), crystalHz]

/-- The resampler's reference is the corrected crystal rounded down to a Hz. -/
theorem toNat_correctedXtal (hpos : 0 ≤ 1000000 + b.freqOffsetPpm.toInt)
    (hfits : crystalHz b.freqOffsetPpm < 2 ^ 32) :
    ∃ xtal, correctedXtal b = some xtal ∧ (xtal.toNat : Int) = crystalHz b.freqOffsetPpm := by
  unfold correctedXtal
  split
  · rename_i hppm
    have hnonneg : 0 ≤ crystalHz b.freqOffsetPpm := by
      unfold crystalHz
      omega
    have hsum : 1000000 + b.freqOffsetPpm.toInt < 2 ^ 31 := by
      unfold crystalHz at hfits
      omega
    dsimp only
    rw [if_pos hsum, crystal_tdiv hosc hpos]
    exact ⟨_, rfl, toNat_ofInt hnonneg hfits⟩
  · rename_i hppm
    refine ⟨_, rfl, ?_⟩
    rw [not_not.mp hppm, hosc]
    decide

/-- A rate for which the arithmetic is that of the integers: the correction leaves a crystal that is
not negative and less than 1024 times the rate, of which enough is left over by 64 times the rate. -/
def Resamplable (ppm : Int32) (rate : Nat) : Prop :=
  let xtal := (crystalHz ppm).toNat
  0 ≤ 1000000 + ppm.toInt ∧ xtal < 1024 * rate ∧
    rate * (xtal / 4096 + 1) ≤ xtal % (64 * rate) * 2 ^ 20

theorem rateFaultless_iff {rateHz : UInt32} (haccept : rateAccepted rateHz = true) :
    RateFaultless b rateHz ↔ Resamplable b.freqOffsetPpm rateHz.toNat := by
  obtain ⟨hlo, hhi⟩ : 225000 ≤ rateHz.toNat ∧ rateHz.toNat ≤ 3200000 := by
    simpa [rateAccepted, UInt32.le_iff_toNat_le] using haccept
  have hrate : rateHz ≠ 0 := by
    rintro rfl
    simp at hlo
  have hratio (xtal : UInt32) : effectiveRatio (resamplerRatio xtal rateHz) ≠ 0 ↔
      (effectiveRatio (resamplerRatio xtal rateHz)).toNat ≠ 0 :=
    not_congr (UInt32.toNat_inj (b := 0)).symm
  constructor
  · intro h
    have hlow : 0 ≤ 1000000 + b.freqOffsetPpm.toInt := by
      by_cases hppm : b.freqOffsetPpm = 0
      · rw [hppm]
        decide
      · exact (crystal_tdiv_nonneg hosc).mp (h.crystal hppm).1
    have hfits : crystalHz b.freqOffsetPpm < 2 ^ 32 := by
      by_cases hppm : b.freqOffsetPpm = 0
      · rw [hppm]
        decide
      · rw [← crystal_tdiv hosc hlow]
        exact (h.crystal hppm).2
    obtain ⟨xtal, hxtal, hnat⟩ := toNat_correctedXtal hosc hlow hfits
    obtain ⟨hquot, hachieved⟩ := h.quotients xtal hxtal
    have heff := (hratio xtal).mp (h.divisors.2 xtal hxtal)
    rw [toNat_effectiveRatio_resampler] at heff hachieved
    rw [Nat.div_lt_iff_lt_mul (by omega)] at hquot
    rw [Resamplable, ← hnat, Int.toNat_natCast]
    exact ⟨by omega, by omega,
      (achieved_fits_iff xtal.toNat_lt (by omega)).mp ⟨heff, hachieved⟩⟩
  · rintro ⟨hlow, hquot, hleft⟩
    have hfits : crystalHz b.freqOffsetPpm < 2 ^ 32 := by omega
    have hnonneg : 0 ≤ crystalHz b.freqOffsetPpm := by
      unfold crystalHz
      omega
    obtain ⟨xtal, hxtal, hnat⟩ := toNat_correctedXtal hosc hlow hfits
    rw [← hnat, Int.toNat_natCast] at hquot hleft
    obtain ⟨heff, hachieved⟩ := (achieved_fits_iff xtal.toNat_lt (by omega)).mpr hleft
    rw [← toNat_effectiveRatio_resampler] at heff hachieved
    refine ⟨fun _ => ?_, fun _ => ?_, ⟨hrate, fun other hother => ?_⟩, fun other hother => ?_⟩
    · unfold crystalHz at hfits
      omega
    · rw [crystal_tdiv hosc hlow]
      exact ⟨hnonneg, hfits⟩
    · obtain rfl := Option.some_inj.mp (hxtal.symm.trans hother)
      exact (hratio xtal).mpr heff
    · obtain rfl := Option.some_inj.mp (hxtal.symm.trans hother)
      refine ⟨?_, hachieved⟩
      rw [Nat.div_lt_iff_lt_mul (by omega)]
      omega

end Crystal

end Sdrgg.Rtl
