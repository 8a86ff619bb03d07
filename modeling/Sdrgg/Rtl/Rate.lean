import Sdrgg.Rtl.Baseband
import Mathlib.Data.Nat.Bitwise

/-! Sample rates and IFs in exact arithmetic: the rate that the resampler gives for a request, and the
IF that an R820T gets with it. -/

namespace Sdrgg.Rtl

open Usb

/-! ### The ratio registers -/

theorem and_ratioMask (n : Nat) : n &&& 0x0FFFFFFC = n % 2 ^ 28 / 4 * 4 := by
  have hmask : 0x0FFFFFFC = (2 ^ 26 - 1) <<< 2 := by decide
  have hdiv : n % 2 ^ 28 / 4 * 4 = (n % 2 ^ 28) >>> 2 <<< 2 := by
    rw [Nat.shiftLeft_eq, Nat.shiftRight_eq_div_pow]
  rw [hmask, hdiv]
  apply Nat.eq_of_testBit_eq
  intro i
  simp only [Nat.testBit_and, Nat.testBit_shiftLeft, Nat.testBit_shiftRight,
    Nat.testBit_two_pow_sub_one, Nat.testBit_mod_two_pow]
  by_cases hi : i ≥ 2
  · simp only [hi, decide_true, Bool.true_and, show 2 + (i - 2) = i by omega]
    by_cases hlt : i < 28
    · simp [hlt, show i - 2 < 26 by omega]
    · simp [hlt, show ¬i - 2 < 26 by omega]
  · simp [hi]

/-- A rate's ratio in units of a quarter of the crystal period, as the registers hold it. -/
def exactRatio (xtal rate : Nat) : Nat := xtal * 2 ^ 22 / rate % 2 ^ 28 / 4 * 4

theorem toNat_mul_ratioUnit (xtal : UInt32) :
    (xtal.toUInt64 * 0x400000).toNat = xtal.toNat * 2 ^ 22 := by
  have hx := xtal.toNat_lt
  rw [UInt64.toNat_mul, UInt32.toNat_toUInt64, show (0x400000 : UInt64).toNat = 2 ^ 22 from rfl]
  omega

theorem toNat_resamplerRatio (xtal rateHz : UInt32) :
    (resamplerRatio xtal rateHz).toNat = exactRatio xtal.toNat rateHz.toNat := by
  rw [resamplerRatio, UInt32.toNat_and, UInt64.toNat_toUInt32, UInt64.toNat_div,
    toNat_mul_ratioUnit,
    UInt32.toNat_toUInt64, show (0x0FFFFFFC : UInt32).toNat = 0x0FFFFFFC from rfl, and_ratioMask,
    exactRatio]
  generalize xtal.toNat * 2 ^ 22 / rateHz.toNat = n
  omega

theorem exactRatio_lt (xtal rate : Nat) : exactRatio xtal rate < 2 ^ 28 := by
  unfold exactRatio
  generalize xtal * 2 ^ 22 / rate = n
  omega

/-- The bit above the ratio repeats its highest bit. -/
theorem toNat_effectiveRatio {ratio : UInt32} (h : ratio.toNat < 2 ^ 28) :
    (effectiveRatio ratio).toNat =
      if ratio.toNat < 2 ^ 27 then ratio.toNat else ratio.toNat + 2 ^ 28 := by
  have hbit : (ratio &&& 0x08000000).toNat = ratio.toNat / 2 ^ 27 % 2 * 2 ^ 27 := by
    rw [UInt32.toNat_and, show (0x08000000 : UInt32).toNat = 2 ^ 27 from rfl, Nat.and_two_pow,
      Nat.testBit_eq_decide_div_mod_eq]
    obtain hbit | hbit := Nat.mod_two_eq_zero_or_one (ratio.toNat / 2 ^ 27) <;> rw [hbit] <;> rfl
  have hshift : ((ratio &&& 0x08000000) <<< 1).toNat = 2 ^ 28 * (ratio.toNat / 2 ^ 27 % 2) := by
    rw [UInt32.toNat_shiftLeft, hbit, show (1 : UInt32).toNat % 32 = 1 from rfl, Nat.shiftLeft_eq]
    omega
  rw [effectiveRatio, UInt32.toNat_or, hshift, Nat.or_comm, ← Nat.two_pow_add_eq_or_of_lt h]
  split <;> omega

/-- The rate that a request gives: the crystal by its 28-bit ratio, whose highest bit counts twice. -/
def exactRate (xtal rate : Nat) : Nat :=
  xtal * 2 ^ 22 /
    (if exactRatio xtal rate < 2 ^ 27 then exactRatio xtal rate
      else exactRatio xtal rate + 2 ^ 28) % 2 ^ 32

theorem toNat_achievedRate (xtal ratio : UInt32) :
    (achievedRate xtal ratio).toNat =
      xtal.toNat * 2 ^ 22 / (effectiveRatio ratio).toNat % 2 ^ 32 := by
  rw [achievedRate, UInt64.toNat_toUInt32, UInt64.toNat_div, toNat_mul_ratioUnit,
    UInt32.toNat_toUInt64]

theorem toNat_effectiveRatio_resampler (xtal rateHz : UInt32) :
    (effectiveRatio (resamplerRatio xtal rateHz)).toNat =
      if exactRatio xtal.toNat rateHz.toNat < 2 ^ 27 then exactRatio xtal.toNat rateHz.toNat
      else exactRatio xtal.toNat rateHz.toNat + 2 ^ 28 := by
  have h := exactRatio_lt xtal.toNat rateHz.toNat
  rw [← toNat_resamplerRatio] at h ⊢
  exact toNat_effectiveRatio h

theorem resampleFrom_eq {xtal rateHz : UInt32} {q : Resampling}
    (h : resampleFrom rateHz xtal = some q) :
    q.achievedHz = achievedRate xtal (resamplerRatio xtal rateHz) := by
  unfold resampleFrom at h
  generalize resamplerRatio xtal rateHz = ratio at h ⊢
  dsimp only at h
  split at h
  · cases h
  · rw [← Option.some.inj h]

theorem achievedRate_exact (xtal rateHz : UInt32) :
    (achievedRate xtal (resamplerRatio xtal rateHz)).toNat =
      exactRate xtal.toNat rateHz.toNat := by
  rw [toNat_achievedRate, toNat_effectiveRatio_resampler, exactRate]

/-- The resampler achieves the exact rate. -/
theorem resampling_achieved {b : BasebandState} {xtal rateHz : UInt32} {q : Resampling}
    (hxtal : correctedXtal b = some xtal) (h : resampling b rateHz = some q) :
    q.achievedHz.toNat = exactRate xtal.toNat rateHz.toNat := by
  rw [resampling, hxtal, Option.bind_some] at h
  rw [resampleFrom_eq h, achievedRate_exact]

/-- The setting is defined unless the ratio is zero. -/
theorem resampling_isSome {b : BasebandState} {xtal rateHz : UInt32}
    (hxtal : correctedXtal b = some xtal) :
    (resampling b rateHz).isSome ↔ exactRatio xtal.toNat rateHz.toNat ≠ 0 := by
  have hzero : effectiveRatio (resamplerRatio xtal rateHz) = 0 ↔
      exactRatio xtal.toNat rateHz.toNat = 0 := by
    rw [← UInt32.toNat_inj, toNat_effectiveRatio_resampler, show (0 : UInt32).toNat = 0 from rfl]
    split <;> omega
  rw [resampling, hxtal, Option.bind_some, resampleFrom, Ne, ← hzero]
  split
  · rename_i h
    simp [h]
  · rename_i h
    simp [h]

/-! ### The crystal of 28.8 MHz -/

/-- The crystal's frequency by the unit of a ratio. -/
def xtalUnits : Nat := 28800000 * 2 ^ 22

/-- The quotient by a quotient that has lost less than four units. -/
theorem div_floor_four {rate m : Nat} (hm : m = xtalUnits / rate / 4 * 4) (hrate : 0 < rate)
    (hbig : 4 * rate < m) : xtalUnits / m = rate := by
  have hle : xtalUnits / rate * rate ≤ xtalUnits := Nat.div_mul_le_self _ _
  have hlt : xtalUnits < xtalUnits / rate * rate + rate := Nat.lt_div_mul_add hrate
  generalize xtalUnits / rate = n at *
  have hm1 : m * rate ≤ n * rate := Nat.mul_le_mul_right rate (by omega)
  have hm2 : n * rate ≤ (m + 3) * rate := Nat.mul_le_mul_right rate (by omega)
  rw [Nat.add_mul m] at hm2
  refine Nat.div_eq_of_lt_le (by rw [Nat.mul_comm]; omega) ?_
  rw [Nat.succ_mul, Nat.mul_comm]
  omega

/-- Rates from 900,001 Hz on are achieved as they are requested. -/
theorem exactRate_eq {rate : Nat} (hlo : 900000 < rate) (hhi : rate ≤ 3200000) :
    exactRate 28800000 rate = rate := by
  have h1 : xtalUnits / rate ≤ xtalUnits / 900001 := Nat.div_le_div_left hlo (by omega)
  have h2 : xtalUnits / 3200000 ≤ xtalUnits / rate := Nat.div_le_div_left hhi (by omega)
  have h3 : xtalUnits / 900001 < 2 ^ 27 := by decide
  have h4 : 3200000 * 4 + 4 < xtalUnits / 3200000 := by decide
  have hratio : exactRatio 28800000 rate = xtalUnits / rate / 4 * 4 := by
    rw [exactRatio, Nat.mod_eq_of_lt]
    · rfl
    · exact lt_of_le_of_lt h1 (by omega)
  have hdiv : xtalUnits / (xtalUnits / rate / 4 * 4) = rate :=
    div_floor_four rfl (by omega) (by omega)
  rw [exactRate, hratio, if_pos (by omega)]
  exact (congrArg (· % 2 ^ 32) hdiv).trans (Nat.mod_eq_of_lt (by omega))

theorem lowRatio_bounds {a b rate : Nat} (ha : 300000 < a) (hb : b < 450000) (hlo : a ≤ rate)
    (hhi : rate ≤ b) :
    exactRate 28800000 rate =
        xtalUnits / ((xtalUnits / rate - 2 ^ 28) / 4 * 4) % 2 ^ 32 ∧
      xtalUnits / b ≤ xtalUnits / rate ∧ xtalUnits / rate ≤ xtalUnits / a := by
  have h1 : xtalUnits / rate ≤ xtalUnits / a := Nat.div_le_div_left hlo (by omega)
  have h2 : xtalUnits / b ≤ xtalUnits / rate := Nat.div_le_div_left hhi (by omega)
  have h3 : xtalUnits / rate ≤ xtalUnits / 300001 := Nat.div_le_div_left (by omega) (by omega)
  have h4 : xtalUnits / 449999 ≤ xtalUnits / rate := Nat.div_le_div_left (by omega) (by omega)
  have h5 : xtalUnits / 300001 < 3 * 2 ^ 27 := by decide
  have h6 : 2 ^ 28 ≤ xtalUnits / 449999 := by decide
  refine ⟨?_, h2, h1⟩
  have hratio : exactRatio 28800000 rate = (xtalUnits / rate - 2 ^ 28) / 4 * 4 := by
    have hmod : xtalUnits / rate % 2 ^ 28 = xtalUnits / rate - 2 ^ 28 := by omega
    rw [← hmod]
    rfl
  rw [exactRate, hratio, if_pos (by omega)]
  rfl

/-- Rates between 300,001 Hz and 449,999 Hz lose the highest bit of their ratio. -/
theorem exactRate_low {a b rate : Nat} (ha : 300000 < a) (hb : b < 450000) (hlo : a ≤ rate)
    (hhi : rate ≤ b) (hsmall : 28126 ≤ (xtalUnits / b - 2 ^ 28) / 4 * 4) :
    xtalUnits / ((xtalUnits / a - 2 ^ 28) / 4 * 4) ≤ exactRate 28800000 rate ∧
      exactRate 28800000 rate ≤ xtalUnits / ((xtalUnits / b - 2 ^ 28) / 4 * 4) := by
  obtain ⟨hrate, h1, h2⟩ := lowRatio_bounds ha hb hlo hhi
  have hmax : xtalUnits / 28126 < 2 ^ 32 := by decide
  have hub : xtalUnits / ((xtalUnits / rate - 2 ^ 28) / 4 * 4) ≤
      xtalUnits / ((xtalUnits / b - 2 ^ 28) / 4 * 4) :=
    Nat.div_le_div_left (by omega) (by omega)
  have hcap : xtalUnits / ((xtalUnits / b - 2 ^ 28) / 4 * 4) ≤ xtalUnits / 28126 :=
    Nat.div_le_div_left hsmall (by omega)
  have hlb : xtalUnits / ((xtalUnits / a - 2 ^ 28) / 4 * 4) ≤
      xtalUnits / ((xtalUnits / rate - 2 ^ 28) / 4 * 4) :=
    Nat.div_le_div_left (by omega) (by omega)
  rw [hrate, Nat.mod_eq_of_lt (by omega)]
  exact ⟨hlb, hub⟩

/-- Rates up to 300,000 Hz are achieved as they are requested, but for the lowest. -/
theorem exactRate_first {rate : Nat} (hlo : 225000 < rate) (hhi : rate ≤ 300000) :
    exactRate 28800000 rate = rate := by
  have h1 : xtalUnits / rate ≤ xtalUnits / 225001 := Nat.div_le_div_left hlo (by omega)
  have h2 : xtalUnits / 300000 ≤ xtalUnits / rate := Nat.div_le_div_left hhi (by omega)
  have h3 : xtalUnits / 225001 < 2 ^ 29 := by decide
  have h4 : xtalUnits / 300000 = 3 * 2 ^ 27 := by decide
  have hratio : exactRatio 28800000 rate = xtalUnits / rate % 2 ^ 28 / 4 * 4 := rfl
  have hdiv : xtalUnits / (xtalUnits / rate / 4 * 4) = rate :=
    div_floor_four rfl (by omega) (by omega)
  have heff : xtalUnits / rate % 2 ^ 28 / 4 * 4 + 2 ^ 28 = xtalUnits / rate / 4 * 4 := by omega
  rw [exactRate, hratio, if_neg (by omega), heff]
  exact (congrArg (· % 2 ^ 32) hdiv).trans (Nat.mod_eq_of_lt (by omega))

theorem exactRate_lt_first {rate : Nat} (hlo : 225000 ≤ rate) (hhi : rate ≤ 300000) :
    exactRate 28800000 rate < 2000000 := by
  obtain rfl | hlo := Nat.eq_or_lt_of_le hlo
  · decide
  · rw [exactRate_first hlo hhi]
    omega

theorem exactRate_lt_second {rate : Nat} (hlo : 300000 < rate) (hhi : rate ≤ 367346) :
    exactRate 28800000 rate < 2000000 := by
  have h := (exactRate_low (a := 300001) (b := 367346) (by omega) (by omega) hlo hhi (by decide)).2
  exact lt_of_le_of_lt h (by decide)

theorem exactRate_lt_third {rate : Nat} (hlo : 450000 ≤ rate) (hhi : rate ≤ 900000) :
    exactRate 28800000 rate < 2000000 := by
  have h1 : xtalUnits / rate ≤ xtalUnits / 450000 := Nat.div_le_div_left hlo (by omega)
  have h2 : xtalUnits / 900000 ≤ xtalUnits / rate := Nat.div_le_div_left hhi (by omega)
  have h3 : xtalUnits / 450000 = 2 ^ 28 := by decide
  have h4 : xtalUnits / 900000 = 2 ^ 27 := by decide
  have hratio : exactRatio 28800000 rate = xtalUnits / rate % 2 ^ 28 / 4 * 4 := rfl
  obtain htop | htop : xtalUnits / rate = 2 ^ 28 ∨ xtalUnits / rate < 2 ^ 28 := by omega
  · rw [exactRate, hratio, htop]
    decide
  · have hdiv : xtalUnits / (xtalUnits / rate % 2 ^ 28 / 4 * 4 + 2 ^ 28) ≤ xtalUnits / 2 ^ 28 :=
      Nat.div_le_div_left (by omega) (by omega)
    have hcap : xtalUnits / 2 ^ 28 < 2000000 := by decide
    rw [exactRate, hratio, if_neg (by omega)]
    exact lt_of_le_of_lt (Nat.mod_le _ _) (lt_of_le_of_lt hdiv hcap)

/-! ### The IF of a rate -/

/-- The IF in kHz that an R820T gets with a bandwidth from 2,000 kHz on. -/
def bandIfKhz (bwKhz : Nat) : Nat :=
  if bwKhz ≤ 2050 then 1625
  else if bwKhz ≤ 2080 then 1640
  else if bwKhz ≤ 2180 then 1940
  else if bwKhz ≤ 2280 then 1890
  else if bwKhz ≤ 2330 then 1865
  else if bwKhz ≤ 2430 then 1815
  else if bwKhz ≤ 6000 then 3570
  else 4570

theorem narrow_table : ∀ k < 431,
    (R820t.bandwidthSetting (UInt32.ofNat (2000 + k))).ifFreqKhz.toNat = bandIfKhz (2000 + k) := by
  decide +kernel

theorem toNat_ifFreqKhz {bwKhz : UInt32} (h : 2000 ≤ bwKhz.toNat) :
    (R820t.bandwidthSetting bwKhz).ifFreqKhz.toNat = bandIfKhz bwKhz.toNat := by
  by_cases hnarrow : bwKhz.toNat < 2431
  · have htable := narrow_table (bwKhz.toNat - 2000) (by omega)
    rwa [show 2000 + (bwKhz.toNat - 2000) = bwKhz.toNat by omega, UInt32.ofNat_toNat] at htable
  · have h7000 : bwKhz > 7000 ↔ 7000 < bwKhz.toNat := UInt32.lt_iff_toNat_lt
    have h6000 : bwKhz > 6000 ↔ 6000 < bwKhz.toNat := UInt32.lt_iff_toNat_lt
    have h2430 : bwKhz > 1700 + 350 + 380 ↔ 2430 < bwKhz.toNat := UInt32.lt_iff_toNat_lt
    have hwide : bandIfKhz bwKhz.toNat = if bwKhz.toNat ≤ 6000 then 3570 else 4570 := by
      grind [bandIfKhz]
    rw [hwide, R820t.bandwidthSetting]
    simp only [h7000, h6000, h2430]
    split_ifs <;> first | omega | rfl

/-- Requests below 450 kHz whose rates have one IF: their bounds in Hz, those of the bandwidths that
they give in kHz, and the IF in kHz. -/
structure FoldedBand where
  first : Nat
  last : Nat
  bwLow : Nat
  bwHigh : Nat
  ifKhz : Nat
deriving DecidableEq

/-- The requests from 367,347 Hz to 449,999 Hz, whose ratio loses its highest bit: they give 2 MSPS
and more. -/
def foldedBands : List FoldedBand :=
  [ ⟨367347, 369032, 2000, 2050, 1625⟩, ⟨369033, 369992, 2051, 2080, 1640⟩,
    ⟨369993, 373033, 2081, 2180, 1940⟩, ⟨373034, 375851, 2181, 2280, 1890⟩,
    ⟨375852, 377184, 2281, 2330, 1865⟩, ⟨377185, 379711, 2331, 2430, 1815⟩,
    ⟨379712, 418609, 2431, 6000, 3570⟩, ⟨418610, 449999, 6001, 2 ^ 32, 4570⟩ ]

def FoldedBand.holds (band : FoldedBand) (rate : Nat) : Bool :=
  band.first ≤ rate && rate ≤ band.last

/-- The IF in kHz that a successful `set_sample_rate` selects on an R820T with its crystal of
28.8 MHz, by the rate that is requested. -/
def ifForRate (rate : Nat) : Option Nat :=
  match foldedBands.find? (·.holds rate) with
  | some band => some band.ifKhz
  | none => if rate < 2000000 then none else some (bandIfKhz (rate / 1000))

theorem find_foldedBands_none {rate : Nat} (h : foldedBands.find? (·.holds rate) = none) :
    rate < 367347 ∨ 450000 ≤ rate := by
  rw [List.find?_eq_none] at h
  simp only [foldedBands, FoldedBand.holds, List.forall_mem_cons, Bool.and_eq_true,
    decide_eq_true_eq] at h
  omega

theorem exactRate_none {rate : Nat} (hlo : 225000 ≤ rate) (hhi : rate ≤ 3200000)
    (h : ifForRate rate = none) : exactRate 28800000 rate < 2000000 := by
  have hrate : rate < 367347 ∨ 450000 ≤ rate ∧ rate < 2000000 := by
    unfold ifForRate at h
    split at h
    · cases h
    · rename_i hnone
      have := find_foldedBands_none hnone
      split at h
      · omega
      · cases h
  rcases hrate with hrate | ⟨h1, h2⟩
  · rcases Nat.lt_or_ge 300000 rate with h1 | h1
    · exact exactRate_lt_second h1 (by omega)
    · exact exactRate_lt_first hlo h1
  · rcases Nat.lt_or_ge 900000 rate with h3 | h3
    · rw [exactRate_eq h3 hhi]
      exact h2
    · exact exactRate_lt_third h1 h3

theorem foldedBands_bounds : ∀ band ∈ foldedBands,
    300000 < band.first ∧ 2000 ≤ band.bwLow ∧ band.last < 450000 ∧
      28126 ≤ (xtalUnits / min band.last 449949 - 2 ^ 28) / 4 * 4 ∧
      band.bwLow * 1000 ≤ xtalUnits / ((xtalUnits / band.first - 2 ^ 28) / 4 * 4) ∧
      xtalUnits / ((xtalUnits / min band.last 449949 - 2 ^ 28) / 4 * 4) <
        (band.bwHigh + 1) * 1000 := by
  decide

theorem bandIfKhz_folded {band : FoldedBand} (h : band ∈ foldedBands) {n : Nat}
    (hlo : band.bwLow ≤ n) (hhi : n ≤ band.bwHigh) : bandIfKhz n = band.ifKhz := by
  simp only [foldedBands, List.mem_cons, List.not_mem_nil, or_false] at h
  unfold bandIfKhz
  rcases h with rfl | rfl | rfl | rfl | rfl | rfl | rfl | rfl <;> grind

/-- The last requests before 450 kHz, whose rate no longer fits its 32 bits. -/
theorem exactRate_wrapped : ∀ k < 50,
    2000000 ≤ exactRate 28800000 (449950 + k) ∧
      bandIfKhz (exactRate 28800000 (449950 + k) / 1000) = 4570 := by
  decide +kernel

theorem exactRate_folded {band : FoldedBand} (h : band ∈ foldedBands) {rate : Nat}
    (hlo : band.first ≤ rate) (hhi : rate ≤ band.last) :
    2000000 ≤ exactRate 28800000 rate ∧
      bandIfKhz (exactRate 28800000 rate / 1000) = band.ifKhz := by
  obtain ⟨hfirst, hbw, hlast, hsmall, hlow, hhigh⟩ := foldedBands_bounds band h
  rcases Nat.lt_or_ge rate 449950 with hrate | hrate
  · obtain ⟨hge, hle⟩ := exactRate_low hfirst (b := min band.last 449949) (by omega) hlo (by omega)
      hsmall
    have hge := hlow.trans hge
    have hlt := lt_of_le_of_lt hle hhigh
    exact ⟨by omega, bandIfKhz_folded h (by omega) (by omega)⟩
  · have hwrap := exactRate_wrapped (rate - 449950) (by omega)
    rw [show 449950 + (rate - 449950) = rate by omega] at hwrap
    have htop : band.ifKhz = 4570 := by
      have hwide : ∀ band ∈ foldedBands, band.last < 449950 ∨ band.ifKhz = 4570 := by decide
      exact (hwide band h).resolve_left (by omega)
    rwa [htop]

theorem exactRate_some {rate khz : Nat} (hhi : rate ≤ 3200000) (h : ifForRate rate = some khz) :
    2000000 ≤ exactRate 28800000 rate ∧ bandIfKhz (exactRate 28800000 rate / 1000) = khz := by
  unfold ifForRate at h
  split at h
  · rename_i band hband
    have hholds := List.find?_some hband
    simp only [FoldedBand.holds, Bool.and_eq_true, decide_eq_true_eq] at hholds
    rw [← Option.some.inj h]
    exact exactRate_folded (List.mem_of_find?_eq_some hband) hholds.1 hholds.2
  · rename_i hnone
    have hrange := find_foldedBands_none hnone
    split at h
    · cases h
    · rw [exactRate_eq (by omega) hhi]
      exact ⟨by omega, Option.some.inj h⟩

/-! ### The IF of a setting -/

/-- The IF in kHz that a successful `set_sample_rate` selects on an R820T, by its corrected crystal
and the rate that is requested. -/
def selectedIf (xtal rate : Nat) : Option Nat :=
  if 2000000 ≤ exactRate xtal rate then some (bandIfKhz (exactRate xtal rate / 1000)) else none

/-- Without a correction of the crystal, the IF is that of the table. -/
theorem selectedIf_uncorrected {rate : Nat} (hlo : 225000 ≤ rate) (hhi : rate ≤ 3200000) :
    selectedIf 28800000 rate = ifForRate rate := by
  unfold selectedIf
  rcases h : ifForRate rate with _ | khz
  · rw [if_neg (Nat.not_le.mpr (exactRate_none hlo hhi h))]
  · obtain ⟨h1, h2⟩ := exactRate_some hhi h
    rw [if_pos h1, h2]

theorem bandIfKhz_le (bwKhz : Nat) : bandIfKhz bwKhz ≤ 4570 := by
  unfold bandIfKhz
  grind

/-- The IF of a setting, in exact arithmetic. -/
theorem toNat_ifHz {q : Resampling} {rate : Nat} (hq : q.achievedHz.toNat = rate)
    (h : 2000000 ≤ rate) : q.ifHz.toNat = bandIfKhz (rate / 1000) * 1000 := by
  have hbw : (q.achievedHz / 1000).toNat = rate / 1000 := by
    rw [UInt32.toNat_div, hq]
    rfl
  have hle := bandIfKhz_le (rate / 1000)
  rw [Resampling.ifHz, UInt32.toNat_mul, toNat_ifFreqKhz (by omega), hbw,
    show (1000 : UInt32).toNat = 1000 from rfl]
  omega

theorem needsBandwidth_iff {identity : DeviceIdentity} {achievedHz : UInt32} :
    needsBandwidth identity achievedHz = true ↔
      identity.tunerClass.isR820t = true ∧ 2000000 ≤ achievedHz.toNat := by
  rw [needsBandwidth, Bool.and_eq_true, decide_eq_true_eq, ge_iff_le, UInt32.le_iff_toNat_le]
  rfl

/-- The IF that a setting leaves on an R820T: the one that its rate selects, or that of before. -/
theorem rated_ifOffset {c : Config} {xtal rateHz : UInt32} {q : Resampling}
    (hclass : c.identity.tunerClass.isR820t = true) (hxtal : correctedXtal c.baseband = some xtal)
    (hq : resampling c.baseband rateHz = some q) :
    (selectedIf xtal.toNat rateHz.toNat = none ∧
        (rated c q).tuning.ifOffsetHz = c.tuning.ifOffsetHz) ∨
      ∃ khz, selectedIf xtal.toNat rateHz.toNat = some khz ∧
        (rated c q).tuning.ifOffsetHz.toNat = khz * 1000 := by
  have hrate := resampling_achieved hxtal hq
  have hband : needsBandwidth c.identity q.achievedHz = true ↔
      2000000 ≤ exactRate xtal.toNat rateHz.toNat := by
    rw [needsBandwidth_iff, hrate]
    simp [hclass]
  rw [rated, selectedIf]
  by_cases h : 2000000 ≤ exactRate xtal.toNat rateHz.toNat
  · rw [if_pos (hband.mpr h), if_pos h]
    exact .inr ⟨_, rfl, toNat_ifHz hrate h⟩
  · rw [if_neg (mt hband.mp h), if_neg h]
    exact .inl ⟨rfl, rfl⟩

end Sdrgg.Rtl
