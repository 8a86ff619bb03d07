import Sdrgg.Fc0012.Ratio
import Sdrgg.ProofKit.Grid
import Mathlib.Algebra.Group.Int.Defs
import Mathlib.Algebra.Order.Field.Rat
import Mathlib.Tactic.FieldSimp
import Mathlib.Tactic.LinearCombination
import Mathlib.Tactic.Positivity
import Mathlib.Tactic.SplitIfs

/-! Where the PLL of the FC0012 lands for a frequency: the multiplier, the ratio and its fraction, to
half the crystal of 28.8 MHz. -/

namespace Sdrgg.Fc0012

open ProofKit

/-! ### The multiplier -/

def multipliers : List Nat := [96, 64, 48, 32, 24, 16, 12, 8, 6, 4]

/-- The first multiplier that leaves the VCO below 3.06 GHz, or else the last. -/
def multiplierFor (freqHz : Nat) : Nat :=
  multipliers.getD (multipliers.findIdx fun m => freqHz * m < 3060000000) 4

/-- The multiplier that the divider and VCO registers stand for: the VCO runs at six or four times
the divided frequency. -/
def decodedMultiplier (reg05 reg06 : UInt8) : Nat :=
  (reg05 >>> 3).toNat * if reg06 &&& 0x02 = 0 then 6 else 4

theorem selectMultiplier_eq (freqHz : UInt32) (index : UInt8) (set : List UInt8) :
    let k := set.findIdx fun m => freqHz.toNat * m.toNat < 3060000000
    (∃ m, set[k]? = some m ∧ ∃ sel, selectMultiplier freqHz index set = some sel ∧
        sel.multiplierIndex = index + UInt8.ofNat k ∧
        sel.vcoHz.toNat = freqHz.toNat * m.toNat) ∨
      set[k]? = none ∧ selectMultiplier freqHz index set = none := by
  induction set generalizing index with
  | nil => exact .inr ⟨rfl, rfl⟩
  | cons m rest ih =>
    rw [List.findIdx_cons, selectMultiplier]
    by_cases hceil : freqHz.toNat * m.toNat < 3060000000
    · left
      simp only [hceil, decide_true, cond_true]
      rw [if_pos (vco_lt_ceil.mpr hceil)]
      exact ⟨m, rfl, _, rfl, (UInt8.add_zero _).symm, toNat_vco _ _⟩
    · simp only [hceil, decide_false, cond_false]
      rw [if_neg (mt vco_lt_ceil.mp hceil)]
      obtain ⟨m', hm', sel, hsel, hindex, hvco⟩ | ⟨hnone, hsel⟩ := ih (index + 1)
      · refine .inl ⟨m', by simpa using hm', sel, hsel, ?_, hvco⟩
        rw [hindex, UInt8.ofNat_add, UInt8.add_assoc, UInt8.add_comm 1]
        rfl
      · exact .inr ⟨by simpa using hnone, hsel⟩

/-- The VCO frequency and the registers of the multiplier. -/
theorem deriveMultiplier_eq (freqHz : UInt32) :
    (deriveMultiplier freqHz).vcoHz.toNat = freqHz.toNat * multiplierFor freqHz.toNat ∧
      decodedMultiplier (deriveDividerEncoding (deriveMultiplier freqHz).multiplierIndex ||| 0x07)
        (deriveBandwidthBase (deriveMultiplier freqHz).multiplierIndex) =
          multiplierFor freqHz.toNat := by
  have hset : multipliers = multiplierSet.map UInt8.toNat := by decide
  have hfind : multipliers.findIdx (fun m => freqHz.toNat * m < 3060000000) =
      multiplierSet.findIdx fun m => freqHz.toNat * m.toNat < 3060000000 := by
    rw [hset, List.findIdx_map]
    rfl
  rw [multiplierFor, hfind]
  have hselect := selectMultiplier_eq freqHz 0 multiplierSet
  generalize multiplierSet.findIdx _ = k at hselect ⊢
  have hlen : multiplierSet.length = 10 := rfl
  unfold deriveMultiplier
  obtain ⟨m, hm, sel, hsel, hindex, hvco⟩ | ⟨hnone, hsel⟩ := hselect
  · have htable : ∀ k < 10, multiplierSet[k]?.map UInt8.toNat = some (multipliers.getD k 4) ∧
        decodedMultiplier (deriveDividerEncoding (0 + UInt8.ofNat k) ||| 0x07)
          (deriveBandwidthBase (0 + UInt8.ofNat k)) = multipliers.getD k 4 := by
      decide +kernel
    obtain ⟨hmul, hdecoded⟩ := htable k (hlen ▸ (List.getElem?_eq_some_iff.mp hm).choose)
    rw [hm] at hmul
    rw [hsel, Option.getD_some, hvco, hindex, hdecoded, ← Option.some_inj.mp hmul]
    exact ⟨rfl, rfl⟩
  · have hk : multiplierSet.length ≤ k := List.getElem?_eq_none_iff.mp hnone
    have hdecoded : decodedMultiplier (deriveDividerEncoding 9 ||| 0x07) (deriveBandwidthBase 9) = 4 := by
      decide
    rw [hsel, Option.getD_none, List.getD_eq_getElem?_getD, @List.getElem?_eq_none _ multipliers k hk]
    exact ⟨toNat_vco freqHz 4, hdecoded⟩

theorem multiplierFor_range (freqHz : Nat) :
    4 ≤ multiplierFor freqHz ∧ multiplierFor freqHz ≤ 96 := by
  have hall : ∀ m ∈ multipliers, 4 ≤ m ∧ m ≤ 96 := by decide
  unfold multiplierFor
  generalize multipliers.findIdx _ = k
  rw [List.getD_eq_getElem?_getD]
  rcases hk : multipliers[k]? with _ | m
  · decide
  · exact hall m (List.mem_of_getElem? hk)

theorem multiplierFor_low {freqHz : Nat} (h : freqHz < 22000000) : multiplierFor freqHz = 96 := by
  have hfirst : multipliers.findIdx (fun m => freqHz * m < 3060000000) = 0 := by
    rw [multipliers, List.findIdx_cons, decide_eq_true (by omega)]
    rfl
  rw [multiplierFor, hfirst]
  rfl

/-! ### The ratio -/

/-- The quotient that `decompose` takes from a ratio, and the remainder, as numbers. -/
theorem toNat_decompose {total : UInt16} (h : total.toNat < 1200) :
    (decompose total).1.toNat =
        (if total.toNat % 8 < 2 then (total.toNat / 8 + 255) % 256 else total.toNat / 8) ∧
      (decompose total).2.toNat =
        if total.toNat % 8 < 2 then total.toNat % 8 + 8 else total.toNat % 8 := by
  have hq : (total / 8).toUInt8.toNat = total.toNat / 8 := by
    rw [UInt16.toNat_toUInt8, UInt16.toNat_div]
    simp only [UInt16.reduceToNat]
    omega
  have ha : (total - 8 * (total / 8).toUInt8.toUInt16).toUInt8.toNat = total.toNat % 8 := by
    rw [UInt16.toNat_toUInt8, UInt16.toNat_sub, UInt16.toNat_mul, UInt8.toNat_toUInt16, hq]
    simp only [UInt16.reduceToNat]
    omega
  unfold decompose
  dsimp only
  generalize (total / 8).toUInt8 = q at *
  generalize (total - 8 * q.toUInt16).toUInt8 = a at *
  have hsmall : a < 2 ↔ total.toNat % 8 < 2 := by rw [UInt8.lt_iff_toNat_lt, ha]; rfl
  simp only [hsmall]
  split
  · rw [UInt8.toNat_sub, UInt8.toNat_add, hq, ha]
    simp only [UInt8.reduceToNat]
    omega
  · exact ⟨hq, ha⟩

theorem toNat_clamp (n a : UInt8) :
    (clamp n a).1.toNat = min n.toNat 31 ∧
      (clamp n a).2.toNat =
        if 31 < n.toNat then (a.toNat + 8 * (n.toNat - 31)) % 256 else a.toNat := by
  have hlarge : n > 0x1F ↔ 31 < n.toNat := UInt8.lt_iff_toNat_lt
  unfold clamp
  simp only [hlarge]
  split
  · rename_i h
    have hn := n.toNat_lt
    rw [UInt8.toNat_add, UInt8.toNat_mul, UInt8.toNat_sub]
    simp only [UInt8.reduceToNat]
    omega
  · dsimp only
    omega

/-- The fields of a ratio: its quotient by eight with the remainder, at least two, and what of the
quotient is above 31 in the remainder, whose byte wraps around. -/
theorem toNat_ratioFields {total : UInt16} (h : total.toNat < 1200) : ∃ q a,
    (total.toNat % 8 < 2 ∧ q = (total.toNat / 8 + 255) % 256 ∧ a = total.toNat % 8 + 8 ∨
      2 ≤ total.toNat % 8 ∧ q = total.toNat / 8 ∧ a = total.toNat % 8) ∧
    (q ≤ 31 ∧ (ratioFields total).1.toNat = q ∧ (ratioFields total).2.toNat = a ∨
      31 < q ∧ (ratioFields total).1.toNat = 31 ∧
        (ratioFields total).2.toNat = (a + 8 * (q - 31)) % 256) := by
  obtain ⟨hn, ha⟩ := toNat_decompose h
  obtain ⟨hq, hr⟩ := toNat_clamp (decompose total).1 (decompose total).2
  rw [← ratioFields] at hq hr
  refine ⟨(decompose total).1.toNat, (decompose total).2.toNat, ?_, ?_⟩
  · rw [hn, ha]
    split <;> omega
  · rw [hq, hr]
    split <;> omega

theorem ratioFeasible_iff {total : UInt16} : ratioFeasible total = true ↔
    (ratioFields total).2.toNat ≤ 15 ∧ 11 ≤ (ratioFields total).1.toNat := by
  simp [ratioFeasible, UInt8.le_iff_toNat_le]

/-- An accepted ratio is in its fields when they reach it.  Below and above their range the bytes
wrap around, and the fields are far from the ratio. -/
theorem ratioFields_table {total : UInt16} (h : total.toNat < 1200)
    (hfeasible : ratioFeasible total = true) :
    let held := 8 * (ratioFields total).1.toNat + (ratioFields total).2.toNat
    90 ≤ total.toNat ∧ total.toNat ≤ 263 ∧ held = total.toNat ∨
      total.toNat < 90 ∧ held = total.toNat + 256 ∨
        263 < total.toNat ∧ held + 241 ≤ total.toNat := by
  obtain ⟨q, a, hdecomposed, hclamped⟩ := toNat_ratioFields h
  rw [ratioFeasible_iff] at hfeasible
  dsimp only
  generalize (ratioFields total).1.toNat = quotient at *
  generalize (ratioFields total).2.toNat = remainder at *
  generalize total.toNat = n at *
  obtain hdecomposed | hdecomposed := hdecomposed <;> obtain hclamped | hclamped := hclamped <;> omega

/-- The fractional word as a number from -32768 to 32767. -/
def signedFrac (msb lsb : UInt8) : Int :=
  let word := 256 * msb.toNat + lsb.toNat
  if word < 32768 then word else word - 65536

/-- Below one half the word is the fraction, from there on it is the fraction less one. -/
theorem toNat_fracWord {vcoHz : UInt64} {frac : UInt16} (h : fracWord vcoHz 14400000 = some frac) :
    frac.toNat = vcoHz.toNat % 14400000 / 1000 * 512 / 225 +
      if vcoHz.toNat % 14400000 < 7200000 then 0 else 32768 := by
  have hhalf : ((14400000 : UInt32).toUInt64).toNat = 14400000 := rfl
  have hkhz : ((14400000 : UInt32) / 1000).toNat = 14400 := by decide
  have hmul : (vcoHz / (14400000 : UInt32).toUInt64 * (14400000 : UInt32).toUInt64).toNat =
      vcoHz.toNat / 14400000 * 14400000 := by
    have hlt := vcoHz.toNat_lt
    rw [UInt64.toNat_mul, UInt64.toNat_div, hhalf]
    omega
  have hrest : ((vcoHz - vcoHz / (14400000 : UInt32).toUInt64 * (14400000 : UInt32).toUInt64) /
      1000).toUInt16.toNat = vcoHz.toNat % 14400000 / 1000 := by
    rw [UInt64.toNat_toUInt16, UInt64.toNat_div, UInt64.toNat_sub_of_le, hmul]
    · simp only [UInt64.reduceToNat]
      omega
    · rw [UInt64.le_iff_toNat_le, hmul]
      omega
  rw [fracWord, if_neg (by decide)] at h
  dsimp only at h
  generalize UInt64.toUInt16 _ = rest at h hrest
  have hshift : 2 ^ ((15 : UInt32).toNat % 32) = 32768 := by decide
  have hfrac : ((rest.toUInt32 <<< 15) / (14400000 / 1000)).toUInt16.toNat =
      vcoHz.toNat % 14400000 / 1000 * 512 / 225 := by
    rw [UInt32.toNat_toUInt16, UInt32.toNat_div, UInt32.toNat_shiftLeft, UInt16.toNat_toUInt32,
      hrest, hkhz, Nat.shiftLeft_eq, hshift]
    have hlt : vcoHz.toNat % 14400000 / 1000 < 14400 := by omega
    generalize vcoHz.toNat % 14400000 / 1000 = khz at hlt
    have hdiv : khz * 32768 / 14400 = khz * 512 / 225 := by
      rw [show khz * 32768 = khz * 512 * 64 by omega]
      exact Nat.mul_div_mul_right _ 225 (by decide)
    rw [Nat.mod_eq_of_lt (a := khz * 32768) (by omega), hdiv]
    omega
  have hcarry : (0x4000 : UInt16).toNat = 16384 ∧ (0x8000 : UInt16).toNat = 32768 := by decide
  generalize UInt32.toUInt16 _ = raw at h hfrac
  have hhigh : raw ≥ 0x4000 ↔ 7200000 ≤ vcoHz.toNat % 14400000 := by
    rw [ge_iff_le, UInt16.le_iff_toNat_le, hcarry.1, hfrac]
    omega
  by_cases hge : raw ≥ 0x4000
  · rw [if_pos hge] at h
    obtain rfl := Option.some_inj.mp h
    rw [if_neg (Nat.not_lt.mpr (hhigh.mp hge)), UInt16.toNat_add, hcarry.2]
    omega
  · rw [if_neg hge] at h
    obtain rfl := Option.some_inj.mp h
    rw [if_pos (Nat.not_le.mp (mt hhigh.mpr hge)), hfrac]
    rfl

theorem signedFrac_fracWord {vcoHz : UInt64} {frac : UInt16}
    (h : fracWord vcoHz 14400000 = some frac) :
    signedFrac (frac >>> 8).toUInt8 (frac &&& 0xFF).toUInt8 =
      (vcoHz.toNat % 14400000 / 1000 * 512 / 225 : Nat) -
        if vcoHz.toNat % 14400000 < 7200000 then (0 : Int) else 32768 := by
  have hfrac := toNat_fracWord h
  rw [signedFrac, word_bytes, hfrac]
  split_ifs <;> omega

/-! ### The LO of the registers -/

/-- The ratio in the registers, in units of 1/32768. -/
def scaledRatio (regs : UInt8 → UInt8) : Int :=
  32768 * (8 * (regs 0x02).toNat + (regs 0x01).toNat : Nat) + signedFrac (regs 0x03) (regs 0x04)

/-- The LO that the PLL makes of a crystal. -/
def loHz (xtalHz : Nat) (regs : UInt8 → UInt8) : ℚ :=
  xtalHz / 2 * (scaledRatio regs / 32768) / decodedMultiplier (regs 0x05) (regs 0x06)

/-- The registers hold a plan and its solution. -/
structure Holds (regs : UInt8 → UInt8) (plan : MultiplierSelection) (sol : PllRatioSolution) :
    Prop where
  remainder : regs 0x01 = (packRatio sol).regRemainder
  quotient : regs 0x02 = (packRatio sol).regQuotient
  msb : regs 0x03 = (packRatio sol).regFracMsb
  lsb : regs 0x04 = (packRatio sol).regFracLsb
  divider : regs 0x05 = deriveDividerEncoding plan.multiplierIndex ||| 0x07
  bandwidth : regs 0x06 &&& 0x02 = deriveBandwidthBase plan.multiplierIndex &&& 0x02

/-- The frequencies in the range of the ratio for which the parts that the two divisions of the
fraction leave out come to at most one Hz. -/
def OnGrid (freqHz : Nat) : Prop :=
  13425000 ≤ freqHz ∧ freqHz < 948600000 ∧
    let rest := freqHz * multiplierFor freqHz % 14400000
    64 * (rest % 1000) + 125 * (62 * (rest / 1000) % 225) ≤ 64 * multiplierFor freqHz

theorem loHz_sub {regs : UInt8 → UInt8} {freqHz : Nat}
    (h : decodedMultiplier (regs 0x05) (regs 0x06) = multiplierFor freqHz) :
    loHz 28800000 regs - freqHz =
      (28125 * scaledRatio regs - 64 * (freqHz * multiplierFor freqHz : Nat) : Int) /
        (64 * multiplierFor freqHz : Nat) := by
  have hpos : (multiplierFor freqHz : ℚ) ≠ 0 := by
    obtain ⟨hfour, -⟩ := multiplierFor_range freqHz
    exact Nat.cast_ne_zero.mpr (by omega)
  rw [loHz, h]
  push_cast
  field_simp
  linear_combination

/-- The VCO frequency over the ranges of the frequency. -/
theorem vco_ranges (freqHz : UInt32) :
    (freqHz.toNat < 22000000 ∧
        freqHz.toNat * multiplierFor freqHz.toNat = freqHz.toNat * 96) ∨
      (22000000 ≤ freqHz.toNat ∧ freqHz.toNat < 765000000 ∧
        2040000000 ≤ freqHz.toNat * multiplierFor freqHz.toNat ∧
        freqHz.toNat * multiplierFor freqHz.toNat < 3060000000) ∨
      (765000000 ≤ freqHz.toNat ∧
        freqHz.toNat * multiplierFor freqHz.toNat = freqHz.toNat * 4) := by
  obtain hlow | hmid := Nat.lt_or_ge freqHz.toNat 22000000
  · exact .inl ⟨hlow, by rw [multiplierFor_low hlow]⟩
  · have hbounds := vco_bounds hmid
    rw [(deriveMultiplier_eq freqHz).1] at hbounds
    obtain ⟨hfloor, ⟨hceil, hlt⟩ | ⟨hfour, hge⟩⟩ := hbounds
    · exact .inr (.inl ⟨hmid, hlt, hfloor, hceil⟩)
    · exact .inr (.inr ⟨hge, hfour⟩)

/-- What the two divisions of the fraction leave out, in units of 1/64 Hz of the VCO. -/
theorem ratio_rest {vco total : Nat} (h : total = (vco + 7200000) / 14400000) :
    64 * vco - 28125 * (32768 * (total : Int) + ((vco % 14400000 / 1000 * 512 / 225 : Nat) -
      if vco % 14400000 < 7200000 then 0 else 32768)) =
        (64 * (vco % 14400000 % 1000) + 125 * (62 * (vco % 14400000 / 1000) % 225) : Nat) := by
  have hkhz (khz : Nat) : 225 * (khz * 512 / 225) + 62 * khz % 225 = 512 * khz := by omega
  have hfrac := hkhz (vco % 14400000 / 1000)
  generalize vco % 14400000 / 1000 * 512 / 225 = quot at hfrac ⊢
  split_ifs with hhalf
  · have htotal : total = vco / 14400000 := by omega
    omega
  · have htotal : total = vco / 14400000 + 1 := by omega
    omega

/-- The registers of an accepted frequency stand for it to within one Hz exactly on the grid. -/
theorem loHz_within_iff {freqHz : UInt32} {total : UInt16} {sol : PllRatioSolution}
    {regs : UInt8 → UInt8}
    (htotal : computeRawRatio (deriveMultiplier freqHz).vcoHz 14400000 = some total)
    (hsol : normalizeRatio total (deriveMultiplier freqHz).vcoHz 14400000 = some sol)
    (hfeasible : sol.feasible = true) (h : Holds regs (deriveMultiplier freqHz) sol) :
    |loHz 28800000 regs - freqHz.toNat| ≤ 1 ↔ OnGrid freqHz.toNat := by
  obtain ⟨hvco, hmultiplier⟩ := deriveMultiplier_eq freqHz
  obtain ⟨hfour, hmax⟩ := multiplierFor_range freqHz.toNat
  have hlt := freqHz.toNat_lt
  obtain ⟨frac, hfrac, hsol⟩ := Option.bind_eq_some_iff.mp hsol
  obtain rfl := Option.some_inj.mp hsol
  have hdecoded : decodedMultiplier (regs 0x05) (regs 0x06) = multiplierFor freqHz.toNat := by
    rw [decodedMultiplier, h.divider, h.bandwidth]
    exact hmultiplier
  have hscaled : scaledRatio regs =
      32768 * (8 * (ratioFields total).1.toNat + (ratioFields total).2.toNat : Nat) +
        signedFrac (frac >>> 8).toUInt8 (frac &&& 0xFF).toUInt8 := by
    rw [scaledRatio, h.quotient, h.remainder, h.msb, h.lsb]
    rfl
  have hranges := vco_ranges freqHz
  have hsigned := signedFrac_fracWord hfrac
  obtain ⟨raw, hraw, hnat⟩ := @toNat_computeRawRatio (deriveMultiplier freqHz).vcoHz (by omega)
  obtain rfl := Option.some_inj.mp (htotal.symm.trans hraw)
  have hfields := ratioFields_table (by omega) hfeasible
  rw [loHz_sub hdecoded, abs_div_le_one (by omega), OnGrid, hscaled, hsigned]
  rw [hvco] at hnat ⊢
  generalize freqHz.toNat * multiplierFor freqHz.toNat = vco at hranges hnat ⊢
  generalize 8 * (ratioFields total).1.toNat + (ratioFields total).2.toNat = held at hfields ⊢
  simp only [Nat.cast_ofNat]
  obtain ⟨hlo, hhi, rfl⟩ | ⟨hlo, heq⟩ | ⟨hhi, hle⟩ := hfields
  · have hrange : 13425000 ≤ freqHz.toNat ∧ freqHz.toNat < 948600000 := by omega
    have hrest := ratio_rest hnat
    rw [← Int.neg_sub] at hrest
    rw [← Int.natAbs_neg, hrest, Int.natAbs_natCast]
    exact ⟨fun h => ⟨hrange.1, hrange.2, h⟩, fun h => h.2.2⟩
  · refine iff_of_false ?_ fun h => by omega
    split_ifs <;> omega
  · refine iff_of_false ?_ fun h => by omega
    split_ifs <;> omega

end Sdrgg.Fc0012
