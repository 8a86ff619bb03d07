import Mathlib.Data.List.Basic
import Mathlib.Tactic.Common

/-! The PLL of the FC0012: the VCO multiplier of a frequency and the ratio to half the crystal, with
its bounds and its encoding.  `none` stands for a division by zero. -/

namespace Sdrgg.Fc0012

def multiplierSet : List UInt8 := [96, 64, 48, 32, 24, 16, 12, 8, 6, 4]

def vcoCeilHz : UInt64 := 3060000000

def vcoBiasThreshold : UInt64 := 0xB6630B80

/-- `multiplier_selection`. -/
structure MultiplierSelection where
  multiplier : UInt8
  multiplierIndex : UInt8
  vcoHz : UInt64
  elevatedBias : Bool
  valid : Bool
deriving DecidableEq, Repr

/-- `pll_ratio_solution`. -/
structure PllRatioSolution where
  totalDivider : UInt16
  nQuotient : UInt8
  aRemainder : UInt8
  fracWord : UInt16
  feasible : Bool
deriving DecidableEq, Repr

structure PackedPllRegs where
  regRemainder : UInt8
  regQuotient : UInt8
  regFracMsb : UInt8
  regFracLsb : UInt8
deriving DecidableEq, Repr

def deriveDividerEncoding (multIndex : UInt8) : UInt8 :=
  [0x82, 0x82, 0x42, 0x42, 0x22, 0x22, 0x12, 0x12, 0x0A, 0x0A].getD multIndex.toNat 0x0A

def deriveBandwidthBase (multIndex : UInt8) : UInt8 := if multIndex &&& 1 ≠ 0 then 0x02 else 0x00

/-- The loop of `derive_multiplier` over the multipliers from number `index` on. -/
def selectMultiplier (freqHz : UInt32) : UInt8 → List UInt8 → Option MultiplierSelection
  | _, [] => none
  | index, multiplier :: rest =>
    let vco := freqHz.toUInt64 * multiplier.toUInt64
    if vco < vcoCeilHz then some ⟨multiplier, index, vco, vco ≥ vcoBiasThreshold, true⟩
    else selectMultiplier freqHz (index + 1) rest

def deriveMultiplier (freqHz : UInt32) : MultiplierSelection :=
  (selectMultiplier freqHz 0 multiplierSet).getD ⟨4, 9, freqHz.toUInt64 * 4, true, true⟩

def computeRawRatio (vcoHz : UInt64) (halfXtal : UInt32) : Option UInt16 :=
  if halfXtal = 0 then none
  else
    let total := (vcoHz / halfXtal.toUInt64).toUInt16
    if vcoHz - total.toUInt64 * halfXtal.toUInt64 ≥ (halfXtal / 2).toUInt64 then some (total + 1)
    else some total

/-- The quotient and the remainder, at least two, of a ratio. -/
def decompose (rawTotal : UInt16) : UInt8 × UInt8 :=
  let n := (rawTotal / 8).toUInt8
  let a := (rawTotal - 8 * n.toUInt16).toUInt8
  if a < 2 then (n - 1, a + 8) else (n, a)

/-- The quotient at most `0x1F`, the rest in the remainder. -/
def clamp (n a : UInt8) : UInt8 × UInt8 :=
  if n > 0x1F then (0x1F, a + 8 * (n - 0x1F)) else (n, a)

def ratioFields (rawTotal : UInt16) : UInt8 × UInt8 :=
  clamp (decompose rawTotal).1 (decompose rawTotal).2

/-- The bounds of the hardware on quotient and remainder. -/
def ratioFeasible (rawTotal : UInt16) : Bool :=
  (ratioFields rawTotal).2 ≤ 0x0F && (ratioFields rawTotal).1 ≥ 0x0B

/-- The fractional word of a VCO frequency. -/
def fracWord (vcoHz : UInt64) (halfXtal : UInt32) : Option UInt16 :=
  if halfXtal / 1000 = 0 then none
  else
    let integerHz := vcoHz / halfXtal.toUInt64 * halfXtal.toUInt64
    let fracRaw := ((vcoHz - integerHz) / 1000).toUInt16
    let fracRaw := ((fracRaw.toUInt32 <<< 15) / (halfXtal / 1000)).toUInt16
    if fracRaw ≥ 0x4000 then some (fracRaw + 0x8000) else some fracRaw

def normalizeRatio (rawTotal : UInt16) (vcoHz : UInt64) (halfXtal : UInt32) :
    Option PllRatioSolution := do
  let frac ← fracWord vcoHz halfXtal
  return {
    totalDivider := rawTotal
    nQuotient := (ratioFields rawTotal).1
    aRemainder := (ratioFields rawTotal).2
    fracWord := frac
    feasible := ratioFeasible rawTotal }

def packRatio (sol : PllRatioSolution) : PackedPllRegs :=
  { regRemainder := sol.aRemainder
    regQuotient := sol.nQuotient
    regFracMsb := (sol.fracWord >>> 8).toUInt8
    regFracLsb := (sol.fracWord &&& 0xFF).toUInt8 }

/-! ### Frequencies with a feasible ratio -/

theorem toNat_vco (freqHz : UInt32) (multiplier : UInt8) :
    (freqHz.toUInt64 * multiplier.toUInt64).toNat = freqHz.toNat * multiplier.toNat := by
  have hf := freqHz.toNat_lt
  have hm := multiplier.toNat_lt
  have hprod : freqHz.toNat * multiplier.toNat < 2 ^ 32 * 2 ^ 8 := Nat.mul_lt_mul'' hf hm
  simp only [UInt64.toNat_mul, UInt32.toNat_toUInt64, UInt8.toNat_toUInt64]
  omega

theorem vco_lt_ceil {freqHz : UInt32} {multiplier : UInt8} :
    freqHz.toUInt64 * multiplier.toUInt64 < vcoCeilHz ↔
      freqHz.toNat * multiplier.toNat < 3060000000 := by
  rw [UInt64.lt_iff_toNat_lt, toNat_vco]
  rfl

theorem selectMultiplier_valid {freqHz : UInt32} {index : UInt8} {set : List UInt8}
    {sel : MultiplierSelection} (h : selectMultiplier freqHz index set = some sel) :
    sel.valid = true := by
  induction set generalizing index with
  | nil => cases h
  | cons m rest ih =>
    rw [selectMultiplier] at h
    split at h
    · cases h
      rfl
    · exact ih h

/-- A multiplier at least two thirds of one that takes the VCO to the ceiling leaves it above two
thirds of the ceiling. -/
theorem selectMultiplier_bounds {freqHz : UInt32} {index before : UInt8} {set : List UInt8}
    {sel : MultiplierSelection}
    (hset : (before :: set).IsChain fun p m => 2 * p.toNat ≤ 3 * m.toNat)
    (hbefore : 3060000000 ≤ freqHz.toNat * before.toNat)
    (h : selectMultiplier freqHz index set = some sel) :
    2040000000 ≤ sel.vcoHz.toNat := by
  induction set generalizing index before with
  | nil => cases h
  | cons m rest ih =>
    obtain ⟨hm, hrest⟩ := List.isChain_cons_cons.mp hset
    rw [selectMultiplier] at h
    split at h
    · cases h
      rw [toNat_vco]
      have hscale := Nat.mul_le_mul_left freqHz.toNat hm
      rw [Nat.mul_left_comm, Nat.mul_left_comm _ 3] at hscale
      omega
    · rename_i hceil
      rw [vco_lt_ceil, Nat.not_lt] at hceil
      exact ih hrest hceil h

/-- The selected VCO frequency is below the ceiling. -/
theorem selectMultiplier_ceil {freqHz : UInt32} {index : UInt8} {set : List UInt8}
    {sel : MultiplierSelection} (hset : ∀ m ∈ set, 4 ≤ m.toNat)
    (h : selectMultiplier freqHz index set = some sel) :
    sel.vcoHz.toNat < 3060000000 ∧ freqHz.toNat * 4 ≤ sel.vcoHz.toNat := by
  induction set generalizing index with
  | nil => cases h
  | cons m rest ih =>
    rw [selectMultiplier] at h
    split at h
    · rename_i hceil
      cases h
      rw [toNat_vco]
      exact ⟨vco_lt_ceil.mp hceil, Nat.mul_le_mul_left _ (hset m List.mem_cons_self)⟩
    · exact ih (fun k hk => hset k (List.mem_cons_of_mem m hk)) h

theorem selectMultiplier_none {freqHz : UInt32} {index : UInt8} {set : List UInt8}
    (h : selectMultiplier freqHz index set = none) :
    ∀ m ∈ set, 3060000000 ≤ freqHz.toNat * m.toNat := by
  induction set generalizing index with
  | nil => simp
  | cons m rest ih =>
    rw [selectMultiplier] at h
    split at h
    · cases h
    · rename_i hceil
      rw [vco_lt_ceil, Nat.not_lt] at hceil
      exact List.forall_mem_cons.mpr ⟨hceil, ih h⟩

theorem deriveMultiplier_valid (freqHz : UInt32) : (deriveMultiplier freqHz).valid = true := by
  unfold deriveMultiplier
  cases h : selectMultiplier freqHz 0 multiplierSet with
  | none => rfl
  | some sel => exact selectMultiplier_valid h

/-- From 22 MHz on the VCO frequency is at least two thirds of the ceiling, and it is above the
ceiling only with the last multiplier. -/
theorem vco_bounds {freqHz : UInt32} (hlo : 22000000 ≤ freqHz.toNat) :
    2040000000 ≤ (deriveMultiplier freqHz).vcoHz.toNat ∧
      ((deriveMultiplier freqHz).vcoHz.toNat < 3060000000 ∧ freqHz.toNat < 765000000 ∨
        (deriveMultiplier freqHz).vcoHz.toNat = freqHz.toNat * 4 ∧ 765000000 ≤ freqHz.toNat) := by
  unfold deriveMultiplier
  cases h : selectMultiplier freqHz 0 multiplierSet with
  | none =>
    have hlast : 3060000000 ≤ freqHz.toNat * 4 := selectMultiplier_none h 4 (by decide)
    have hvco : (freqHz.toUInt64 * 4).toNat = freqHz.toNat * 4 := toNat_vco freqHz 4
    dsimp only [Option.getD_none]
    rw [hvco]
    omega
  | some sel =>
    obtain ⟨hceil, hfour⟩ := selectMultiplier_ceil (by decide +kernel) h
    simp only [Option.getD_some]
    refine ⟨?_, .inl ⟨hceil, by omega⟩⟩
    rw [multiplierSet, selectMultiplier] at h
    split at h
    · cases h
      have hvco : (freqHz.toUInt64 * (96 : UInt8).toUInt64).toNat = freqHz.toNat * 96 :=
        toNat_vco freqHz 96
      rw [hvco]
      omega
    · rename_i hfirst
      rw [vco_lt_ceil, Nat.not_lt] at hfirst
      exact selectMultiplier_bounds (by decide +kernel) hfirst h

/-- The ratio is rounded to the nearest integer. -/
theorem toNat_computeRawRatio {vcoHz : UInt64} (hlo : vcoHz.toNat < 900000000000) :
    ∃ total, computeRawRatio vcoHz 14400000 = some total ∧
      total.toNat = (vcoHz.toNat + 7200000) / 14400000 := by
  have hhalf : ((14400000 : UInt32).toUInt64).toNat = 14400000 := rfl
  have hquarter : ((14400000 / 2 : UInt32).toUInt64).toNat = 7200000 := by decide
  have htotal : (vcoHz / (14400000 : UInt32).toUInt64).toUInt16.toNat = vcoHz.toNat / 14400000 := by
    rw [UInt64.toNat_toUInt16, UInt64.toNat_div, hhalf]
    omega
  have hround : (vcoHz - (vcoHz / (14400000 : UInt32).toUInt64).toUInt16.toUInt64 *
      (14400000 : UInt32).toUInt64 ≥ (14400000 / 2 : UInt32).toUInt64) ↔
      7200000 ≤ vcoHz.toNat % 14400000 := by
    have hmul : ((vcoHz / (14400000 : UInt32).toUInt64).toUInt16.toUInt64 *
        (14400000 : UInt32).toUInt64).toNat = vcoHz.toNat / 14400000 * 14400000 := by
      rw [UInt64.toNat_mul, UInt16.toNat_toUInt64, htotal, hhalf]
      omega
    rw [ge_iff_le, UInt64.le_iff_toNat_le, hquarter, UInt64.toNat_sub_of_le, hmul]
    · omega
    · rw [UInt64.le_iff_toNat_le, hmul]
      omega
  rw [computeRawRatio, if_neg (by decide)]
  dsimp only
  split
  · rename_i h
    rw [hround] at h
    refine ⟨_, rfl, ?_⟩
    rw [UInt16.toNat_add, htotal]
    have hone : (1 : UInt16).toNat = 1 := rfl
    omega
  · rename_i h
    rw [hround] at h
    exact ⟨_, rfl, by omega⟩

theorem ratioFeasible_table : ∀ n < 265, 141 ≤ n → (ratioFeasible (UInt16.ofNat n) ↔ n < 264) := by
  decide +kernel

theorem fracWord_of_half {halfXtal : UInt32} (h : halfXtal / 1000 ≠ 0) (vcoHz : UInt64) :
    ∃ frac, fracWord vcoHz halfXtal = some frac := by
  unfold fracWord
  rw [if_neg h]
  dsimp only
  split <;> exact ⟨_, rfl⟩

/-- From 22 MHz to 948.6 MHz the ratio is feasible but at the very end, where it is rounded up to
264, one more than the registers hold. -/
theorem solution_feasible {freqHz : UInt32} (hlo : 22000000 ≤ freqHz.toNat)
    (hhi : freqHz.toNat ≤ 948600000) :
    ∃ total sol, computeRawRatio (deriveMultiplier freqHz).vcoHz 14400000 = some total ∧
      normalizeRatio total (deriveMultiplier freqHz).vcoHz 14400000 = some sol ∧
      (sol.feasible = true ↔ freqHz.toNat < 948600000) := by
  obtain ⟨hfloor, hvco⟩ := vco_bounds hlo
  obtain ⟨total, htotal, hnat⟩ := @toNat_computeRawRatio
    (deriveMultiplier freqHz).vcoHz (by omega)
  obtain ⟨frac, hfrac⟩ := @fracWord_of_half 14400000 (by decide)
    (deriveMultiplier freqHz).vcoHz
  refine ⟨total, _, htotal, by rw [normalizeRatio, hfrac]; rfl, ?_⟩
  have htable := ratioFeasible_table total.toNat (by omega) (by omega)
  rw [UInt16.ofNat_toNat] at htable
  dsimp only
  rw [htable]
  omega

end Sdrgg.Fc0012
