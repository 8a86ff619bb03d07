import Mathlib.Algebra.Group.Nat.Defs
import Mathlib.Data.List.Basic
import Mathlib.Tactic.Common

/-! The PLL of the R820T: the candidates for a target frequency, the spur normalisation, the choice
of a candidate and its encoding in register fields.  `none` stands for a division by zero. -/

namespace Sdrgg.R820t

structure SynthRequest where
  targetHz : UInt32
  referenceHz : UInt32
  correctionPpm : Int32
deriving DecidableEq, Repr

/-- `pll_solution`. -/
structure PllSolution where
  dividerOrder : UInt8
  vcoHz : UInt32
  nInteger : UInt32
  fractionalNum : UInt32
  fractionalDenom : UInt32
  isFractional : Bool
  inVcoRange : Bool
  qualityScore : Int32
deriving DecidableEq, Repr

/-- `pll_encoding`. -/
structure PllEncoding where
  divField : UInt8
  niSiPacked : UInt8
  modeField : UInt8
  sdmHi : UInt8
  sdmLo : UInt8
deriving DecidableEq, Repr

/-- The reference in kHz with its correction. -/
def referenceKhz (req : SynthRequest) : UInt32 :=
  let refKhz := req.referenceHz / 1000
  if req.correctionPpm ≠ 0 then
    UInt32.ofInt (((refKhz.toNat : Int) * (1000000 + req.correctionPpm.toInt)).tdiv 1000000)
  else refKhz

def vcoFloorKhz : UInt64 := 1770000

def vcoCeilKhz : UInt64 := 3540000

/-- The VCO frequency for the divider `2 ^ order`. -/
def vcoKhz (targetKhz : UInt32) (order : UInt8) : UInt64 :=
  targetKhz.toUInt64 * (1 <<< order.toUInt32 : UInt32).toUInt64

/-- The solution for a VCO frequency within the window. -/
def solve (pllRefKhz targetKhz : UInt32) (order : UInt8) : Option PllSolution :=
  let vcoKhz := vcoKhz targetKhz order
  if 2 * pllRefKhz = 0 then none
  else
    let nInteger := (vcoKhz / (2 * pllRefKhz).toUInt64).toUInt32
    let fractionalNum := (vcoKhz - 2 * pllRefKhz.toUInt64 * nInteger.toUInt64).toUInt32
    some
      { dividerOrder := order
        vcoHz := (vcoKhz * 1000).toUInt32
        nInteger
        fractionalNum
        fractionalDenom := 2 * pllRefKhz
        isFractional := fractionalNum ≠ 0
        inVcoRange := true
        qualityScore := 100 - order.toUInt32.toInt32 * 10 }

/-- The divider orders that `enumerate_candidates` tries, of which each gives one candidate at
most: the array of six is never full before the last. -/
def dividerOrders : List UInt8 := [1, 2, 3, 4, 5, 6]

/-- `enumerate_candidates`. -/
def enumerateCandidates (req : SynthRequest) : Option (List PllSolution) :=
  let targetKhz := req.targetHz / 1000
  let viable := dividerOrders.filter fun order =>
    vcoKhz targetKhz order ≥ vcoFloorKhz && vcoKhz targetKhz order < vcoCeilKhz
  viable.mapM (solve (referenceKhz req) targetKhz)

/-- `normalize_spur_avoidance` for one candidate. -/
def normalizeSpurAvoidance (pllRefKhz : UInt32) (sol : PllSolution) : PllSolution :=
  let frac := sol.fractionalNum
  let zoneNear := pllRefKhz / 64
  let zoneFar := pllRefKhz * 127 / 64
  let zoneBelow := pllRefKhz * 127 / 128
  let zoneAbove := pllRefKhz * 129 / 128
  let (frac, nInteger) :=
    if frac < zoneNear then (0, sol.nInteger)
    else if frac > zoneFar then (0, sol.nInteger + 1)
    else if frac > zoneBelow ∧ frac < pllRefKhz then (zoneBelow, sol.nInteger)
    else if frac > pllRefKhz ∧ frac < zoneAbove then (zoneAbove, sol.nInteger)
    else (frac, sol.nInteger)
  { sol with
    nInteger
    fractionalNum := frac
    isFractional := frac ≠ 0
    qualityScore := if frac = 0 then sol.qualityScore + 20 else sol.qualityScore }

/-- `rank_and_select`: the first candidate of the best score. -/
def rankAndSelect : List PllSolution → Option PllSolution
  | [] => none
  | first :: rest =>
    some (rest.foldl (fun best sol => if sol.qualityScore > best.qualityScore then sol else best)
      first)

/-- The loop of `pack_pll_solution`, which shifts the 16-bit `weight` to zero in at most fifteen
rounds, so that sixteen are enough. -/
def sdmLoop (pllRefKhz : UInt32) : Nat → UInt16 → UInt16 → UInt32 → Option UInt16
  | 0, _, _, _ => none
  | n + 1, weight, accumulator, residual =>
    if residual ≤ 1 then some accumulator
    else if weight = 0 then none
    else if residual > 2 * pllRefKhz / weight.toUInt32 then
      let accumulator := accumulator + 0x8000 / (weight / 2)
      let residual := residual - 2 * pllRefKhz / weight.toUInt32
      if weight ≥ 0x8000 then some accumulator
      else sdmLoop pllRefKhz n (weight <<< 1) accumulator residual
    else sdmLoop pllRefKhz n (weight <<< 1) accumulator residual

/-- `pack_pll_solution`. -/
def packPllSolution (sol : PllSolution) (pllRefKhz : UInt32) : Option PllEncoding := do
  let ni := ((sol.nInteger - 13) / 4).toUInt8
  let si := (sol.nInteger - 4 * ni.toUInt32 - 13).toUInt8
  let sdm ← if sol.isFractional then sdmLoop pllRefKhz 16 2 0 sol.fractionalNum else some 0
  return {
    divField := (sol.dividerOrder - 1) <<< 5
    niSiPacked := ni ||| (si <<< 6)
    modeField := if sol.isFractional then 0x00 else 0x08
    sdmHi := (sdm >>> 8).toUInt8
    sdmLo := (sdm &&& 0xFF).toUInt8 }

/-! ### The targets that have a candidate -/

theorem toNat_vcoKhz (targetKhz : UInt32) {order : UInt8} (horder : order ∈ dividerOrders) :
    (vcoKhz targetKhz order).toNat = targetKhz.toNat * 2 ^ order.toNat := by
  have ht := targetKhz.toNat_lt
  simp only [dividerOrders, List.mem_cons, List.not_mem_nil, or_false] at horder
  rcases horder with rfl | rfl | rfl | rfl | rfl | rfl <;>
    simp [vcoKhz, UInt64.toNat_mul] <;> omega

/-- A divider order gives a candidate when the VCO frequency is within the window. -/
theorem viable_iff {targetKhz : UInt32} {order : UInt8} (horder : order ∈ dividerOrders) :
    (vcoKhz targetKhz order ≥ vcoFloorKhz && vcoKhz targetKhz order < vcoCeilKhz) = true ↔
      1770000 ≤ targetKhz.toNat * 2 ^ order.toNat ∧
        targetKhz.toNat * 2 ^ order.toNat < 3540000 := by
  simp [UInt64.le_iff_toNat_le, UInt64.lt_iff_toNat_lt, toNat_vcoKhz targetKhz horder, vcoFloorKhz,
    vcoCeilKhz]

theorem exists_order {t : Nat} :
    (∃ order ∈ dividerOrders, 1770000 ≤ t * 2 ^ order.toNat ∧ t * 2 ^ order.toNat < 3540000) ↔
      27657 ≤ t ∧ t < 1770000 := by
  simp only [dividerOrders, List.mem_cons, List.not_mem_nil, or_false, exists_eq_or_imp,
    exists_eq_left]
  simp
  omega

theorem solve_of_ref {pllRefKhz : UInt32} (href : 2 * pllRefKhz ≠ 0) (targetKhz : UInt32)
    (order : UInt8) : ∃ sol, solve pllRefKhz targetKhz order = some sol := by
  simp [solve, href]

theorem mapM_length {α β : Type} {f : α → Option β} {l : List α} {m : List β}
    (h : l.mapM f = some m) : m.length = l.length := by
  induction l generalizing m with
  | nil =>
    cases h
    rfl
  | cons a l ih =>
    rw [List.mapM_cons] at h
    obtain ⟨b, -, h⟩ := Option.bind_eq_some_iff.mp h
    obtain ⟨m', hm', h⟩ := Option.bind_eq_some_iff.mp h
    cases h
    simp [ih hm']

theorem mapM_of_forall {α β : Type} {f : α → Option β} (h : ∀ a, ∃ b, f a = some b) (l : List α) :
    ∃ m, l.mapM f = some m := by
  induction l with
  | nil => exact ⟨[], rfl⟩
  | cons a l ih =>
    obtain ⟨b, hb⟩ := h a
    obtain ⟨m, hm⟩ := ih
    exact ⟨b :: m, by simp [List.mapM_cons, hb, hm]⟩

/-- The targets with a candidate are those from 27,657 kHz to 1,769,999 kHz, whatever the
reference. -/
theorem enumerateCandidates_ne_nil {req : SynthRequest} {candidates : List PllSolution}
    (h : enumerateCandidates req = some candidates) :
    candidates ≠ [] ↔ 27657 ≤ req.targetHz.toNat / 1000 ∧ req.targetHz.toNat / 1000 < 1770000 := by
  have hkhz : (req.targetHz / 1000).toNat = req.targetHz.toNat / 1000 := by simp
  rw [← hkhz, ← exists_order, ← List.length_pos_iff_ne_nil, mapM_length h, List.length_pos_iff_exists_mem]
  refine exists_congr fun order => ?_
  rw [List.mem_filter]
  exact and_congr_right fun horder => viable_iff horder

theorem enumerateCandidates_of_ref {req : SynthRequest} (href : 2 * referenceKhz req ≠ 0) :
    ∃ candidates, enumerateCandidates req = some candidates :=
  mapM_of_forall (solve_of_ref href _) _

/-- Without a correction the reference is the crystal's. -/
theorem referenceKhz_of_ppm {req : SynthRequest} (h : req.correctionPpm = 0) :
    referenceKhz req = req.referenceHz / 1000 := by
  simp [referenceKhz, h]

theorem rankAndSelect_of_ne_nil {candidates : List PllSolution} (h : candidates ≠ []) :
    ∃ sol, rankAndSelect candidates = some sol := by
  cases candidates with
  | nil => exact absurd rfl h
  | cons first rest => exact ⟨_, rfl⟩

/-! ### The sigma-delta word -/

theorem sdmWeight : ∀ k < 14,
    (0x8000 >>> UInt16.ofNat (k + 1)) <<< 1 = (0x8000 >>> UInt16.ofNat k : UInt16) ∧
      (0x8000 >>> UInt16.ofNat (k + 1) : UInt16) ≠ 0 := by
  decide

/-- The weights are the powers of two from `2` to `2 ^ 15`.  At the last of them a step is at most
one unit, so that a residual of more than one ends the loop there. -/
theorem sdmLoop_of_ref {pllRefKhz : UInt32} (href : 2 * pllRefKhz / 0x8000 ≤ 1) {k : Nat}
    (hk : k < 15) (accumulator : UInt16) (residual : UInt32) :
    ∃ word, sdmLoop pllRefKhz (k + 2) (0x8000 >>> UInt16.ofNat k) accumulator residual =
      some word := by
  induction k generalizing accumulator residual with
  | zero =>
    by_cases hres : residual ≤ 1
    · exact ⟨accumulator, by simp [sdmLoop, hres]⟩
    · have hstep : residual > 2 * pllRefKhz / 0x8000 :=
        UInt32.lt_of_le_of_lt href (UInt32.not_le.mp hres)
      simp [sdmLoop, hres, hstep]
  | succ k ih =>
    obtain ⟨hshift, hweight⟩ := sdmWeight k (by omega)
    rw [sdmLoop, hshift, if_neg hweight]
    split
    · exact ⟨accumulator, rfl⟩
    · split
      · dsimp only
        split
        · exact ⟨_, rfl⟩
        · exact ih (by omega) _ _
      · exact ih (by omega) _ _

theorem packPllSolution_of_ref {pllRefKhz : UInt32} (href : 2 * pllRefKhz / 0x8000 ≤ 1)
    (sol : PllSolution) : ∃ enc, packPllSolution sol pllRefKhz = some enc := by
  obtain ⟨word, hword⟩ := sdmLoop_of_ref href (k := 14) (by omega) 0 sol.fractionalNum
  have hword : sdmLoop pllRefKhz 16 2 0 sol.fractionalNum = some word := hword
  cases hf : sol.isFractional <;> simp [packPllSolution, hf, hword]

end Sdrgg.R820t
