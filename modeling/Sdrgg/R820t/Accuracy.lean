import Sdrgg.ProofKit.Grid
import Sdrgg.R820t.Synth
import Mathlib.Algebra.Group.Int.Defs
import Mathlib.Algebra.Order.Field.Rat
import Mathlib.Tactic.FieldSimp
import Mathlib.Tactic.LinearCombination
import Mathlib.Tactic.Positivity
import Mathlib.Tactic.SplitIfs

/-! Where the PLL of the R820T lands for a target: the divider order, the sigma-delta word and the
error of the synthesis, with the crystal's reference of 28800 kHz. -/

namespace Sdrgg.R820t

open ProofKit

/-! ### The sigma-delta word -/

/-- The last two bits that `rest + 1` kHz, at most 8, are given by the weights 3 and 1. -/
def lastBits (rest : Nat) : Nat := [0, 1, 1, 2, 3, 3, 3, 3].getD rest 0

/-- The low byte of the word for `rest + 1` kHz, at most 225: the weights below 225 kHz are cut to
112, 56, 28, 14, 7, 3 and 1. -/
def sdmLow (rest : Nat) : Nat :=
  let sevens := min (rest / 7) 31
  8 * sevens + 2 * lastBits (rest - 7 * sevens)

/-- The word for a fraction in kHz, of which the high byte counts the 225s below it. -/
def sdmWord (frac : Nat) : Nat := 256 * ((frac - 1) / 225) + sdmLow ((frac - 1) % 225)

theorem sdmLow_lt {rest : Nat} (h : rest < 225) : sdmLow rest < 256 := by
  have hall : ∀ rest < 225, sdmLow rest < 256 := by decide +kernel
  exact hall rest h

theorem sdmWord_add {frac : Nat} (h : 0 < frac) (k : Nat) :
    sdmWord (frac + 225 * k) = 256 * k + sdmWord frac := by
  have hfrac : frac + 225 * k - 1 = frac - 1 + 225 * k := by omega
  rw [sdmWord, sdmWord, hfrac, Nat.add_mul_mod_self_left, Nat.add_mul_div_left _ _ (by decide)]
  omega

/-- The word accumulates: what is in it already is only added to. -/
theorem sdmLoop_add (pllRefKhz : UInt32) (n : Nat) (weight accumulator : UInt16)
    (residual : UInt32) :
    sdmLoop pllRefKhz n weight accumulator residual =
      (sdmLoop pllRefKhz n weight 0 residual).map (accumulator + ·) := by
  induction n generalizing weight accumulator residual with
  | zero => rfl
  | succ n ih =>
    simp only [sdmLoop]
    split
    · simp
    · split
      · rfl
      · split
        · split
          · simp
          · rw [ih, ih _ (0 + _), Option.map_map]
            congr 1
            funext word
            simp [UInt16.add_assoc]
        · exact ih _ _ _

theorem sdmLoop_low {rest : Nat} (h : rest < 225) :
    sdmLoop 28800 8 512 0 (UInt32.ofNat (rest + 1)) = some (UInt16.ofNat (sdmLow rest)) := by
  have hall : ∀ rest < 225, sdmLoop 28800 8 512 0 (UInt32.ofNat (rest + 1)) =
      some (UInt16.ofNat (sdmLow rest)) := by
    decide +kernel
  exact hall rest h

/-- The weights down to 225 kHz are exact. -/
theorem sdmWeight_exact : ∀ k < 8,
    (512 >>> UInt16.ofNat (k + 1)) <<< 1 = (512 >>> UInt16.ofNat k : UInt16) ∧
      (512 >>> UInt16.ofNat (k + 1) : UInt16) ≠ 0 ∧
      ¬(512 >>> UInt16.ofNat (k + 1) : UInt16) ≥ 0x8000 ∧
      ((2 * 28800 : UInt32) / (512 >>> UInt16.ofNat (k + 1) : UInt16).toUInt32).toNat =
        225 * 2 ^ k ∧
      (0x8000 : UInt16) / ((512 >>> UInt16.ofNat (k + 1)) / 2) = UInt16.ofNat (256 * 2 ^ k) := by
  decide

/-- From the weight `225 * 2 ^ k` on, a residual of at most twice as much leaves one of at most 225
to the truncated weights. -/
theorem sdmLoop_high {k : Nat} (hk : k ≤ 8) {residual : UInt32} (hpos : 0 < residual.toNat)
    (hres : residual.toNat ≤ 225 * 2 ^ k) (accumulator : UInt16) :
    sdmLoop 28800 (k + 8) (512 >>> UInt16.ofNat k) accumulator residual =
      some (accumulator + UInt16.ofNat (sdmWord residual.toNat)) := by
  induction k generalizing residual accumulator with
  | zero =>
    have hlow := @sdmLoop_low (residual.toNat - 1) (by omega)
    rw [Nat.sub_add_cancel hpos, UInt32.ofNat_toNat] at hlow
    have hfirst : (512 >>> UInt16.ofNat 0 : UInt16) = 512 := by decide
    rw [hfirst, sdmLoop_add, hlow, sdmWord, Nat.div_eq_of_lt (by omega), Nat.mod_eq_of_lt (by omega)]
    simp
  | succ k ih =>
    obtain ⟨hshift, hweight, hlast, hstep, hbit⟩ := sdmWeight_exact k (by omega)
    rw [show k + 1 + 8 = (k + 8) + 1 by omega, sdmLoop, if_neg hweight, if_neg hlast, hshift, hbit]
    split
    · rename_i hone
      have hone : residual.toNat ≤ 1 := UInt32.le_iff_toNat_le.mp hone
      rw [show residual.toNat = 1 by omega]
      exact congrArg some (UInt16.add_zero _).symm
    · split
      · rename_i hbig
        rw [gt_iff_lt, UInt32.lt_iff_toNat_lt, hstep] at hbig
        have hrest : (residual - (2 * 28800 : UInt32) /
            (512 >>> UInt16.ofNat (k + 1) : UInt16).toUInt32).toNat =
              residual.toNat - 225 * 2 ^ k := by
          rw [UInt32.toNat_sub_of_le, hstep]
          rw [UInt32.le_iff_toNat_le, hstep]
          omega
        rw [Nat.pow_succ] at hres
        rw [ih (by omega) (by omega) (by omega), hrest, UInt16.add_assoc,
          ← UInt16.ofNat_add]
        have hword := @sdmWord_add (residual.toNat - 225 * 2 ^ k) (by omega) (2 ^ k)
        rw [Nat.sub_add_cancel (by omega)] at hword
        rw [hword]
      · rename_i hsmall
        rw [gt_iff_lt, UInt32.lt_iff_toNat_lt, hstep] at hsmall
        exact ih (by omega) hpos (by omega) _

theorem sdmWord_lt {frac : Nat} (h : frac ≤ 57600) : sdmWord frac < 2 ^ 16 := by
  have := @sdmLow_lt ((frac - 1) % 225) (by omega)
  unfold sdmWord
  omega

theorem sdmLoop_word {residual : UInt32} (h : residual.toNat ≤ 57600) :
    sdmLoop 28800 16 2 0 residual = some (UInt16.ofNat (sdmWord residual.toNat)) := by
  obtain hzero | hpos := Nat.eq_zero_or_pos residual.toNat
  · rw [show residual = 0 from UInt32.toNat_inj.mp hzero]
    decide
  · have hword := @sdmLoop_high 8 (by omega) residual hpos h 0
    rw [UInt16.zero_add] at hword
    exact hword

/-! ### The divider order -/

/-- The order of the divider that takes a target between 27,657 and 1,769,999 kHz into the window of
the VCO. -/
def orderOf (targetKhz : Nat) : Nat :=
  if 885000 ≤ targetKhz then 1
  else if 442500 ≤ targetKhz then 2
  else if 221250 ≤ targetKhz then 3
  else if 110625 ≤ targetKhz then 4
  else if 55313 ≤ targetKhz then 5
  else 6

theorem orderOf_range (targetKhz : Nat) : 1 ≤ orderOf targetKhz ∧ orderOf targetKhz ≤ 6 := by
  unfold orderOf
  split_ifs <;> omega

theorem orderOf_window {targetKhz : Nat} (hlo : 27657 ≤ targetKhz) (hhi : targetKhz < 1770000) :
    1770000 ≤ targetKhz * 2 ^ orderOf targetKhz ∧ targetKhz * 2 ^ orderOf targetKhz < 3540000 := by
  unfold orderOf
  split_ifs <;> omega

/-- The window is one octave wide. -/
theorem window_le {t a b : Nat} (ha : 1770000 ≤ t * 2 ^ a) (hb : t * 2 ^ b < 3540000) : b ≤ a := by
  by_contra hlt
  have hpow : 2 ^ (a + 1) ≤ 2 ^ b := Nat.pow_le_pow_right (by decide) (by omega)
  have hscale := Nat.mul_le_mul_left t hpow
  rw [Nat.pow_succ, ← Nat.mul_assoc] at hscale
  omega

/-- No other divider order gives a candidate. -/
theorem filter_viable {targetKhz : UInt32} (hlo : 27657 ≤ targetKhz.toNat)
    (hhi : targetKhz.toNat < 1770000) :
    (dividerOrders.filter fun order =>
      vcoKhz targetKhz order ≥ vcoFloorKhz && vcoKhz targetKhz order < vcoCeilKhz) =
        [UInt8.ofNat (orderOf targetKhz.toNat)] := by
  obtain ⟨hone, hsix⟩ := orderOf_range targetKhz.toNat
  obtain ⟨hfloor, hceil⟩ := orderOf_window hlo hhi
  have hsingle : ∀ n < 7, 1 ≤ n →
      dividerOrders.filter (fun order => decide (order.toNat = n)) = [UInt8.ofNat n] := by
    decide
  rw [← hsingle _ (by omega) hone]
  refine List.filter_congr fun order horder => ?_
  rw [Bool.eq_iff_iff, viable_iff horder, decide_eq_true_iff]
  constructor
  · rintro ⟨horderFloor, horderCeil⟩
    exact Nat.le_antisymm (window_le hfloor horderCeil) (window_le horderFloor hceil)
  · intro heq
    rw [heq]
    exact ⟨hfloor, hceil⟩

/-! ### The candidate -/

/-- What a word is off by in 1/256 kHz, for `rest + 1` kHz above a multiple of 225 kHz. -/
def roundingError (rest : Nat) : Int :=
  let sevens := min (rest / 7) 31
  8 * sevens + 450 * lastBits (rest - 7 * sevens) - 256 * (rest + 1 - 7 * sevens)

theorem sdmLow_error (rest : Nat) :
    (225 * sdmLow rest : Int) = 256 * (rest + 1) + roundingError rest := by
  unfold sdmLow roundingError
  dsimp only
  omega

theorem sdmWord_error {frac : Nat} (h : 0 < frac) :
    (225 * sdmWord frac : Int) = 256 * frac + roundingError ((frac - 1) % 225) := by
  have hlow := sdmLow_error ((frac - 1) % 225)
  unfold sdmWord
  omega

/-- What the VCO is off by in 1/256 kHz when it is to be `x` kHz above a multiple of 57600 kHz: the
neighbourhoods of the multiples of the reference are avoided, and the word is rounded. -/
def synthError (x : Nat) : Int :=
  if x < 450 then -256 * x
  else if 57150 < x then 256 * (57600 - x)
  else if 28575 < x ∧ x < 28800 then 256 * (28575 - x) - 450
  else if 28800 < x ∧ x < 29025 then 256 * (29025 - x) - 450
  else roundingError ((x - 1) % 225)

theorem solve_nInteger {pllRefKhz targetKhz : UInt32} {order : UInt8} {sol : PllSolution}
    (horder : order ∈ dividerOrders) (hceil : targetKhz.toNat * 2 ^ order.toNat < 3540000)
    (h : solve pllRefKhz targetKhz order = some sol) :
    sol.nInteger.toNat = targetKhz.toNat * 2 ^ order.toNat / (2 * pllRefKhz).toNat := by
  rw [← toNat_vcoKhz targetKhz horder] at hceil ⊢
  rw [solve] at h
  split at h
  · cases h
  · obtain rfl := Option.some_inj.mp h
    have hle := Nat.div_le_self (vcoKhz targetKhz order).toNat (2 * pllRefKhz).toNat
    dsimp only
    rw [UInt64.toNat_toUInt32, UInt64.toNat_div, UInt32.toNat_toUInt64]
    exact Nat.mod_eq_of_lt (by omega)

/-- The solution takes the VCO apart by twice the reference. -/
theorem solve_ref {pllRefKhz targetKhz : UInt32} {order : UInt8} {sol : PllSolution} {r : Nat}
    (href : pllRefKhz.toNat = r) (hpos : 0 < r) (hfits : r < 2 ^ 31) (horder : order ∈ dividerOrders)
    (hceil : targetKhz.toNat * 2 ^ order.toNat < 3540000)
    (h : solve pllRefKhz targetKhz order = some sol) :
    sol.dividerOrder = order ∧
      sol.nInteger.toNat = targetKhz.toNat * 2 ^ order.toNat / (2 * r) ∧
      sol.fractionalNum.toNat = targetKhz.toNat * 2 ^ order.toNat % (2 * r) := by
  have hdenom : (2 * pllRefKhz).toNat = 2 * r := by
    rw [UInt32.toNat_mul, href]
    exact Nat.mod_eq_of_lt (show 2 * r < 2 ^ 32 by omega)
  have hquot := solve_nInteger horder hceil h
  rw [hdenom] at hquot
  rw [← toNat_vcoKhz targetKhz horder] at hceil hquot ⊢
  rw [solve, if_neg (fun hzero => by rw [hzero, UInt32.toNat_zero] at hdenom; omega)] at h
  obtain rfl := Option.some_inj.mp h
  generalize vcoKhz targetKhz order = vco at hceil hquot ⊢
  have hmul : (2 * pllRefKhz.toUInt64 *
      (vco / (2 * pllRefKhz).toUInt64).toUInt32.toUInt64).toNat =
        2 * r * (vco.toNat / (2 * r)) := by
    have htwice : (2 * pllRefKhz.toUInt64).toNat = 2 * r := by
      rw [UInt64.toNat_mul, UInt32.toNat_toUInt64, href]
      exact Nat.mod_eq_of_lt (show 2 * r < 2 ^ 64 by omega)
    have hle := Nat.mul_div_le vco.toNat (2 * r)
    rw [UInt64.toNat_mul, htwice, UInt32.toNat_toUInt64, hquot]
    exact Nat.mod_eq_of_lt (by omega)
  have hsplit := Nat.div_add_mod vco.toNat (2 * r)
  refine ⟨rfl, hquot, ?_⟩
  dsimp only
  rw [UInt64.toNat_toUInt32, UInt64.toNat_sub_of_le, hmul]
  · omega
  · rw [UInt64.le_iff_toNat_le, hmul]
    omega

theorem normalize_isFractional (pllRefKhz : UInt32) (sol : PllSolution) :
    (normalizeSpurAvoidance pllRefKhz sol).isFractional = true ↔
      (normalizeSpurAvoidance pllRefKhz sol).fractionalNum ≠ 0 :=
  decide_eq_true_iff

/-- The spur normalisation and the rounding of the word take the VCO off by `synthError`. -/
theorem normalize_error {sol : PllSolution} (hn : sol.nInteger.toNat < 2 ^ 31)
    (hfrac : sol.fractionalNum.toNat < 57600) :
    let chosen := normalizeSpurAvoidance 28800 sol
    chosen.nInteger.toNat ≤ sol.nInteger.toNat + 1 ∧ sol.nInteger.toNat ≤ chosen.nInteger.toNat ∧
      chosen.fractionalNum.toNat ≤ 57600 ∧
      (256 * 57600 * chosen.nInteger.toNat + 225 * sdmWord chosen.fractionalNum.toNat : Int) =
        256 * (57600 * sol.nInteger.toNat + sol.fractionalNum.toNat) +
          synthError sol.fractionalNum.toNat := by
  have hnear : (28800 / 64 : UInt32).toNat = 450 := by decide
  have hfar : (28800 * 127 / 64 : UInt32).toNat = 57150 := by decide
  have hbelow : (28800 * 127 / 128 : UInt32).toNat = 28575 := by decide
  have habove : (28800 * 129 / 128 : UInt32).toNat = 29025 := by decide
  have href : (28800 : UInt32).toNat = 28800 := by decide
  have hnext : (sol.nInteger + 1).toNat = sol.nInteger.toNat + 1 := by
    rw [UInt32.toNat_add, UInt32.toNat_one]
    omega
  have hword : sdmWord 0 = 0 ∧ sdmWord 28575 = 32510 ∧ sdmWord 29025 = 33022 := by decide
  simp only [normalizeSpurAvoidance, UInt32.lt_iff_toNat_lt, gt_iff_lt, hnear, hfar, hbelow, habove,
    href]
  unfold synthError
  split_ifs with hzero hone hzoneBelow hzoneAbove
  · simp only [UInt32.toNat_zero]
    omega
  · simp only [UInt32.toNat_zero, hnext]
    omega
  · simp only [hbelow]
    omega
  · simp only [habove]
    omega
  · have hrounding := @sdmWord_error sol.fractionalNum.toNat (by omega)
    dsimp only
    omega

/-! ### The encoding -/

theorem divField_order {order : UInt8} (h : 1 ≤ order.toNat ∧ order.toNat ≤ 6) :
    (((order - 1) <<< 5) >>> 5).toNat + 1 = order.toNat := by
  have hall : ∀ n < 7, 1 ≤ n → (((UInt8.ofNat n - 1) <<< 5) >>> 5).toNat + 1 = n := by decide
  simpa using hall order.toNat (by omega) h.1

/-- `NI` has six bits and `SI` two. -/
theorem niSi_integer {n : UInt32} (h : 13 ≤ n.toNat ∧ n.toNat < 269) :
    let ni := ((n - 13) / 4).toUInt8
    let packed := ni ||| ((n - 4 * ni.toUInt32 - 13).toUInt8 <<< 6)
    4 * (packed &&& 0x3F).toNat + (packed >>> 6).toNat + 13 = n.toNat := by
  have hall : ∀ k < 269, 13 ≤ k →
      let ni := ((UInt32.ofNat k - 13) / 4).toUInt8
      let packed := ni ||| ((UInt32.ofNat k - 4 * ni.toUInt32 - 13).toUInt8 <<< 6)
      4 * (packed &&& 0x3F).toNat + (packed >>> 6).toNat + 13 = k := by
    decide +kernel
  simpa using hall n.toNat h.2 h.1

/-- What the fields of an encoding stand for: with no fraction the sigma-delta modulator is off. -/
theorem packPllSolution_fields {pllRefKhz : UInt32} {sol : PllSolution} {enc : PllEncoding}
    {word : Nat} (horder : 1 ≤ sol.dividerOrder.toNat ∧ sol.dividerOrder.toNat ≤ 6)
    (hn : 13 ≤ sol.nInteger.toNat ∧ sol.nInteger.toNat < 269)
    (hloop : sdmLoop pllRefKhz 16 2 0 sol.fractionalNum = some (UInt16.ofNat word))
    (hword : word < 2 ^ 16) (h : packPllSolution sol pllRefKhz = some enc) :
    (enc.divField >>> 5).toNat + 1 = sol.dividerOrder.toNat ∧
      4 * (enc.niSiPacked &&& 0x3F).toNat + (enc.niSiPacked >>> 6).toNat + 13 =
        sol.nInteger.toNat ∧
      enc.modeField = (if sol.isFractional then 0x00 else 0x08) ∧
      (sol.isFractional = true → 256 * enc.sdmHi.toNat + enc.sdmLo.toNat = word) := by
  cases hf : sol.isFractional with
  | false =>
    simp only [packPllSolution, hf] at h
    obtain rfl := Option.some_inj.mp h
    exact ⟨divField_order horder, niSi_integer hn, rfl, fun hfrac => absurd hfrac Bool.false_ne_true⟩
  | true =>
    simp only [packPllSolution, hf, hloop] at h
    obtain rfl := Option.some_inj.mp h
    refine ⟨divField_order horder, niSi_integer hn, rfl, fun _ => ?_⟩
    rw [word_bytes, UInt16.toNat_ofNat_of_lt' hword]

/-! ### The LO of an encoding -/

/-- What the fields of the PLL stand for: the order of the divider, the integer and the word. -/
structure PllFields where
  order : Nat
  nInteger : Nat
  sdm : Nat
deriving DecidableEq, Repr

/-- The fields in the registers of the tuner. -/
def pllFields (regs : UInt8 → UInt8) : PllFields :=
  { order := (regs 0x10 >>> 5).toNat + 1
    nInteger := 4 * (regs 0x14 &&& 0x3F).toNat + (regs 0x14 >>> 6).toNat + 13
    sdm := if regs 0x12 &&& 0x08 = 0 then 256 * (regs 0x16).toNat + (regs 0x15).toNat else 0 }

/-- The LO that the PLL makes of a crystal. -/
def PllFields.loHz (xtalHz : Nat) (p : PllFields) : ℚ :=
  2 * xtalHz * (p.nInteger + p.sdm / 65536) / 2 ^ p.order

/-- The registers hold an encoding. -/
structure Holds (regs : UInt8 → UInt8) (enc : PllEncoding) : Prop where
  divider : regs 0x10 &&& 0xE0 = enc.divField &&& 0xE0
  integer : regs 0x14 = enc.niSiPacked
  mode : regs 0x12 &&& 0x08 = enc.modeField &&& 0x08
  high : regs 0x16 = enc.sdmHi
  low : regs 0x15 = enc.sdmLo

theorem shift_masked (a b : UInt8) (h : a &&& 0xE0 = b &&& 0xE0) : a >>> 5 = b >>> 5 := by
  have hmask (n : UInt8) : (n &&& 0xE0) >>> 5 = n >>> 5 := by
    have hall : ∀ k < 256, (UInt8.ofNat k &&& 0xE0) >>> 5 = UInt8.ofNat k >>> 5 := by decide +kernel
    simpa using hall n.toNat n.toNat_lt
  rw [← hmask a, h, hmask]

theorem Holds.order {regs : UInt8 → UInt8} {enc : PllEncoding} (h : Holds regs enc) :
    (pllFields regs).order = (enc.divField >>> 5).toNat + 1 := by
  rw [pllFields, shift_masked _ _ h.divider]

theorem Holds.nInteger {regs : UInt8 → UInt8} {enc : PllEncoding} (h : Holds regs enc) :
    (pllFields regs).nInteger =
      4 * (enc.niSiPacked &&& 0x3F).toNat + (enc.niSiPacked >>> 6).toNat + 13 := by
  rw [pllFields, h.integer]

theorem Holds.sdm {regs : UInt8 → UInt8} {enc : PllEncoding} (h : Holds regs enc) :
    (pllFields regs).sdm =
      if enc.modeField &&& 0x08 = 0 then 256 * enc.sdmHi.toNat + enc.sdmLo.toNat else 0 := by
  rw [pllFields, h.mode, h.high, h.low]

/-- The registers give back the solution that they have been packed from. -/
theorem Holds.packed {regs : UInt8 → UInt8} {enc : PllEncoding} (h : Holds regs enc)
    {pllRefKhz : UInt32} {sol : PllSolution} {word : Nat}
    (horder : 1 ≤ sol.dividerOrder.toNat ∧ sol.dividerOrder.toNat ≤ 6)
    (hn : 13 ≤ sol.nInteger.toNat ∧ sol.nInteger.toNat < 269)
    (hloop : sdmLoop pllRefKhz 16 2 0 sol.fractionalNum = some (UInt16.ofNat word))
    (hword : word < 2 ^ 16) (hpack : packPllSolution sol pllRefKhz = some enc) :
    pllFields regs =
      ⟨sol.dividerOrder.toNat, sol.nInteger.toNat, if sol.isFractional then word else 0⟩ := by
  obtain ⟨hdiv, hinteger, hmode, hbytes⟩ := packPllSolution_fields horder hn hloop hword hpack
  have hsdm : (pllFields regs).sdm = if sol.isFractional then word else 0 := by
    rw [h.sdm, hmode]
    cases hf : sol.isFractional with
    | false => rfl
    | true => exact hbytes hf
  rw [← hdiv, ← hinteger, ← hsdm, ← h.order, ← h.nInteger]

theorem orderOf_divider (targetKhz : Nat) :
    (UInt8.ofNat (orderOf targetKhz)).toNat = orderOf targetKhz ∧
      UInt8.ofNat (orderOf targetKhz) ∈ dividerOrders := by
  have hall : ∀ n < 7, 1 ≤ n → (UInt8.ofNat n).toNat = n ∧ UInt8.ofNat n ∈ dividerOrders := by
    decide
  obtain ⟨hone, hsix⟩ := orderOf_range targetKhz
  exact hall _ (by omega) hone

/-- The one candidate for a target is the solution for its divider. -/
theorem enumerateCandidates_solve {req : SynthRequest} {targetKhz : Nat}
    (htarget : req.targetHz.toNat / 1000 = targetKhz) (hlo : 27657 ≤ targetKhz)
    (hhi : targetKhz < 1770000) :
    enumerateCandidates req =
      (solve (referenceKhz req) (req.targetHz / 1000) (UInt8.ofNat (orderOf targetKhz))).map
        fun sol => [sol] := by
  have hkhz : (req.targetHz / 1000).toNat = targetKhz := by simp [htarget]
  have hviable := @filter_viable (req.targetHz / 1000) (by omega) (by omega)
  rw [hkhz] at hviable
  simp only [enumerateCandidates, hviable, List.mapM_cons, List.mapM_nil]
  cases solve (referenceKhz req) (req.targetHz / 1000) (UInt8.ofNat (orderOf targetKhz)) <;> rfl

/-- The one candidate for a target, for a reference of `r` kHz. -/
theorem enumerateCandidates_eq {req : SynthRequest} {r : Nat}
    (href : (referenceKhz req).toNat = r) (hpos : 0 < r) (hfits : r < 2 ^ 31)
    {candidates : List PllSolution} (hc : enumerateCandidates req = some candidates)
    (hne : candidates ≠ []) {targetKhz : Nat} (htarget : req.targetHz.toNat / 1000 = targetKhz) :
    ∃ sol, candidates = [sol] ∧ sol.dividerOrder.toNat = orderOf targetKhz ∧
      sol.nInteger.toNat = targetKhz * 2 ^ orderOf targetKhz / (2 * r) ∧
      sol.fractionalNum.toNat = targetKhz * 2 ^ orderOf targetKhz % (2 * r) ∧
      1770000 ≤ targetKhz * 2 ^ orderOf targetKhz ∧
      targetKhz * 2 ^ orderOf targetKhz < 3540000 := by
  obtain ⟨hlo, hhi⟩ := (enumerateCandidates_ne_nil hc).mp hne
  have hkhz : (req.targetHz / 1000).toNat = targetKhz := by simp [htarget]
  rw [htarget] at hlo hhi
  obtain ⟨hfloor, hceil⟩ := orderOf_window hlo hhi
  obtain ⟨horder, hmem⟩ := orderOf_divider targetKhz
  rw [enumerateCandidates_solve htarget hlo hhi] at hc
  obtain ⟨sol, hsol, rfl⟩ := Option.map_eq_some_iff.mp hc
  obtain ⟨hsolOrder, hinteger, hfrac⟩ :=
    solve_ref href hpos hfits hmem (by rw [horder, hkhz]; exact hceil) hsol
  rw [horder, hkhz] at hinteger hfrac
  exact ⟨sol, rfl, by rw [hsolOrder, horder], hinteger, hfrac, hfloor, hceil⟩

/-- The VCO of what is programmed for a target is off by `synthError`. -/
theorem synthesis {req : SynthRequest} (href : referenceKhz req = 28800)
    {candidates : List PllSolution} {chosen : PllSolution} {enc : PllEncoding}
    (hc : enumerateCandidates req = some candidates)
    (hchosen : rankAndSelect (candidates.map (normalizeSpurAvoidance 28800)) = some chosen)
    (henc : packPllSolution chosen 28800 = some enc) {regs : UInt8 → UInt8} (h : Holds regs enc)
    {targetKhz : Nat} (htarget : req.targetHz.toNat / 1000 = targetKhz) :
    (pllFields regs).order = orderOf targetKhz ∧
      (256 * 57600 * (pllFields regs).nInteger + 225 * (pllFields regs).sdm : Int) =
        256 * (targetKhz * 2 ^ orderOf targetKhz : Nat) +
          synthError (targetKhz * 2 ^ orderOf targetKhz % 57600) := by
  obtain ⟨sol, rfl, horder, hinteger, hfrac, hfloor, hceil⟩ :=
    @enumerateCandidates_eq req 28800 (by rw [href]; rfl) (by decide) (by decide) _ hc
      (by rintro rfl; cases hchosen) _ htarget
  simp only [Nat.reduceMul] at hinteger hfrac
  obtain rfl := Option.some_inj.mp hchosen
  obtain ⟨hupper, hlower, hle, herror⟩ := @normalize_error sol (by omega) (by omega)
  have hchosenOrder : (normalizeSpurAvoidance 28800 sol).dividerOrder = sol.dividerOrder := rfl
  have hrange := orderOf_range targetKhz
  have hfields := h.packed (by rw [hchosenOrder, horder]; exact hrange) (by omega)
    (sdmLoop_word hle) (sdmWord_lt hle) henc
  have hsdm : (if (normalizeSpurAvoidance 28800 sol).isFractional then
      sdmWord (normalizeSpurAvoidance 28800 sol).fractionalNum.toNat else 0) =
        sdmWord (normalizeSpurAvoidance 28800 sol).fractionalNum.toNat := by
    split
    · rfl
    · rename_i hf
      have hzero : (normalizeSpurAvoidance 28800 sol).fractionalNum = 0 :=
        not_not.mp fun hne => hf ((normalize_isFractional 28800 sol).mpr hne)
      rw [hzero]
      rfl
  rw [hfields, hchosenOrder, horder, hsdm]
  refine ⟨rfl, ?_⟩
  rw [hfrac, hinteger] at herror
  dsimp only
  omega

/-! ### The LO against its target -/

/-- What the LO is off by, for a target of `1000 * targetKhz + hz`. -/
theorem loHz_gap {p : PllFields} {targetKhz hz : Nat} {e : Int}
    (h : (256 * 57600 * p.nInteger + 225 * p.sdm : Int) =
      256 * (targetKhz * 2 ^ p.order : Nat) + e) :
    p.loHz 28800000 - (1000 * targetKhz + hz : Nat) =
      (125 * e - 32 * 2 ^ p.order * hz : Int) / (32 * 2 ^ p.order : Nat) := by
  have hcast := congrArg (Int.cast : Int → ℚ) h
  have hpow : (2 : ℚ) ^ p.order ≠ 0 := by positivity
  unfold PllFields.loHz
  push_cast at hcast ⊢
  field_simp
  linear_combination 125 * 65536 * hcast

/-- The part of an LO below one kHz makes up for the error of the synthesis, to within one Hz. -/
def OnGrid (lo : Nat) : Prop :=
  let divider := 2 ^ orderOf (lo / 1000)
  let error := synthError (lo / 1000 * divider % 57600)
  (125 * error - 32 * divider * (lo % 1000 : Nat)).natAbs ≤ 32 * divider

theorem loHz_within_iff {p : PllFields} {lo : Nat} (horder : p.order = orderOf (lo / 1000))
    (h : (256 * 57600 * p.nInteger + 225 * p.sdm : Int) =
      256 * (lo / 1000 * 2 ^ orderOf (lo / 1000) : Nat) +
        synthError (lo / 1000 * 2 ^ orderOf (lo / 1000) % 57600)) :
    |p.loHz 28800000 - lo| ≤ 1 ↔ OnGrid lo := by
  rw [← horder] at h
  have hgap := @loHz_gap p (lo / 1000) (lo % 1000) _ h
  rw [Nat.div_add_mod] at hgap
  rw [hgap, abs_div_le_one (by positivity), OnGrid, ← horder]
  push_cast
  rfl

end Sdrgg.R820t
