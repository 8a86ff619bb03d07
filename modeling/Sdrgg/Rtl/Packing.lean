import Sdrgg.ProofKit.Slices
import Sdrgg.Rtl.Demod
import Mathlib.Algebra.Order.Floor.Ring
import Mathlib.Data.Rat.Floor

/-! Signed numbers in the registers of page 1: the NCO word in three registers, and the filter taps
in twenty. -/

namespace Sdrgg.Rtl

open ProofKit Usb

/-! ### The NCO word -/

/-- The 22-bit number in registers 0x19 (six bits), 0x1A and 0x1B. -/
def ncoValue (regs : UInt8 → UInt8) : BitVec 22 :=
  (regs 0x19).toBitVec.setWidth 6 ++ (regs 0x1A).toBitVec ++ (regs 0x1B).toBitVec

theorem ncoBytes_high (word : Int32) :
    (ncoBytes word).1.toBitVec.setWidth 6 = word.toBitVec.extractLsb' 16 6 := by
  rw [← setWidth_sshiftRight _ (by decide),
    ← setWidth_and_mask (word.toBitVec.sshiftRight 16) (m := 0x3F#32) (by decide)]
  simp [ncoBytes, Int32.toBitVec_shiftRight]

theorem ncoBytes_middle (word : Int32) :
    (ncoBytes word).2.1.toBitVec = word.toBitVec.extractLsb' 8 8 := by
  rw [← setWidth_sshiftRight _ (by decide),
    ← setWidth_and_mask (word.toBitVec.sshiftRight 8) (m := 0xFF#32) (by decide)]
  simp [ncoBytes, Int32.toBitVec_shiftRight]

theorem ncoBytes_low (word : Int32) :
    (ncoBytes word).2.2.toBitVec = word.toBitVec.extractLsb' 0 8 := by
  rw [← BitVec.setWidth_eq_extractLsb' (by decide),
    ← setWidth_and_mask word.toBitVec (m := 0xFF#32) (by decide)]
  simp [ncoBytes]

theorem ncoValue_withNco (regs : UInt8 → UInt8) (word : Int32) :
    ncoValue (withNco regs (ncoBytes word)) = word.toBitVec.setWidth 22 := by
  obtain ⟨hhigh, hrest⟩ := Prod.ext_iff.mp (nco_withNco regs (ncoBytes word))
  obtain ⟨hmiddle, hlow⟩ := Prod.ext_iff.mp hrest
  dsimp only [nco] at hhigh hmiddle hlow
  rw [ncoValue, hhigh, hmiddle, hlow, ncoBytes_high, ncoBytes_middle, ncoBytes_low]
  exact three_slices (i := 6) (j := 8) (k := 8) word.toBitVec (by decide)

/-- The magnitude of the NCO word. -/
def ncoSteps (xtal ifFreqHz : UInt32) : Nat := ifFreqHz.toNat * 2 ^ 22 / xtal.toNat

section Steps

variable {xtal ifFreqHz : UInt32} {word : Int32}

theorem ncoSteps_lt (hif : 2 * ifFreqHz.toNat < xtal.toNat) : ncoSteps xtal ifFreqHz < 2 ^ 21 :=
  Nat.div_lt_of_lt_mul (by omega)

theorem ncoWord_toInt (hif : 2 * ifFreqHz.toNat < xtal.toNat)
    (h : ncoWord xtal ifFreqHz = some word) : word.toInt = -(ncoSteps xtal ifFreqHz : Int) := by
  have hlt := ncoSteps_lt hif
  unfold ncoWord at h
  split at h
  · rename_i hzero
    obtain rfl := Option.some_inj.mp h
    simp [ncoSteps, hzero]
  · rw [if_neg (by rintro rfl; simp at hif)] at h
    change (if Int32.ofNat (ncoSteps xtal ifFreqHz) = Int32.minValue then _ else _) = _ at h
    split at h
    · cases h
    · obtain rfl := Option.some_inj.mp h
      have hint : (Int32.ofNat (ncoSteps xtal ifFreqHz)).toInt = ncoSteps xtal ifFreqHz :=
        Int32.toInt_ofNat_of_lt (by omega)
      have hfits : Fits 32 (-(ncoSteps xtal ifFreqHz : Int)) := ⟨by omega, by omega⟩
      have hneg : (-Int32.ofNat (ncoSteps xtal ifFreqHz)).toInt = -(ncoSteps xtal ifFreqHz : Int) := by
        rw [Int32.toInt_neg, hint]
        exact hfits.bmod (by decide)
      exact hneg

theorem ncoWord_fits (hif : 2 * ifFreqHz.toNat < xtal.toNat)
    (h : ncoWord xtal ifFreqHz = some word) : Fits 22 word.toInt := by
  have hlt := ncoSteps_lt hif
  rw [ncoWord_toInt hif h]
  exact ⟨by omega, by omega⟩

theorem ncoSteps_floor (xtal ifFreqHz : UInt32) :
    (ncoSteps xtal ifFreqHz : Int) = ⌊(ifFreqHz.toNat * 2 ^ 22 / xtal.toNat : ℚ)⌋ := by
  have hfloor := Rat.floor_natCast_div_natCast (ifFreqHz.toNat * 2 ^ 22) xtal.toNat
  rw [Nat.cast_mul, Nat.cast_pow, Nat.cast_ofNat] at hfloor
  exact hfloor.symm

/-- A frequency is less than one step of the NCO above its steps. -/
theorem floor_steps (f : ℚ) {x : ℚ} (hx : 0 < x) :
    0 ≤ f + -⌊f * 2 ^ 22 / x⌋ * x / 2 ^ 22 ∧ f + -⌊f * 2 ^ 22 / x⌋ * x / 2 ^ 22 < x / 2 ^ 22 := by
  have hstep : 0 < x / 2 ^ 22 := by positivity
  have hdiv : f * 2 ^ 22 / x = f / (x / 2 ^ 22) := (div_div_eq_mul_div f x _).symm
  have hsub : f + -⌊f * 2 ^ 22 / x⌋ * x / 2 ^ 22 = f - ⌊f / (x / 2 ^ 22)⌋ * (x / 2 ^ 22) := by
    rw [hdiv]
    ring
  rw [hsub]
  exact ⟨Int.sub_floor_div_mul_nonneg f hstep, Int.sub_floor_div_mul_lt f hstep⟩

end Steps

/-! ### The filter taps -/

/-- Pairs of 12-bit values in groups of three bytes. -/
def unpackPairs : List UInt8 → List Int
  | b0 :: b1 :: b2 :: bytes =>
    (b0.toBitVec ++ b1.toBitVec.extractLsb' 4 4).toInt ::
      (b1.toBitVec.extractLsb' 0 4 ++ b2.toBitVec).toInt :: unpackPairs bytes
  | _ => []

/-- The taps in a packed image: eight signed bytes, then the pairs. -/
def unpackCoefficients (packed : List UInt8) : List Int :=
  (packed.take 8).map (fun byte => byte.toBitVec.toInt) ++ unpackPairs (packed.drop 8)

/-- A kernel of sixteen taps, the first eight of 8 bits and the others of 12. -/
structure TapsFit (kernel : List Int16) : Prop where
  length : kernel.length = 16
  bytes : ∀ k < 8, Fits 8 (kernel.getD k 0).toInt
  pairs : ∀ k < 16, 8 ≤ k → Fits 12 (kernel.getD k 0).toInt

def tap (kernel : List Int16) (k : Nat) : Int32 := (kernel.getD k 0).toInt32

/-- The three bytes of two taps. -/
def tapPair (a b : Int32) : List UInt8 :=
  [ (a >>> 4).toUInt32.toUInt8, ((a <<< 4) ||| ((b >>> 8) &&& 0x0F)).toUInt32.toUInt8,
    b.toUInt32.toUInt8 ]

theorem coefficientWrites_range (kernel : List Int16) :
    (coefficientWrites kernel).map Prod.fst = List.range 20 := rfl

theorem packCoefficients_eq (kernel : List Int16) :
    packCoefficients kernel =
      (List.range 8).map (fun k => (tap kernel k).toUInt32.toUInt8) ++
        [0, 2, 4, 6].flatMap fun k => tapPair (tap kernel (8 + k)) (tap kernel (8 + k + 1)) :=
  @foldl_set_range _ 0 (coefficientWrites kernel) [] (coefficientWrites_range kernel)

section Taps

variable {a b : Int32}

theorem tapByte_toInt (h : Fits 8 a.toInt) : a.toUInt32.toUInt8.toBitVec.toInt = a.toInt := by
  rw [UInt32.toBitVec_toUInt8, Int32.toBitVec_toUInt32]
  exact Fits.toInt_setWidth (b := a.toBitVec) (by decide) (by decide) h

theorem tapPair_first (a : Int32) :
    (a >>> 4).toUInt32.toUInt8.toBitVec = a.toBitVec.extractLsb' 4 8 := by
  rw [← setWidth_sshiftRight _ (by decide)]
  simp [Int32.toBitVec_shiftRight]

theorem tapPair_middle (a b : Int32) :
    ((a <<< 4) ||| ((b >>> 8) &&& 0x0F)).toUInt32.toUInt8.toBitVec =
      a.toBitVec.extractLsb' 0 4 ++ b.toBitVec.extractLsb' 8 4 := by
  have hjoin := setWidth_shiftLeft_or a.toBitVec (b.toBitVec.sshiftRight 8) (i := 4) (k := 4)
    (by decide)
  rw [setWidth_sshiftRight _ (by decide)] at hjoin
  rw [← BitVec.setWidth_eq_extractLsb' (by decide)]
  refine Eq.trans ?_ hjoin
  simp [Int32.toBitVec_shiftRight]

theorem tapPair_last (b : Int32) :
    b.toUInt32.toUInt8.toBitVec = b.toBitVec.extractLsb' 0 8 := by
  rw [← BitVec.setWidth_eq_extractLsb' (by decide)]
  simp

/-- The two taps are in the three bytes, each with its sign. -/
theorem unpackPairs_tapPair (ha : Fits 12 a.toInt) (hb : Fits 12 b.toInt) (bytes : List UInt8) :
    unpackPairs (tapPair a b ++ bytes) = a.toInt :: b.toInt :: unpackPairs bytes := by
  have hfirst : (a.toBitVec.extractLsb' 4 8 ++ a.toBitVec.extractLsb' 0 4).toInt = a.toInt := by
    rw [two_slices (i := 8) (j := 4) a.toBitVec (by decide)]
    exact ha.toInt_setWidth (by decide) (by decide)
  have hlast : (b.toBitVec.extractLsb' 8 4 ++ b.toBitVec.extractLsb' 0 8).toInt = b.toInt := by
    rw [two_slices (i := 4) (j := 8) b.toBitVec (by decide)]
    exact hb.toInt_setWidth (by decide) (by decide)
  simp only [tapPair, List.cons_append, List.nil_append, unpackPairs]
  rw [tapPair_first, tapPair_middle, tapPair_last, BitVec.extractLsb'_append_eq_left,
    BitVec.extractLsb'_append_eq_right, hfirst, hlast]

end Taps

theorem unpackPairs_flatMap {f g : Nat → Int32} {ks : List Nat}
    (h : ∀ k ∈ ks, Fits 12 (f k).toInt ∧ Fits 12 (g k).toInt) :
    unpackPairs (ks.flatMap fun k => tapPair (f k) (g k)) =
      ks.flatMap fun k => [(f k).toInt, (g k).toInt] := by
  induction ks with
  | nil => rfl
  | cons k ks ih =>
    obtain ⟨hk, hks⟩ := List.forall_mem_cons.mp h
    rw [List.flatMap_cons, unpackPairs_tapPair hk.1 hk.2, ih hks]
    rfl

/-- Unpacking gives the taps of a kernel back. -/
theorem TapsFit.unpack {kernel : List Int16} (h : TapsFit kernel) :
    unpackCoefficients (packCoefficients kernel) = kernel.map Int16.toInt := by
  have htap : ∀ k, (tap kernel k).toInt = (kernel.getD k 0).toInt := fun k => Int16.toInt_toInt32 _
  have hbytes : ∀ k ∈ List.range 8, (tap kernel k).toUInt32.toUInt8.toBitVec.toInt =
      (kernel.getD k 0).toInt := fun k hk =>
    (tapByte_toInt (htap k ▸ h.bytes k (List.mem_range.mp hk))).trans (htap k)
  have hpairs : ∀ k ∈ [0, 2, 4, 6],
      Fits 12 (tap kernel (8 + k)).toInt ∧ Fits 12 (tap kernel (8 + k + 1)).toInt := by
    intro k hk
    simp only [htap]
    have hlt : k ≤ 6 := by
      simp only [List.mem_cons, List.not_mem_nil, or_false] at hk
      omega
    exact ⟨h.pairs _ (by omega) (by omega), h.pairs _ (by omega) (by omega)⟩
  have hkernel : kernel.map Int16.toInt = (List.range 16).map fun k => (kernel.getD k 0).toInt := by
    refine List.ext_getElem (by simp [h.length]) fun i hi _ => ?_
    have hlt : i < kernel.length := by simpa using hi
    simp [hlt]
  rw [packCoefficients_eq, unpackCoefficients, List.take_left' (by simp), List.drop_left' (by simp),
    List.map_map, unpackPairs_flatMap hpairs, hkernel]
  simp only [htap]
  exact congrArg (· ++ _) (List.map_congr_left hbytes)

/-! ### Twenty writes -/

/-- `deploy_filter_coefficients` with the taps of a kernel. -/
def deployKernel (kernel : List Int16) : DevM Unit :=
  (List.range 20).forM fun k =>
    submitDemodWrite 1 (0x1C + k.toUInt8) ((packCoefficients kernel).getD k 0).toUInt16 1

theorem deployKernel_filterKernel : deployKernel filterKernel = deployFilterCoefficients := rfl

theorem coefficientReg_toNat {k : Nat} (hk : k < 20) :
    (0x1C + k.toUInt8 : UInt8).toNat = 0x1C + k := by
  have hbase : (0x1C : UInt8).toNat = 0x1C := rfl
  have hindex : k.toUInt8.toNat = k := UInt8.toNat_ofNat_of_lt' (Nat.lt_trans hk (by decide))
  rw [UInt8.toNat_add, hbase, hindex]
  omega

/-- The registers after writes of one byte each to 0x1C and those above it. -/
theorem writeRun_page1 {c : Chip} {env : Env} {w w' : World} (byte : Nat → UInt8) {n : Nat}
    (hn : n ≤ 20)
    (h : (List.range n).forM (fun k => submitDemodWrite 1 (0x1C + k.toUInt8) (byte k).toUInt16 1)
      env w = (.ok (), w')) (reg : UInt8) :
    page1 c w' reg =
      if 0x1C ≤ reg.toNat ∧ reg.toNat < 0x1C + n then byte (reg.toNat - 0x1C)
      else page1 c w reg := by
  induction n generalizing w' with
  | zero =>
    cases h
    rw [if_neg (by omega)]
  | succ n ih =>
    rw [List.range_succ, Act.forM_append, Act.forM_singleton] at h
    obtain ⟨_, u, hu, hv⟩ := Act.bind_eq_ok.mp h
    have hreg := coefficientReg_toNat (k := n) (by omega)
    have hne : (0x1C + n.toUInt8 : UInt8) ≠ 0x01 := by
      intro heq
      rw [heq] at hreg
      have hone : (0x01 : UInt8).toNat = 1 := rfl
      omega
    rw [submitDemodWrite_page1 hv, demodWritten_byte hne, Function.update_apply, ih (by omega) hu,
      UInt8.toUInt8_toUInt16]
    by_cases hlast : reg = 0x1C + n.toUInt8
    · obtain rfl := hlast
      rw [if_pos rfl, if_pos (by omega), hreg, Nat.add_sub_cancel_left]
    · have hlast' : reg.toNat ≠ 0x1C + n := fun heq => hlast (UInt8.toNat_inj.mp (heq.trans hreg.symm))
      rw [if_neg hlast]
      by_cases hrun : 0x1C ≤ reg.toNat ∧ reg.toNat < 0x1C + n
      · rw [if_pos hrun, if_pos (by omega)]
      · rw [if_neg hrun, if_neg (by omega)]

end Sdrgg.Rtl
