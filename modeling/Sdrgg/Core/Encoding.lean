import Sdrgg.Core.Reported
import Sdrgg.Rtl.Packing
import Sdrgg.Rtl.Pages

/-! What operations leave in the registers of the demodulator: `set_if_freq` in the NCO,
`deploy_filter_coefficients` in the filter, and bulk accesses in any page. -/

namespace Sdrgg.Sdr

open ProofKit Usb Rtl

/-! ### The NCO -/

/-- `set_if_freq` with an IF below half the crystal. -/
theorem setIfFreq_round_trip (c : Chip) (env : Env) (w w' : World) (ifFreqHz : UInt32)
    (hif : 2 * ifFreqHz.toNat < w.dev.baseband.oscillatorHz.toNat) :
    (setIfFreq ifFreqHz env w = (.ok (), w') →
      (ncoValue (page1 c w')).toInt =
          -⌊(ifFreqHz.toNat * 2 ^ 22 / w.dev.baseband.oscillatorHz.toNat : ℚ)⌋ ∧
        0 ≤ (ifFreqHz.toNat : ℚ) +
          (ncoValue (page1 c w')).toInt * w.dev.baseband.oscillatorHz.toNat / 2 ^ 22 ∧
        (ifFreqHz.toNat : ℚ) +
            (ncoValue (page1 c w')).toInt * w.dev.baseband.oscillatorHz.toNat / 2 ^ 22 <
          w.dev.baseband.oscillatorHz.toNat / 2 ^ 22 ∧
        w'.dev.tuning.ifOffsetHz = ifFreqHz) ∧
    ∀ e, setIfFreq ifFreqHz env w = (.error e, w') →
      w'.dev.tuning.ifOffsetHz = w.dev.tuning.ifOffsetHz := by
  constructor
  · intro h
    obtain ⟨word, hword, hpage⟩ := setIfFreq_page1 (c := c) h
    have hvalue : (ncoValue (page1 c w')).toInt =
        -⌊(ifFreqHz.toNat * 2 ^ 22 / w.dev.baseband.oscillatorHz.toNat : ℚ)⌋ := by
      rw [hpage, ncoValue_withNco, ← ncoSteps_floor, ← ncoWord_toInt hif hword]
      exact (ncoWord_fits hif hword).toInt_setWidth (by decide) (by decide)
    have hxtal : 0 < (w.dev.baseband.oscillatorHz.toNat : ℚ) := by
      exact_mod_cast Nat.zero_lt_of_lt hif
    obtain ⟨hnonneg, hlt⟩ := floor_steps ifFreqHz.toNat hxtal
    rw [hvalue]
    push_cast
    exact ⟨rfl, hnonneg, hlt, congrArg (fun c => c.tuning.ifOffsetHz) (setIfFreq_ok h)⟩
  · intro e h
    exact congrArg (fun c => c.tuning.ifOffsetHz) (setIfFreq_fault h)

/-- The IF of 3.57 MHz on a crystal of 28.8 MHz. -/
theorem setIfFreq_round_trip_low_if :
    ∃ w', setIfFreq 3570000 steadyEnv openedR820t = (.ok (), w') ∧
      (ncoValue (page1 blankChip w')).toInt = -519918 ∧ w'.dev.tuning.ifOffsetHz = 3570000 := by
  obtain ⟨word, hword⟩ := ncoWord_crystal 3570000
  obtain ⟨w', h⟩ := total_setIfFreq steadyEnv_succeeds.accepts (w := openedR820t) hword
  obtain ⟨hvalue, -, -, hif⟩ :=
    (setIfFreq_round_trip blankChip steadyEnv openedR820t w' 3570000 (by decide)).1 h
  refine ⟨w', h, hvalue.trans ?_, hif⟩
  have hosc : openedR820t.dev.baseband.oscillatorHz.toNat = 28800000 := rfl
  have hhz : (3570000 : UInt32).toNat = 3570000 := rfl
  rw [hosc, hhz]
  norm_num

/-- Over every history of a device its IF stays below half the crystal. -/
theorem run_if_below_half {env : Env} {caps : TunerCaps} (hcaps : caps ∈ implementedCaps)
    {w0 w : World} {calls : List ApiCall}
    (hopen : Opened caps.tunerType caps.i2cAddr caps.ifFreqHz w0)
    (hrun : run (apiStep env) w0 calls = some w) :
    2 * w.dev.tuning.ifOffsetHz.toNat < w.dev.baseband.oscillatorHz.toNat := by
  have hfooted := run_footed hcaps (hopen.footed hcaps) hrun
  have hlow : w.dev.tuning.ifOffsetHz.toNat ≤ 4570000 := hfooted.lowIf
  have hosc : w.dev.baseband.oscillatorHz.toNat = 28800000 := congrArg UInt32.toNat hfooted.oscillator
  omega

/-! ### The filter -/

/-- The packed image of every kernel that fits: unpacking it gives the kernel back, each of its
bytes is written once, and byte `k` goes to register 0x1C + `k`. -/
theorem coefficients_lossless (kernel : List Int16) (h : TapsFit kernel) :
    unpackCoefficients (packCoefficients kernel) = kernel.map Int16.toInt ∧
      (coefficientWrites kernel).map Prod.fst = List.range 20 ∧
      deployKernel filterKernel = deployFilterCoefficients ∧
      ∀ (c : Chip) (env : Env) (w w' : World), deployKernel kernel env w = (.ok (), w') →
        (∀ k < 20, page1 c w' (0x1C + k.toUInt8) = (packCoefficients kernel).getD k 0) ∧
          ∀ reg : UInt8, reg < 0x1C ∨ 0x30 ≤ reg → page1 c w' reg = page1 c w reg := by
  refine ⟨h.unpack, coefficientWrites_range kernel, rfl, fun c env w w' hdeploy => ⟨?_, ?_⟩⟩
  · intro k hk
    have hreg := coefficientReg_toNat hk
    rw [writeRun_page1 (fun k => (packCoefficients kernel).getD k 0) (Nat.le_refl 20) hdeploy,
      if_pos (by omega), hreg, Nat.add_sub_cancel_left]
  · intro reg hreg
    rw [UInt8.lt_iff_toNat_lt, UInt8.le_iff_toNat_le] at hreg
    have hlow : (0x1C : UInt8).toNat = 28 := rfl
    have hhigh : (0x30 : UInt8).toNat = 48 := rfl
    rw [writeRun_page1 (fun k => (packCoefficients kernel).getD k 0) (Nat.le_refl 20) hdeploy,
      if_neg (by omega)]

/-- The kernel of the firmware fits. -/
theorem filterKernel_lossless :
    unpackCoefficients (packCoefficients filterKernel) = filterKernel.map Int16.toInt :=
  (coefficients_lossless filterKernel
    ⟨rfl, by decide +kernel, by decide +kernel⟩).1

/-! ### Bulk accesses -/

/-- Bulk accesses agree with single ones exactly when they stay in the page of their first
register. -/
theorem bulk_agrees_iff (reg : UInt16) (data : List UInt8) :
    (WritesAgree reg data ↔ reg.toUInt8.toNat + data.length ≤ 256) ∧
    (ReadsAgree reg data.length ↔ reg.toUInt8.toNat + data.length ≤ 256) := by
  refine ⟨⟨fun h => ?_, writesAgree_within⟩, ⟨fun h => ?_, readsAgree_within⟩⟩
  · by_contra hacross
    exact writes_across (Nat.lt_of_not_le hacross) (w := blankWorld) rfl h
  · by_contra hacross
    exact reads_across (Nat.lt_of_not_le hacross) blankWorld h

/-- Two bytes from register 0xFF of page 0 on: the bulk write puts the second one into register 0x00
of page 0, and single writes into that of page 1. -/
theorem bulk_wraps :
    (demodWriteBulk 0 0x00FF [0xAA, 0x55] steadyEnv blankWorld).1 = .ok () ∧
    (writeSingly 0x00FF [0xAA, 0x55] steadyEnv blankWorld).1 = .ok () ∧
    (pages (fun _ _ => 0) (demodWriteBulk 0 0x00FF [0xAA, 0x55] steadyEnv blankWorld).2 0x10 0x00 =
        0x55 ∧
      pages (fun _ _ => 0) (demodWriteBulk 0 0x00FF [0xAA, 0x55] steadyEnv blankWorld).2 0x11 0x00 =
        0x00) ∧
    pages (fun _ _ => 0) (writeSingly 0x00FF [0xAA, 0x55] steadyEnv blankWorld).2 0x10 0x00 = 0x00 ∧
    pages (fun _ _ => 0) (writeSingly 0x00FF [0xAA, 0x55] steadyEnv blankWorld).2 0x11 0x00 = 0x55 := by
  refine ⟨rfl, rfl, ⟨?_, ?_⟩, ?_, ?_⟩ <;> decide +kernel

end Sdrgg.Sdr
