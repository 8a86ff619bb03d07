import Sdrgg.Core.Success

/-! The capabilities of the implemented tuner families, and the part of their advertised ranges that
can be tuned. -/

namespace Sdrgg.Sdr

open ProofKit Usb Rtl

/-- `tuner_caps`, as far as it speaks of tuning. -/
structure TunerCaps where
  tunerType : TunerType
  i2cAddr : UInt16
  freqMinHz : UInt32
  freqMaxHz : UInt32
  ifFreqHz : UInt32
  pllStepHz : UInt32
deriving DecidableEq, Repr

def r820tCaps : TunerCaps :=
  { tunerType := .r820t
    i2cAddr := 0x34
    freqMinHz := 24000000
    freqMaxHz := 1766000000
    ifFreqHz := 3570000
    pllStepHz := 1 }

def fc0012Caps : TunerCaps :=
  { tunerType := .fc0012
    i2cAddr := 0xC6
    freqMinHz := 22000000
    freqMaxHz := 948600000
    ifFreqHz := 0
    pllStepHz := 1 }

def implementedCaps : List TunerCaps := [r820tCaps, fc0012Caps]

/-- The part of an advertised range that the solvers cover: the PLL of the R820T starts above it, and
the FC0012 has no ratio for its upper end. -/
def Tunable (caps : TunerCaps) (freqHz : UInt32) : Prop :=
  if caps.tunerType = .fc0012 then freqHz < 948600000 else 24087000 ≤ freqHz

instance (caps : TunerCaps) (freqHz : UInt32) : Decidable (Tunable caps freqHz) :=
  inferInstanceAs
    (Decidable (if caps.tunerType = .fc0012 then freqHz < 948600000 else 24087000 ≤ freqHz))

section Succeeds

variable {env : Env} (h : env.Succeeds)

include h

theorem tunable_r820t (hlock : env.Locked) {w : World} (hopen : OpenedR820t w)
    (hppm : w.dev.baseband.freqOffsetPpm = 0) {freqHz : UInt32} (hmax : freqHz ≤ 1766000000) :
    (∃ hz w', setFrequency freqHz env w = (.ok hz, w')) ↔ 24087000 ≤ freqHz := by
  have hmax : freqHz.toNat ≤ 1766000000 := UInt32.le_iff_toNat_le.mp hmax
  have hsum : (freqHz + w.dev.tuning.ifOffsetHz).toNat = freqHz.toNat + 3570000 := by
    rw [hopen.ifOffset, UInt32.toNat_add, show (3570000 : UInt32).toNat = 3570000 from rfl]
    omega
  have hclass : w.dev.identity.tunerClass = .r820t :=
    congrArg DeviceIdentity.tunerClass hopen.identity
  rw [UInt32.le_iff_toNat_le, show (24087000 : UInt32).toNat = 24087000 from rfl]
  constructor
  · rintro ⟨hz, w', hset⟩
    obtain ⟨-, hlo, -⟩ := setFrequency_ok (hclass ▸ nofun) hset
    omega
  · intro hmin
    exact total_setFrequency h.accepts hlock (hclass ▸ rfl) hopen.oscillator hppm (by omega)
      (by omega)

theorem tunable_fc0012 {w : World} (hopen : OpenedFc0012 w) {freqHz : UInt32}
    (hmin : 22000000 ≤ freqHz) (hmax : freqHz ≤ 948600000) :
    (∃ hz w', setFrequency freqHz env w = (.ok hz, w')) ↔ freqHz < 948600000 := by
  have hmin : 22000000 ≤ freqHz.toNat := UInt32.le_iff_toNat_le.mp hmin
  have hmax : freqHz.toNat ≤ 948600000 := UInt32.le_iff_toNat_le.mp hmax
  obtain ⟨v, hconfig, hiff⟩ := @setFrequency_iff env h.accepts freqHz w
  have hidentity : v.dev.identity = ⟨.fc0012, 0xC6⟩ :=
    (congrArg Config.identity hconfig).trans hopen.identity
  have hbaseband : v.dev.baseband = w.dev.baseband := congrArg Config.baseband hconfig
  rw [hiff, tune, Act.bind_of_ok (device_apply env v), hidentity, if_pos rfl,
    Fc0012.setFreq_iff h.accepts (hbaseband ▸ hopen.oscillator) hmin hmax, UInt32.lt_iff_toNat_lt]
  rfl

/-- On a freshly opened device whose transfers succeed and whose PLL locks, an advertised frequency
is set exactly when the solver of the family covers it. -/
theorem advertised_range_tunable (hlock : env.Locked) {caps : TunerCaps}
    (hcaps : caps ∈ implementedCaps) {w : World}
    (hopen : Opened caps.tunerType caps.i2cAddr caps.ifFreqHz w)
    (hppm : w.dev.baseband.freqOffsetPpm = 0) {freqHz : UInt32} (hmin : caps.freqMinHz ≤ freqHz)
    (hmax : freqHz ≤ caps.freqMaxHz) :
    (∃ hz w', setFrequency freqHz env w = (.ok hz, w')) ↔ Tunable caps freqHz := by
  simp only [implementedCaps, List.mem_cons, List.not_mem_nil, or_false] at hcaps
  obtain rfl | rfl := hcaps
  · exact tunable_r820t h hlock hopen hppm hmax
  · exact tunable_fc0012 h hopen hmin hmax

end Succeeds

/-- Both ends fail: the lowest advertised frequency of the R820T and the highest of the FC0012. -/
theorem advertised_range_untunable :
    (¬∃ hz w', setFrequency r820tCaps.freqMinHz steadyEnv openedR820t = (.ok hz, w')) ∧
      ¬∃ hz w', setFrequency fc0012Caps.freqMaxHz steadyEnv openedFc0012 = (.ok hz, w') := by
  constructor
  · rw [tunable_r820t steadyEnv_succeeds steadyEnv_locked openedR820t_opened rfl (by decide)]
    decide
  · rw [tunable_fc0012 steadyEnv_succeeds openedFc0012_opened (by decide) (by decide)]
    decide

/-- 100 MHz is tunable on an R820T. -/
theorem advertised_range_tunable_vhf :
    ∃ hz w', setFrequency 100000000 steadyEnv openedR820t = (.ok hz, w') :=
  (@advertised_range_tunable _ steadyEnv_succeeds steadyEnv_locked r820tCaps (by decide) _
    openedR820t_opened rfl _ (by decide) (by decide)).mpr (by decide)

end Sdrgg.Sdr
