import Sdrgg.Core.Success
import Sdrgg.Rtl.Rate
import Sdrgg.ProofKit.Run

/-! The LO of an R820T and the IF of its demodulator: when the two agree over a sequence of
configuration calls, and how a change of the sample rate takes them apart. -/

namespace Sdrgg.Sdr

open ProofKit Usb Rtl

/-! ### The invariant of an R820T -/

/-- A device with an R820T and one of its IFs. -/
structure LowIf (c : Config) : Prop where
  isR820t : c.identity.tunerClass.isR820t = true
  ifOffset : c.tuning.ifOffsetHz.toNat ≤ 4570000

/-- The LO requested last lies above the center frequency by the IF that is programmed. -/
def LoAgrees (w : World) : Prop :=
  ∀ lo, w.loRequested = some lo →
    (lo.toNat : Int) - w.dev.tuning.ifOffsetHz.toNat = w.dev.tuning.centerFreqHz.toNat

/-- The call does not move the IF away from under an LO: a rate that is set after a frequency selects
the IF that is programmed, or none. -/
def KeepsIf (w : World) : ConfigCall → Prop
  | .setSampleRate rateHz =>
    w.loRequested.isSome → ∀ xtal, correctedXtal w.dev.baseband = some xtal →
      ∀ khz, selectedIf xtal.toNat rateHz.toNat = some khz →
        khz * 1000 = w.dev.tuning.ifOffsetHz.toNat
  | _ => True

theorem OpenedR820t.lowIf {w : World} (h : OpenedR820t w) : LowIf w.config :=
  { isR820t := by
      rw [World.config_identity, h.identity]
      rfl
    ifOffset := by
      rw [World.config_tuning, h.ifOffset]
      decide }

theorem LowIf.ne_fc0012 {c : Config} (h : LowIf c) : c.identity.tunerClass ≠ .fc0012 := by
  intro hclass
  have := h.isR820t
  rw [hclass] at this
  cases this

/-! ### What the calls do to LO and IF -/

/-- The sum of a frequency and its IF is exact where the PLL has a solution for it. -/
theorem toNat_loTarget {freqHz ifHz : UInt32} (hif : ifHz.toNat ≤ 4570000)
    (hlo : 27657 ≤ (freqHz + ifHz).toNat / 1000) :
    (freqHz + ifHz).toNat = freqHz.toNat + ifHz.toNat := by
  have hlt := freqHz.toNat_lt
  rw [UInt32.toNat_add] at hlo ⊢
  omega

theorem selectedIf_le {xtal rate khz : Nat} (h : selectedIf xtal rate = some khz) :
    khz ≤ 4570 := by
  unfold selectedIf at h
  split at h
  · rw [← Option.some.inj h]
    exact bandIfKhz_le _
  · cases h

theorem rated_loRequested (c : Config) (q : Resampling) :
    (rated c q).loRequested = c.loRequested := by
  unfold rated
  split <;> rfl

theorem rated_centerFreq (c : Config) (q : Resampling) :
    (rated c q).tuning.centerFreqHz = c.tuning.centerFreqHz := by
  unfold rated
  split <;> rfl

theorem rated_identity (c : Config) (q : Resampling) : (rated c q).identity = c.identity := by
  unfold rated
  split <;> rfl

theorem rated_baseband (c : Config) (q : Resampling) : (rated c q).baseband = c.baseband := by
  unfold rated
  split <;> rfl

/-- What a successful `set_sample_rate` does to LO and IF. -/
theorem setSampleRate_if {rateHz hz : UInt32} {env : Env} {w w' : World} (hinv : LowIf w.config)
    (h : setSampleRate rateHz env w = (.ok hz, w')) :
    w'.loRequested = w.loRequested ∧
      w'.dev.tuning.centerFreqHz = w.dev.tuning.centerFreqHz ∧
      ∃ xtal, correctedXtal w.dev.baseband = some xtal ∧
        ((selectedIf xtal.toNat rateHz.toNat = none ∧
            w'.dev.tuning.ifOffsetHz = w.dev.tuning.ifOffsetHz) ∨
          ∃ khz, selectedIf xtal.toNat rateHz.toNat = some khz ∧
            w'.dev.tuning.ifOffsetHz.toNat = khz * 1000) := by
  obtain ⟨-, q, hq, hconfig⟩ := setSampleRate_ok h
  obtain ⟨xtal, hxtal, -⟩ := Option.bind_eq_some_iff.mp hq
  have hif : w'.dev.tuning.ifOffsetHz = (rated w.config q).tuning.ifOffsetHz :=
    congrArg (fun c => c.tuning.ifOffsetHz) hconfig
  refine ⟨?_, ?_, xtal, hxtal, ?_⟩
  · exact (congrArg Config.loRequested hconfig).trans (rated_loRequested w.config q)
  · exact (congrArg (fun c => c.tuning.centerFreqHz) hconfig).trans (rated_centerFreq w.config q)
  · rw [hif]
    exact rated_ifOffset hinv.isR820t hxtal hq

/-- A successful call on an R820T leaves it one, with one of its IFs. -/
theorem configStep_lowIf {env : Env} {w w' : World} {call : ConfigCall} (hinv : LowIf w.config)
    (h : configStep env w call = some w') : LowIf w'.config := by
  rw [configStep_eq_some] at h
  cases call with
  | setFrequency freqHz =>
    obtain ⟨hz, h⟩ := perform_setFrequency h
    obtain ⟨hconfig, -⟩ := setFrequency_ok hinv.ne_fc0012 h
    rw [hconfig]
    exact ⟨hinv.isR820t, hinv.ifOffset⟩
  | setSampleRate rateHz =>
    obtain ⟨hz, h⟩ := perform_setSampleRate h
    obtain ⟨-, q, -, hconfig⟩ := setSampleRate_ok h
    have hidentity : w'.config.identity = w.config.identity :=
      (congrArg Config.identity hconfig).trans (rated_identity w.config q)
    refine ⟨hidentity ▸ hinv.isR820t, ?_⟩
    obtain ⟨-, -, xtal, -, ⟨-, hif⟩ | ⟨khz, hkhz, hif⟩⟩ := setSampleRate_if hinv h
    · rw [World.config_tuning, hif]
      exact hinv.ifOffset
    · have := selectedIf_le hkhz
      rw [World.config_tuning]
      omega
  | setGain gainTenthDb =>
    rw [setGain_ok h]
    exact ⟨hinv.isR820t, hinv.ifOffset⟩

/-- After a successful `set_frequency`, LO and IF agree. -/
theorem setFrequency_agrees {freqHz hz : UInt32} {env : Env} {w w' : World}
    (hinv : LowIf w.config) (h : setFrequency freqHz env w = (.ok hz, w')) : LoAgrees w' := by
  obtain ⟨hconfig, hwindow, -⟩ := setFrequency_ok hinv.ne_fc0012 h
  have hsum := @toNat_loTarget freqHz w.dev.tuning.ifOffsetHz hinv.ifOffset hwindow
  have hlo : w'.loRequested = some (freqHz + w.dev.tuning.ifOffsetHz) :=
    congrArg Config.loRequested hconfig
  have hif : w'.dev.tuning.ifOffsetHz = w.dev.tuning.ifOffsetHz :=
    congrArg (fun c => c.tuning.ifOffsetHz) hconfig
  have hcenter : w'.dev.tuning.centerFreqHz = freqHz :=
    congrArg (fun c => c.tuning.centerFreqHz) hconfig
  intro lo heq
  obtain rfl := Option.some.inj (hlo.symm.trans heq)
  rw [hif, hcenter, hsum]
  omega

/-- A successful `set_sample_rate` leaves LO and IF in agreement exactly when it keeps the IF. -/
theorem setSampleRate_agrees {rateHz hz : UInt32} {env : Env} {w w' : World}
    (hinv : LowIf w.config) (hagree : LoAgrees w)
    (h : setSampleRate rateHz env w = (.ok hz, w')) :
    LoAgrees w' ↔ KeepsIf w (.setSampleRate rateHz) := by
  obtain ⟨hlo, hcenter, xtal, hxtal, hif⟩ := setSampleRate_if hinv h
  rw [LoAgrees, KeepsIf, hlo, hcenter]
  obtain ⟨hnone, hif⟩ | ⟨khz, hkhz, hif⟩ := hif
  · rw [hif]
    refine iff_of_true hagree fun _ xtal' hxtal' khz hkhz => ?_
    obtain rfl := Option.some.inj (hxtal.symm.trans hxtal')
    rw [hnone] at hkhz
    cases hkhz
  · rw [hif]
    constructor
    · intro hnew hsome xtal' hxtal' khz' hkhz'
      obtain rfl := Option.some.inj (hxtal.symm.trans hxtal')
      obtain rfl := Option.some.inj (hkhz.symm.trans hkhz')
      obtain ⟨lo, hlo⟩ := Option.isSome_iff_exists.mp hsome
      have hnew := hnew lo hlo
      have hold := hagree lo hlo
      omega
    · intro hkeeps lo hlo
      rw [hkeeps (by rw [hlo]; rfl) xtal hxtal khz hkhz]
      exact hagree lo hlo

/-- A successful call from a state in agreement keeps the agreement exactly when it keeps the IF. -/
theorem configStep_agrees {env : Env} {w w' : World} {call : ConfigCall} (hinv : LowIf w.config)
    (hagree : LoAgrees w) (h : configStep env w call = some w') :
    LoAgrees w' ↔ KeepsIf w call := by
  rw [configStep_eq_some] at h
  cases call with
  | setFrequency freqHz =>
    obtain ⟨hz, h⟩ := perform_setFrequency h
    exact iff_of_true (setFrequency_agrees hinv h) trivial
  | setSampleRate rateHz =>
    obtain ⟨hz, h⟩ := perform_setSampleRate h
    exact setSampleRate_agrees hinv hagree h
  | setGain gainTenthDb =>
    have hconfig := setGain_ok h
    have htuning := congrArg Config.tuning hconfig
    refine iff_of_true (fun lo hlo => ?_) trivial
    rw [show w'.loRequested = w.loRequested from congrArg Config.loRequested hconfig] at hlo
    rw [show w'.dev.tuning = _ from htuning]
    exact hagree lo hlo

/-! ### Runs of calls -/

/-- An LO has been requested once a frequency has been set. -/
theorem configStep_loRequested {env : Env} {w w' : World} {call : ConfigCall}
    (hinv : LowIf w.config) (h : configStep env w call = some w') :
    w'.loRequested.isSome ↔ w.loRequested.isSome ∨ ∃ f, .setFrequency f = call := by
  rw [configStep_eq_some] at h
  cases call with
  | setFrequency freqHz =>
    obtain ⟨hz, h⟩ := perform_setFrequency h
    obtain ⟨hconfig, -⟩ := setFrequency_ok hinv.ne_fc0012 h
    rw [show w'.loRequested = some _ from congrArg Config.loRequested hconfig]
    simp
  | setSampleRate rateHz =>
    obtain ⟨hz, h⟩ := perform_setSampleRate h
    rw [(setSampleRate_if hinv h).1]
    simp
  | setGain gainTenthDb =>
    rw [show w'.loRequested = _ from congrArg Config.loRequested (setGain_ok h)]
    simp

theorem run_loRequested {env : Env} {w w' : World} {calls : List ConfigCall}
    (hinv : LowIf w.config) (h : run (configStep env) w calls = some w') :
    w'.loRequested.isSome ↔
      w.loRequested.isSome ∨ ∃ f, ConfigCall.setFrequency f ∈ calls := by
  induction calls generalizing w with
  | nil =>
    cases h
    simp
  | cons call calls ih =>
    obtain ⟨u, hu, hrest⟩ := Option.bind_eq_some_iff.mp h
    rw [ih (configStep_lowIf hinv hu) hrest, configStep_loRequested hinv hu, or_assoc]
    simp only [List.mem_cons, exists_or]

/-- Over every sequence of successful calls on an opened R820T, LO and IF agree after each call from
the first `set_frequency` on exactly when no later `set_sample_rate` selects another IF than the one
programmed. -/
theorem lo_follows_if {env : Env} {w0 w : World} {calls : List ConfigCall} (hopen : OpenedR820t w0)
    (hrun : run (configStep env) w0 calls = some w) :
    (∀ made, made <+: calls → (∃ f, ConfigCall.setFrequency f ∈ made) →
        ∀ u, run (configStep env) w0 made = some u →
          ∃ lo, u.loRequested = some lo ∧
            (lo.toNat : Int) - u.dev.tuning.ifOffsetHz.toNat = u.dev.tuning.centerFreqHz.toNat) ↔
      Along (configStep env) KeepsIf w0 calls := by
  have hagree : LoAgrees w0 := by
    intro lo hlo
    rw [hopen.untuned] at hlo
    cases hlo
  rw [← Along.iff_forall_prefix (I := fun w => LowIf w.config) (P := LoAgrees)
    (fun _ _ _ hI _ hs _ => configStep_lowIf hI hs) (fun _ _ _ hI hP hs => configStep_agrees hI hP hs)
    hopen.lowIf hagree hrun]
  refine forall₂_congr fun made hmade => ?_
  constructor
  · intro h u hu lo hlo
    have hsome := (run_loRequested hopen.lowIf hu).mp (by rw [hlo]; rfl)
    rw [hopen.untuned] at hsome
    obtain ⟨lo', hlo', heq⟩ := h (hsome.resolve_left nofun) u hu
    obtain rfl := Option.some.inj (hlo.symm.trans hlo')
    exact heq
  · intro h hset u hu
    obtain ⟨lo, hlo⟩ :=
      Option.isSome_iff_exists.mp ((run_loRequested hopen.lowIf hu).mpr (.inr hset))
    exact ⟨lo, hlo, h u hu lo hlo⟩

/-- On an opened R820T whose transfers succeed, a frequency in the PLL's window and then a rate are
set. -/
theorem run_steady {env : Env} (h : env.Succeeds) (hlock : env.Locked) {w0 : World}
    (hopen : OpenedR820t w0) (hbaseband : w0.dev.baseband = ⟨28800000, 0⟩) {freqHz rateHz : UInt32}
    (hlo : 27657 ≤ (freqHz + 3570000).toNat / 1000)
    (hhi : (freqHz + 3570000).toNat / 1000 < 1770000) (haccept : rateAccepted rateHz = true)
    (hdefined : (resampling ⟨28800000, 0⟩ rateHz).isSome) :
    ∃ u w, configStep env w0 (.setFrequency freqHz) = some u ∧
      configStep env u (.setSampleRate rateHz) = some w ∧ LowIf u.config ∧
      u.loRequested = some (freqHz + 3570000) ∧ u.dev.baseband = ⟨28800000, 0⟩ ∧
      u.dev.tuning.centerFreqHz = freqHz := by
  rw [← hopen.ifOffset] at hlo hhi
  obtain ⟨hz, u, hu⟩ := total_setFrequency h.accepts hlock hopen.lowIf.isR820t hopen.oscillator
    (congrArg BasebandState.freqOffsetPpm hbaseband) hlo hhi
  have hstep : configStep env w0 (.setFrequency freqHz) = some u :=
    configStep_eq_some.mpr (Act.bind_eq_ok.mpr ⟨hz, u, hu, rfl⟩)
  have hconfig := (setFrequency_ok hopen.lowIf.ne_fc0012 hu).1
  have hubaseband : u.dev.baseband = ⟨28800000, 0⟩ :=
    (congrArg Config.baseband hconfig).trans hbaseband
  have hulo : u.loRequested = some (freqHz + w0.dev.tuning.ifOffsetHz) :=
    congrArg Config.loRequested hconfig
  obtain ⟨hz', w, hw⟩ := @total_setSampleRate env h rateHz u
    (congrArg BasebandState.oscillatorHz hubaseband) haccept (by rw [hubaseband]; exact hdefined)
  exact ⟨u, w, hstep, configStep_eq_some.mpr (Act.bind_eq_ok.mpr ⟨hz', w, hw, rfl⟩),
    configStep_lowIf hopen.lowIf hstep, hopen.ifOffset ▸ hulo, hubaseband,
    congrArg (fun c => c.tuning.centerFreqHz) hconfig⟩

/-- At 100 MHz, a rate of 2 MSPS moves the IF from 3.57 MHz to 1.625 MHz and leaves the LO. -/
theorem lo_left_behind :
    ∃ w, run (configStep steadyEnv) openedR820t [.setFrequency 100000000, .setSampleRate 2000000] =
        some w ∧
      w.loRequested = some 103570000 ∧ w.dev.tuning.ifOffsetHz = 1625000 ∧
        w.dev.tuning.centerFreqHz = 100000000 := by
  obtain ⟨u, w, hu, hw, hinv, hlo, hbaseband, hcenter⟩ := @run_steady _ steadyEnv_succeeds
    steadyEnv_locked _ openedR820t_opened rfl 100000000 2000000 (by decide) (by decide) (by decide)
    (by decide +kernel)
  obtain ⟨hz, hset⟩ := perform_setSampleRate (configStep_eq_some.mp hw)
  obtain ⟨hlo', hcenter', xtal, hxtal, hif⟩ := setSampleRate_if hinv hset
  rw [hbaseband] at hxtal
  obtain rfl : 28800000 = xtal := Option.some.inj hxtal
  refine ⟨w, by rw [run_cons, hu, Option.bind_some, run_cons, hw]; rfl, hlo'.trans hlo, ?_,
    hcenter'.trans hcenter⟩
  have hselected : selectedIf 28800000 2000000 = some 1625 := by decide +kernel
  obtain ⟨hnone, -⟩ | ⟨khz, hkhz, hif⟩ := hif
  · exact absurd (hnone.symm.trans hselected) nofun
  · obtain rfl := Option.some.inj (hkhz.symm.trans hselected)
    exact UInt32.toNat_inj.mp hif

/-- A rate of 1 MSPS after 100 MHz keeps LO and IF in agreement. -/
theorem lo_follows_if_narrow :
    ∃ w, run (configStep steadyEnv) openedR820t [.setFrequency 100000000, .setSampleRate 1000000] =
        some w ∧
      ∃ lo, w.loRequested = some lo ∧
        (lo.toNat : Int) - w.dev.tuning.ifOffsetHz.toNat = w.dev.tuning.centerFreqHz.toNat := by
  obtain ⟨u, w, hu, hw, -, -, hbaseband, -⟩ := @run_steady _ steadyEnv_succeeds
    steadyEnv_locked _ openedR820t_opened rfl 100000000 1000000 (by decide) (by decide) (by decide)
    (by decide +kernel)
  have hrun : run (configStep steadyEnv) openedR820t
      [.setFrequency 100000000, .setSampleRate 1000000] = some w := by
    rw [run_cons, hu, Option.bind_some, run_cons, hw]
    rfl
  have hkeeps : KeepsIf u (.setSampleRate 1000000) := by
    intro _ xtal hxtal khz hkhz
    rw [hbaseband] at hxtal
    obtain rfl : 28800000 = xtal := Option.some.inj hxtal
    have hselected : selectedIf 28800000 1000000 = none := by decide +kernel
    exact absurd (hkhz.symm.trans hselected) nofun
  have halong : Along (configStep steadyEnv) KeepsIf openedR820t
      [.setFrequency 100000000, .setSampleRate 1000000] :=
    .cons trivial hu (.cons hkeeps hw trivial)
  exact ⟨w, hrun, (lo_follows_if openedR820t_opened hrun).mpr halong _ (List.prefix_refl _)
    ⟨_, List.mem_cons_self⟩ w hrun⟩

end Sdrgg.Sdr
