import Sdrgg.Core.Success
import Sdrgg.Rtl.Rate

/-! What a configuration call that reports an error leaves of the committed state: exactly when a
failed `set_sample_rate` leaves all of it. -/

namespace Sdrgg.Sdr

open ProofKit Usb Rtl

/-- The committed fields of the tuning context. -/
structure Committed where
  centerFreqHz : UInt32
  samplingRateHz : UInt32
  ifOffsetHz : UInt32
  gainPolicy : Int32
deriving DecidableEq, Repr

def committed (t : TuningContext) : Committed :=
  ⟨t.centerFreqHz, t.samplingRateHz, t.ifOffsetHz, t.gainPolicy⟩

/-- A failure of the call cannot change the committed state: the call sets a rate that is refused or
has no setting, or whose setting is the one committed, or it sets no rate. -/
def CommitSafe (w : World) : ConfigCall → Prop
  | .setSampleRate rateHz =>
    rateAccepted rateHz = true → ∀ xtal, correctedXtal w.dev.baseband = some xtal →
      exactRatio xtal.toNat rateHz.toNat ≠ 0 →
        exactRate xtal.toNat rateHz.toNat = w.dev.tuning.samplingRateHz.toNat ∧
          (w.dev.identity.tunerClass.isR820t = true →
            ∀ khz, selectedIf xtal.toNat rateHz.toNat = some khz →
              (ncoWord w.dev.baseband.oscillatorHz (UInt32.ofNat (khz * 1000))).isSome →
                khz * 1000 = w.dev.tuning.ifOffsetHz.toNat)
  | _ => True

/-! ### Calls that leave the committed state -/

theorem committed_withRate {c : Config} {rateHz : UInt32}
    (h : rateHz = c.tuning.samplingRateHz) :
    committed (c.withRate rateHz).tuning = committed c.tuning := by
  rw [h]
  rfl

/-- A setting that is the one committed changes nothing. -/
theorem committed_rated {c : Config} {q : Resampling}
    (hrate : q.achievedHz = c.tuning.samplingRateHz)
    (hif : needsBandwidth c.identity q.achievedHz = true → q.ifHz = c.tuning.ifOffsetHz) :
    committed (rated c q).tuning = committed c.tuning := by
  unfold rated
  split
  · rename_i hband
    rw [hif hband]
    exact committed_withRate hrate
  · exact committed_withRate hrate

/-- The IF of a setting as the rate selects it. -/
theorem selectedIf_of_band {b : BasebandState} {identity : DeviceIdentity} {xtal rateHz : UInt32}
    {q : Resampling} (hxtal : correctedXtal b = some xtal) (hq : resampling b rateHz = some q)
    (hband : needsBandwidth identity q.achievedHz = true) :
    ∃ khz, selectedIf xtal.toNat rateHz.toNat = some khz ∧ q.ifHz.toNat = khz * 1000 := by
  have hrate := resampling_achieved hxtal hq
  have hge := (needsBandwidth_iff.mp hband).2
  rw [hrate] at hge
  exact ⟨_, if_pos hge, toNat_ifHz hrate hge⟩

theorem setSampleRate_commits {rateHz : UInt32} {env : Env} {w w' : World} {e : SdrggError}
    (hsafe : CommitSafe w (.setSampleRate rateHz))
    (h : setSampleRate rateHz env w = (.error (.error e), w')) :
    committed w'.dev.tuning = committed w.dev.tuning := by
  obtain ⟨-, hconfig⟩ | ⟨haccept, q, hq, hconfig⟩ := setSampleRate_error h
  · exact congrArg (fun c => committed c.tuning) hconfig
  · obtain ⟨xtal, hxtal, -⟩ := Option.bind_eq_some_iff.mp hq
    have hratio := (resampling_isSome hxtal).mp (by rw [hq]; rfl)
    obtain ⟨hrate, hif⟩ := hsafe haccept xtal hxtal hratio
    have hachieved : q.achievedHz = w.dev.tuning.samplingRateHz :=
      UInt32.toNat_inj.mp ((resampling_achieved hxtal hq).trans hrate)
    obtain hconfig | ⟨hconfig, hword⟩ := hconfig
    · exact (congrArg (fun c => committed c.tuning) hconfig).trans
        (committed_withRate (c := w.config) hachieved)
    · refine (congrArg (fun c => committed c.tuning) hconfig).trans
        (committed_rated hachieved fun hband => ?_)
      obtain ⟨khz, hkhz, hhz⟩ := selectedIf_of_band hxtal hq hband
      rw [← UInt32.toNat_inj, hhz]
      refine hif (needsBandwidth_iff.mp hband).1 khz hkhz ?_
      rw [← hhz, UInt32.ofNat_toNat]
      exact hword hband

/-! ### Failures that change the committed state -/

/-- A kernel that fails every transfer. -/
def deadEnv : Env := { kernel := fun _ _ => .fail .other, stack := fun _ _ => 0 }

/-- A kernel that fails the writes of the resampler ratio and nothing else. -/
def ratiolessEnv : Env :=
  { steadyEnv with
    kernel := fun log t => if t.isRatio then .fail .other else steadyEnv.kernel log t }

theorem ratiolessEnv_accepts : ratiolessEnv.Accepts := by
  intro log t ht
  have hkernel : ratiolessEnv.kernel log t = steadyEnv.kernel log t :=
    if_neg (Bool.eq_false_iff.mp ht)
  rw [hkernel]
  exact steadyEnv_succeeds log t

theorem controlWrite_fails {env : Env} {value index : UInt16} {data : List UInt8} {w : World}
    (h : env.kernel w.log (.write value index data) = .fail .other) :
    ∃ w', controlWrite value index data env w = (.error (.error .usb), w') := by
  simp only [controlWrite, Act.bind_apply, ioctl, noteResponse, Act.modify_apply, h]
  exact ⟨_, rfl⟩

theorem submitDemodWrite_dead {page reg : UInt8} {val : UInt16} {len : UInt8} (w : World) :
    ∃ w', submitDemodWrite page reg val len deadEnv w = (.error (.error .usb), w') := by
  obtain ⟨u, hu⟩ := @controlWrite_fails deadEnv (demodValue reg) (0x10 ||| page.toUInt16)
    (payload val len) w rfl
  exact ⟨u, Act.bind_of_error hu⟩

/-- The ratio is the first thing to be programmed for a rate that keeps the bandwidth. -/
theorem rateTail_fails {env : Env} {ratio : UInt32} {w : World}
    (h : ∀ log data, env.kernel log (.write 0x9F20 0x11 data) = .fail .other) :
    ∃ w', (do programRatio ratio; reprogramIf : DevM Unit) env w =
      (.error (.error .usb), w') := by
  obtain ⟨u, hu⟩ := @controlWrite_fails env (demodValue 0x9F) (0x10 ||| (1 : UInt8).toUInt16)
    (payload ((ratio >>> 16) &&& 0xFFFF).toUInt16 2) w (h _ _)
  exact ⟨u, Act.bind_of_error (Act.bind_of_error (Act.bind_of_error hu))⟩

/-- Without any transfer, a bandwidth fails on its first register, which an R820T has in its
shadow. -/
theorem setBandwidth_dead {bwKhz : UInt32} {w : World}
    (hclass : w.dev.identity.tunerClass.isR820t = true) :
    ∃ w', R820t.setBandwidth bwKhz deadEnv w = (.error (.error .usb), w') := by
  have hwrite (reg val : UInt8) (u : World) :
      ∃ w', tunerWriteReg reg val deadEnv u = (.error (.error .usb), w') := by
    obtain ⟨v, hv⟩ := @submitDemodWrite_dead 1 0x01 0x18 1 u
    exact ⟨v, Act.bind_of_error (Act.bind_of_error hv)⟩
  have hrmw (val mask : UInt8) :
      ∃ w', tunerRmw 0x0A val mask deadEnv w = (.error (.error .usb), w') := by
    have hcur : tunerCurrent 0x0A deadEnv w = (.ok (w.dev.shadow.r820tFile 5), w) := by
      rw [tunerCurrent, Act.bind_of_ok (device_apply deadEnv w),
        show shadowIndex 0x0A = some 5 from rfl]
      dsimp only
      rw [if_pos hclass]
      rfl
    obtain ⟨v, hv⟩ := hwrite 0x0A ((w.dev.shadow.r820tFile 5 &&& ~~~mask) ||| (val &&& mask)) w
    exact ⟨v, (Act.bind_of_ok hcur).trans hv⟩
  obtain ⟨v, hv⟩ := hrmw (R820t.bandwidthSetting bwKhz).reg0a 0x10
  exact ⟨v, Act.bind_of_error (Act.bind_of_error hv)⟩

theorem applyRate_dead (q : Resampling) (w : World) :
    ∃ w', applyRate q deadEnv w = (.error (.error .usb), w') := by
  obtain ⟨_, u, hu⟩ : ∃ x u, modifyTuning (fun t => { t with samplingRateHz := q.achievedHz })
      deadEnv w = (.ok x, u) := ⟨_, _, rfl⟩
  rw [applyRate, Act.bind_of_ok hu, Act.bind_of_ok (device_apply deadEnv u)]
  split
  · rename_i hband
    obtain ⟨v, hv⟩ := @setBandwidth_dead (q.achievedHz / 1000) u (needsBandwidth_iff.mp hband).1
    exact ⟨v, Act.bind_of_error hv⟩
  · exact rateTail_fails fun _ _ => rfl

/-- The rate that could not be applied is in the tuning context. -/
theorem applyRate_fault_rate {q : Resampling} {env : Env} {w w' : World} {e : Fault SdrggError}
    (h : applyRate q env w = (.error e, w')) : w'.dev.tuning.samplingRateHz = q.achievedHz := by
  obtain h | ⟨h, -⟩ := applyRate_fault h
  · exact congrArg (fun c => c.tuning.samplingRateHz) h
  · refine (congrArg (fun c => c.tuning.samplingRateHz) h).trans ?_
    unfold rated
    split <;> rfl

/-- Without the ratio, a rate fails after its IF has been programmed. -/
theorem applyRate_ratioless {q : Resampling} {w : World}
    (hword : needsBandwidth w.dev.identity q.achievedHz = true →
      (ncoWord w.dev.baseband.oscillatorHz q.ifHz).isSome) :
    ∃ w', applyRate q ratiolessEnv w = (.error (.error .usb), w') ∧
      w'.config = rated w.config q := by
  obtain ⟨_, u, hu⟩ : ∃ x u, modifyTuning (fun t => { t with samplingRateHz := q.achievedHz })
      ratiolessEnv w = (.ok x, u) := ⟨_, _, rfl⟩
  obtain ⟨hconfig, hidentity⟩ := noteRate_ok hu
  have hbaseband : u.dev.baseband = w.dev.baseband := congrArg Config.baseband hconfig
  have htail (v : World) : ∃ w', (do programRatio q.ratio; reprogramIf : DevM Unit) ratiolessEnv v =
      (.error (.error .usb), w') := rateTail_fails fun _ _ => rfl
  rw [applyRate, Act.bind_of_ok hu, Act.bind_of_ok (device_apply ratiolessEnv u), hidentity, rated,
    World.config_identity, ← hconfig]
  split
  · rename_i hband
    obtain ⟨word, hword⟩ := Option.isSome_iff_exists.mp (hword hband)
    obtain ⟨v, hv⟩ := R820t.total_setBandwidth ratiolessEnv_accepts (hbaseband ▸ hword)
    obtain ⟨x, hx⟩ := htail v
    refine ⟨x, (Act.bind_of_ok hv).trans hx, ?_⟩
    rw [(keeps_rateTail q.ratio).world hx]
    exact R820t.setBandwidth_ok hv
  · obtain ⟨x, hx⟩ := htail u
    exact ⟨x, hx, (keeps_rateTail q.ratio).world hx⟩

/-- `set_sample_rate` reports the error of the steps that apply the rate. -/
theorem setSampleRate_of_error {rateHz : UInt32} {w : World} {q : Resampling}
    (haccept : rateAccepted rateHz = true) (hq : resampling w.dev.baseband rateHz = some q)
    (env : Env) :
    ∃ u, u.config = { w.config with tuning := { w.dev.tuning with requestedRateHz := rateHz } } ∧
      ∀ v e, applyRate q env u = (.error (.error e), v) →
        ∃ w', setSampleRate rateHz env w = (.error (.error e), w') ∧
          committed w'.dev.tuning = committed v.dev.tuning := by
  obtain ⟨_, u, hu⟩ : ∃ x u, modifyTuning (fun t => { t with requestedRateHz := rateHz }) env w
      = (.ok x, u) := ⟨_, _, rfl⟩
  have hconfig := requestRate_ok hu
  rw [← resampling_request hconfig] at hq
  refine ⟨u, hconfig, fun v e hv => ?_⟩
  rw [← setSampleRate_accepted haccept hq] at hv
  rw [setSampleRate, Act.bind_of_ok hu, Act.bind_of_ok (Act.attempt_of_error hv)]
  exact ⟨_, rfl, rfl⟩

/-- A setting that is not the one committed is seen through some failure. -/
theorem commitSafe_of_commits {w : World} {rateHz : UInt32}
    (h : ∀ env e w', setSampleRate rateHz env w = (.error (.error e), w') →
      committed w'.dev.tuning = committed w.dev.tuning) :
    CommitSafe w (.setSampleRate rateHz) := by
  intro haccept xtal hxtal hratio
  obtain ⟨q, hq⟩ := Option.isSome_iff_exists.mp ((resampling_isSome hxtal).mpr hratio)
  have hrate := resampling_achieved hxtal hq
  constructor
  · obtain ⟨u, hconfig, hset⟩ := setSampleRate_of_error haccept hq deadEnv
    obtain ⟨v, hv⟩ := applyRate_dead q u
    obtain ⟨w', hw', hcommitted⟩ := hset v _ hv
    have hachieved := applyRate_fault_rate hv
    have hsame := congrArg Committed.samplingRateHz (hcommitted.symm.trans (h _ _ _ hw'))
    rw [← hrate, ← hachieved]
    exact congrArg UInt32.toNat hsame
  · intro hclass khz hkhz hword
    have hge : 2000000 ≤ exactRate xtal.toNat rateHz.toNat := by
      by_contra hlt
      rw [selectedIf, if_neg hlt] at hkhz
      cases hkhz
    have hhz : q.ifHz.toNat = khz * 1000 := by
      rw [selectedIf, if_pos hge] at hkhz
      rw [toNat_ifHz hrate hge, Option.some.inj hkhz]
    rw [← hhz, UInt32.ofNat_toNat] at hword
    obtain ⟨u, hconfig, hset⟩ := setSampleRate_of_error haccept hq ratiolessEnv
    have hidentity : u.dev.identity = w.dev.identity := congrArg Config.identity hconfig
    have hbaseband : u.dev.baseband = w.dev.baseband := congrArg Config.baseband hconfig
    obtain ⟨v, hv, hvconfig⟩ := @applyRate_ratioless q u fun _ => hbaseband ▸ hword
    obtain ⟨w', hw', hcommitted⟩ := hset v _ hv
    have hband : needsBandwidth u.config.identity q.achievedHz = true :=
      needsBandwidth_iff.mpr ⟨by rwa [World.config_identity, hidentity], hrate ▸ hge⟩
    have hif : v.dev.tuning.ifOffsetHz = q.ifHz := by
      refine (congrArg (fun c => c.tuning.ifOffsetHz) hvconfig).trans ?_
      rw [rated, if_pos hband]
      rfl
    have hsame := congrArg Committed.ifOffsetHz (hcommitted.symm.trans (h _ _ _ hw'))
    rw [← hhz, ← hif]
    exact congrArg UInt32.toNat hsame

theorem perform_setSampleRate_error {rateHz : UInt32} {env : Env} {w w' : World} {e : SdrggError} :
    (ConfigCall.setSampleRate rateHz).perform env w = (.error (.error e), w') ↔
      setSampleRate rateHz env w = (.error (.error e), w') := by
  refine Act.bind_eq_fault.trans (or_iff_left ?_)
  rintro ⟨_, u, -, h⟩
  cases h

/-- A configuration call leaves the committed state however its transfers fail exactly when it is no
`set_sample_rate` with a setting other than the committed one. -/
theorem failure_keeps_commit (w : World) (call : ConfigCall) :
    (∀ env e w', call.perform env w = (.error (.error e), w') →
        committed w'.dev.tuning = committed w.dev.tuning) ↔
      CommitSafe w call := by
  cases call with
  | setFrequency freqHz =>
    refine iff_of_true (fun env e w' h => ?_) trivial
    obtain h | ⟨_, u, -, h⟩ := Act.bind_eq_fault.mp h
    · rw [setFrequency_error h]
      rfl
    · cases h
  | setSampleRate rateHz =>
    constructor
    · intro h
      exact commitSafe_of_commits fun env e w' hset =>
        h env e w' (perform_setSampleRate_error.mpr hset)
    · intro hsafe env e w' h
      exact setSampleRate_commits hsafe (perform_setSampleRate_error.mp h)
  | setGain gainTenthDb =>
    refine iff_of_true (fun env e w' h => ?_) trivial
    exact congrArg (fun c => committed c.tuning) (setGain_error h)

/-- A rate of 1 MSPS that fails on its first transfer is committed. -/
theorem failure_commits_rate :
    ∃ w', (ConfigCall.setSampleRate 1000000).perform deadEnv openedR820t =
        (.error (.error .usb), w') ∧
      openedR820t.dev.tuning.samplingRateHz = 0 ∧ w'.dev.tuning.samplingRateHz = 1000000 := by
  have hxtal : correctedXtal openedR820t.dev.baseband = some 28800000 := rfl
  obtain ⟨q, hq⟩ := Option.isSome_iff_exists.mp
    ((@resampling_isSome _ _ 1000000 hxtal).mpr (by decide +kernel))
  have hrate : q.achievedHz = 1000000 :=
    UInt32.toNat_inj.mp ((resampling_achieved hxtal hq).trans (by decide +kernel))
  obtain ⟨u, -, hset⟩ := setSampleRate_of_error (by decide) hq deadEnv
  obtain ⟨v, hv⟩ := applyRate_dead q u
  obtain ⟨w', hw', hcommitted⟩ := hset v _ hv
  refine ⟨w', perform_setSampleRate_error.mpr hw', rfl, ?_⟩
  exact (congrArg Committed.samplingRateHz hcommitted).trans ((applyRate_fault_rate hv).trans hrate)

end Sdrgg.Sdr
