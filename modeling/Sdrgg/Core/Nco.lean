import Sdrgg.Core.Success
import Sdrgg.ProofKit.Run
import Sdrgg.Rtl.Demod

/-! The NCO over runs of calls that reset the down-converter. -/

namespace Sdrgg.Sdr

open ProofKit Usb Rtl

section Calls

variable {c : Chip} {env : Env} {w u w' : World}

theorem setBandwidth_encodes {bwKhz : UInt32}
    (h : R820t.setBandwidth bwKhz env w = (.ok (), w')) : NcoEncodes c w' := by
  obtain ⟨_, u, -, h⟩ := Act.bind_eq_ok.mp h
  exact setIfFreq_encodes h

/-- A reset that is followed by `reprogramIf` leaves the NCO with the word of the IF. -/
theorem rateTail_encodes {ratio : UInt32}
    (h : (do programRatio ratio; reprogramIf : DevM Unit) env w = (.ok (), w')) :
    NcoEncodes c w' := by
  obtain ⟨_, u, hu, h⟩ := Act.bind_eq_ok.mp h
  rw [reprogramIf, Act.bind_of_ok (device_apply env u)] at h
  split at h
  · exact setIfFreq_encodes h
  · rename_i hif
    cases h
    have hzero : w'.dev.tuning.ifOffsetHz = 0 := by
      simpa using hif
    refine ⟨0, ?_, ?_⟩
    · rw [hzero, ncoWord, if_pos rfl]
    · rw [programRatio_page1 hu, nco_withRatio]
      decide

theorem applyRate_encodes {q : Resampling} (h : applyRate q env w = (.ok (), w')) :
    NcoEncodes c w' := by
  obtain ⟨_, u, -, h⟩ := Act.bind_eq_ok.mp h
  rw [Act.bind_of_ok (device_apply env u)] at h
  split at h
  · obtain ⟨_, v, -, h⟩ := Act.bind_eq_ok.mp h
    exact rateTail_encodes h
  · exact rateTail_encodes h

theorem setSampleRate_encodes {rateHz hz : UInt32} (h : setSampleRate rateHz env w = (.ok hz, w')) :
    NcoEncodes c w' := by
  obtain ⟨-, q, u, v, -, -, hv, hw'⟩ := setSampleRate_applies h
  cases hw'
  exact (applyRate_encodes hv).of_eq rfl rfl rfl

/-- The word of the device's IF has no bit among those that the NCO registers hold. -/
def NcoSilent (w : World) : Prop :=
  ∃ word, ncoWord w.dev.baseband.oscillatorHz w.dev.tuning.ifOffsetHz = some word ∧
    ncoBytes word = (0, 0, 0)

theorem resetDemod_encodes (h : resetDemod env w = (.ok (), w')) :
    NcoEncodes c w' ↔ NcoSilent w := by
  obtain ⟨val, hpage, -⟩ := resetDemod_page1 (c := c) h
  have hconfig := keeps_resetDemod.world h
  have hosc : w'.dev.baseband.oscillatorHz = w.dev.baseband.oscillatorHz :=
    congrArg (fun c => c.baseband.oscillatorHz) hconfig
  have hif : w'.dev.tuning.ifOffsetHz = w.dev.tuning.ifOffsetHz :=
    congrArg (fun c => c.tuning.ifOffsetHz) hconfig
  rw [NcoEncodes, NcoSilent, hosc, hif, hpage, nco_withReset]
  simp only [eq_comm]

end Calls

/-! ### Runs -/

inductive RateCall where
  | setSampleRate (rateHz : UInt32)
  | setBandwidth (bwKhz : UInt32)
  | resetDemod
deriving DecidableEq, Repr

def RateCall.perform : RateCall → DevM Unit
  | .setSampleRate rateHz => do
    let _ ← Sdr.setSampleRate rateHz
    return ()
  | .setBandwidth bwKhz => R820t.setBandwidth bwKhz
  | .resetDemod => Rtl.resetDemod

/-- The world after a call that returned `SDRGG_OK`. -/
def rateStep (env : Env) (w : World) (call : RateCall) : Option World :=
  match call.perform env w with
  | (.ok _, w') => some w'
  | (.error _, _) => none

theorem rateStep_eq_some {env : Env} {w w' : World} {call : RateCall} :
    rateStep env w call = some w' ↔ call.perform env w = (.ok (), w') := by
  unfold rateStep
  rcases call.perform env w with ⟨e | _, u⟩ <;> simp

/-- After a run of successful calls from a device whose NCO holds the word of its IF, it does so
exactly when the run did not end in a `reset_demod` that found a word to clear. -/
theorem nco_follows_if {c : Chip} {env : Env} {w t : World} {calls : List RateCall}
    (hw : NcoEncodes c w) (hrun : run (rateStep env) w calls = some t) :
    NcoEncodes c t ↔
      ∀ pre s, calls = pre ++ [.resetDemod] → run (rateStep env) w pre = some s → NcoSilent s := by
  obtain rfl | ⟨pre, call, rfl⟩ := List.eq_nil_or_concat' calls
  · obtain rfl := Option.some_inj.mp hrun
    exact iff_of_true hw fun pre s h => absurd h.symm (by simp)
  · rw [run_append] at hrun
    obtain ⟨s, hs, hrun⟩ := Option.bind_eq_some_iff.mp hrun
    obtain ⟨u, hu, hrun⟩ := Option.bind_eq_some_iff.mp hrun
    obtain rfl := Option.some_inj.mp hrun
    have hcall := rateStep_eq_some.mp hu
    have hother (hne : call ≠ .resetDemod) (ht : NcoEncodes c u) :
        NcoEncodes c u ↔ ∀ pre' s', pre ++ [call] = pre' ++ [.resetDemod] →
          run (rateStep env) w pre' = some s' → NcoSilent s' := by
      refine iff_of_true ht fun pre' s' heq => absurd ?_ hne
      exact (List.append_inj' heq rfl).2 |> List.head_eq_of_cons_eq
    cases call with
    | setSampleRate rateHz =>
      obtain ⟨hz, v, hv, hcall⟩ := Act.bind_eq_ok.mp hcall
      cases hcall
      exact hother (by nofun) (setSampleRate_encodes hv)
    | setBandwidth bwKhz => exact hother (by nofun) (setBandwidth_encodes hcall)
    | resetDemod =>
      rw [resetDemod_encodes hcall]
      constructor
      · intro h pre' s' heq hs'
        obtain rfl := (List.append_inj' heq rfl).1
        exact Option.some_inj.mp (hs.symm.trans hs') ▸ h
      · exact fun h => h pre s rfl hs

/-- A chip whose NCO holds the word of 3.57 MHz. -/
def downChip : Chip := ⟨withNco (fun _ => 0) (ncoBytes (-519918)), fun _ _ => 0⟩

theorem downChip_encodes : NcoEncodes downChip openedR820t :=
  ⟨-519918, by decide +kernel, nco_withNco _ _⟩

theorem openedR820t_notSilent : ¬NcoSilent openedR820t := by
  rintro ⟨word, hword, hbytes⟩
  have hnco : ncoWord 28800000 3570000 = some (-519918) := by decide +kernel
  obtain rfl := Option.some_inj.mp (hnco.symm.trans hword)
  exact absurd hbytes (by decide +kernel)

theorem nco_follows_if_reset : ∃ t, run (rateStep steadyEnv) openedR820t [.resetDemod] = some t ∧
    ¬NcoEncodes downChip t := by
  obtain ⟨_, t, ht⟩ := total_resetDemod steadyEnv_succeeds.accepts openedR820t
  have hrun : run (rateStep steadyEnv) openedR820t [.resetDemod] = some t := by
    have hstep : rateStep steadyEnv openedR820t .resetDemod = some t := rateStep_eq_some.mpr ht
    rw [run_cons, hstep]
    rfl
  refine ⟨t, hrun, ?_⟩
  rw [nco_follows_if downChip_encodes hrun]
  exact fun h => openedR820t_notSilent (h [] openedR820t rfl rfl)

/-- `reset_demod` returns `SDRGG_OK` and leaves no word in the NCO of a device with an IF of
3.57 MHz. -/
theorem nco_cleared :
    ncoWord openedR820t.dev.baseband.oscillatorHz openedR820t.dev.tuning.ifOffsetHz =
      some (-519918) ∧
    nco (page1 downChip openedR820t) = ncoBytes (-519918) ∧
    (resetDemod steadyEnv openedR820t).1 = .ok () ∧
    (resetDemod steadyEnv openedR820t).2.dev.tuning.ifOffsetHz = 3570000 ∧
    nco (page1 downChip (resetDemod steadyEnv openedR820t).2) = (0, 0, 0) ∧
    ncoBytes (-519918) ≠ (0, 0, 0) := by
  refine ⟨?_, nco_withNco _ _, ?_, ?_, ?_, ?_⟩ <;> decide +kernel

end Sdrgg.Sdr
