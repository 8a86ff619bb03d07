import Sdrgg.Core.Calls
import Sdrgg.Core.Rates

/-! The IF of an R820T over runs of calls, of which any transfers may fail: while the crystal is not
corrected, the rates that are requested select it by the table of `ifForRate`. -/

namespace Sdrgg.Sdr

open ProofKit Usb Rtl

/-- A device with the IF in kHz that its rates have selected, unless one has failed or met a corrected
crystal since. -/
structure Selected where
  world : World
  khz : Option Nat

/-- After a call that leaves `w`: a rate that is not accepted has done nothing, and one that selects
no IF leaves that of before. -/
def Selected.note (s : Selected) (w : World) (done : Bool) : DeviceCall → Selected
  | .setSampleRate rateHz =>
    { world := w
      khz :=
        if !rateAccepted rateHz then s.khz
        else if done && s.world.dev.baseband.freqOffsetPpm = 0 then
          (ifForRate rateHz.toNat).or s.khz
        else none }
  | _ => { s with world := w }

def Selected.step (env : Env) : Selected → DeviceCall → Option Selected :=
  callStep Selected.world Selected.note env

/-- The device has the IF that its rates have selected. -/
structure Selected.Holds (s : Selected) : Prop where
  tunerClass : s.world.dev.identity.tunerClass = .r820t
  oscillator : s.world.dev.baseband.oscillatorHz = 28800000
  ifOffset : ∀ khz, s.khz = some khz → s.world.dev.tuning.ifOffsetHz.toNat = khz * 1000

section Runs

variable {env : Env} {w w' : World}

/-- What a rate that has been set leaves of the IF of an R820T whose crystal is not corrected. -/
theorem setSampleRate_ifOffset {rateHz hz : UInt32} (hclass : w.dev.identity.tunerClass = .r820t)
    (hosc : w.dev.baseband.oscillatorHz = 28800000) (hppm : w.dev.baseband.freqOffsetPpm = 0)
    (h : setSampleRate rateHz env w = (.ok hz, w')) :
    (ifForRate rateHz.toNat = none ∧ w'.dev.tuning.ifOffsetHz = w.dev.tuning.ifOffsetHz) ∨
      ∃ khz, ifForRate rateHz.toNat = some khz ∧ w'.dev.tuning.ifOffsetHz.toNat = khz * 1000 := by
  obtain ⟨haccepted, q, hq, hconfig⟩ := setSampleRate_ok h
  obtain ⟨hlo, hhi⟩ : 225000 ≤ rateHz.toNat ∧ rateHz.toNat ≤ 3200000 := by
    simpa [rateAccepted, UInt32.le_iff_toNat_le] using haccepted
  have hif : w'.dev.tuning.ifOffsetHz = (rated w.config q).tuning.ifOffsetHz :=
    congrArg (fun c => c.tuning.ifOffsetHz) hconfig
  have hclass : w.config.identity.tunerClass.isR820t = true := by
    rw [show w.config.identity.tunerClass = _ from hclass]
    rfl
  have hrated := rated_ifOffset hclass (correctedXtal_crystal hosc hppm) hq
  rw [show (28800000 : UInt32).toNat = 28800000 from rfl, selectedIf_uncorrected hlo hhi] at hrated
  rw [hif]
  exact hrated

@[simp] theorem Selected.note_world (s : Selected) (w : World) (done : Bool) (call : DeviceCall) :
    (s.note w done call).world = w := by
  cases call <;> rfl

/-- An IF that is known behind a call has been selected by it or has been known before, and then by
no rate that selects another. -/
theorem Selected.note_khz {s : Selected} {done : Bool} {call : DeviceCall} {khz : Nat}
    (h : (s.note w done call).khz = some khz) :
    (∃ rateHz, call = .setSampleRate rateHz ∧ done = true ∧
        s.world.dev.baseband.freqOffsetPpm = 0 ∧
        (ifForRate rateHz.toNat = some khz ∨
          ifForRate rateHz.toNat = none ∧ s.khz = some khz)) ∨
      (s.khz = some khz ∧
        ∀ rateHz, call = .setSampleRate rateHz → rateAccepted rateHz = false) := by
  cases call with
  | setSampleRate rateHz =>
    obtain ⟨hrejected, h⟩ | ⟨-, h⟩ := ite_eq_iff.mp h
    · refine .inr ⟨h, fun hz heq => ?_⟩
      cases heq
      simpa using hrejected
    · obtain ⟨hdone, h⟩ := Option.ite_none_right_eq_some.mp h
      obtain ⟨hdone, hppm⟩ := Bool.and_eq_true_iff.mp hdone
      exact .inl ⟨rateHz, rfl, hdone, of_decide_eq_true hppm, Option.or_eq_some_iff.mp h⟩
  | _ => exact .inr ⟨h, nofun⟩

/-- One call. -/
theorem Selected.Holds.step {s t : Selected} {call : DeviceCall} (hs : s.Holds)
    (hstep : s.step env call = some t) : t.Holds := by
  obtain ⟨x, w', hrun, hx, rfl⟩ := callStep_eq_some hstep
  have hidentity := perform_config (offConfig_identity call) hrun hx
  have hosc := perform_config (offConfig_oscillator call) hrun hx
  refine ⟨?_, ?_, fun khz hkhz => ?_⟩
  · rw [Selected.note_world]
    exact (congrArg DeviceIdentity.tunerClass hidentity).trans hs.tunerClass
  · rw [Selected.note_world]
    exact hosc.trans hs.oscillator
  · rw [Selected.note_world]
    obtain ⟨rateHz, rfl, hdone, hppm, htable⟩ | ⟨hbefore, hrate⟩ := Selected.note_khz hkhz
    · cases x with
      | error e => cases hdone
      | ok _ =>
        obtain ⟨hz, hset⟩ := perform_setSampleRate hrun
        obtain ⟨hnone, hkept⟩ | ⟨selected, hsome, hif⟩ :=
          setSampleRate_ifOffset hs.tunerClass hs.oscillator hppm hset
        · obtain hkhz | ⟨-, hbefore⟩ := htable
          · rw [hnone] at hkhz
            cases hkhz
          · rw [hkept]
            exact hs.ifOffset khz hbefore
        · obtain hkhz | ⟨hnone, -⟩ := htable
          · obtain rfl := Option.some_inj.mp (hsome.symm.trans hkhz)
            exact hif
          · rw [hnone] at hsome
            cases hsome
    · have hkept := perform_config (offConfig_rate call hrate) hrun hx
      rw [show w'.dev.tuning.ifOffsetHz = s.world.dev.tuning.ifOffsetHz from (Prod.mk.inj hkept).1]
      exact hs.ifOffset khz hbefore

/-- A device that has been opened is at the low IF. -/
theorem Selected.opened_holds (hopen : bringUp env ⟨blankDevice, [], none, 0⟩ = (.ok (), w))
    (hclass : w.dev.identity.tunerClass = .r820t) : (Selected.mk w (some 3570)).Holds := by
  obtain ⟨hr820t | hfc0012, -⟩ := bringUp_opened rfl rfl hopen
  · refine ⟨hclass, hr820t.oscillator, fun khz hkhz => ?_⟩
    obtain rfl := Option.some_inj.mp hkhz
    exact congrArg UInt32.toNat hr820t.ifOffset
  · rw [hfc0012.identity] at hclass
    cases hclass

end Runs

/-- On an R820T that has been opened, whatever calls follow and whichever of their transfers fail, the
IF is the one that the table gives for the last rate it has a row for, if the rates since have
succeeded on a crystal that is not corrected. -/
theorem selected_run {env : Env} {w : World} {calls : List DeviceCall} {s : Selected}
    (hopen : bringUp env ⟨blankDevice, [], none, 0⟩ = (.ok (), w))
    (hclass : w.dev.identity.tunerClass = .r820t)
    (hrun : run (Selected.step env) ⟨w, some 3570⟩ calls = some s) : s.Holds :=
  run_invariant (fun _ _ _ hs hstep => hs.step hstep) (Selected.opened_holds hopen hclass) hrun

/-- A request for 368 kHz, which gives 2 MSPS and more, selects 1.625 MHz; one for 1 MSPS and one that
is not accepted leave it. -/
theorem selected_run_folded : ∃ w s,
    bringUp steadyEnv ⟨blankDevice, [], none, 0⟩ = (.ok (), w) ∧
    run (Selected.step steadyEnv) ⟨w, some 3570⟩
      [.setSampleRate 368000, .setSampleRate 1000000, .setSampleRate 4000000] = some s ∧
    s.khz = some 1625 ∧ s.Holds := by
  have hopen : (bringUp steadyEnv ⟨blankDevice, [], none, 0⟩).1 = .ok () := by decide +kernel
  have hclass : (bringUp steadyEnv ⟨blankDevice, [], none, 0⟩).2.dev.identity.tunerClass =
      .r820t := by
    decide +kernel
  have hrun : (run (Selected.step steadyEnv)
      ⟨(bringUp steadyEnv ⟨blankDevice, [], none, 0⟩).2, some 3570⟩
      [.setSampleRate 368000, .setSampleRate 1000000, .setSampleRate 4000000]).map
        (fun s => s.khz) = some (some 1625) := by
    decide +kernel
  obtain ⟨s, hs, hkhz⟩ := Option.map_eq_some_iff.mp hrun
  have hopen := Prod.fst_eq_iff.mp hopen
  exact ⟨_, s, hopen, hs, hkhz, selected_run hopen hclass hs⟩

end Sdrgg.Sdr
