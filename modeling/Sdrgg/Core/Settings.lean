import Sdrgg.Core.Writes
import Sdrgg.ProofKit.Run

/-! The settings of an R820T, each with the register bits that it owns, and the order in which they
are made. -/

namespace Sdrgg.R820t

open ProofKit Usb Rtl

inductive SettingKind where
  | freq
  | lnaGain
  | mixerGain
  | vgaGain
  | bandwidth
deriving DecidableEq, Repr

inductive Setting where
  | freq (freqHz ifFreqHz : UInt32)
  | lnaGain (index : Int32)
  | mixerGain (index : Int32)
  | vgaGain (index : Int32)
  | bandwidth (bwKhz : UInt32)
deriving DecidableEq, Repr

def Setting.kind : Setting → SettingKind
  | .freq _ _ => .freq
  | .lnaGain _ => .lnaGain
  | .mixerGain _ => .mixerGain
  | .vgaGain _ => .vgaGain
  | .bandwidth _ => .bandwidth

def Setting.perform : Setting → DevM Unit
  | .freq freqHz ifFreqHz => setFreq freqHz ifFreqHz
  | .lnaGain index => setLnaGain index
  | .mixerGain index => setMixerGain index
  | .vgaGain index => setVgaGain index
  | .bandwidth bwKhz => setBandwidth bwKhz

/-- A setting, with the first reading of the lock when it is a frequency. -/
def Setting.performSeen : Setting → DevM (Option Bool)
  | .freq freqHz ifFreqHz => do
    let locked ← setFreqSeen freqHz ifFreqHz
    return some locked
  | .lnaGain index => do
    setLnaGain index
    return none
  | .mixerGain index => do
    setMixerGain index
    return none
  | .vgaGain index => do
    setVgaGain index
    return none
  | .bandwidth bwKhz => do
    setBandwidth bwKhz
    return none

theorem Setting.perform_seen (s : Setting) :
    s.perform = s.performSeen >>= fun _ => pure () := by
  cases s <;> simp [Setting.perform, Setting.performSeen, setFreq_seen]

/-! ### The writes of a setting -/

def lnaWrites (index : Int32) : List (FieldWrite (Fin 27)) :=
  if index < 0 then [⟨0, 0x10, 0x00⟩]
  else [⟨0, 0x1F, 0x10 ||| (if index > 0x0F then 0x0F else index).toUInt32.toUInt8⟩]

def mixerWrites (index : Int32) : List (FieldWrite (Fin 27)) :=
  if index < 0 then [⟨2, 0x10, 0x10⟩]
  else [⟨2, 0x1F, 0x10 ||| (if index > 15 then 15 else index).toUInt32.toUInt8⟩]

def vgaWrites (index : Int32) : List (FieldWrite (Fin 27)) :=
  let index := if index < 0 then 0 else index
  [⟨7, 0x9F, (if index > 15 then 15 else index).toUInt32.toUInt8⟩]

def bandwidthWrites (bwKhz : UInt32) : List (FieldWrite (Fin 27)) :=
  [⟨5, 0x10, (bandwidthSetting bwKhz).reg0a⟩, ⟨6, 0xEF, (bandwidthSetting bwKhz).reg0b⟩]

/-- The writes of a setting for the first reading of the lock. -/
def Setting.writes (b : BasebandState) (locked : Bool) : Setting → List (FieldWrite (Fin 27))
  | .freq freqHz ifFreqHz =>
    match encodingFor b (freqHz + ifFreqHz) with
    | some enc => freqWrites (freqHz + ifFreqHz) enc locked
    | none => []
  | .lnaGain index => lnaWrites index
  | .mixerGain index => mixerWrites index
  | .vgaGain index => vgaWrites index
  | .bandwidth bwKhz => bandwidthWrites bwKhz

section Wrote

variable {c : Chip} {env : Env} {w u : World}

theorem setLnaGain_wrote {index : Int32} (hclass : w.dev.identity.tunerClass.isR820t = true)
    (h : setLnaGain index env w = (.ok (), u)) :
    Wrote (lnaWrites index) (tunerView c w) (tunerView c u) := by
  unfold setLnaGain at h
  unfold lnaWrites
  split at h
  · rename_i hauto
    rw [if_pos hauto]
    exact tunerRmw_wrote (i := 0) hclass h
  · rename_i hmanual
    rw [if_neg hmanual]
    exact tunerRmw_wrote (i := 0) hclass h

theorem setMixerGain_wrote {index : Int32} (hclass : w.dev.identity.tunerClass.isR820t = true)
    (h : setMixerGain index env w = (.ok (), u)) :
    Wrote (mixerWrites index) (tunerView c w) (tunerView c u) := by
  unfold setMixerGain at h
  unfold mixerWrites
  split at h
  · rename_i hauto
    rw [if_pos hauto]
    exact tunerRmw_wrote (i := 2) hclass h
  · rename_i hmanual
    rw [if_neg hmanual]
    exact tunerRmw_wrote (i := 2) hclass h

theorem setVgaGain_wrote {index : Int32} (hclass : w.dev.identity.tunerClass.isR820t = true)
    (h : setVgaGain index env w = (.ok (), u)) :
    Wrote (vgaWrites index) (tunerView c w) (tunerView c u) :=
  tunerRmw_wrote (i := 7) hclass h

theorem setBandwidth_wrote {bwKhz : UInt32} (hclass : w.dev.identity.tunerClass.isR820t = true)
    (h : setBandwidth bwKhz env w = (.ok (), u)) :
    Wrote (bandwidthWrites bwKhz) (tunerView c w) (tunerView c u) := by
  obtain ⟨_, v, hv, h⟩ := Act.bind_eq_ok.mp h
  obtain ⟨_, x, hx, hv⟩ := Act.bind_eq_ok.mp hv
  obtain ⟨_, y, hy, hv⟩ := Act.bind_eq_ok.mp hv
  cases hv
  rw [(keepsTuner_setIfFreq (c := c) _).world h]
  have hfilter := tunerRmw_wrote (c := c) (i := 5) hclass hx
  exact hfilter.trans (tunerRmw_wrote (i := 6) (hfilter.isR820t hclass) hy)

/-- A setting that succeeds makes its writes. -/
theorem Setting.wrote {s : Setting} {seen : Option Bool} {locked : Bool}
    (hclass : w.dev.identity.tunerClass.isR820t = true)
    (h : s.performSeen env w = (.ok seen, u)) (hseen : seen.getD locked = locked) :
    Wrote (s.writes w.dev.baseband locked) (tunerView c w) (tunerView c u) := by
  cases s with
  | freq freqHz ifFreqHz =>
    obtain ⟨first, v, hv, h⟩ := Act.bind_eq_ok.mp h
    cases h
    obtain rfl : first = locked := hseen
    obtain ⟨enc, henc, hwrote⟩ := setFreqSeen_wrote (c := c) hclass hv
    rw [Setting.writes, henc]
    exact hwrote
  | lnaGain index =>
    obtain ⟨_, v, hv, h⟩ := Act.bind_eq_ok.mp h
    cases h
    exact setLnaGain_wrote hclass hv
  | mixerGain index =>
    obtain ⟨_, v, hv, h⟩ := Act.bind_eq_ok.mp h
    cases h
    exact setMixerGain_wrote hclass hv
  | vgaGain index =>
    obtain ⟨_, v, hv, h⟩ := Act.bind_eq_ok.mp h
    cases h
    exact setVgaGain_wrote hclass hv
  | bandwidth bwKhz =>
    obtain ⟨_, v, hv, h⟩ := Act.bind_eq_ok.mp h
    cases h
    exact setBandwidth_wrote hclass hv

/-- No setting changes the crystal or its correction. -/
theorem Setting.keepsBaseband (s : Setting) : Keeps (fun w => w.dev.baseband) s.performSeen := by
  have hconfig {m : DevM Unit} (hm : Keeps World.config m) : Keeps (fun w => w.dev.baseband) m :=
    hm.comp Config.baseband
  refine Keeps.of_discard (b := ()) ?_
  rw [← Setting.perform_seen]
  cases s with
  | freq freqHz ifFreqHz =>
    intro env w
    obtain h | h := setFreq_config freqHz ifFreqHz env w <;> exact congrArg Config.baseband h
  | lnaGain index => exact hconfig (keeps_setLnaGain index)
  | mixerGain index => exact hconfig (keeps_setMixerGain index)
  | vgaGain index => exact hconfig (keeps_setVgaGain index)
  | bandwidth bwKhz =>
    exact (hconfig (keeps_lowerIntents _)).bind fun _ =>
      (hconfig (keeps_programNco _)).bind fun _ => Keeps.modify fun _ => rfl

end Wrote

/-! ### The bits of a setting -/

/-- The places and masks of what the settings of a kind write. -/
def SettingKind.shapes : SettingKind → List (List (FieldWrite (Fin 27)))
  | .freq => [[], freqShape true, freqShape false]
  | .lnaGain => [[⟨0, 0x10, 0⟩], [⟨0, 0x1F, 0⟩]]
  | .mixerGain => [[⟨2, 0x10, 0⟩], [⟨2, 0x1F, 0⟩]]
  | .vgaGain => [[⟨7, 0x9F, 0⟩]]
  | .bandwidth => [[⟨5, 0x10, 0⟩, ⟨6, 0xEF, 0⟩]]

/-- The bits of a register that the settings of a kind write. -/
def SettingKind.owned (kind : SettingKind) (i : Fin 27) : UInt8 := touched i kind.shapes.flatten

theorem owned_disjoint {kind other : SettingKind} (h : kind ≠ other) (i : Fin 27) :
    kind.owned i &&& other.owned i = 0 := by
  have hall : ∀ i : Fin 27, kind.owned i &&& other.owned i = 0 := by
    cases kind <;> cases other <;> first | exact absurd rfl h | decide +kernel
  exact hall i

theorem Setting.shape_writes (s : Setting) (b : BasebandState) (locked : Bool) :
    (s.writes b locked).map FieldWrite.blank ∈ s.kind.shapes := by
  cases s with
  | freq freqHz ifFreqHz =>
    simp only [Setting.writes, Setting.kind, SettingKind.shapes]
    rcases encodingFor b (freqHz + ifFreqHz) with _ | enc
    · simp
    · dsimp only
      rw [freqWrites_shape]
      cases locked <;> simp
  | lnaGain index =>
    simp only [Setting.writes, Setting.kind, SettingKind.shapes, lnaWrites]
    split <;> simp [FieldWrite.blank]
  | mixerGain index =>
    simp only [Setting.writes, Setting.kind, SettingKind.shapes, mixerWrites]
    split <;> simp [FieldWrite.blank]
  | vgaGain index => exact List.mem_singleton.mpr rfl
  | bandwidth bwKhz => exact List.mem_singleton.mpr rfl

/-- A setting writes bits of its own only. -/
theorem Setting.owned_of_touched {s : Setting} {b : BasebandState} {locked : Bool} {i : Fin 27}
    {k : Nat} (h : bit (touched i (s.writes b locked)) k = true) :
    bit (s.kind.owned i) k = true := by
  rw [← touched_blank, bit_touched] at h
  rw [SettingKind.owned, bit_touched]
  exact lastBit_isSome_flatten (s.shape_writes b locked) h

theorem Setting.disjoint_owned {s : Setting} {kind : SettingKind} (h : s.kind ≠ kind)
    (b : BasebandState) (locked : Bool) (i : Fin 27) :
    touched i (s.writes b locked) &&& kind.owned i = 0 :=
  and_eq_zero_iff.mpr fun k hk =>
    and_eq_zero_iff.mp (owned_disjoint h i) k (Setting.owned_of_touched hk)

theorem Setting.disjoint_writes {s s' : Setting} (h : s.kind ≠ s'.kind) (b : BasebandState)
    (locked : Bool) : BitsDisjoint (s.writes b locked) (s'.writes b locked) := by
  intro i
  rw [UInt8.and_comm]
  refine and_eq_zero_iff.mpr fun k hk => ?_
  have howned := and_eq_zero_iff.mp (s.disjoint_owned h b locked i)
  cases hbit : bit (touched i (s.writes b locked)) k with
  | false => rfl
  | true => exact absurd (Setting.owned_of_touched hk) (by rw [howned k hbit]; decide)

/-! ### Settings in any order -/

/-- The world after a setting that succeeds, when a frequency reads the lock as `locked` first. -/
def settingStep (env : Env) (locked : Bool) (w : World) (s : Setting) : Option World :=
  match s.performSeen env w with
  | (.ok seen, u) => if seen.getD locked = locked then some u else none
  | (.error _, _) => none

theorem settingStep_eq_some {env : Env} {locked : Bool} {w u : World} {s : Setting} :
    settingStep env locked w s = some u ↔
      ∃ seen, s.performSeen env w = (.ok seen, u) ∧ seen.getD locked = locked := by
  unfold settingStep
  rcases s.performSeen env w with ⟨e | seen, v⟩
  · simp
  · simp
    grind

theorem run_wrote {c : Chip} {env : Env} {locked : Bool} {w v : World} {settings : List Setting}
    (hclass : w.dev.identity.tunerClass.isR820t = true)
    (h : run (settingStep env locked) w settings = some v) :
    Wrote (settings.map (Setting.writes w.dev.baseband locked)).flatten (tunerView c w)
      (tunerView c v) := by
  induction settings generalizing w with
  | nil =>
    cases h
    exact .refl _
  | cons s rest ih =>
    obtain ⟨u, hu, hrest⟩ := Option.bind_eq_some_iff.mp h
    obtain ⟨seen, hmade, hseen⟩ := settingStep_eq_some.mp hu
    have hfirst := Setting.wrote (c := c) hclass hmade hseen
    have hbaseband : u.dev.baseband = w.dev.baseband := s.keepsBaseband.world hmade
    have hrest := ih (hfirst.isR820t hclass) hrest
    rw [hbaseband] at hrest
    exact hfirst.trans hrest

/-- One setting of each kind. -/
def oneEach (freqHz ifFreqHz : UInt32) (lna mixer vga : Int32) (bwKhz : UInt32) : List Setting :=
  [.freq freqHz ifFreqHz, .lnaGain lna, .mixerGain mixer, .vgaGain vga, .bandwidth bwKhz]

theorem oneEach_disjoint (freqHz ifFreqHz : UInt32) (lna mixer vga : Int32) (bwKhz : UInt32)
    (b : BasebandState) (locked : Bool) :
    ((oneEach freqHz ifFreqHz lna mixer vga bwKhz).map (Setting.writes b locked)).Pairwise
      BitsDisjoint := by
  have hkinds : (oneEach freqHz ifFreqHz lna mixer vga bwKhz).Pairwise
      fun s s' => s.kind ≠ s'.kind := by
    simp [oneEach, Setting.kind]
  exact List.pairwise_map.mpr (hkinds.imp fun h => Setting.disjoint_writes h b locked)

/-- A setting that succeeds leaves the bits of the other kinds. -/
theorem Setting.frame {s : Setting} {kind : SettingKind} {env : Env} {w u : World}
    (hkind : s.kind ≠ kind) (hclass : w.dev.identity.tunerClass.isR820t = true)
    (h : s.perform env w = (.ok (), u)) (i : Fin 27) :
    u.dev.shadow.r820tFile i &&& kind.owned i = w.dev.shadow.r820tFile i &&& kind.owned i := by
  rw [Setting.perform_seen] at h
  obtain ⟨seen, v, hv, h⟩ := Act.bind_eq_ok.mp h
  cases h
  have hseen : seen.getD (seen.getD true) = seen.getD true := by
    cases seen <;> rfl
  have hwrote := Setting.wrote (c := blankChip) hclass hv hseen
  have hfile : u.dev.shadow.r820tFile = _ := hwrote.shadow
  rw [hfile]
  exact applyAll_frame (Setting.disjoint_owned hkind _ _ i) _

/-- One setting of each kind ends in the same file in whatever order they are made, in the shadow and
on a chip that was in step with it, and each leaves the bits of the others. -/
theorem settings_commute {env envA envB : Env} {locked : Bool} {w uA uB : World}
    {settingsA settingsB : List Setting} {freqHz ifFreqHz : UInt32} {lna mixer vga : Int32}
    {bwKhz : UInt32} (hclass : w.dev.identity.tunerClass.isR820t = true)
    (hpermA : settingsA.Perm (oneEach freqHz ifFreqHz lna mixer vga bwKhz))
    (hpermB : settingsB.Perm (oneEach freqHz ifFreqHz lna mixer vga bwKhz))
    (hA : run (settingStep envA locked) w settingsA = some uA)
    (hB : run (settingStep envB locked) w settingsB = some uB) :
    uA.dev.shadow.r820tFile = uB.dev.shadow.r820tFile ∧
      (∀ c, InStep c w → ∀ i : Fin 27,
        tunerReg c uA (0x05 + UInt8.ofNat i) = tunerReg c uB (0x05 + UInt8.ofNat i)) ∧
      ∀ s ∈ oneEach freqHz ifFreqHz lna mixer vga bwKhz, ∀ kind ≠ s.kind, ∀ v v' : World,
        v.dev.identity = w.dev.identity → s.perform env v = (.ok (), v') → ∀ i : Fin 27,
          v'.dev.shadow.r820tFile i &&& kind.owned i =
            v.dev.shadow.r820tFile i &&& kind.owned i := by
  have hfile {settings : List Setting} {env : Env} {u : World}
      (hperm : settings.Perm (oneEach freqHz ifFreqHz lna mixer vga bwKhz))
      (hrun : run (settingStep env locked) w settings = some u) : u.dev.shadow.r820tFile =
        applyAll ((oneEach freqHz ifFreqHz lna mixer vga bwKhz).map
          (Setting.writes w.dev.baseband locked)).flatten w.dev.shadow.r820tFile :=
    (run_wrote (c := blankChip) hclass hrun).shadow.trans
      (applyAll_perm (hperm.map _).symm (oneEach_disjoint _ _ _ _ _ _ _ _) _).symm
  have hsame : uA.dev.shadow.r820tFile = uB.dev.shadow.r820tFile :=
    (hfile hpermA hA).trans (hfile hpermB hB).symm
  refine ⟨hsame, fun c hw i => ?_, fun s _ kind hkind v v' hidentity hrun i => ?_⟩
  · have hstepA : InStep c uA := (run_wrote hclass hA).shadowed hw
    have hstepB : InStep c uB := (run_wrote hclass hB).shadowed hw
    exact (hstepA.mirrors i).trans ((congrFun hsame i).trans (hstepB.mirrors i).symm)
  · exact s.frame hkind.symm (by rw [hidentity]; exact hclass) hrun i

/-- The settings of a receiver at 100 MHz, forwards and backwards. -/
theorem settings_commute_steady : ∃ uA uB,
    run (settingStep Sdr.steadyEnv true) Sdr.openedR820t (oneEach 100000000 3570000 4 3 8 2000) =
      some uA ∧
    run (settingStep Sdr.steadyEnv true) Sdr.openedR820t
      (oneEach 100000000 3570000 4 3 8 2000).reverse = some uB ∧
    uA.dev.shadow.r820tFile = uB.dev.shadow.r820tFile := by
  have hA : (run (settingStep Sdr.steadyEnv true) Sdr.openedR820t
      (oneEach 100000000 3570000 4 3 8 2000)).isSome := by
    decide +kernel
  have hB : (run (settingStep Sdr.steadyEnv true) Sdr.openedR820t
      (oneEach 100000000 3570000 4 3 8 2000).reverse).isSome := by
    decide +kernel
  obtain ⟨uA, huA⟩ := Option.isSome_iff_exists.mp hA
  obtain ⟨uB, huB⟩ := Option.isSome_iff_exists.mp hB
  exact ⟨uA, uB, huA, huB,
    (@settings_commute Sdr.steadyEnv _ _ _ _ _ _ _ _ _ _ _ _ _ _ rfl (.refl _)
      (List.reverse_perm _) huA huB).1⟩

end Sdrgg.R820t
