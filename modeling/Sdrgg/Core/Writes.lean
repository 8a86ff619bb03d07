import Sdrgg.Core.Shadow
import Sdrgg.ProofKit.Fields
import Sdrgg.R820t.Accuracy

/-! The operations of the R820T as masked writes to its registers and their shadow file. -/

namespace Sdrgg.R820t

open ProofKit Usb Rtl

/-! ### Writes that arrive -/

/-- The writes of `ws` have gone through the shadow file to the registers they name. -/
structure Wrote (ws : List (FieldWrite (Fin 27))) (t t' : TunerView) : Prop where
  identity : t'.identity = t.identity
  shadow : t'.shadow.r820tFile = applyAll ws t.shadow.r820tFile
  reached : ∀ i, i ∈ ws.map FieldWrite.place →
    t'.regs (shadowLayout.key i) = t'.shadow.r820tFile i
  spared : ∀ i, i ∉ ws.map FieldWrite.place →
    t'.regs (shadowLayout.key i) = t.regs (shadowLayout.key i)

theorem Wrote.refl (t : TunerView) : Wrote [] t t :=
  ⟨rfl, rfl, fun _ h => absurd h List.not_mem_nil, fun _ _ => rfl⟩

theorem applyAll_untouched {ws : List (FieldWrite (Fin 27))} {i : Fin 27}
    (h : i ∉ ws.map FieldWrite.place) (file : Fin 27 → UInt8) : applyAll ws file i = file i := by
  induction ws generalizing file with
  | nil => rfl
  | cons w ws ih =>
    rw [List.map_cons, List.mem_cons, not_or] at h
    rw [applyAll_cons, ih h.2, FieldWrite.apply, Function.update_of_ne h.1]

theorem Wrote.trans {ws vs : List (FieldWrite (Fin 27))} {t t' t'' : TunerView}
    (h1 : Wrote ws t t') (h2 : Wrote vs t' t'') : Wrote (ws ++ vs) t t'' := by
  have hplaces (i : Fin 27) : i ∈ (ws ++ vs).map FieldWrite.place ↔
      i ∈ ws.map FieldWrite.place ∨ i ∈ vs.map FieldWrite.place := by
    rw [List.map_append, List.mem_append]
  refine ⟨h2.identity.trans h1.identity, ?_, fun i hi => ?_, fun i hi => ?_⟩
  · rw [h2.shadow, h1.shadow, applyAll_append]
  · by_cases hlast : i ∈ vs.map FieldWrite.place
    · exact h2.reached i hlast
    · have hfirst := ((hplaces i).mp hi).resolve_right hlast
      rw [h2.spared i hlast, h1.reached i hfirst, h2.shadow, applyAll_untouched hlast]
  · rw [hplaces, not_or] at hi
    rw [h2.spared i hi.2, h1.spared i hi.1]

theorem Wrote.isR820t {ws : List (FieldWrite (Fin 27))} {t t' : TunerView} (h : Wrote ws t t')
    (ht : t.identity.tunerClass.isR820t = true) : t'.identity.tunerClass.isR820t = true := by
  rw [h.identity]
  exact ht

/-- Registers that were in step with their shadow file stay so. -/
theorem Wrote.shadowed {ws : List (FieldWrite (Fin 27))} {t t' : TunerView} (h : Wrote ws t t')
    (ht : Shadowed t) : Shadowed t' := by
  refine ⟨h.isR820t ht.isR820t, fun i => ?_⟩
  by_cases hi : i ∈ ws.map FieldWrite.place
  · exact h.reached i hi
  · rw [h.shadow, applyAll_untouched hi]
    exact (h.spared i hi).trans (ht.mirrors i)

/-- A register that has been reached holds the field of the last write of it. -/
theorem Wrote.field {ws shape : List (FieldWrite (Fin 27))} {t t' : TunerView}
    (h : Wrote ws t t') (hshape : ws.map FieldWrite.blank = shape) {n : Nat} {i : Fin 27}
    {m v mask : UInt8} (hw : ws[n]? = some ⟨i, m, v⟩) (hmask : m &&& mask = mask)
    (hpost : touched i (shape.drop (n + 1)) &&& mask = 0) :
    t'.regs (shadowLayout.key i) &&& mask = v &&& mask := by
  have hmem : i ∈ ws.map FieldWrite.place :=
    List.mem_map_of_mem (List.mem_of_getElem? hw)
  rw [← hshape, ← List.map_drop, touched_blank] at hpost
  rw [h.reached _ hmem, h.shadow]
  exact applyAll_field hw hmask hpost _

theorem Wrote.full {ws shape : List (FieldWrite (Fin 27))} {t t' : TunerView}
    (h : Wrote ws t t') (hshape : ws.map FieldWrite.blank = shape) {n : Nat} {i : Fin 27}
    {v : UInt8} (hw : ws[n]? = some ⟨i, 0xFF, v⟩)
    (hpost : touched i (shape.drop (n + 1)) &&& 0xFF = 0) :
    t'.regs (shadowLayout.key i) = v := by
  have hand (b : UInt8) : b &&& 0xFF = b := UInt8.and_neg_one
  have hfield := h.field hshape hw (by decide) hpost
  rw [hand, hand] at hfield
  exact hfield

section Ops

variable {c : Chip} {env : Env} {w w' u : World}

theorem wrote_wroteThrough (t : TunerView) (i : Fin 27) (mask val : UInt8) :
    Wrote [⟨i, mask, val⟩] t
      (wroteThrough t (shadowLayout.key i) (merge mask (t.shadow.r820tFile i) val)) := by
  have hfile : (wroteThrough t (shadowLayout.key i) (merge mask (t.shadow.r820tFile i)
      val)).shadow.r820tFile = applyAll [⟨i, mask, val⟩] t.shadow.r820tFile := by
    simp [wroteThrough, Layout.writeThrough, shadowLayout.place_key, FieldWrite.apply]
  have hregs : (wroteThrough t (shadowLayout.key i) (merge mask (t.shadow.r820tFile i) val)).regs =
      Function.update t.regs (shadowLayout.key i) (merge mask (t.shadow.r820tFile i) val) :=
    t.regs_framed [shadowLayout.key i, merge mask (t.shadow.r820tFile i) val]
  refine ⟨rfl, hfile, fun j hj => ?_, fun j hj => ?_⟩
  · obtain rfl := List.mem_singleton.mp hj
    rw [hregs, hfile]
    simp [FieldWrite.apply]
  · rw [hregs, Function.update_of_ne]
    exact fun heq => hj (List.mem_singleton.mpr (shadowLayout.key_inj.mp heq))

theorem tunerRmw_wrote {i : Fin 27} {val mask : UInt8}
    (hclass : w.dev.identity.tunerClass.isR820t = true)
    (h : tunerRmw (shadowLayout.key i) val mask env w = (.ok (), u)) :
    Wrote [⟨i, mask, val⟩] (tunerView c w) (tunerView c u) := by
  rw [tunerRmw_r820t hclass (shadowLayout.place_key i)] at h
  rw [tunerWriteReg_ok hclass h]
  exact wrote_wroteThrough _ i mask val

theorem merge_full (cur val : UInt8) : merge 0xFF cur val = val := by
  have hnone : ~~~(0xFF : UInt8) = 0 := by decide
  have hall : val &&& 0xFF = val := UInt8.and_neg_one
  rw [merge, hnone, UInt8.and_zero, UInt8.zero_or, hall]

theorem tunerWriteReg_wrote {i : Fin 27} {val : UInt8}
    (hclass : w.dev.identity.tunerClass.isR820t = true)
    (h : tunerWriteReg (shadowLayout.key i) val env w = (.ok (), u)) :
    Wrote [⟨i, 0xFF, val⟩] (tunerView c w) (tunerView c u) := by
  have hwrote := wrote_wroteThrough (tunerView c w) i 0xFF val
  rw [merge_full] at hwrote
  rw [tunerWriteReg_ok hclass h]
  exact hwrote

/-! ### Intents -/

/-- The write of an intent whose target has a place in the shadow file. -/
def RegIntent.write (intent : RegIntent) (i : Fin 27) : FieldWrite (Fin 27) :=
  ⟨i, if intent.fieldMask = 0xFF ∨ intent.action = .assignFull then 0xFF else intent.fieldMask,
    intent.value⟩

/-- The writes of a sequence of intents. -/
def seqWrites (seq : List RegIntent) : List (FieldWrite (Fin 27)) :=
  seq.filterMap fun intent => (shadowIndex intent.target).map intent.write

/-- The intents write registers that the shadow file mirrors. -/
def Mirrored (seq : List RegIntent) : Prop :=
  ∀ intent ∈ seq, intent.action ≠ .settleDelay ∧ (shadowIndex intent.target).isSome

theorem lowerIntent_wrote {intent : RegIntent} {i : Fin 27} (haction : intent.action ≠ .settleDelay)
    (htarget : shadowIndex intent.target = some i)
    (hclass : w.dev.identity.tunerClass.isR820t = true)
    (h : lowerIntent intent env w = (.ok (), u)) :
    Wrote [intent.write i] (tunerView c w) (tunerView c u) := by
  have hkey : intent.target = shadowLayout.key i := shadowIndex_eq_some.mp htarget
  rw [lowerIntent, if_neg haction, hkey] at h
  unfold RegIntent.write
  split at h
  · rename_i hfull
    rw [if_pos hfull]
    exact tunerWriteReg_wrote hclass h
  · rename_i hfield
    rw [if_neg hfield]
    exact tunerRmw_wrote hclass h

theorem lowerIntents_wrote {seq : List RegIntent} (hseq : Mirrored seq)
    (hclass : w.dev.identity.tunerClass.isR820t = true)
    (h : lowerIntents seq env w = (.ok (), u)) :
    Wrote (seqWrites seq) (tunerView c w) (tunerView c u) := by
  induction seq generalizing w with
  | nil =>
    cases h
    exact .refl _
  | cons intent seq ih =>
    obtain ⟨_, v, hv, h⟩ := Act.bind_eq_ok.mp h
    obtain ⟨haction, hsome⟩ := hseq intent List.mem_cons_self
    obtain ⟨i, hi⟩ := Option.isSome_iff_exists.mp hsome
    have hfirst := lowerIntent_wrote (c := c) haction hi hclass hv
    have hrest := ih (fun intent hmem => hseq intent (List.mem_cons_of_mem _ hmem))
      (hfirst.isR820t hclass) h
    have hcons : seqWrites (intent :: seq) = [intent.write i] ++ seqWrites seq := by
      simp [seqWrites, hi]
    rw [hcons]
    exact hfirst.trans hrest

/-! ### Tuning -/

/-- The encoding that `set_pll` computes for an LO. -/
def encodingFor (b : BasebandState) (loHz : UInt32) : Option PllEncoding :=
  let req : SynthRequest := ⟨loHz, b.oscillatorHz, b.freqOffsetPpm⟩
  (enumerateCandidates req).bind fun candidates =>
    (rankAndSelect (candidates.map (normalizeSpurAvoidance (referenceKhz req)))).bind fun chosen =>
      packPllSolution chosen (referenceKhz req)

/-- `acquire_lock`, with its first reading of the lock. -/
def acquireLockSeen : DevM Bool := do
  let locked ← probeLockStatus
  if !locked then
    tunerRmw 0x12 0x60 0xE0
    let locked ← probeLockStatus
    if !locked then Act.fail .pll
  tunerRmw 0x1A 0x08 0x08
  return locked

/-- The writes of `acquire_lock` for its first reading. -/
def lockWrites (locked : Bool) : List (FieldWrite (Fin 27)) :=
  (if locked then [] else [⟨13, 0xE0, 0x60⟩]) ++ [⟨21, 0x08, 0x08⟩]

theorem acquireLock_seen : acquireLock = acquireLockSeen >>= fun _ => pure () := by
  unfold acquireLock acquireLockSeen
  simp only [bind_assoc]
  congr 1
  funext locked
  cases locked with
  | true => simp
  | false =>
    simp only [Bool.not_false, if_true, bind_assoc]
    congr 1
    funext _
    congr 1
    funext second
    cases second <;> simp

theorem keepsTuner_probeLockStatus : Keeps (tunerView c) probeLockStatus :=
  (keepsTuner_tunerRead 0x00 3).bind fun _ => Keeps.pure _

theorem acquireLockSeen_wrote {locked : Bool} (hclass : w.dev.identity.tunerClass.isR820t = true)
    (h : acquireLockSeen env w = (.ok locked, u)) :
    Wrote (lockWrites locked) (tunerView c w) (tunerView c u) := by
  obtain ⟨first, v, hv, h⟩ := Act.bind_eq_ok.mp h
  have hprobe := keepsTuner_probeLockStatus (c := c)
  have hview := hprobe.world hv
  have hclass : v.dev.identity.tunerClass.isR820t = true := by
    rw [show v.dev.identity = w.dev.identity from congrArg TunerView.identity hview]
    exact hclass
  rw [← hview]
  cases first with
  | true =>
    obtain ⟨_, x, hx, h⟩ := Act.bind_eq_ok.mp h
    cases h
    exact tunerRmw_wrote (i := 21) hclass hx
  | false =>
    obtain ⟨_, x, hx, h⟩ := Act.bind_eq_ok.mp h
    have hescalate := tunerRmw_wrote (c := c) (i := 13) hclass hx
    obtain ⟨second, y, hy, h⟩ := Act.bind_eq_ok.mp h
    have hsecond := hprobe.world hy
    cases second with
    | false =>
      obtain ⟨_, z, hz, h⟩ := Act.bind_eq_ok.mp h
      cases hz
    | true =>
      obtain ⟨_, z, hz, h⟩ := Act.bind_eq_ok.mp h
      cases h
      have hlast := hescalate.isR820t hclass
      rw [← hsecond] at hescalate hlast
      exact hescalate.trans (tunerRmw_wrote (i := 21) hlast hz)

/-- `set_pll` after its request has been noted, with the first reading of the lock. -/
def programPllSeen (freqHz : UInt32) : DevM Bool := do
  let dev ← device
  let req : SynthRequest := ⟨freqHz, dev.baseband.oscillatorHz, dev.baseband.freqOffsetPpm⟩
  let candidates ← Act.ofOption (enumerateCandidates req)
  match rankAndSelect (candidates.map (normalizeSpurAvoidance (referenceKhz req))) with
  | none => Act.fail .pll
  | some chosen =>
    let enc ← Act.ofOption (packPllSolution chosen (referenceKhz req))
    lowerIntents (composeSynthIntents enc)
    acquireLockSeen

/-- `set_freq`, with the first reading of the lock. -/
def setFreqSeen (freqHz ifFreqHz : UInt32) : DevM Bool := do
  let loTarget := freqHz + ifFreqHz
  setMux loTarget
  Act.modify fun w => { w with loRequested := some loTarget }
  let locked ← programPllSeen loTarget
  lowerIntents (composeAnalogIntents sdrReceptionProfile)
  return locked

theorem programPll_seen (freqHz : UInt32) :
    programPll freqHz = programPllSeen freqHz >>= fun _ => pure () := by
  unfold programPll programPllSeen
  simp only [bind_assoc]
  congr 1
  funext dev
  congr 1
  funext candidates
  cases rankAndSelect (candidates.map _) with
  | none => rfl
  | some chosen =>
    simp only [bind_assoc, acquireLock_seen]

theorem setFreq_seen (freqHz ifFreqHz : UInt32) :
    setFreq freqHz ifFreqHz = setFreqSeen freqHz ifFreqHz >>= fun _ => pure () := by
  unfold setFreq setPll setFreqSeen
  simp only [bind_assoc, programPll_seen, pure_bind, bind_pure_unit]

theorem mirrored_path (enc : PathEncoding) : Mirrored (composePathIntents enc) := by
  simp [Mirrored, composePathIntents, iseq, iseqPush, pushField, pushFull]
  decide

theorem mirrored_synth (enc : PllEncoding) : Mirrored (composeSynthIntents enc) := by
  simp [Mirrored, composeSynthIntents, iseq, iseqPush, pushField, pushFull]
  decide

theorem mirrored_analog (profile : AnalogProfile) : Mirrored (composeAnalogIntents profile) := by
  simp [Mirrored, composeAnalogIntents, iseq, iseqPush, pushField, pushFull]
  decide

/-- The writes of `set_freq` for an LO, its encoding and the first reading of the lock. -/
def freqWrites (loHz : UInt32) (enc : PllEncoding) (locked : Bool) : List (FieldWrite (Fin 27)) :=
  seqWrites (composePathIntents (lowerRoutingPlan (classifyRfPath loHz))) ++
    ((seqWrites (composeSynthIntents enc) ++ lockWrites locked) ++
      seqWrites (composeAnalogIntents sdrReceptionProfile))

theorem seqWrites_path (enc : PathEncoding) :
    seqWrites (composePathIntents enc) =
      [ ⟨18, 0x08, enc.drainBias⟩, ⟨21, 0xC3, enc.muxSelector⟩, ⟨22, 0xFF, enc.trackingTap⟩,
        ⟨11, 0x0B, 0x00⟩ ] := by
  simp [seqWrites, composePathIntents, iseq, iseqPush, pushField, pushFull, RegIntent.write,
    shadowIndex]

theorem seqWrites_synth (enc : PllEncoding) :
    seqWrites (composeSynthIntents enc) =
      [ ⟨21, 0x0C, 0x00⟩, ⟨13, 0xE0, 0x80⟩, ⟨11, 0xE0, enc.divField⟩, ⟨15, 0xFF, enc.niSiPacked⟩,
        ⟨13, 0x08, enc.modeField⟩, ⟨17, 0xFF, enc.sdmHi⟩, ⟨16, 0xFF, enc.sdmLo⟩ ] := by
  simp [seqWrites, composeSynthIntents, iseq, iseqPush, pushField, pushFull, RegIntent.write,
    shadowIndex]

/-- The places and masks of the writes of `set_freq`. -/
def freqShape (locked : Bool) : List (FieldWrite (Fin 27)) :=
  freqWrites 0 ⟨0, 0, 0, 0, 0⟩ locked |>.map FieldWrite.blank

/-- `set_freq` writes the same fields whatever it is to tune to. -/
theorem freqWrites_shape (loHz : UInt32) (enc : PllEncoding) (locked : Bool) :
    (freqWrites loHz enc locked).map FieldWrite.blank = freqShape locked := by
  rw [freqShape, freqWrites, freqWrites]
  simp only [seqWrites_path, seqWrites_synth, List.map_append, List.map_cons, List.map_nil,
    FieldWrite.blank]

/-- The writes of `set_freq` leave the encoding in the registers. -/
theorem Wrote.holds {loHz : UInt32} {enc : PllEncoding} {locked : Bool} {t t' : TunerView}
    (h : Wrote (freqWrites loHz enc locked) t t') : Holds t'.regs enc := by
  have hshape := freqWrites_shape loHz enc locked
  have hsynth {n : Nat} (hn : n < 7) : (freqWrites loHz enc locked)[n + 4]? =
      (seqWrites (composeSynthIntents enc))[n]? := by
    rw [freqWrites, seqWrites_path, seqWrites_synth, List.append_assoc,
      List.getElem?_append_right (by simp), List.getElem?_append_left (by simpa using hn)]
    simp
  rw [seqWrites_synth] at hsynth
  refine ⟨?_, ?_, ?_, ?_, ?_⟩
  · exact h.field hshape (hsynth (n := 2) (by decide)) (by decide) (by cases locked <;> decide)
  · exact h.full hshape (hsynth (n := 3) (by decide)) (by cases locked <;> decide)
  · exact h.field hshape (hsynth (n := 4) (by decide)) (by decide) (by cases locked <;> decide)
  · exact h.full hshape (hsynth (n := 5) (by decide)) (by cases locked <;> decide)
  · exact h.full hshape (hsynth (n := 6) (by decide)) (by cases locked <;> decide)

theorem programPllSeen_wrote {loHz : UInt32} {locked : Bool}
    (hclass : w.dev.identity.tunerClass.isR820t = true)
    (h : programPllSeen loHz env w = (.ok locked, u)) :
    ∃ enc, encodingFor w.dev.baseband loHz = some enc ∧
      Wrote (seqWrites (composeSynthIntents enc) ++ lockWrites locked) (tunerView c w)
        (tunerView c u) := by
  rw [programPllSeen, Act.bind_of_ok (device_apply env w)] at h
  obtain ⟨candidates, v, hc, h⟩ := Act.bind_eq_ok.mp h
  obtain ⟨hsome, rfl⟩ := Act.ofOption_eq_ok.mp hc
  rcases hchosen : rankAndSelect (candidates.map (normalizeSpurAvoidance
    (referenceKhz ⟨loHz, w.dev.baseband.oscillatorHz, w.dev.baseband.freqOffsetPpm⟩))) with _ | chosen
  · rw [hchosen] at h
    cases h
  · rw [hchosen] at h
    obtain ⟨enc, x, henc, h⟩ := Act.bind_eq_ok.mp h
    obtain ⟨hpack, rfl⟩ := Act.ofOption_eq_ok.mp henc
    obtain ⟨_, y, hsynth, h⟩ := Act.bind_eq_ok.mp h
    have hwrote := lowerIntents_wrote (c := c) (mirrored_synth _) hclass hsynth
    refine ⟨enc, ?_, hwrote.trans (acquireLockSeen_wrote (hwrote.isR820t hclass) h)⟩
    rw [encodingFor, hsome, Option.bind_some, hchosen, Option.bind_some, hpack]

theorem setFreqSeen_wrote {freqHz ifFreqHz : UInt32} {locked : Bool}
    (hclass : w.dev.identity.tunerClass.isR820t = true)
    (h : setFreqSeen freqHz ifFreqHz env w = (.ok locked, u)) :
    ∃ enc, encodingFor w.dev.baseband (freqHz + ifFreqHz) = some enc ∧
      Wrote (freqWrites (freqHz + ifFreqHz) enc locked) (tunerView c w) (tunerView c u) := by
  obtain ⟨_, v, hmux, h⟩ := Act.bind_eq_ok.mp h
  have hpath := lowerIntents_wrote (c := c) (mirrored_path _) hclass hmux
  have hbaseband : v.dev.baseband = w.dev.baseband :=
    congrArg Config.baseband ((keeps_setMux _).world hmux)
  obtain ⟨_, x, hnote, h⟩ := Act.bind_eq_ok.mp h
  cases hnote
  obtain ⟨first, y, hpll, h⟩ := Act.bind_eq_ok.mp h
  obtain ⟨_, z, hanalog, h⟩ := Act.bind_eq_ok.mp h
  cases h
  obtain ⟨enc, henc, hsynth⟩ := programPllSeen_wrote (c := c)
    (w := { v with loRequested := some (freqHz + ifFreqHz) }) (hpath.isR820t hclass) hpll
  have hlast := lowerIntents_wrote (c := c) (mirrored_analog _)
    (hsynth.isR820t (hpath.isR820t hclass)) hanalog
  exact ⟨enc, hbaseband ▸ henc, hpath.trans (hsynth.trans hlast)⟩

end Ops

end Sdrgg.R820t
