import Sdrgg.Core.Faults
import Sdrgg.Rtl.Bus

/-! What a frequency that the PLL solver of the tuner rejects leaves behind: the RF path of an R820T
and the band selection of an FC0012 are written before the solver is asked. -/

namespace Sdrgg.Sdr

open ProofKit Usb Rtl

/-! ### Parts of the log -/

/-- The frames that devices on the bus have taken. -/
def taken (es : List (Transfer × Response)) : List (List UInt8) :=
  es.filterMap fun e =>
    match e with
    | (.write _ index data, .done _) => if index = 0x0610 then some data else none
    | _ => none

/-- The read of the GPIO outputs. -/
def gpioRead : Transfer := .read 0x3001 0x0200 1

/-- A write of the GPIO outputs. -/
def gpioWrite (outputs : UInt8) : Transfer := .write 0x3001 0x0210 [outputs]

/-- The GPIO outputs after the transfers of a log, when they were `g` before the first. -/
def gpioOutputs (g : UInt8) : Log → UInt8
  | [] => g
  | (.write value index data, .done _) :: log =>
    if value = 0x3001 ∧ index = 0x0210 then data.headD 0 else gpioOutputs g log
  | _ :: log => gpioOutputs g log

/-- An access of the GPIO outputs. -/
def onGpio : Transfer → Bool
  | .write value index _ => value = 0x3001 && index = 0x0210
  | .read value index _ => value = 0x3001 && index = 0x0200
  | _ => false

/-- No transfer accesses the GPIO outputs. -/
def OffGpio (es : List (Transfer × Response)) : Prop := ∀ e ∈ es, onGpio e.1 = false

section Logs

variable {es es' : List (Transfer × Response)}

theorem OffGpio.append (h : OffGpio es) (h' : OffGpio es') : OffGpio (es ++ es') := by
  intro e he
  exact (List.mem_append.mp he).elim (h e) (h' e)

theorem OffGpio.reverse (h : OffGpio es) : OffGpio es.reverse :=
  fun e he => h e (List.mem_reverse.mp he)

theorem taken_append : taken (es ++ es') = taken es ++ taken es' := List.filterMap_append

theorem taken_eq_nil (h : busEntries es = []) : taken es = [] := by
  refine List.filterMap_eq_nil_iff.mpr fun e he => ?_
  have hoff : Transfer.onTunerBus e.1 = false := by
    simpa using List.filter_eq_nil_iff.mp h e he
  obtain ⟨⟨value, index, data⟩ | _ | _ | _, resp⟩ := e
  · have hindex : index ≠ 0x0610 := by
      simpa [Transfer.onTunerBus] using hoff
    cases resp <;> simp [hindex]
  all_goals cases resp <;> rfl

theorem gpioOutputs_append (g : UInt8) {log : Log} (h : OffGpio es) :
    gpioOutputs g (es ++ log) = gpioOutputs g log := by
  induction es with
  | nil => rfl
  | cons e es ih =>
    have hrest := ih fun e he => h e (List.mem_cons_of_mem _ he)
    have hoff := h e List.mem_cons_self
    rw [List.cons_append, ← hrest]
    obtain ⟨⟨value, index, data⟩ | _ | _ | _, resp⟩ := e
    · have hnot : ¬(value = 0x3001 ∧ index = 0x0210) := by
        simpa [onGpio] using hoff
      cases resp with
      | done bytes => exact if_neg hnot
      | fail errno => rfl
    all_goals cases resp <;> rfl

end Logs

/-! ### Operations that leave the tuner and the outputs alone -/

/-- No transfer reaches a device on the bus or the GPIO outputs. -/
def Aside (es : List (Transfer × Response)) : Prop := OffGpio es ∧ taken es = []

section Aside

variable {env : Env} {α β : Type} {m : DevM α}

theorem Aside.append {es es' : List (Transfer × Response)} (h : Aside es) (h' : Aside es') :
    Aside (es ++ es') :=
  ⟨h.1.append h'.1, by rw [taken_append, h.2, h'.2, List.append_nil]⟩

/-- `m` returns, and its transfers are aside. -/
abbrev SettlesAside (env : Env) (m : DevM α) : Prop :=
  Settles env (fun _ => True) World.log m Aside

abbrev LogsAside (env : Env) (m : DevM α) : Prop := Logs env (fun _ => True) World.log m Aside

theorem SettlesAside.pure (a : α) : SettlesAside env (pure a : DevM α) :=
  Settles.pure ⟨by simp [OffGpio], rfl⟩

theorem SettlesAside.bind {k : α → DevM β} (hm : SettlesAside env m)
    (hk : ∀ a, SettlesAside env (k a)) : SettlesAside env (m >>= k) :=
  Settles.bind hm hk fun _ _ => Aside.append

theorem LogsAside.bind {k : α → DevM β} (hm : LogsAside env m) (hk : ∀ a, LogsAside env (k a)) :
    LogsAside env (m >>= k) :=
  Logs.bind hm hk fun _ _ => Aside.append

theorem aside_controlWrite {value index : UInt16} {data : List UInt8} (htuner : index ≠ 0x0610)
    (hgpio : index ≠ 0x0210) : LogsAside env (controlWrite value index data) := by
  refine (traces_controlWrite (preserves_true _)).mono ?_
  rintro _ _ ⟨resp, rfl, rfl⟩
  refine ⟨?_, by simp [OffGpio, onGpio, hgpio], taken_eq_nil ?_⟩
  · cases resp <;> simp [Response.outcome]
  · simp [busEntries, Transfer.onTunerBus, htuner]

theorem aside_controlRead {value index len : UInt16} {buf : List UInt8} (htuner : index ≠ 0x0600)
    (hgpio : index ≠ 0x0200) : LogsAside env (controlRead value index len buf) := by
  refine (traces_controlRead (preserves_true _)).mono ?_
  rintro _ _ ⟨w, resp, -, -, rfl, rfl⟩
  refine ⟨?_, by simp [OffGpio, onGpio, hgpio], taken_eq_nil ?_⟩
  · cases resp <;> simp [Response.received]
  · simp [busEntries, Transfer.onTunerBus, htuner]

theorem aside_submitDemodWrite {page reg : UInt8} {val : UInt16} {len : UInt8}
    (htuner : 0x10 ||| page.toUInt16 ≠ 0x0610) (hgpio : 0x10 ||| page.toUInt16 ≠ 0x0210) :
    LogsAside env (submitDemodWrite page reg val len) :=
  (aside_controlWrite htuner hgpio).bind fun _ =>
    (aside_controlRead (by decide) (by decide)).ignore.logs

theorem aside_enableI2cRepeater (enable : Bool) : LogsAside env (enableI2cRepeater enable) :=
  aside_submitDemodWrite (by decide) (by decide)

end Aside

/-! ### Register writes of an R820T -/

/-- The tuner after register writes that have arrived and been noted. -/
def wroteAll (t : TunerView) (pairs : List (UInt8 × UInt8)) : TunerView :=
  pairs.foldl (fun t pair => R820t.wroteThrough t pair.1 pair.2) t

/-- A register and its shadow hold a value already. -/
structure Stored (t : TunerView) (pair : UInt8 × UInt8) : Prop where
  register : t.regs pair.1 = pair.2
  shadow : ∀ i, shadowIndex pair.1 = some i → t.shadow.r820tFile i = pair.2

section Writes

variable {t : TunerView} {pair : UInt8 × UInt8} {pairs : List (UInt8 × UInt8)}

theorem regs_wroteThrough (t : TunerView) (reg val : UInt8) :
    (R820t.wroteThrough t reg val).regs = Function.update t.regs reg val :=
  t.regs_framed [reg, val]

theorem file_wroteThrough (t : TunerView) (reg val : UInt8) {i : Fin 27} :
    (R820t.wroteThrough t reg val).shadow.r820tFile i =
      if shadowIndex reg = some i then val else t.shadow.r820tFile i := by
  have hplace : R820t.shadowLayout.place reg = shadowIndex reg := rfl
  simp only [R820t.wroteThrough, Layout.writeThrough, hplace]
  rcases shadowIndex reg with _ | j
  · simp
  · simp only [Function.update_apply, Option.some_inj, eq_comm]

theorem Stored.wroteThrough (h : Stored t pair) : R820t.wroteThrough t pair.1 pair.2 = t := by
  have hfile : (R820t.wroteThrough t pair.1 pair.2).shadow.r820tFile = t.shadow.r820tFile := by
    funext i
    rw [file_wroteThrough]
    split
    · rename_i hi
      exact (h.shadow i hi).symm
    · rfl
  have hregs : Function.update (t.i2c t.identity.tunerBusAddr) pair.1 pair.2 =
      t.i2c t.identity.tunerBusAddr := by
    rw [Function.update_eq_self_iff]
    exact h.register.symm
  rcases t with ⟨identity, shadow, i2c⟩
  simp only [R820t.wroteThrough, TunerView.framed, i2cWritten, written, TunerView.mk.injEq,
    true_and] at hfile hregs ⊢
  exact ⟨congrArg TunerShadow.mk hfile, by rw [hregs, Function.update_eq_self]⟩

/-- A write to another register changes neither the value nor its shadow. -/
theorem stored_wroteThrough {reg val : UInt8} (hreg : reg ≠ pair.1) :
    Stored (R820t.wroteThrough t reg val) pair ↔ Stored t pair := by
  have hregs : (R820t.wroteThrough t reg val).regs pair.1 = t.regs pair.1 := by
    rw [regs_wroteThrough, Function.update_of_ne hreg.symm]
  have hfile (i : Fin 27) (hi : shadowIndex pair.1 = some i) :
      (R820t.wroteThrough t reg val).shadow.r820tFile i = t.shadow.r820tFile i := by
    rw [file_wroteThrough, if_neg]
    intro hreg'
    refine hreg ?_
    rw [R820t.shadowIndex_eq_some.mp hreg', R820t.shadowIndex_eq_some.mp hi]
  constructor
  · intro h
    exact ⟨hregs ▸ h.register, fun i hi => hfile i hi ▸ h.shadow i hi⟩
  · intro h
    exact ⟨hregs ▸ h.register, fun i hi => (hfile i hi).trans (h.shadow i hi)⟩

theorem stored_written (t : TunerView) (pair : UInt8 × UInt8) :
    Stored (R820t.wroteThrough t pair.1 pair.2) pair := by
  refine ⟨?_, fun i hi => ?_⟩
  · rw [regs_wroteThrough, Function.update_self]
  · rw [file_wroteThrough, if_pos hi]

theorem stored_wroteAll (hpair : pair.1 ∉ pairs.map Prod.fst) :
    Stored (wroteAll t pairs) pair ↔ Stored t pair := by
  induction pairs generalizing t with
  | nil => rfl
  | cons first pairs ih =>
    rw [List.map_cons, List.mem_cons, not_or] at hpair
    exact (ih hpair.2).trans (stored_wroteThrough (Ne.symm hpair.1))

theorem wroteAll_identity (t : TunerView) (pairs : List (UInt8 × UInt8)) :
    (wroteAll t pairs).identity = t.identity := by
  induction pairs generalizing t with
  | nil => rfl
  | cons first pairs ih => exact ih (R820t.wroteThrough t first.1 first.2)

/-- Writes to different registers leave the tuner as it was exactly when it held their values. -/
theorem wroteAll_eq_iff (hnodup : (pairs.map Prod.fst).Nodup) :
    wroteAll t pairs = t ↔ ∀ pair ∈ pairs, Stored t pair := by
  induction pairs with
  | nil => simp [wroteAll]
  | cons first pairs ih =>
    rw [List.map_cons, List.nodup_cons] at hnodup
    rw [List.forall_mem_cons, ← ih hnodup.2]
    constructor
    · intro h
      have hfirst : Stored t first := by
        rw [← h]
        exact (stored_wroteAll hnodup.1).mpr (stored_written t first)
      rw [wroteAll, List.foldl_cons, hfirst.wroteThrough] at h
      exact ⟨hfirst, h⟩
    · rintro ⟨hfirst, h⟩
      rw [wroteAll, List.foldl_cons, hfirst.wroteThrough]
      exact h

end Writes

/-! ### The RF path of an R820T -/

/-- The register and the value that an intent writes, given the shadow file. -/
def intentPair (t : TunerView) (intent : R820t.RegIntent) : UInt8 × UInt8 :=
  (intent.target,
    match shadowIndex intent.target with
    | some i => merge (intent.write i).mask (t.shadow.r820tFile i) intent.value
    | none => intent.value)

/-- The register writes of `set_mux` for an LO. -/
def pathWrites (t : TunerView) (loHz : UInt32) : List (UInt8 × UInt8) :=
  (R820t.composePathIntents (R820t.lowerRoutingPlan (R820t.classifyRfPath loHz))).map (intentPair t)

/-- Between two worlds, the transfers `es` have made the register writes `made` of the tuner, and no
other access of it or of the GPIO outputs. -/
structure Made (c : Chip) (made : List (UInt8 × UInt8)) (es : List (Transfer × Response))
    (w u : World) : Prop where
  view : tunerView c u = wroteAll (tunerView c w) made
  log : u.log = es.reverse ++ w.log
  frames : taken es = made.map fun pair => [pair.1, pair.2]
  offGpio : OffGpio es

section Path

variable {c : Chip} {env : Env} {w u v : World}

theorem Made.of_same (hview : tunerView c u = tunerView c w) (hlog : u.log = w.log) :
    Made c [] [] w u :=
  ⟨hview, hlog, rfl, by simp [OffGpio]⟩

theorem Made.trans {made made' : List (UInt8 × UInt8)} {es es' : List (Transfer × Response)}
    (h : Made c made es w u) (h' : Made c made' es' u v) :
    Made c (made ++ made') (es ++ es') w v where
  view := by rw [h'.view, h.view, wroteAll, wroteAll, wroteAll, List.foldl_append]
  log := by rw [h'.log, h.log, List.reverse_append, List.append_assoc]
  frames := by rw [taken_append, h.frames, h'.frames, List.map_append]
  offGpio := h.offGpio.append h'.offGpio

/-- The transfers of a frame for the tuner, which it takes when the call succeeds. -/
def Framed (data : List UInt8) (x : Except (Fault SdrggError) Unit)
    (es : List (Transfer × Response)) : Prop :=
  OffGpio es ∧ (x = .ok () ∧ taken es = [data] ∨ (∃ e, x = .error (.error e)) ∧ taken es = [])

theorem traces_frame (addr : UInt16) (data : List UInt8) :
    Traces env (fun _ => True) World.log (controlWrite addr 0x0610 data) (Framed data) := by
  refine (traces_controlWrite (preserves_true _)).mono ?_
  rintro _ _ ⟨resp, rfl, rfl⟩
  refine ⟨by simp [OffGpio, onGpio], ?_⟩
  cases resp with
  | done bytes => exact .inl ⟨rfl, rfl⟩
  | fail errno => exact .inr ⟨⟨.usb, rfl⟩, rfl⟩

theorem traces_tunerWrite (data : List UInt8) :
    Traces env (fun _ => True) World.log (tunerWrite data) (Framed data) := by
  have hclosing (addr : UInt16) : Traces env (fun _ => True) World.log
      (Act.closing (controlWrite addr 0x0610 data) (enableI2cRepeater false)) (Framed data) := by
    refine (traces_frame addr data).closing ?_ (aside_enableI2cRepeater false).ignore ?_
    · rintro es ⟨-, ⟨h, -⟩ | ⟨⟨_, h⟩, -⟩⟩ <;> cases h
    · rintro x es es' ⟨hoff, hx⟩ ⟨hoff', htaken⟩
      refine ⟨hoff.append hoff', ?_⟩
      rwa [taken_append, htaken, List.append_nil]
  refine Traces.bind (S := fun _ => Framed data) (aside_enableI2cRepeater true) (fun _ w hw => ?_)
    ?_ ?_
  · rw [Act.bind_of_ok (device_apply env w)]
    exact hclosing _ w hw
  · rintro (e | _) es ⟨htrap, hoff, htaken⟩
    · exact ⟨hoff, .inr ⟨⟨e, rfl⟩, htaken⟩⟩
    · exact absurd rfl htrap
  · rintro _ es x es' ⟨-, hoff, htaken⟩ ⟨hoff', hx⟩
    refine ⟨hoff.append hoff', ?_⟩
    rwa [taken_append, htaken, List.nil_append]

theorem tunerWriteReg_made {reg val : UInt8} {out : Except (Fault SdrggError) Unit}
    (hclass : w.dev.identity.tunerClass.isR820t = true)
    (h : tunerWriteReg reg val env w = (out, u)) :
    ∃ made es, Made c made es w u ∧ (out = .ok () ∧ made = [(reg, val)] ∨
      (∃ e, out = .error (.error e)) ∧ made = []) := by
  obtain ⟨es, hlog, -, hoff, hframed⟩ := @traces_tunerWrite env [reg, val] w trivial
  rcases hwrite : tunerWrite [reg, val] env w with ⟨e | _, x⟩ <;>
    (rw [hwrite] at hlog hframed; dsimp only at hlog hframed)
  · cases (Act.bind_of_error hwrite).symm.trans h
    obtain ⟨hok, -⟩ | ⟨herror, htaken⟩ := hframed
    · cases hok
    · exact ⟨[], es, ⟨tunerWrite_error hwrite, hlog, htaken, hoff⟩, .inr ⟨herror, rfl⟩⟩
  · have hview := fun hout : out = .ok () => R820t.tunerWriteReg_ok (c := c) hclass (hout ▸ h)
    cases (Act.bind_of_ok hwrite).symm.trans h
    obtain ⟨-, htaken⟩ | ⟨⟨_, herror⟩, -⟩ := hframed
    · exact ⟨[(reg, val)], es, ⟨hview rfl, hlog, htaken, hoff⟩, .inl ⟨rfl, rfl⟩⟩
    · cases herror

/-- A write to one register leaves what the intents for other registers write. -/
theorem intentPair_wroteThrough {t : TunerView} {intent : R820t.RegIntent} {reg val : UInt8}
    (hreg : reg ≠ intent.target) :
    intentPair (R820t.wroteThrough t reg val) intent = intentPair t intent := by
  unfold intentPair
  rcases hi : shadowIndex intent.target with _ | i
  · rfl
  · have hne : ¬shadowIndex reg = some i := fun hreg' => hreg <| by
      rw [R820t.shadowIndex_eq_some.mp hreg', R820t.shadowIndex_eq_some.mp hi]
    simp only [file_wroteThrough, if_neg hne]

theorem lowerIntent_eq {intent : R820t.RegIntent} (haction : intent.action ≠ .settleDelay)
    (htarget : (shadowIndex intent.target).isSome)
    (hclass : w.dev.identity.tunerClass.isR820t = true) :
    R820t.lowerIntent intent env w =
      tunerWriteReg intent.target (intentPair (tunerView c w) intent).2 env w := by
  obtain ⟨i, hi⟩ := Option.isSome_iff_exists.mp htarget
  rw [R820t.lowerIntent, if_neg haction, intentPair, hi]
  dsimp only
  split
  · rename_i hfull
    rw [R820t.RegIntent.write, if_pos hfull, R820t.merge_full]
  · rename_i hfield
    rw [R820t.tunerRmw_r820t hclass hi, R820t.RegIntent.write, if_neg hfield]
    rfl

/-- Whichever transfers fail, a sequence of intents for different registers has made a prefix of its
writes. -/
theorem lowerIntents_made {seq : List R820t.RegIntent} (hseq : R820t.Mirrored seq)
    (hnodup : (seq.map R820t.RegIntent.target).Nodup)
    (hclass : w.dev.identity.tunerClass.isR820t = true) {out : Except (Fault SdrggError) Unit}
    (h : R820t.lowerIntents seq env w = (out, u)) :
    ∃ made es, made <+: seq.map (intentPair (tunerView c w)) ∧ Made c made es w u ∧
      out ≠ .error .trap := by
  induction seq generalizing w with
  | nil =>
    cases h
    exact ⟨[], [], List.nil_prefix, .of_same rfl rfl, by simp⟩
  | cons intent seq ih =>
    rw [List.map_cons, List.nodup_cons] at hnodup
    obtain ⟨haction, htarget⟩ := hseq intent List.mem_cons_self
    change (R820t.lowerIntent intent >>= fun _ => R820t.lowerIntents seq) env w = (out, u) at h
    rw [Act.bind_apply, lowerIntent_eq (c := c) haction htarget hclass] at h
    rcases hfirst : tunerWriteReg intent.target (intentPair (tunerView c w) intent).2 env w with
      ⟨x, v⟩
    rw [hfirst] at h
    obtain ⟨_, es, hmade, ⟨rfl, rfl⟩ | ⟨⟨e, rfl⟩, rfl⟩⟩ := tunerWriteReg_made (c := c) hclass hfirst
    · have hidentity : v.dev.identity = w.dev.identity := congrArg TunerView.identity hmade.view
      have hrest : seq.map (intentPair (tunerView c v)) = seq.map (intentPair (tunerView c w)) := by
        refine List.map_congr_left fun other hmem => ?_
        rw [hmade.view]
        refine intentPair_wroteThrough fun heq => hnodup.1 ?_
        rw [show intent.target = other.target from heq]
        exact List.mem_map_of_mem hmem
      obtain ⟨made, es', hinit, hmade', hout⟩ := ih
        (fun other hmem => hseq other (List.mem_cons_of_mem _ hmem)) hnodup.2
        (hidentity ▸ hclass) h
      rw [hrest] at hinit
      exact ⟨_, _, List.cons_prefix_cons.mpr ⟨rfl, hinit⟩, hmade.trans hmade', hout⟩
    · cases h
      exact ⟨[], es, List.nil_prefix, hmade, by simp⟩

theorem nodup_pathWrites (t : TunerView) (loHz : UInt32) :
    ((pathWrites t loHz).map Prod.fst).Nodup := by
  have htargets : (pathWrites t loHz).map Prod.fst = [0x17, 0x1A, 0x1B, 0x10] := rfl
  rw [htargets]
  decide

theorem setMux_made {loHz : UInt32} {out : Except (Fault SdrggError) Unit}
    (hclass : w.dev.identity.tunerClass.isR820t = true)
    (h : R820t.setMux loHz env w = (out, u)) :
    ∃ made es, made <+: pathWrites (tunerView c w) loHz ∧ Made c made es w u ∧
      out ≠ .error .trap := by
  have hnodup := nodup_pathWrites (tunerView c w) loHz
  rw [pathWrites, List.map_map] at hnodup
  exact lowerIntents_made (R820t.mirrored_path _) hnodup hclass h

/-- The PLL of an R820T has no candidate for the LO of a frequency. -/
structure RejectedR820t (w : World) (freqHz : UInt32) : Prop where
  isR820t : w.dev.identity.tunerClass.isR820t = true
  candidates : R820t.enumerateCandidates
    (pllRequest w.dev.baseband (freqHz + w.dev.tuning.ifOffsetHz)) = some []

theorem tune_made {freqHz : UInt32} (hw : RejectedR820t w freqHz)
    {out : Except (Fault SdrggError) Unit} (h : tune freqHz env w = (out, u)) :
    ∃ made es, made <+: pathWrites (tunerView c w) (freqHz + w.dev.tuning.ifOffsetHz) ∧
      Made c made es w u ∧ ∃ e, out = .error (.error e) := by
  have hfc : w.dev.identity.tunerClass ≠ .fc0012 := fun hfc => by
    have hclass := hw.isR820t
    rw [hfc] at hclass
    cases hclass
  rw [tune, Act.bind_of_ok (device_apply env w), if_neg hfc] at h
  rcases hmux : R820t.setMux (freqHz + w.dev.tuning.ifOffsetHz) env w with ⟨x, v⟩
  obtain ⟨made, es, hinit, hmade, htrap⟩ := setMux_made (c := c) hw.isR820t hmux
  rcases x with (e | _) | _
  · cases (Act.bind_of_error hmux).symm.trans h
    exact ⟨made, es, hinit, hmade, e, rfl⟩
  · exact absurd rfl htrap
  · have hbaseband : v.dev.baseband = w.dev.baseband :=
      congrArg Config.baseband ((R820t.keeps_setMux _).world hmux)
    have hpll : R820t.setPll (freqHz + w.dev.tuning.ifOffsetHz) env v =
        (.error (.error .pll),
          { v with loRequested := some (freqHz + w.dev.tuning.ifOffsetHz) }) := by
      have hnone := hw.candidates
      rw [pllRequest, ← hbaseband] at hnone
      simp only [R820t.setPll, R820t.programPll, Act.bind_apply, Act.modify_apply, device_apply,
        hnone, Act.ofOption, Act.pure_apply, List.map_nil]
      rfl
    have hrun : R820t.setFreq freqHz w.dev.tuning.ifOffsetHz env w = (.error (.error .pll), _) :=
      (Act.bind_of_ok hmux).trans (Act.bind_of_error hpll)
    cases hrun.symm.trans h
    exact ⟨made, es, hinit, ⟨hmade.view, hmade.log, hmade.frames, hmade.offGpio⟩, _, rfl⟩

end Path

/-! ### The steps around a tuning -/

section Around

variable {c : Chip} {env : Env} {α : Type} {m : DevM α} {w v : World}

theorem aside_pauseBulk (dev : Device) : SettlesAside env (pauseBulk dev) := by
  unfold pauseBulk
  split
  · exact (aside_controlWrite (by decide) (by decide)).ignore
  · exact .pure _

theorem aside_resumeBulk (dev : Device) : SettlesAside env (resumeBulk dev) := by
  unfold resumeBulk
  split
  · exact ((aside_controlWrite (by decide) (by decide)).bind fun _ =>
      aside_controlWrite (by decide) (by decide)).ignore
  · exact .pure _

theorem SettlesAside.made (hm : SettlesAside env m) (hview : Keeps (tunerView c) m) (w : World) :
    ∃ a u es, m env w = (.ok a, u) ∧ Made c [] es w u := by
  obtain ⟨es, hlog, -, ⟨a, hok⟩, hoff, htaken⟩ := hm w trivial
  exact ⟨a, (m env w).2, es, Prod.ext hok rfl, hview env w, hlog, htaken, hoff⟩

/-- A `set_frequency` whose tuning fails is the tuning, and transfers aside before and after it. -/
theorem setFrequency_around (c : Chip) (freqHz : UInt32) (w : World) : ∃ u before,
    u.config = { w.config with tuning := { w.dev.tuning with requestedFreqHz := freqHz } } ∧
      Made c [] before w u ∧ ∀ v e, tune freqHz env u = (.error (.error e), v) →
        ∃ w' after, setFrequency freqHz env w = (.error (.error e), w') ∧ Made c [] after v w' := by
  obtain ⟨u, hrequest⟩ : ∃ u, modifyTuning (fun t => { t with requestedFreqHz := freqHz }) env w =
      (.ok (), u) := ⟨_, rfl⟩
  have hconfig := requestFreq_ok hrequest
  obtain ⟨_, v, before, hpause, hbefore⟩ :=
    (@aside_pauseBulk env u.dev).made (c := c) (keepsTuner_pauseBulk _) u
  cases hrequest
  refine ⟨v, before, ((keeps_pauseBulk _).world hpause).trans hconfig, ?_, ?_⟩
  · exact ⟨hbefore.view, hbefore.log, hbefore.frames, hbefore.offGpio⟩
  · intro x e htune
    obtain ⟨y, hcommit⟩ : ∃ y, commitFreq freqHz (.error e) env x = (.ok (), y) := ⟨_, rfl⟩
    obtain ⟨_, w', after, hresume, hafter⟩ :=
      (@aside_resumeBulk env _).made (c := c) (keepsTuner_resumeBulk _) y
    cases hcommit
    refine ⟨w', after, ?_, hafter.view, hafter.log, hafter.frames, hafter.offGpio⟩
    refine (Act.bind_of_ok hpause).trans ((Act.bind_of_ok (Act.attempt_of_error htune)).trans ?_)
    exact Act.bind_of_ok hresume

end Around

/-! ### The band selection of an FC0012 -/

/-- The byte of a register that was asked for into a variable that held `r`. -/
def byteRead (r : UInt8) : Response → UInt8
  | .done data => data.headD r
  | .fail _ => r

/-- The GPIO outputs `outputs` with the band of a frequency. -/
def bandSelected (freqHz : UInt32) (outputs : UInt8) : UInt8 :=
  if freqHz > 300000000 then outputs ||| 0x40 else outputs &&& ~~~0x40

/-- The PLL of an FC0012 has no feasible ratio for a frequency. -/
structure RejectedFc0012 (w : World) (freqHz : UInt32) : Prop where
  isFc0012 : w.dev.identity.tunerClass = .fc0012
  infeasible : ∃ raw sol,
    Fc0012.computeRawRatio (Fc0012.deriveMultiplier freqHz).vcoHz
        (w.dev.baseband.oscillatorHz / 2) = some raw ∧
      Fc0012.normalizeRatio raw (Fc0012.deriveMultiplier freqHz).vcoHz
        (w.dev.baseband.oscillatorHz / 2) = some sol ∧ sol.feasible = false

section Band

variable {c : Chip} {env : Env} {w : World} {freqHz : UInt32}

theorem ignore_controlWrite_run {value index : UInt16} {data : List UInt8} (w : World) :
    ∃ u, Act.ignore (controlWrite value index data) env w = (.ok (), u) ∧
      u.log = (.write value index data, env.kernel w.log (.write value index data)) :: w.log := by
  obtain ⟨u, hrun, hlog⟩ := @controlWrite_run env value index data w
  refine ⟨u, ?_, hlog⟩
  rcases hresp : env.kernel w.log (.write value index data) with bytes | errno <;>
    rw [hresp] at hrun
  · exact Act.bind_of_ok (Act.attempt_of_ok hrun)
  · exact Act.bind_of_ok (Act.attempt_of_error hrun)

theorem readSystem_run {addr : UInt16} {r : UInt8} (w : World) :
    ∃ u, Act.orElse (submitBlockRead 2 addr r) r env w =
        (.ok (byteRead r (env.kernel w.log (.read addr 0x0200 1))), u) ∧
      u.log = (.read addr 0x0200 1, env.kernel w.log (.read addr 0x0200 1)) :: w.log := by
  obtain ⟨u, hrun, hlog⟩ := @controlRead_run env addr 0x0200 1 [r] w
  refine ⟨u, ?_, hlog⟩
  rcases hresp : env.kernel w.log (.read addr 0x0200 1) with bytes | errno <;> rw [hresp] at hrun
  · have hhead : (bytes.take (1 : UInt16).toNat ++
        [r].drop (min bytes.length (1 : UInt16).toNat)).headD r = bytes.headD r := by
      cases bytes <;> rfl
    have hread : submitBlockRead 2 addr r env w = (.ok (bytes.headD r), u) := by
      rw [← hhead]
      exact Act.bind_of_ok hrun
    exact Act.bind_of_ok (Act.attempt_of_ok hread)
  · have hread : submitBlockRead 2 addr r env w = (.error (.error .usb), u) :=
      Act.bind_of_error hrun
    exact Act.bind_of_ok (Act.attempt_of_error hread)

/-- An update of a system register writes what it has read, changed, or what `r` holds when the read
fails. -/
theorem updateSystem_run {addr : UInt16} {r : UInt8} {change : UInt8 → UInt8} (w : World) :
    ∃ u, updateSystem addr r change env w =
        (.ok (byteRead r (env.kernel w.log (.read addr 0x0200 1))), u) ∧
      u.log =
        (.write addr 0x0210 [change (byteRead r (env.kernel w.log (.read addr 0x0200 1)))],
          env.kernel ((.read addr 0x0200 1, env.kernel w.log (.read addr 0x0200 1)) :: w.log)
            (.write addr 0x0210 [change (byteRead r (env.kernel w.log (.read addr 0x0200 1)))])) ::
        (.read addr 0x0200 1, env.kernel w.log (.read addr 0x0200 1)) :: w.log := by
  obtain ⟨v, hread, hvlog⟩ := @readSystem_run env addr r w
  obtain ⟨u, hwrite, hulog⟩ := @ignore_controlWrite_run env addr 0x0210
    [change (byteRead r (env.kernel w.log (.read addr 0x0200 1)))] v
  have hpayload (b : UInt8) : payload b.toUInt16 1 = [b] := by
    simp [payload]
  refine ⟨u, ?_, by rw [hulog, hvlog]⟩
  refine (Act.bind_of_ok hread).trans (Act.bind_of_ok (a := ()) ?_)
  rw [submitBlockWrite, hpayload]
  exact hwrite

theorem setGpioBit_run (w : World) : ∃ u read write,
    setGpioBit 6 (freqHz > 300000000) env w = (.ok (), u) ∧
      u.log = (gpioWrite (bandSelected freqHz (byteRead (env.stack w.log 0) read)), write) ::
        (gpioRead, read) :: w.log := by
  have hchange : (fun r : UInt8 => if decide (freqHz > 300000000) = true
      then r ||| ((1 : UInt8) <<< 6) else r &&& ~~~((1 : UInt8) <<< 6)) = bandSelected freqHz := by
    funext r
    simp only [decide_eq_true_eq]
    rfl
  obtain ⟨u, hsystem, hlog⟩ :=
    @updateSystem_run env 0x3001 (env.stack w.log 0) (bandSelected freqHz) w
  refine ⟨u, _, _, ?_, hlog⟩
  rw [← hchange] at hsystem
  exact Act.bind_of_ok hsystem

theorem keepsTuner_setGpioBit (gpio : UInt8) (val : Bool) :
    Keeps (tunerView c) (setGpioBit gpio val) := by
  have hread (addr : UInt16) (r : UInt8) : Keeps (tunerView c) (submitBlockRead 2 addr r) :=
    (keepsTuner_controlRead _ _ _ _).bind fun _ => Keeps.pure _
  have hwrite (addr val : UInt16) : Keeps (tunerView c) (submitBlockWrite 2 addr val 1) :=
    keepsTuner_submitBlockWrite (.inr rfl) addr val 1
  exact (keepsTuner_uninitialised 1).bind fun _ => Keeps.bind (Keeps.bind
    ((hread _ _).orElse _) fun _ => (hwrite _ _).ignore.bind fun _ => Keeps.pure _)
      fun _ => Keeps.pure _

/-- What `set_freq` writes to the demodulator before it selects the band. -/
def assertZeroIf : DevM Unit := do
  Act.ignore (demodWrite 1 0xB1 0x1B)
  Act.ignore (demodWrite 0 0x08 0xCD)
  Act.ignore (demodWrite 1 0x15 0x00)

theorem prepareFreq_eq (freqHz : UInt32) :
    Fc0012.prepareFreq freqHz = assertZeroIf >>= fun _ => setGpioBit 6 (freqHz > 300000000) := by
  simp only [assertZeroIf, bind_assoc]
  rfl

theorem aside_assertZeroIf : SettlesAside env assertZeroIf := by
  have hblock (reg : UInt16) (val : UInt8) : LogsAside env (demodWrite 1 reg val) :=
    aside_controlWrite (by decide) (by decide)
  have hdemod : LogsAside env (demodWrite 0 0x08 0xCD) :=
    aside_submitDemodWrite (by decide) (by decide)
  exact SettlesAside.bind (hblock _ _).ignore fun _ =>
    SettlesAside.bind hdemod.ignore fun _ => (hblock _ _).ignore

theorem keepsTuner_assertZeroIf : Keeps (tunerView c) assertZeroIf :=
  (keepsTuner_submitBlockWrite (.inl rfl) _ _ _).ignore.bind fun _ =>
    (keepsTuner_submitDemodWrite _ _ _ _).ignore.bind fun _ =>
      (keepsTuner_submitBlockWrite (.inl rfl) _ _ _).ignore

/-- A session whose ratio is not feasible makes no transfer. -/
theorem executeTuningSession_rejected (hw : RejectedFc0012 w freqHz) :
    Fc0012.executeTuningSession freqHz env w = (.error (.error .param), w) := by
  obtain ⟨raw, sol, hraw, hsol, hfeasible⟩ := hw.infeasible
  rw [Fc0012.executeTuningSession, Act.bind_of_ok (device_apply env w),
    Fc0012.deriveMultiplier_valid, if_neg (by decide),
    Act.bind_of_ok (Act.ofOption_eq_ok.mpr ⟨hraw, rfl⟩),
    Act.bind_of_ok (Act.ofOption_eq_ok.mpr ⟨hsol, rfl⟩), hfeasible]
  rfl

/-- The band is selected for a frequency that the session then rejects. -/
theorem tune_band (c : Chip) (hw : RejectedFc0012 w freqHz) : ∃ u v es read write,
    Made c [] es w u ∧ tune freqHz env w = (.error (.error .param), v) ∧
      tunerView c v = tunerView c u ∧
      v.log = (gpioWrite (bandSelected freqHz (byteRead (env.stack u.log 0) read)), write) ::
        (gpioRead, read) :: u.log := by
  obtain ⟨_, u, es, hzero, hmade⟩ :=
    (@aside_assertZeroIf env).made (c := c) keepsTuner_assertZeroIf w
  obtain ⟨v, read, write, hgpio, hlog⟩ := @setGpioBit_run env freqHz u
  refine ⟨u, v, es, read, write, hmade, ?_, (keepsTuner_setGpioBit 6 _).world hgpio, hlog⟩
  have hprepare : Fc0012.prepareFreq freqHz env w = (.ok (), v) := by
    rw [prepareFreq_eq]
    exact (Act.bind_of_ok hzero).trans hgpio
  have hconfig := (Fc0012.keeps_prepareFreq freqHz).world hprepare
  have hv : RejectedFc0012 v freqHz := by
    refine ⟨(congrArg (·.identity.tunerClass) hconfig).trans hw.isFc0012, ?_⟩
    rw [show v.dev.baseband = w.dev.baseband from congrArg Config.baseband hconfig]
    exact hw.infeasible
  rw [tune, Act.bind_of_ok (device_apply env w), if_pos hw.isFc0012]
  exact Act.bind_of_error ((Act.bind_of_ok hprepare).trans (executeTuningSession_rejected hv))

end Band

/-! ### A rejected frequency -/

/-- A call that started in `w` reported an error and left the tuner, the GPIO outputs and the centre
frequency as they were. -/
structure Undisturbed (c : Chip) (g : UInt8) (w : World)
    (run : Except (Fault SdrggError) UInt32 × World) : Prop where
  error : ∃ e, run.1 = .error (.error e)
  registers : (chip c run.2).i2c = (chip c w).i2c
  shadow : run.2.dev.shadow = w.dev.shadow
  outputs : gpioOutputs g run.2.log = gpioOutputs g w.log
  center : run.2.dev.tuning.centerFreqHz = w.dev.tuning.centerFreqHz

/-- The tuner holds the values of the register writes for an LO that it has taken. -/
def RoutingHeld (c : Chip) (w : World) (loHz : UInt32) (es : List (Transfer × Response)) : Prop :=
  ∀ pair ∈ pathWrites (tunerView c w) loHz,
    [pair.1, pair.2] ∈ taken es → Stored (tunerView c w) pair

/-- The GPIO outputs are those that were read with the band of a frequency, unless the write of these
has failed. -/
def BandHeld (g : UInt8) (env : Env) (w : World) (freqHz : UInt32)
    (es : List (Transfer × Response)) : Prop :=
  ∀ pre read post, es = pre ++ (gpioRead, read) :: post →
    let outputs := bandSelected freqHz (byteRead (env.stack (pre.reverse ++ w.log) 0) read)
    (∃ bytes, (gpioWrite outputs, .done bytes) ∈ post) → gpioOutputs g w.log = outputs

section Rejected

variable {c : Chip} {g : UInt8} {env : Env} {w w' : World} {freqHz : UInt32}

theorem setFrequency_center {e : SdrggError}
    (h : setFrequency freqHz env w = (.error (.error e), w')) :
    w'.dev.tuning.centerFreqHz = w.dev.tuning.centerFreqHz := by
  rw [setFrequency_error h]

/-- The transfers of a `set_frequency` to a frequency that an R820T rejects. -/
theorem setFrequency_routes (c : Chip) (hw : RejectedR820t w freqHz) : ∃ w' made es e,
    setFrequency freqHz env w = (.error (.error e), w') ∧
      made <+: pathWrites (tunerView c w) (freqHz + w.dev.tuning.ifOffsetHz) ∧
      Made c made es w w' := by
  obtain ⟨u, before, hconfig, hbefore, hfailed⟩ := @setFrequency_around env c freqHz w
  have hif : u.dev.tuning.ifOffsetHz = w.dev.tuning.ifOffsetHz :=
    congrArg (fun c => c.tuning.ifOffsetHz) hconfig
  have hu : RejectedR820t u freqHz := by
    refine ⟨(congrArg (fun c => c.identity.tunerClass.isR820t) hconfig).trans hw.isR820t, ?_⟩
    rw [hif, show u.dev.baseband = w.dev.baseband from congrArg Config.baseband hconfig]
    exact hw.candidates
  rcases htune : tune freqHz env u with ⟨out, v⟩
  obtain ⟨made, es, hinit, hmade, e, rfl⟩ := tune_made (c := c) hu htune
  obtain ⟨w', after, hrun, hafter⟩ := hfailed v e htune
  have hview : tunerView c u = tunerView c w := hbefore.view
  rw [hview, hif] at hinit
  have hall := (hbefore.trans hmade).trans hafter
  rw [List.nil_append, List.append_nil] at hall
  exact ⟨w', made, _, e, hrun, hinit, hall⟩

/-- The routing that an R820T has been given for a rejected frequency. -/
theorem rejected_r820t (hw : RejectedR820t w freqHz) :
    Undisturbed c g w (setFrequency freqHz env w) ↔
      RoutingHeld c w (freqHz + w.dev.tuning.ifOffsetHz)
        (entriesOf World.log (setFrequency freqHz) env w) := by
  obtain ⟨w', made, es, e, hrun, hinit, hmade⟩ := @setFrequency_routes env w freqHz c hw
  have hentries : entriesOf World.log (setFrequency freqHz) env w = es :=
    entriesOf_eq (by rw [hrun]; exact hmade.log)
  have hnodup : (made.map Prod.fst).Nodup :=
    (nodup_pathWrites _ _).sublist (hinit.sublist.map Prod.fst)
  have hheld : RoutingHeld c w (freqHz + w.dev.tuning.ifOffsetHz) es ↔
      tunerView c w' = tunerView c w := by
    rw [RoutingHeld, hmade.frames, hmade.view, wroteAll_eq_iff hnodup]
    constructor
    · intro h pair hmem
      exact h pair (hinit.subset hmem) (List.mem_map_of_mem hmem)
    · intro h pair _ hmem
      obtain ⟨other, hother, heq⟩ := List.mem_map.mp hmem
      obtain rfl : other = pair := by
        simpa [Prod.ext_iff] using heq
      exact h other hother
  rw [hentries, hheld, hrun]
  constructor
  · intro h
    have hidentity := (congrArg TunerView.identity hmade.view).trans (wroteAll_identity _ _)
    unfold tunerView at hidentity ⊢
    dsimp only at hidentity
    rw [h.registers, h.shadow, hidentity]
  · intro h
    refine ⟨⟨e, rfl⟩, congrArg TunerView.i2c h, congrArg TunerView.shadow h, ?_,
      setFrequency_center hrun⟩
    dsimp only
    rw [hmade.log, gpioOutputs_append g hmade.offGpio.reverse]

theorem gpioOutputs_written (g outputs : UInt8) (read write : Response) (log : Log) :
    gpioOutputs g ((gpioWrite outputs, write) :: (gpioRead, read) :: log) =
      if Response.failed write then gpioOutputs g log else outputs := by
  cases write with
  | done bytes => rfl
  | fail errno => rfl

theorem OffGpio.not_mem {es : List (Transfer × Response)} (h : OffGpio es) (read : Response) :
    (gpioRead, read) ∉ es := fun hmem => by
  cases h _ hmem

/-- The transfers of a `set_frequency` to a frequency that an FC0012 rejects: what is between `before`
and `after` selects the band. -/
theorem setFrequency_selects (c : Chip) (hw : RejectedFc0012 w freqHz) :
    ∃ w' before read write after,
      setFrequency freqHz env w = (.error (.error .param), w') ∧
      tunerView c w' = tunerView c w ∧ OffGpio before ∧ OffGpio after ∧
      w'.log = after.reverse ++
        (gpioWrite (bandSelected freqHz
          (byteRead (env.stack (before.reverse ++ w.log) 0) read)), write) ::
            (gpioRead, read) :: (before.reverse ++ w.log) := by
  obtain ⟨u, before, hconfig, hbefore, hfailed⟩ := @setFrequency_around env c freqHz w
  have hu : RejectedFc0012 u freqHz := by
    refine ⟨(congrArg (fun c => c.identity.tunerClass) hconfig).trans hw.isFc0012, ?_⟩
    rw [show u.dev.baseband = w.dev.baseband from congrArg Config.baseband hconfig]
    exact hw.infeasible
  obtain ⟨x, v, es, read, write, hmade, htune, hview, hlog⟩ := @tune_band env u freqHz c hu
  obtain ⟨w', after, hrun, hafter⟩ := hfailed v _ htune
  have hpre := hbefore.trans hmade
  refine ⟨w', before ++ es, read, write, after, hrun, ?_, hpre.offGpio, hafter.offGpio, ?_⟩
  · rw [hafter.view, hview]
    exact hpre.view
  · rw [hafter.log, hlog, hpre.log]

/-- The band that an FC0012 has been given for a rejected frequency. -/
theorem rejected_fc0012 (hw : RejectedFc0012 w freqHz) :
    Undisturbed c g w (setFrequency freqHz env w) ↔
      BandHeld g env w freqHz (entriesOf World.log (setFrequency freqHz) env w) := by
  obtain ⟨w', before, read, write, after, hrun, hsame, hbefore, hafter, hlog⟩ :=
    @setFrequency_selects env w freqHz c hw
  generalize hsel : bandSelected freqHz (byteRead (env.stack (before.reverse ++ w.log) 0) read) =
    outputs at hlog
  have hentries : entriesOf World.log (setFrequency freqHz) env w =
      before ++ (gpioRead, read) :: (gpioWrite outputs, write) :: after := by
    refine entriesOf_eq ?_
    rw [hrun, hlog]
    simp
  have hundisturbed : Undisturbed c g w (setFrequency freqHz env w) ↔
      gpioOutputs g w'.log = gpioOutputs g w.log := by
    rw [hrun]
    exact ⟨fun h => h.outputs, fun h => ⟨⟨_, rfl⟩, congrArg TunerView.i2c hsame,
      congrArg TunerView.shadow hsame, h, setFrequency_center hrun⟩⟩
  have houtputs : gpioOutputs g w'.log =
      if Response.failed write then gpioOutputs g w.log else outputs := by
    rw [hlog, gpioOutputs_append g hafter.reverse, gpioOutputs_written,
      gpioOutputs_append g hbefore.reverse]
  rw [hundisturbed, hentries, houtputs]
  constructor
  · intro h pre read' post hsplit
    have hpost : (gpioRead, read') ∉ (gpioWrite outputs, write) :: after := by
      rw [List.mem_cons, not_or]
      exact ⟨by simp [gpioRead, gpioWrite], hafter.not_mem read'⟩
    obtain ⟨rfl, heq, rfl⟩ :=
      (List.append_cons_inj_of_notMem (hbefore.not_mem read') hpost).mp hsplit
    obtain rfl : read = read' := (Prod.mk.inj heq).2
    dsimp only
    rw [hsel]
    rintro ⟨bytes, hmem⟩
    obtain heq | hmem := List.mem_cons.mp hmem
    · obtain rfl : .done bytes = write := (Prod.mk.inj heq).2
      exact h.symm
    · cases hafter _ hmem
  · intro h
    cases write with
    | fail errno => rfl
    | done bytes =>
      have hheld := h _ _ _ rfl
      dsimp only at hheld
      rw [hsel] at hheld
      exact (hheld ⟨bytes, List.mem_cons_self⟩).symm

/-- A frequency that the PLL cannot make changes nothing exactly when the routing or the band that
has been written for it was there before. -/
theorem rejected_frequency_iff (c : Chip) (g : UInt8) (env : Env) (w : World) (freqHz : UInt32) :
    (RejectedR820t w freqHz →
      (Undisturbed c g w (setFrequency freqHz env w) ↔
        RoutingHeld c w (freqHz + w.dev.tuning.ifOffsetHz)
          (entriesOf World.log (setFrequency freqHz) env w))) ∧
      (RejectedFc0012 w freqHz →
        (Undisturbed c g w (setFrequency freqHz env w) ↔
          BandHeld g env w freqHz (entriesOf World.log (setFrequency freqHz) env w))) :=
  ⟨rejected_r820t, rejected_fc0012⟩

end Rejected

/-! ### Tuned receivers -/

/-- An R820T at 100 MHz. -/
def tunedR820t : World := (setFrequency 100000000 steadyEnv openedR820t).2

/-- An FC0012 at 100 MHz. -/
def tunedFc0012 : World := (setFrequency 100000000 steadyEnv openedFc0012).2

/-- The lowest frequency that is advertised for the R820T has no candidate. -/
theorem rejected_tunedR820t : RejectedR820t tunedR820t 24000000 :=
  ⟨by decide +kernel, by decide +kernel⟩

/-- The highest one that is advertised for the FC0012 has no feasible ratio. -/
theorem rejected_tunedFc0012 : RejectedFc0012 tunedFc0012 948600000 := by
  have hfeasible : (Fc0012.normalizeRatio 264 (Fc0012.deriveMultiplier 948600000).vcoHz
      (tunedFc0012.dev.baseband.oscillatorHz / 2)).map (·.feasible) = some false := by
    decide +kernel
  obtain ⟨sol, hsol, hinfeasible⟩ := Option.map_eq_some_iff.mp hfeasible
  exact ⟨by decide +kernel, 264, sol, by decide +kernel, hsol, hinfeasible⟩

theorem rejected_frequency_tuned :
    (Undisturbed blankChip 0 tunedR820t (setFrequency 24000000 steadyEnv tunedR820t) ↔
      RoutingHeld blankChip tunedR820t (24000000 + tunedR820t.dev.tuning.ifOffsetHz)
        (entriesOf World.log (setFrequency 24000000) steadyEnv tunedR820t)) ∧
      (Undisturbed blankChip 0 tunedFc0012 (setFrequency 948600000 steadyEnv tunedFc0012) ↔
        BandHeld 0 steadyEnv tunedFc0012 948600000
          (entriesOf World.log (setFrequency 948600000) steadyEnv tunedFc0012)) :=
  ⟨(rejected_frequency_iff blankChip 0 steadyEnv tunedR820t 24000000).1 rejected_tunedR820t,
    (rejected_frequency_iff blankChip 0 steadyEnv tunedFc0012 948600000).2 rejected_tunedFc0012⟩

/-- The tracking filter and the band input follow a frequency that is then rejected. -/
theorem rejected_frequency_followed :
    (RejectedR820t tunedR820t 24000000 ∧
      ¬Undisturbed blankChip 0 tunedR820t (setFrequency 24000000 steadyEnv tunedR820t)) ∧
      RejectedFc0012 tunedFc0012 948600000 ∧
        ¬Undisturbed blankChip 0 tunedFc0012 (setFrequency 948600000 steadyEnv tunedFc0012) := by
  refine ⟨⟨rejected_tunedR820t, fun h => ?_⟩, rejected_tunedFc0012, fun h => ?_⟩
  · have hchanged : (chip blankChip (setFrequency 24000000 steadyEnv tunedR820t).2).i2c 0x34 0x1B ≠
        (chip blankChip tunedR820t).i2c 0x34 0x1B := by
      decide +kernel
    exact hchanged (congrFun (congrFun h.registers 0x34) 0x1B)
  · have hchanged : gpioOutputs 0 (setFrequency 948600000 steadyEnv tunedFc0012).2.log ≠
        gpioOutputs 0 tunedFc0012.log := by
      decide +kernel
    exact hchanged h.outputs

end Sdrgg.Sdr
