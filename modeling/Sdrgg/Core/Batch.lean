import Sdrgg.Core.Release

/-! Several tuner accesses in one session against the same accesses one by one. -/

namespace Sdrgg.Rtl

open ProofKit Usb

/-! ### What register writes leave of the tuner -/

/-- The shadow of a tuner after a register write. -/
def TunerShadow.noted (shadow : TunerShadow) (identity : DeviceIdentity) (reg val : UInt8) :
    TunerShadow :=
  match shadowIndex reg with
  | some i =>
    if identity.tunerClass.isR820t then ⟨Function.update shadow.r820tFile i val⟩ else shadow
  | none => shadow

/-- The tuner after a register write that has arrived and been noted. -/
def TunerView.put (t : TunerView) (pair : UInt8 × UInt8) : TunerView :=
  { t.framed [pair.1, pair.2] with shadow := TunerShadow.noted t.shadow t.identity pair.1 pair.2 }

/-- The tuner after the register writes of a list. -/
def TunerView.putAll (t : TunerView) (pairs : List (UInt8 × UInt8)) : TunerView :=
  pairs.foldl TunerView.put t

theorem Device.shadowed_noted (d : Device) (reg val : UInt8) :
    (Device.shadowed d reg val).shadow = TunerShadow.noted d.shadow d.identity reg val := by
  unfold Device.shadowed TunerShadow.noted
  rcases shadowIndex reg with _ | i
  · rfl
  · dsimp only
    split <;> rfl

section Writes

variable {c : Chip} {env : Env} {w w' : World}

theorem tunerView_noted {pair : UInt8 × UInt8} {u : World} {x : Unit}
    (h : tunerView c u = (tunerView c w).framed [pair.1, pair.2])
    (hnote : modifyDevice (fun d => Device.shadowed d pair.1 pair.2) env u = (.ok x, w')) :
    tunerView c w' = (tunerView c w).put pair := by
  cases hnote
  have hidentity : u.dev.identity = w.dev.identity := congrArg TunerView.identity h
  have hshadow : u.dev.shadow = w.dev.shadow := congrArg TunerView.shadow h
  have hnoted := Device.shadowed_noted u.dev pair.1 pair.2
  rw [hidentity, hshadow] at hnoted
  rw [TunerView.put, ← h]
  unfold tunerView
  rw [Device.shadowed_identity]
  congr 1

/-- An operation that puts a register write into the tuner when it succeeds, and nothing else. -/
structure Puts (c : Chip) (env : Env) (act : UInt8 × UInt8 → DevM Unit) : Prop where
  ok : ∀ {pair w w'}, act pair env w = (.ok (), w') → tunerView c w' = (tunerView c w).put pair
  fault : ∀ {pair w w' e}, act pair env w = (.error e, w') → tunerView c w' = tunerView c w

theorem puts_tunerWriteReg : Puts c env fun pair => tunerWriteReg pair.1 pair.2 where
  ok h := by
    obtain ⟨_, u, hu, h⟩ := Act.bind_eq_ok.mp h
    exact tunerView_noted (tunerWrite_ok hu) h
  fault h := by
    obtain h | ⟨_, u, -, h⟩ := Act.bind_eq_fault.mp h
    · exact tunerWrite_error h
    · cases h

theorem puts_sessionWrite : Puts c env fun pair => sessionWrite pair.1 pair.2 where
  ok {pair w w'} h := by
    rw [sessionWrite, Act.bind_of_ok (device_apply env w)] at h
    obtain ⟨_, u, hu, h⟩ := Act.bind_eq_ok.mp h
    exact tunerView_noted (tunerFrame_ok hu) h
  fault {pair w w' e} h := by
    rw [sessionWrite, Act.bind_of_ok (device_apply env w)] at h
    obtain h | ⟨_, u, -, h⟩ := Act.bind_eq_fault.mp h
    · exact tunerFrame_error h
    · cases h

/-- A list of register writes puts a prefix of them into the tuner, and all when it succeeds. -/
theorem Puts.forM {act : UInt8 × UInt8 → DevM Unit} (hact : Puts c env act)
    {pairs : List (UInt8 × UInt8)} {out : Except (Fault SdrggError) Unit}
    (h : pairs.forM act env w = (out, w')) :
    ∃ made, made <+: pairs ∧ (out = .ok () → made = pairs) ∧
      tunerView c w' = (tunerView c w).putAll made := by
  induction pairs generalizing w with
  | nil =>
    cases h
    exact ⟨[], List.prefix_rfl, fun _ => rfl, rfl⟩
  | cons pair pairs ih =>
    change (act pair >>= fun _ => pairs.forM act) env w = (out, w') at h
    rw [Act.bind_apply] at h
    rcases hpair : act pair env w with ⟨e | _, u⟩
    · rw [hpair] at h
      cases h
      exact ⟨[], List.nil_prefix, fun hok => (nomatch hok), hact.fault hpair⟩
    · rw [hpair] at h
      obtain ⟨made, hprefix, hall, hview⟩ := ih h
      refine ⟨pair :: made, List.cons_prefix_cons.mpr ⟨rfl, hprefix⟩, fun hok => ?_, ?_⟩
      · rw [hall hok]
      · rw [hview, hact.ok hpair]
        rfl

/-- A session leaves of the tuner what its operations do, and nothing when it does not open. -/
theorem session_view {α : Type} {ops : DevM α} {out : Except (Fault SdrggError) α}
    (h : session ops env w = (out, w')) :
    (tunerView c w' = tunerView c w ∧ ∀ a, out ≠ .ok a) ∨
      ∃ u v res, tunerView c u = tunerView c w ∧ ops env u = (res, v) ∧
        tunerView c w' = tunerView c v ∧ ∀ a, out = .ok a → res = .ok a := by
  have hopen := keepsTuner_enableI2cRepeater (c := c) true
  have hclose := keepsTuner_enableI2cRepeater (c := c) false
  have herror (e : Fault SdrggError) (a : α) : (.error e : Except (Fault SdrggError) α) ≠ .ok a := by
    simp
  rw [session, Act.bind_apply] at h
  rcases hopened : enableI2cRepeater true env w with ⟨e | _, u⟩
  · rw [hopened] at h
    cases h
    exact .inl ⟨hopen.world hopened, fun a hok => absurd hok (herror _ a)⟩
  · rw [hopened] at h
    refine .inr ⟨u, (ops env u).2, (ops env u).1, hopen.world hopened, rfl, ?_⟩
    dsimp only at h
    rw [Act.bind_apply, Act.attempt] at h
    rcases hops : ops env u with ⟨(e | _) | a, v⟩ <;> rw [hops] at h
    · obtain ⟨x, hx⟩ := ignore_enableI2cRepeater false env v
      dsimp only at h
      rw [Act.bind_of_ok hx] at h
      cases h
      exact ⟨hclose.ignore.world hx, fun a hok => absurd hok (herror _ a)⟩
    · cases h
      exact ⟨rfl, fun a hok => absurd hok (herror _ a)⟩
    · dsimp only at h
      rw [Act.bind_apply] at h
      rcases hclosed : enableI2cRepeater false env v with ⟨e | _, x⟩ <;> rw [hclosed] at h <;>
        cases h
      · exact ⟨hclose.world hclosed, fun a hok => absurd hok (herror _ a)⟩
      · exact ⟨hclose.world hclosed, fun a hok => congrArg _ (Except.ok.inj hok)⟩

/-- Whichever transfers fail, a batch puts a prefix of its pairs into the tuner, and all of them when
it succeeds. -/
theorem tunerWriteBatch_view {pairs : List (UInt8 × UInt8)} {out : Except (Fault SdrggError) Unit}
    (h : tunerWriteBatch pairs env w = (out, w')) :
    ∃ made, made <+: pairs ∧ (out = .ok () → made = pairs) ∧
      tunerView c w' = (tunerView c w).putAll made := by
  obtain ⟨hview, hne⟩ | ⟨u, v, res, hu, hops, hview, hres⟩ := session_view (c := c) h
  · exact ⟨[], List.nil_prefix, fun hok => absurd hok (hne ()), hview⟩
  · obtain ⟨made, hprefix, hall, hv⟩ := puts_sessionWrite.forM hops
    exact ⟨made, hprefix, fun hok => hall (hres () hok), by rw [hview, hv, hu]⟩

end Writes

/-! ### The gate after a batch -/

section Gate

variable {c : Chip} {env : Env} (h : env.Succeeds)

include h

theorem total_session {α : Type} {ops : DevM α} (hops : Total env ops) :
    Total env (session ops) := by
  refine (total_enableI2cRepeater h.accepts).bind fun _ => ?_
  intro w
  obtain ⟨a, u, hu⟩ := hops w
  obtain ⟨_, v, hv⟩ := @total_enableI2cRepeater env h.accepts false u
  exact ⟨a, v, (Act.bind_of_ok (Act.attempt_of_ok hu)).trans (Act.bind_of_ok hv)⟩

theorem total_tunerWriteBatch (pairs : List (UInt8 × UInt8)) :
    Total env (tunerWriteBatch pairs) :=
  total_session h (Total.forM pairs fun _ _ => total_device.bind fun _ =>
    (total_tunerTransfer h.accepts).bind fun _ => total_modifyDevice _)

theorem total_singles (pairs : List (UInt8 × UInt8)) :
    Total env (pairs.forM fun pair => tunerWriteReg pair.1 pair.2) :=
  Total.forM pairs fun _ _ => total_tunerWriteReg h.accepts

theorem closed_tunerWriteBatch (pairs : List (UInt8 × UInt8)) :
    Leaves env (RepeaterClosed c) (tunerWriteBatch pairs) :=
  Leaves.bind_total (total_enableI2cRepeater h.accepts) fun _ =>
    leaves_session (closed_close (Env.Succeeds.closes h)) _

/-- The last of some single writes closes the repeater. -/
theorem closed_singles {pairs : List (UInt8 × UInt8)} (hne : pairs ≠ []) :
    Leaves env (RepeaterClosed c) (pairs.forM fun pair => tunerWriteReg pair.1 pair.2) := by
  have hone (pair : UInt8 × UInt8) : Leaves env (RepeaterClosed c) (tunerWriteReg pair.1 pair.2) :=
    Leaves.bind_preserves (Leaves.bind_total (total_enableI2cRepeater h.accepts) fun _ =>
      leaves_tunerWrite (closed_close (Env.Succeeds.closes h)) _) fun _ _ hw => hw
  induction pairs with
  | nil => exact absurd rfl hne
  | cons pair pairs ih =>
    by_cases hlast : pairs = []
    · subst hlast
      exact (hone pair).bind_preserves fun _ => Preserves.pure _
    · exact Leaves.bind_total (total_tunerWriteReg h.accepts) fun _ => ih hlast

end Gate

/-! ### Reads -/

/-- The frame that a device on the bus has received last. -/
def lastFrame (addr : UInt16) : Log → Option (List UInt8)
  | [] => none
  | (.write value index data, .done _) :: log =>
    if value = addr ∧ index = 0x0610 then some data else lastFrame addr log
  | _ :: log => lastFrame addr log

/-- What devices on the bus answer to a read: the bytes that the device at an address with these
registers sends after the frame that it has received last. -/
abbrev Answer := UInt16 → (UInt8 → UInt8) → Option (List UInt8) → UInt16 → List UInt8

/-- The reads of the bus are answered so. -/
def Answers (c : Chip) (answer : Answer) (env : Env) : Prop :=
  ∀ log addr len, env.kernel log (.read addr 0x0600 len) =
    .done (answer addr ((c.after log).i2c addr) (lastFrame addr log) len)

/-- The value of a register that is read, and the frame that is the last one then. -/
def TunerView.readOne (answer : Answer) (t : TunerView) (frame : Option (List UInt8)) (reg : UInt8) :
    Except SdrggError UInt8 × Option (List UInt8) :=
  if t.identity.tunerClass.isFc001x then
    (.ok ((answer t.identity.tunerBusAddr t.regs (some [reg]) 1).headD 0), some [reg])
  else if reg.toNat + 1 > 32 then (.error .param, frame)
  else
    let byte := (answer t.identity.tunerBusAddr t.regs frame (reg.toNat + 1).toUInt16).getD
      reg.toNat 0
    (.ok (if t.identity.tunerClass.isR820t then bitrev8 byte else byte), frame)

/-- The values of registers that are read one after the other. -/
def TunerView.readAll (answer : Answer) (t : TunerView) :
    Option (List UInt8) → List UInt8 → Except SdrggError (List UInt8)
  | _, [] => .ok []
  | frame, reg :: regs => do
    let value ← (t.readOne answer frame reg).1
    let values ← t.readAll answer (t.readOne answer frame reg).2 regs
    return value :: values

section Frames

variable {addr : UInt16}

theorem keepsFrame_ioctl {t : Transfer} (h : ∀ value data, t ≠ .write value 0x0610 data) :
    Keeps (fun w => lastFrame addr w.log) (ioctl t) := by
  intro env w
  change lastFrame addr ((t, env.kernel w.log t) :: w.log) = lastFrame addr w.log
  rcases env.kernel w.log t with data | errno
  · cases t with
    | write value index data =>
      have hindex : index ≠ 0x0610 := fun heq => h value data (by rw [heq])
      simp [lastFrame, hindex]
    | _ => rfl
  · cases t <;> rfl

theorem keepsFrame_controlWrite {value index : UInt16} {data : List UInt8}
    (hindex : index ≠ 0x0610) :
    Keeps (fun w => lastFrame addr w.log) (controlWrite value index data) := by
  refine Keeps.bind (keepsFrame_ioctl fun value data heq => ?_) fun resp => ?_
  · exact hindex (Transfer.write.inj heq).2.1
  · refine Keeps.bind (Keeps.modify fun _ => rfl) fun _ => ?_
    cases resp with
    | done data => exact Keeps.pure _
    | fail errno => exact Keeps.fail _

theorem keepsFrame_controlRead {value index len : UInt16} {buf : List UInt8} :
    Keeps (fun w => lastFrame addr w.log) (controlRead value index len buf) := by
  refine Keeps.bind (keepsFrame_ioctl fun value data => by simp) fun resp => ?_
  refine Keeps.bind (Keeps.modify fun _ => rfl) fun _ => ?_
  cases resp with
  | done data => exact Keeps.pure _
  | fail errno => exact Keeps.fail _

theorem keepsFrame_enableI2cRepeater (enable : Bool) :
    Keeps (fun w => lastFrame addr w.log) (enableI2cRepeater enable) :=
  (keepsFrame_controlWrite (by decide)).bind fun _ => keepsFrame_controlRead.ignore

theorem controlWrite_frame {data : List UInt8} {env : Env} {w w' : World}
    (h : controlWrite addr 0x0610 data env w = (.ok (), w')) :
    lastFrame addr w'.log = some data := by
  simp only [controlWrite, Act.bind_apply, ioctl, noteResponse, Act.modify_apply] at h
  rcases hresp : env.kernel w.log (.write addr 0x0610 data) with bytes | errno <;>
    rw [hresp] at h <;> cases h
  simp [lastFrame]

end Frames

/-- The last byte of what was read, before the rest of the buffer. -/
theorem take_one_drop {n : Nat} {data buf : List UInt8} (h : data.length = n + 1) :
    ((data ++ buf).drop n).take 1 = [data.getD n 0] := by
  rw [List.drop_append_of_le_length (by omega), List.take_append_of_le_length (by simp; omega)]
  have hlast : data.drop n = [data.getD n 0] := by
    rw [List.drop_eq_getElem_cons (by omega), List.drop_of_length_le (by omega)]
    simp [List.getD_eq_getElem?_getD, h]
  rw [hlast]
  rfl

section Reads

variable {c : Chip} {answer : Answer} {env : Env} (h : env.Succeeds) (ha : Answers c answer env)

/-- What was read, as an operation returns it. -/
def returned {α : Type} : Except SdrggError α → Except (Fault SdrggError) α :=
  Except.mapError Fault.error

/-- A world in which the tuner is the same, and the last frame to it is `frame`. -/
structure ReadFrom (c : Chip) (w w' : World) (frame : Option (List UInt8)) : Prop where
  view : tunerView c w' = tunerView c w
  frame : lastFrame w.dev.identity.tunerBusAddr w'.log = frame

include h ha

theorem controlRead_answer (addr len : UInt16) (buf : List UInt8) (w : World) :
    ∃ w', controlRead addr 0x0600 len buf env w =
        (.ok (answer addr ((chip c w).i2c addr) (lastFrame addr w.log) len ++
          buf.drop len.toNat), w') ∧
      (answer addr ((chip c w).i2c addr) (lastFrame addr w.log) len).length = len.toNat ∧
      tunerView c w' = tunerView c w ∧ lastFrame addr w'.log = lastFrame addr w.log := by
  obtain ⟨data, hlen, hresp, w', hread⟩ := @controlRead_full _ h.accepts addr 0x0600 len buf w
  obtain rfl : _ = data := Response.done.inj ((ha w.log addr len).symm.trans hresp)
  exact ⟨w', hread, hlen, (keepsTuner_controlRead _ _ _ _).world hread,
    keepsFrame_controlRead.world hread⟩

/-- The read of one register of an FC0012. -/
theorem tunerReadRandom_one (addr : UInt16) (reg byte : UInt8) (w : World) :
    ∃ w', tunerReadRandom addr reg byte env w =
        (.ok ((answer addr ((chip c w).i2c addr) (some [reg]) 1).headD 0), w') ∧
      tunerView c w' = tunerView c w ∧ lastFrame addr w'.log = some [reg] := by
  obtain ⟨_, u, hu⟩ := @total_tunerTransfer env h.accepts addr [reg] w
  have hkeeps : Keeps (tunerView c) (controlWrite addr 0x0610 [reg]) :=
    keepsTuner_controlWrite fun c => Function.update_eq_self addr c.i2c
  have hview := hkeeps.world hu
  obtain ⟨w', hread, hlen, hview', hframe'⟩ := controlRead_answer h ha addr 1 [byte] u
  rw [controlWrite_frame hu, show (chip c u).i2c = (chip c w).i2c from
    congrArg TunerView.i2c hview] at hread hlen
  obtain ⟨value, hvalue⟩ := List.length_eq_one_iff.mp hlen
  rw [hvalue] at hread
  refine ⟨w', ?_, hview'.trans hview, hframe'.trans (controlWrite_frame hu)⟩
  rw [tunerReadRandom, Act.bind_of_ok hu, Act.bind_of_ok hread, hvalue]
  rfl

/-- The transfers of the read of one register. -/
theorem tunerReadTransfers_one (reg byte : UInt8) (w : World) :
    ∃ w', tunerReadTransfers reg [byte] env w =
        (returned (((tunerView c w).readOne answer
          (lastFrame w.dev.identity.tunerBusAddr w.log) reg).1.map ([·])), w') ∧
      ReadFrom c w w' ((tunerView c w).readOne answer
        (lastFrame w.dev.identity.tunerBusAddr w.log) reg).2 := by
  have hidentity : (tunerView c w).identity = w.dev.identity := rfl
  have hlength : [byte].length = 1 := rfl
  rw [tunerReadTransfers, Act.bind_of_ok (device_apply env w), hlength]
  unfold TunerView.readOne
  dsimp only
  rw [hidentity]
  by_cases hfc : w.dev.identity.tunerClass.isFc001x = true
  · rw [if_pos hfc, if_pos hfc]
    obtain ⟨w', hread, hview, hframe⟩ :=
      tunerReadRandom_one h ha w.dev.identity.tunerBusAddr reg byte w
    refine ⟨w', ?_, hview, hframe⟩
    have hfirst : reg + (0 : Nat).toUInt8 = reg := by
      simp
    change (tunerReadRandom w.dev.identity.tunerBusAddr (reg + (0 : Nat).toUInt8) byte >>= fun v =>
      pure [v]) env w = _
    rw [hfirst, Act.bind_of_ok hread]
    rfl
  · rw [if_neg hfc, if_neg hfc]
    by_cases hwindow : reg.toNat + 1 > 32
    · rw [if_pos hwindow, if_pos hwindow]
      exact ⟨w, rfl, rfl, rfl⟩
    · rw [if_neg hwindow, if_neg hwindow]
      obtain ⟨w', hread, hlen, hview, hframe⟩ := controlRead_answer h ha
        w.dev.identity.tunerBusAddr (reg.toNat + 1).toUInt16 ((List.range 32).map (env.stack w.log)) w
      have hsize : reg.toNat + 1 < UInt16.size := Nat.lt_of_le_of_lt (Nat.le_of_not_gt hwindow)
        (by decide)
      have hlen := hlen.trans (UInt16.toNat_ofNat_of_lt' hsize)
      refine ⟨w', ?_, hview, hframe⟩
      rw [Act.bind_of_ok (uninitialised_apply 32 env w), Act.bind_of_ok hread,
        take_one_drop hlen]
      cases w.dev.identity.tunerClass.isR820t <;> rfl

/-- An operation that reads one register as `readOne` says. -/
def Reads (c : Chip) (answer : Answer) (env : Env) (reg : UInt8) (act : DevM UInt8) : Prop :=
  ∀ w, ∃ w', act env w =
      (returned ((tunerView c w).readOne answer
        (lastFrame w.dev.identity.tunerBusAddr w.log) reg).1, w') ∧
    ReadFrom c w w' ((tunerView c w).readOne answer
      (lastFrame w.dev.identity.tunerBusAddr w.log) reg).2

theorem reads_sessionRead (reg byte : UInt8) : Reads c answer env reg (sessionRead reg byte) := by
  intro w
  obtain ⟨w', hread, hfrom⟩ := tunerReadTransfers_one h ha reg byte w
  refine ⟨w', ?_, hfrom⟩
  rw [sessionRead, Act.bind_apply, hread]
  rcases ((tunerView c w).readOne answer _ reg).1 with e | value <;> rfl

theorem reads_tunerReadReg (reg : UInt8) : Reads c answer env reg (tunerReadReg reg) := by
  intro w
  have hkeeps (enable : Bool) := keepsTuner_enableI2cRepeater (c := c) enable
  obtain ⟨_, u, hu⟩ := @total_enableI2cRepeater env h.accepts true w
  have hview := (hkeeps true).world hu
  have hidentity : u.dev.identity = w.dev.identity := congrArg TunerView.identity hview
  obtain ⟨v, hread, hfrom⟩ := tunerReadTransfers_one h ha reg (env.stack w.log 0) u
  obtain ⟨_, x, hx⟩ := @total_enableI2cRepeater env h.accepts false v
  have hopened := (@keepsFrame_enableI2cRepeater w.dev.identity.tunerBusAddr true).world hu
  rw [hview, hidentity, hopened] at hread hfrom
  have hfrom' : ReadFrom c w x ((tunerView c w).readOne answer
      (lastFrame w.dev.identity.tunerBusAddr w.log) reg).2 := by
    refine ⟨((hkeeps false).world hx).trans (hfrom.view.trans hview), ?_⟩
    rw [← hfrom.frame, hidentity]
    exact (keepsFrame_enableI2cRepeater false).world hx
  have hclose : Act.ignore (enableI2cRepeater false) env v = (.ok (), x) :=
    Act.bind_of_ok (Act.attempt_of_ok hx)
  refine ⟨x, ?_, hfrom'⟩
  have hbuffer : (List.range (1 : UInt8).toNat).map (env.stack w.log) = [env.stack w.log 0] := rfl
  rw [tunerReadReg, tunerRead, bind_assoc, Act.bind_of_ok (uninitialised_apply _ env w), hbuffer,
    bind_assoc, Act.bind_of_ok hu, Act.bind_apply, Act.closing, Act.bind_apply, Act.attempt, hread]
  rcases ((tunerView c w).readOne answer _ reg).1 with e | value
  · dsimp only [returned, Except.map, Except.mapError]
    rw [Act.bind_of_ok hclose]
    rfl
  · dsimp only [returned, Except.map, Except.mapError]
    rw [Act.bind_of_ok hclose]
    rfl

omit h ha in
/-- Reads one after the other. -/
theorem Reads.mapM {β : Type} {reg : β → UInt8} {act : β → DevM UInt8}
    (hact : ∀ b, Reads c answer env (reg b) (act b)) (l : List β) (w : World) :
    ∃ w', l.mapM act env w =
      (returned ((tunerView c w).readAll answer (lastFrame w.dev.identity.tunerBusAddr w.log)
        (l.map reg)), w') ∧ tunerView c w' = tunerView c w := by
  induction l generalizing w with
  | nil => exact ⟨w, rfl, rfl⟩
  | cons b l ih =>
    obtain ⟨u, hu, hfrom⟩ := hact b w
    rw [List.mapM_cons, Act.bind_apply, hu, List.map_cons, TunerView.readAll]
    rcases hvalue : ((tunerView c w).readOne answer _ (reg b)).1 with e | value
    · exact ⟨u, rfl, hfrom.view⟩
    · obtain ⟨w', hrest, hview⟩ := ih u
      have hidentity : u.dev.identity = w.dev.identity := congrArg TunerView.identity hfrom.view
      rw [hfrom.view, hidentity, hfrom.frame] at hrest
      refine ⟨w', ?_, hview.trans hfrom.view⟩
      dsimp only [returned, Except.mapError]
      rw [Act.bind_apply, hrest]
      rcases (tunerView c w).readAll answer _ (l.map reg) with e | values <;> rfl

/-- A batch of reads returns what its registers hold. -/
theorem tunerReadBatch_eq (regs : List (UInt8 × UInt8)) (w : World) :
    (tunerReadBatch regs env w).1 =
      returned ((tunerView c w).readAll answer (lastFrame w.dev.identity.tunerBusAddr w.log)
        (regs.map Prod.fst)) := by
  obtain ⟨_, u, hu⟩ := @total_enableI2cRepeater env h.accepts true w
  have hview := (keepsTuner_enableI2cRepeater (c := c) true).world hu
  have hidentity : u.dev.identity = w.dev.identity := congrArg TunerView.identity hview
  have hframe := (@keepsFrame_enableI2cRepeater w.dev.identity.tunerBusAddr true).world hu
  obtain ⟨v, hread, -⟩ := @Reads.mapM c answer env _ Prod.fst (fun reg => sessionRead reg.1 reg.2)
    (fun reg => reads_sessionRead h ha reg.1 reg.2) regs u
  obtain ⟨_, x, hx⟩ := @total_enableI2cRepeater env h.accepts false v
  rw [hview, hidentity, hframe] at hread
  rw [tunerReadBatch, session, Act.bind_of_ok hu, Act.bind_apply, Act.attempt, hread]
  rcases (tunerView c w).readAll answer _ (regs.map Prod.fst) with e | values
  · have hclose : Act.ignore (enableI2cRepeater false) env v = (.ok (), x) :=
      Act.bind_of_ok (Act.attempt_of_ok hx)
    dsimp only [returned, Except.mapError]
    rw [Act.bind_of_ok hclose]
    rfl
  · dsimp only [returned, Except.mapError]
    rw [Act.bind_of_ok hx]
    rfl

end Reads

/-! ### Batches refine single accesses -/

theorem singles_gate {c : Chip} {env : Env} (h : env.Succeeds) (pairs : List (UInt8 × UInt8))
    (w : World) :
    RepeaterClosed c ((pairs.forM fun pair => tunerWriteReg pair.1 pair.2) env w).2 ↔
      pairs ≠ [] ∨ RepeaterClosed c w := by
  by_cases hempty : pairs = []
  · subst hempty
    simp only [ne_eq, not_true_eq_false, false_or]
    exact Iff.rfl
  · obtain ⟨_, u, hu⟩ := total_singles h pairs w
    refine iff_of_true ?_ (.inl hempty)
    exact closed_singles h hempty w _ _ rfl (by rw [hu]; simp)

/-- When no transfer fails, a batch does to the chip's registers and to the shadow file what the
single accesses do, to the repeater too unless it was open and there is nothing to write, and reads
what they read; when transfers fail, a batch of writes has made a prefix of them. -/
theorem batch_refines_single {c : Chip} {answer : Answer} {envBatch envSingle : Env}
    (hbatch : envBatch.Succeeds) (hsingle : envSingle.Succeeds)
    (hanswerBatch : Answers c answer envBatch) (hanswerSingle : Answers c answer envSingle)
    (w : World) :
    (∀ pairs : List (UInt8 × UInt8), ∃ uBatch uSingle,
      tunerWriteBatch pairs envBatch w = (.ok (), uBatch) ∧
      (pairs.forM fun pair => tunerWriteReg pair.1 pair.2) envSingle w = (.ok (), uSingle) ∧
      tunerView c uBatch = tunerView c uSingle ∧ RepeaterClosed c uBatch ∧
      (RepeaterClosed c uSingle ↔ pairs ≠ [] ∨ RepeaterClosed c w)) ∧
    (∀ regs : List (UInt8 × UInt8), (tunerReadBatch regs envBatch w).1 =
      ((regs.mapM fun reg => tunerReadReg reg.1) envSingle w).1) ∧
    ∀ (env : Env) (pairs : List (UInt8 × UInt8)) (out : Except (Fault SdrggError) Unit)
      (w' : World), tunerWriteBatch pairs env w = (out, w') →
        ∃ made, made <+: pairs ∧ (out = .ok () → made = pairs) ∧
          tunerView c w' = (tunerView c w).putAll made := by
  refine ⟨fun pairs => ?_, fun regs => ?_, fun env pairs out w' hrun => tunerWriteBatch_view hrun⟩
  · obtain ⟨_, uBatch, hwrote⟩ := total_tunerWriteBatch hbatch pairs w
    obtain ⟨_, uSingle, hwroteSingle⟩ := total_singles hsingle pairs w
    obtain ⟨made, -, hall, hview⟩ := tunerWriteBatch_view (c := c) hwrote
    obtain ⟨madeSingle, -, hallSingle, hviewSingle⟩ :=
      puts_tunerWriteReg.forM (c := c) hwroteSingle
    refine ⟨uBatch, uSingle, hwrote, hwroteSingle, ?_, ?_, ?_⟩
    · rw [hview, hall rfl, hviewSingle, hallSingle rfl]
    · exact closed_tunerWriteBatch hbatch pairs w _ _ hwrote (by simp)
    · have hgate := singles_gate (c := c) hsingle pairs w
      rw [hwroteSingle] at hgate
      exact hgate
  · obtain ⟨u, hread, -⟩ := @Reads.mapM c answer envSingle _ Prod.fst (fun reg => tunerReadReg reg.1)
      (fun reg => reads_tunerReadReg hsingle hanswerSingle reg.1) regs w
    rw [tunerReadBatch_eq hbatch hanswerBatch, hread]

/-- A bus whose devices answer so, and on which no transfer fails. -/
def busEnv (c : Chip) (answer : Answer) : Env where
  kernel log t :=
    match t with
    | .read addr index len =>
      if index = 0x0600 then .done (answer addr ((c.after log).i2c addr) (lastFrame addr log) len)
      else .done (List.replicate len.toNat 0)
    | _ => .done []
  stack _ _ := 0

/-- An R820T sends its registers from the first on, each with its bits reversed. -/
def r820tAnswer : Answer := fun _ regs _ len =>
  (List.range len.toNat).map fun i => bitrev8 (regs i.toUInt8)

theorem busEnv_succeeds (c : Chip) : (busEnv c r820tAnswer).Succeeds := by
  intro log t
  cases t with
  | read addr index len =>
    by_cases hindex : index = 0x0600
    · exact ⟨_, if_pos hindex, by simp [r820tAnswer]⟩
    · exact ⟨_, if_neg hindex, by simp⟩
  | _ => exact ⟨[], rfl⟩

theorem busEnv_answers (c : Chip) (answer : Answer) : Answers c answer (busEnv c answer) :=
  fun _ _ _ => rfl

theorem batch_refines_single_r820t :
    (∃ uBatch uSingle,
      tunerWriteBatch [(0x05, 0x83), (0x0A, 0x36)] (busEnv blankChip r820tAnswer)
        Sdr.openedR820t = (.ok (), uBatch) ∧
      (([(0x05, 0x83), (0x0A, 0x36)] : List (UInt8 × UInt8)).forM fun pair =>
        tunerWriteReg pair.1 pair.2) (busEnv blankChip r820tAnswer) Sdr.openedR820t = (.ok (), uSingle) ∧
      tunerView blankChip uBatch = tunerView blankChip uSingle) ∧
    (tunerReadBatch [(0x05, 0), (0x1F, 0)] (busEnv blankChip r820tAnswer) Sdr.openedR820t).1 =
      ((([(0x05, 0), (0x1F, 0)] : List (UInt8 × UInt8)).mapM fun reg => tunerReadReg reg.1)
        (busEnv blankChip r820tAnswer) Sdr.openedR820t).1 := by
  obtain ⟨hwrites, hreads, -⟩ := batch_refines_single (busEnv_succeeds blankChip)
    (busEnv_succeeds blankChip) (busEnv_answers blankChip r820tAnswer)
    (busEnv_answers blankChip r820tAnswer) Sdr.openedR820t
  obtain ⟨uBatch, uSingle, hbatch, hsingle, hview, -⟩ := hwrites [(0x05, 0x83), (0x0A, 0x36)]
  exact ⟨⟨uBatch, uSingle, hbatch, hsingle, hview⟩, hreads [(0x05, 0), (0x1F, 0)]⟩

/-- On an open repeater, a batch of nothing closes it and no single write leaves it open. -/
theorem empty_batch_closes :
    repeaterGate ⟨fun _ => 0x18, fun _ _ => 0⟩
      (tunerWriteBatch [] Sdr.steadyEnv Sdr.openedFc0012).2 = 0x10 ∧
    repeaterGate ⟨fun _ => 0x18, fun _ _ => 0⟩
      ((([] : List (UInt8 × UInt8)).forM fun pair => tunerWriteReg pair.1 pair.2)
        Sdr.steadyEnv Sdr.openedFc0012).2 = 0x18 := by
  constructor <;> decide +kernel

end Sdrgg.Rtl
