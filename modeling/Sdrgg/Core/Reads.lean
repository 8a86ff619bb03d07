import Sdrgg.Core.Batch
import Sdrgg.Rtl.Bus

/-! What the register reads of the tuner return when a transfer brings fewer bytes than it was asked
for. -/

namespace Sdrgg.Rtl

open ProofKit Usb

/-! ### Transfers and their outcomes -/

/-- A transfer failed whose failure the accesses report: one of the tuner bus or the one that opens
the repeater, and for a session the one that closes it. -/
def failedAccess (closes : Bool) (e : Transfer × Response) : Bool :=
  (Transfer.onTunerBus e.1 || decide (e.1 = Transfer.repeater true) ||
    closes && decide (e.1 = Transfer.repeater false)) && Response.failed e.2

/-- A read of the tuner bus brought fewer bytes than it was asked for. -/
def shortRead : Transfer × Response → Bool
  | (.read _ index len, .done data) => index = 0x0600 && data.length < len.toNat
  | _ => false

/-- What the tuners send: an FC0012 or FC0013 its registers from the one that it was sent last, the
others theirs from the first on, an R820T each with its bits reversed. -/
def familyAnswer (family : TunerType) : Answer := fun _ regs frame len =>
  if family.isFc001x then
    (List.range len.toNat).map fun i => regs ((frame.bind List.head?).getD 0 + i.toUInt8)
  else (List.range len.toNat).map fun i =>
    if family.isR820t then bitrev8 (regs i.toUInt8) else regs i.toUInt8

/-- A read of the bus that does not fail brings the first bytes of what the tuner sends. -/
def Carries (c : Chip) (family : TunerType) (env : Env) : Prop :=
  ∀ log addr len data, env.kernel log (.read addr 0x0600 len) = .done data →
    data <+: familyAnswer family addr ((c.after log).i2c addr) (lastFrame addr log) len

/-- The registers from `reg` on. -/
def TunerView.registers (t : TunerView) (reg : UInt8) (len : Nat) : List UInt8 :=
  (List.range len).map fun i => t.regs (reg + i.toUInt8)

/-- A read past the 32 bytes that the sequential path can hold. -/
def Refuses (family : TunerType) (reg : UInt8) (len : Nat) : Prop :=
  family.isFc001x = false ∧ 32 < reg.toNat + len

/-- A call that ended with `x` and made the transfers `es` returned what the device holds if it
returned, and reported an error if one of its reads was short. -/
structure ReadsDevice {α : Type} (x : Except (Fault SdrggError) α) (es : List (Transfer × Response))
    (value : α) : Prop where
  data : ∀ a, x = .ok a → a = value
  short : (∃ e ∈ es, shortRead e) → ∃ e, x = .error (.error e)

/-! ### The transfers of one access -/

theorem length_familyAnswer (family : TunerType) (addr : UInt16) (regs : UInt8 → UInt8)
    (frame : Option (List UInt8)) (len : UInt16) :
    (familyAnswer family addr regs frame len).length = len.toNat := by
  unfold familyAnswer
  split <;> simp

/-- The order of the bits is turned round twice. -/
@[simp] theorem bitrev8_bitrev8 (byte : UInt8) : bitrev8 (bitrev8 byte) = byte := by
  have hall : ∀ n < 256, bitrev8 (bitrev8 (UInt8.ofNat n)) = UInt8.ofNat n := by decide +kernel
  simpa using hall byte.toNat byte.toNat_lt

section Accesses

variable {c : Chip} {env : Env} {t : TunerView} {closes : Bool}

/-- The accesses of a tuner in the state `t`, and the entries that they report. -/
abbrev Accesses (c : Chip) (env : Env) (t : TunerView) (closes : Bool) {α : Type} (p : Prop)
    (m : DevM α) (Q : α → Prop) : Prop :=
  Reports env (fun w => tunerView c w = t) World.log (fun e => failedAccess closes e)
    (fun e => shortRead e) p m Q

theorem preserves_tuner {α : Type} {m : DevM α} (h : Keeps (tunerView c) m) :
    Preserves env (fun w => tunerView c w = t) m :=
  fun w hw => (h env w).trans hw

theorem traces_repeater (enable : Bool) :
    Traces env (fun w => tunerView c w = t) World.log (enableI2cRepeater enable) fun x es =>
      ∃ resp rest, es = (Transfer.repeater enable, resp) :: rest ∧
        (∀ e ∈ rest, e.1 = Transfer.confirmation) ∧ x = Response.outcome resp :=
  traces_enableI2cRepeater (preserves_tuner (keepsTuner_controlWrite fun _ => rfl))
    (preserves_tuner (keepsTuner_controlRead _ _ _ _))

/-- An access of the repeater whose failure is reported. -/
theorem accesses_repeater {enable : Bool}
    (hreported : ∀ errno, failedAccess closes (Transfer.repeater enable, .fail errno)) :
    Accesses c env t closes False (enableI2cRepeater enable) fun _ => True := by
  refine (traces_repeater enable).mono ?_
  rintro _ _ ⟨resp, rest, rfl, hrest, rfl⟩
  cases resp with
  | done data =>
    refine Reported.of_ok id (fun e he => ?_) fun _ => trivial
    obtain rfl | he := List.mem_cons.mp he
    · simp [failedAccess, Response.failed]
    · simp [failedAccess, hrest e he, Transfer.confirmation, Transfer.onTunerBus,
        Transfer.repeater]
  | fail errno => exact Reported.of_error (.inr ⟨_, List.mem_cons_self, hreported errno⟩)

theorem accesses_open : Accesses c env t closes False (enableI2cRepeater true) fun _ => True :=
  accesses_repeater fun errno => by simp [failedAccess, Response.failed]

/-- The end of a session reports a failure. -/
theorem accesses_close : Accesses c env t true False (enableI2cRepeater false) fun _ => True :=
  accesses_repeater fun errno => by simp [failedAccess, Response.failed]

/-- A single access closes the repeater without a look at how that went. -/
theorem settles_close : Settles env (fun w => tunerView c w = t) World.log
    (Act.ignore (enableI2cRepeater false)) fun es => ∀ e ∈ es, ¬failedAccess false e := by
  refine Logs.ignore ((traces_repeater false).mono ?_)
  rintro _ _ ⟨resp, rest, rfl, hrest, rfl⟩
  refine ⟨by cases resp <;> simp [Response.outcome], fun e he => ?_⟩
  obtain rfl | he := List.mem_cons.mp he
  · simp [failedAccess, Transfer.onTunerBus, Transfer.repeater]
  · simp [failedAccess, hrest e he, Transfer.confirmation, Transfer.onTunerBus, Transfer.repeater]

variable (hbus : Carries c t.identity.tunerClass env)

include hbus

/-- The answer to a read that is not short is all that the tuner sends. -/
theorem Carries.all {log : Log} {addr len : UInt16} {data : List UInt8}
    (hresp : env.kernel log (.read addr 0x0600 len) = .done data)
    (hfull : ¬shortRead (.read addr 0x0600 len, .done data)) :
    data = familyAnswer t.identity.tunerClass addr ((c.after log).i2c addr) (lastFrame addr log)
      len := by
  have hlen : len.toNat ≤ data.length := by simpa [shortRead] using hfull
  refine (hbus log addr len data hresp).eq_of_length_le ?_
  rw [length_familyAnswer]
  exact hlen

/-- The read of one register of an FC0012. -/
theorem accesses_tunerReadRandom (hfamily : t.identity.tunerClass.isFc001x = true)
    (reg byte : UInt8) : Accesses c env t closes False
      (tunerReadRandom t.identity.tunerBusAddr reg byte) fun v => v = t.regs reg := by
  refine Traces.intro (preserves_tuner (keepsTuner_tunerReadRandom _ _ _)) fun w hw => ?_
  have hregs : (chip c w).i2c t.identity.tunerBusAddr = t.regs := by
    rw [TunerView.regs, ← hw]
    rfl
  generalize t.identity.tunerBusAddr = addr at hregs
  obtain ⟨u, hwrite, hlog⟩ := @controlWrite_run env addr 0x0610 [reg] w
  rw [tunerReadRandom, Act.bind_apply, hwrite]
  generalize env.kernel w.log (.write addr 0x0610 [reg]) = resp at hlog
  cases resp with
  | fail errno =>
    exact ⟨[_], hlog, Reported.of_error
      (.inr ⟨_, List.mem_singleton_self _, by simp [failedAccess, Transfer.onTunerBus, Response.failed]⟩)⟩
  | done bytes =>
    obtain ⟨v, hread, hlog'⟩ := @controlRead_run env addr 0x0600 1 [byte] u
    dsimp only [Response.outcome]
    rw [Act.bind_apply, hread]
    rcases hresp : env.kernel u.log (.read addr 0x0600 1) with data | errno <;>
      rw [hresp, hlog] at hlog'
    · refine ⟨[_, _], hlog', Reported.of_ok id ?_ fun hfull => ?_⟩
      · simp [failedAccess, Response.failed]
      · have hframe : lastFrame addr u.log = some [reg] := by simp [hlog, lastFrame]
        have hchip : (c.after u.log).i2c addr = t.regs := by
          rw [← hregs, hlog]
          simp [Chip.after, Chip.apply, i2cWritten, written, chip]
        have hdata := hbus.all hresp (hfull _ (List.mem_cons_of_mem _ List.mem_cons_self))
        rw [hchip, hframe, familyAnswer, if_pos hfamily] at hdata
        rw [hdata]
        simp [List.range_succ]
    · exact ⟨[_, _], hlog', Reported.of_error (.inr ⟨_, List.mem_cons_of_mem _ List.mem_cons_self,
        by simp [failedAccess, Transfer.onTunerBus, Response.failed]⟩)⟩

/-- A read of the registers from the first on. -/
theorem accesses_controlRead (hfamily : ¬t.identity.tunerClass.isFc001x = true) (len : UInt16)
    (buf : List UInt8) : Accesses c env t closes False
      (controlRead t.identity.tunerBusAddr 0x0600 len buf) fun bytes =>
        bytes = ((List.range len.toNat).map fun i =>
          if t.identity.tunerClass.isR820t then bitrev8 (t.regs i.toUInt8) else t.regs i.toUInt8) ++
            buf.drop len.toNat := by
  refine (traces_controlRead (preserves_tuner (keepsTuner_controlRead _ _ _ _))).mono ?_
  rintro _ _ ⟨w, resp, hw, hresp, rfl, rfl⟩
  cases resp with
  | fail errno =>
    exact Reported.of_error (.inr ⟨_, List.mem_singleton_self _,
      by simp [failedAccess, Transfer.onTunerBus, Response.failed]⟩)
  | done data =>
    refine Reported.of_ok id (by simp [failedAccess, Response.failed]) fun hfull => ?_
    have hdata := hbus.all hresp (hfull _ (List.mem_singleton_self _))
    have hregs : (c.after w.log).i2c t.identity.tunerBusAddr = t.regs := by
      rw [TunerView.regs, ← hw]
      rfl
    have hlen := congrArg List.length hdata
    rw [length_familyAnswer] at hlen
    rw [familyAnswer, if_neg hfamily, hregs] at hdata
    rw [List.take_of_length_le hlen.le, hlen, Nat.min_self, ← hdata]

omit hbus in
theorem accesses_device {α : Type} {p : Prop} {Q : α → Prop} {k : Device → DevM α}
    (h : ∀ d, d.identity = t.identity → Accesses c env t closes p (k d) Q) :
    Accesses c env t closes p (device >>= k) Q := by
  intro w hw
  rw [Act.bind_of_ok (device_apply env w)]
  exact h w.dev (congrArg TunerView.identity hw) w hw

omit hbus in
theorem accesses_uninitialised {α : Type} {p : Prop} {Q : α → Prop} {n : Nat}
    {k : List UInt8 → DevM α}
    (h : ∀ data, data.length = n → Accesses c env t closes p (k data) Q) :
    Accesses c env t closes p (uninitialised n >>= k) Q := by
  intro w hw
  rw [Act.bind_of_ok (uninitialised_apply n env w)]
  exact h _ (by simp) w hw

omit hbus in
/-- A window on the registers from the first on. -/
theorem window_range {α : Type} (f : Nat → α) (a n : Nat) (rest : List α) :
    (((List.range (a + n)).map f ++ rest).drop a).take n = (List.range n).map fun i => f (a + i) := by
  rw [List.range_add, List.map_append, List.append_assoc, List.drop_left' (by simp),
    List.take_left' (by simp), List.map_map]
  rfl

theorem accesses_tunerReadTransfers (reg : UInt8) (data : List UInt8) :
    Accesses c env t closes (Refuses t.identity.tunerClass reg data.length)
      (tunerReadTransfers reg data) fun bytes => bytes = t.registers reg data.length := by
  refine accesses_device fun d hd => ?_
  dsimp only
  rw [hd]
  by_cases hfamily : t.identity.tunerClass.isFc001x = true
  · rw [if_pos hfamily]
    refine Reports.mono (Reports.mapM (List.range data.length) fun i _ =>
      accesses_tunerReadRandom hbus hfamily (reg + i.toUInt8) (data.getD i 0)) ?_ fun _ => id
    simp [Refuses, hfamily]
  · rw [if_neg hfamily]
    by_cases hwindow : reg.toNat + data.length > 32
    · rw [if_pos hwindow]
      exact Traces.fail (Reported.of_error (.inl ⟨by simpa using hfamily, hwindow⟩))
    · rw [if_neg hwindow]
      have hsize : (reg.toNat + data.length).toUInt16.toNat = reg.toNat + data.length :=
        UInt16.toNat_ofNat_of_lt' (Nat.lt_of_le_of_lt (Nat.le_of_not_gt hwindow) (by decide))
      refine accesses_uninitialised fun raw hraw => ?_
      refine (Reports.bind (accesses_controlRead hbus hfamily _ raw) fun raw =>
        Reports.pure fun hdata => ?_).mono (by simp [Refuses, hwindow]) fun _ => id
      rw [hsize] at hdata
      rw [hdata, window_range, TunerView.registers]
      cases t.identity.tunerClass.isR820t <;> simp [UInt8.ofNat_add]

theorem accesses_tunerRead (reg len : UInt8) :
    Accesses c env t false (Refuses t.identity.tunerClass reg len.toNat) (tunerRead reg len)
      fun bytes => bytes = t.registers reg len.toNat := by
  refine accesses_uninitialised fun data hdata => ?_
  refine (accesses_open.bind fun _ => Reports.mono
    ((accesses_tunerReadTransfers hbus reg data).closing settles_close) Iff.rfl fun _ h _ => ?_).mono
    ?_ fun _ => id
  · rwa [hdata] at h
  · rw [hdata, false_or]

theorem accesses_tunerReadReg (reg : UInt8) :
    Accesses c env t false (Refuses t.identity.tunerClass reg 1) (tunerReadReg reg)
      fun val => val = t.regs reg := by
  refine ((accesses_tunerRead hbus reg 1).bind fun data => Reports.pure fun hdata => ?_).mono ?_
    fun _ => id
  · rw [hdata]
    simp [TunerView.registers, List.range_succ]
  · exact iff_of_eq (or_false _)

theorem accesses_sessionRead (reg byte : UInt8) :
    Accesses c env t closes (Refuses t.identity.tunerClass reg 1) (sessionRead reg byte)
      fun val => val = t.regs reg := by
  refine ((accesses_tunerReadTransfers hbus reg [byte]).bind fun data =>
    Reports.pure fun hdata => ?_).mono ?_ fun _ => id
  · rw [hdata]
    simp [TunerView.registers, List.range_succ]
  · exact iff_of_eq (or_false _)

omit hbus in
/-- A session reports what its operations report, and a failure to close the repeater. -/
theorem accesses_session {α : Type} {p : Prop} {Q : α → Prop} {ops : DevM α}
    (h : Accesses c env t true p ops Q) : Accesses c env t true p (session ops) Q := by
  refine (accesses_open.bind fun _ => ?_).mono (iff_of_eq (false_or p)) fun _ => id
  refine (Traces.attempt h fun es hes => hes.defined rfl).bind
    (S := fun out x es =>
      (∀ a, out = .ok a →
        Reported False (fun e => failedAccess true e) (fun e => shortRead e) (· = a) x es) ∧
      ∀ e, out = .error e → x = .error (.error e))
    (fun out => ?_) ?_ ?_
  · cases out with
    | ok a =>
      refine Traces.mono (Reports.mono (accesses_close.bind fun _ => Reports.pure
        (Q := fun b => True → b = a) fun _ => rfl) (iff_of_eq (or_false False)) fun _ => id) ?_
      intro x es hx
      refine ⟨fun b hb => ?_, fun e he => by cases he⟩
      cases hb
      exact hx
    | error e =>
      refine Traces.bind settles_close (S := fun _ x _ => x = .error (.error e))
        (fun _ => Traces.fail rfl) ?_ ?_
      · rintro f es ⟨⟨_, hf⟩, -⟩
        cases hf
      · rintro _ _ _ _ - rfl
        constructor
        · intro b hb
          cases hb
        intro e' he
        cases he
        rfl
  · rintro f es ⟨out, hout, -⟩
    cases hout
  · rintro out es x es' ⟨out', hout, hR⟩ hx
    cases hout
    cases out with
    | ok a =>
      have hx := hx.1 a rfl
      have hvalue (b : α) (hb : x = .ok b) (hshort : ∀ e ∈ es', ¬shortRead e) : Q a → True → Q b :=
        fun hQ _ => hx.value b hb hshort ▸ hQ
      have happend := hR.append ⟨hx.error_iff, hx.defined, hvalue⟩
      rwa [or_false] at happend
    | error e =>
      rw [hx.2 e rfl]
      refine Reported.of_error ((hR.error_iff.mp ⟨e, rfl⟩).imp_right ?_)
      rintro ⟨e', he', hbad⟩
      exact ⟨e', List.mem_append_left es' he', hbad⟩

theorem accesses_tunerReadBatch (regs : List (UInt8 × UInt8)) :
    Accesses c env t true (∃ reg ∈ regs, Refuses t.identity.tunerClass reg.1 1)
      (tunerReadBatch regs) fun bytes => bytes = regs.map fun reg => t.regs reg.1 :=
  accesses_session (Reports.mapM regs fun reg _ => accesses_sessionRead hbus reg.1 reg.2)

end Accesses

/-! ### What the reads return -/

section Reported

variable {α : Type} {p : Prop} {closes : Bool} {x : Except (Fault SdrggError) α}
  {es : List (Transfer × Response)} {value : α}

/-- A call that reports its failed transfers and returns what it has read otherwise. -/
theorem readsDevice_iff (h : Reported p (fun e => failedAccess closes e) (fun e => shortRead e)
    (fun a => a = value) x es) :
    ReadsDevice x es value ↔
      p ∨ (∃ e ∈ es, failedAccess closes e) ∨ ∀ e ∈ es, ¬shortRead e := by
  constructor
  · intro hreads
    by_cases hfails : p ∨ ∃ e ∈ es, failedAccess closes e
    · exact or_assoc.mp (.inl hfails)
    · refine .inr (.inr fun e he hshort => hfails ?_)
      exact h.error_iff.mp (hreads.short ⟨e, he, hshort⟩)
  · intro hcases
    obtain hfails | hfull := or_assoc.mpr hcases
    · obtain ⟨e, rfl⟩ := h.error_iff.mpr hfails
      exact ⟨by simp, fun _ => ⟨e, rfl⟩⟩
    · refine ⟨fun a ha => h.value a ha hfull, ?_⟩
      rintro ⟨e, he, hshort⟩
      exact absurd hshort (hfull e he)

end Reported

/-- The calls that read registers of the tuner return what the device holds and report short
transfers exactly when the call is refused or reports another failed transfer, or none of its reads
is short. -/
theorem tuner_reads_iff {c : Chip} {env : Env} {w : World}
    (hbus : Carries c w.dev.identity.tunerClass env) :
    (∀ reg len, ReadsDevice (tunerRead reg len env w).1
        (entriesOf World.log (tunerRead reg len) env w) ((tunerView c w).registers reg len.toNat) ↔
      Refuses w.dev.identity.tunerClass reg len.toNat ∨
        (∃ e ∈ entriesOf World.log (tunerRead reg len) env w, failedAccess false e) ∨
        ∀ e ∈ entriesOf World.log (tunerRead reg len) env w, ¬shortRead e) ∧
    (∀ reg, ReadsDevice (tunerReadReg reg env w).1
        (entriesOf World.log (tunerReadReg reg) env w) ((tunerView c w).regs reg) ↔
      Refuses w.dev.identity.tunerClass reg 1 ∨
        (∃ e ∈ entriesOf World.log (tunerReadReg reg) env w, failedAccess false e) ∨
        ∀ e ∈ entriesOf World.log (tunerReadReg reg) env w, ¬shortRead e) ∧
    ∀ regs : List (UInt8 × UInt8), ReadsDevice (tunerReadBatch regs env w).1
        (entriesOf World.log (tunerReadBatch regs) env w)
        (regs.map fun reg => (tunerView c w).regs reg.1) ↔
      (∃ reg ∈ regs, Refuses w.dev.identity.tunerClass reg.1 1) ∨
        (∃ e ∈ entriesOf World.log (tunerReadBatch regs) env w, failedAccess true e) ∨
        ∀ e ∈ entriesOf World.log (tunerReadBatch regs) env w, ¬shortRead e := by
  have hbus : Carries c (tunerView c w).identity.tunerClass env := hbus
  refine ⟨fun reg len => ?_, fun reg => ?_, fun regs => ?_⟩
  · exact readsDevice_iff (Traces.entries (accesses_tunerRead hbus reg len) rfl)
  · exact readsDevice_iff (Traces.entries (accesses_tunerReadReg hbus reg) rfl)
  · exact readsDevice_iff (Traces.entries (accesses_tunerReadBatch hbus regs) rfl)

theorem busEnv_carries (c : Chip) (family : TunerType) :
    Carries c family (busEnv c (familyAnswer family)) := by
  rintro log addr len data hresp
  obtain rfl : familyAnswer family addr ((c.after log).i2c addr) (lastFrame addr log) len = data :=
    Response.done.inj hresp
  exact List.prefix_rfl

/-- The register of a silicon revision, read in full. -/
theorem tuner_reads_full : ReadsDevice
    (tunerReadReg 0x00 (busEnv blankChip (familyAnswer .r820t)) Sdr.openedR820t).1
    (entriesOf World.log (tunerReadReg 0x00) (busEnv blankChip (familyAnswer .r820t))
      Sdr.openedR820t) ((tunerView blankChip Sdr.openedR820t).regs 0x00) :=
  ((tuner_reads_iff (w := Sdr.openedR820t) (busEnv_carries blankChip .r820t)).2.1 0x00).mpr
    (.inr (.inr (by decide +kernel)))

/-- A bus whose tuner answers every read with nothing, with other bytes in the buffers. -/
def emptyEnv : Env where
  kernel _ t :=
    match t with
    | .read _ index len => .done (if index = 0x0600 then [] else List.replicate len.toNat 0)
    | _ => .done []
  stack _ _ := 0x55

/-- A read that transfers nothing returns what lies in the buffer. -/
theorem tuner_reads_nothing : Carries blankChip Sdr.openedR820t.dev.identity.tunerClass emptyEnv ∧
    (tunerReadReg 0x02 emptyEnv Sdr.openedR820t).1 = .ok 0xAA ∧
    (tunerView blankChip Sdr.openedR820t).regs 0x02 = 0 ∧
    ¬ReadsDevice (tunerReadReg 0x02 emptyEnv Sdr.openedR820t).1
      (entriesOf World.log (tunerReadReg 0x02) emptyEnv Sdr.openedR820t)
      ((tunerView blankChip Sdr.openedR820t).regs 0x02) := by
  have hvalue : (tunerReadReg 0x02 emptyEnv Sdr.openedR820t).1 = .ok 0xAA := by decide +kernel
  have hregister : (tunerView blankChip Sdr.openedR820t).regs 0x02 = 0 := by decide +kernel
  refine ⟨?_, hvalue, hregister, fun hreads => ?_⟩
  · rintro log addr len data hresp
    obtain rfl : [] = data := Response.done.inj hresp
    exact List.nil_prefix
  · have hdata := hreads.data _ hvalue
    rw [hregister] at hdata
    exact absurd hdata (by decide)

end Sdrgg.Rtl
