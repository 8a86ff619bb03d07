import Sdrgg.Core.Success
import Sdrgg.Rtl.Bus

/-! Which failed transfers the FC0012 codec reports.  Both `init` and a tuning session dispatch a
list of commands, where the first failure is reported, before transfers whose results are not looked
at: those that prime the gain latch, and those of the calibration. -/

namespace Sdrgg.Fc0012

open ProofKit Usb Rtl

/-- The transfer of a wire command. -/
def WireCmd.transfer (cmd : WireCmd) : Transfer := .write 0xC6 0x0610 [cmd.location, cmd.content]

/-- The transfers that read the calibration: the address of its register, and its value. -/
def readsCalibration (t : Transfer) : Bool := t = .write 0xC6 0x0610 [0x0E] || t = .read 0xC6 0x0600 1

/-- A call that ended with `x` and made the transfers `es` reported an error if one of those with the
tuner failed, and did not change the bias bit of the VCO register after a read of the calibration
that failed. -/
structure Propagates (x : Except (Fault SdrggError) Unit) (es : List (Transfer × Response)) :
    Prop where
  error : (∃ e ∈ busEntries es, Response.failed e.2) → ∃ e, x = .error (.error e)
  bias : (∃ e ∈ es, readsCalibration e.1 ∧ Response.failed e.2) →
    ∀ a b, WireCmd.transfer ⟨0x06, a⟩ ∈ es.map Prod.fst → WireCmd.transfer ⟨0x06, b⟩ ∈ es.map Prod.fst →
      a &&& 0x08 = b &&& 0x08

/-- How a list of commands is dispatched: all of them arrive, or one fails and is reported. -/
inductive Dispatched (cmds : List WireCmd) :
    Except (Fault SdrggError) Unit → List (Transfer × Response) → Prop
  | all {es} (sent : es.map Prod.fst = cmds.map WireCmd.transfer)
      (arrived : ∀ e ∈ es, ¬Response.failed e.2) : Dispatched cmds (.ok ()) es
  | stopped {es e} (sent : es.map Prod.fst <+: cmds.map WireCmd.transfer) :
      Dispatched cmds (.error (.error e)) es

/-- How a call goes that dispatches `n` commands and then makes transfers that it does not look
at. -/
inductive Staged (n : Nat) : Except (Fault SdrggError) Unit → List (Transfer × Response) → Prop
  | idle {x} : Staged n x []
  | stopped {cmds : List WireCmd} {es e} (length : cmds.length = n)
      (sent : es.map Prod.fst <+: cmds.map WireCmd.transfer) : Staged n (.error (.error e)) es
  | finished {cmds : List WireCmd} {first rest} (length : cmds.length = n)
      (sent : first.map Prod.fst = cmds.map WireCmd.transfer)
      (arrived : ∀ e ∈ first, ¬Response.failed e.2) : Staged n (.ok ()) (first ++ rest)

/-! ### Dispatches -/

section Dispatches

variable {env : Env} {x : Except (Fault SdrggError) Unit} {es es' : List (Transfer × Response)}
  {cmds cmds' : List WireCmd}

/-- The transfers with the tuner are those of the dispatch of `cmds`. -/
abbrev Dispatches (env : Env) (cmds : List WireCmd) (m : DevM Unit) : Prop :=
  Traces env (fun _ => True) World.log m fun x es => Dispatched cmds x (busEntries es)

theorem dispatches_wireWrite (cmd : WireCmd) :
    Dispatches env [cmd] (wireWrite cmd.location cmd.content) := by
  refine (offBus_enableI2cRepeater true).ignore.first fun _ =>
    (traces_controlWrite (preserves_true _)).mono ?_
  rintro _ _ ⟨resp, rfl, rfl⟩
  change Dispatched [cmd] _ [(cmd.transfer, resp)]
  cases resp with
  | done data => exact .all rfl (by simp [Response.failed])
  | fail errno => exact .stopped List.prefix_rfl

theorem Dispatched.append (h : Dispatched cmds (.ok ()) es) (h' : Dispatched cmds' x es') :
    Dispatched (cmds ++ cmds') x (es ++ es') := by
  cases h with
  | all sent arrived =>
    cases h' with
    | all sent' arrived' =>
      refine .all (by rw [List.map_append, sent, sent', List.map_append]) fun e he => ?_
      exact (List.mem_append.mp he).elim (arrived e) (arrived' e)
    | stopped sent' =>
      refine .stopped ?_
      rw [List.map_append, List.map_append, sent]
      exact (List.prefix_append_right_inj _).mpr sent'

theorem dispatches_forM {β : Type} {act : β → DevM Unit} {cmds : β → List WireCmd} (l : List β)
    (h : ∀ b ∈ l, Dispatches env (cmds b) (act b)) :
    Dispatches env (l.flatMap cmds) (l.forM act) := by
  induction l with
  | nil => exact Traces.pure (.all rfl (by simp [busEntries]))
  | cons b l ih =>
    refine Traces.bind (h b List.mem_cons_self)
      (fun _ => ih fun c hc => h c (List.mem_cons_of_mem b hc)) ?_ ?_
    · rintro f es (h | ⟨sent⟩)
      exact .stopped (sent.trans (by simp))
    · intro _ es x es' h h'
      rw [busEntries_append, List.flatMap_cons]
      exact h.append h'

theorem dispatches_dispatchCommands (cmds : List WireCmd) :
    Dispatches env cmds (dispatchCommands cmds) := by
  have hall := @dispatches_forM env _ _ _ cmds fun cmd _ => dispatches_wireWrite cmd
  rwa [List.flatMap_singleton'] at hall

theorem dispatches_applyInitCapabilities :
    Dispatches env initCapabilities.flatten applyInitCapabilities := by
  have hall := @dispatches_forM env _ _ _ initCapabilities fun cmds _ =>
    dispatches_dispatchCommands cmds
  rwa [List.flatMap_id'] at hall

end Dispatches

/-! ### What is reported -/

section Staging

variable {env : Env} {x : Except (Fault SdrggError) Unit} {es : List (Transfer × Response)}
  {cmds : List WireCmd} {n : Nat}

/-- No command of a dispatch reads the calibration. -/
theorem not_readsCalibration {first : List (Transfer × Response)}
    (sent : first.map Prod.fst <+: cmds.map WireCmd.transfer) {e : Transfer × Response}
    (he : e ∈ first) : readsCalibration e.1 = false := by
  obtain ⟨cmd, -, hcmd⟩ := List.mem_map.mp (sent.subset (List.mem_map_of_mem he))
  rw [← hcmd]
  simp [readsCalibration, WireCmd.transfer]

theorem busEntries_of_readsCalibration {e : Transfer × Response} (he : e ∈ es)
    (hreads : readsCalibration e.1 = true) : e ∈ busEntries es := by
  refine mem_busEntries.mpr ⟨he, ?_⟩
  simp only [readsCalibration, Bool.or_eq_true, decide_eq_true_eq] at hreads
  obtain h | h := hreads <;> rw [h] <;> rfl

/-- A call reports the failures among its first `n` transfers with the tuner, and no other. -/
theorem Staged.propagates_iff (h : Staged n x (busEntries es)) :
    Propagates x es ↔ ∀ e ∈ (busEntries es).drop n, ¬Response.failed e.2 := by
  generalize hbus : busEntries es = bs at h
  have hbias (hnone : ∀ e ∈ bs, readsCalibration e.1 = true → ¬Response.failed e.2)
      (herror : (∃ e ∈ bs, Response.failed e.2) → ∃ e, x = .error (.error e)) : Propagates x es := by
    refine ⟨hbus ▸ herror, ?_⟩
    rintro ⟨e, he, hreads, hfailed⟩
    exact absurd hfailed (hnone e (hbus ▸ busEntries_of_readsCalibration he hreads) hreads)
  cases h with
  | idle => exact iff_of_true (hbias (by simp) (by simp)) (by simp)
  | @stopped cmds _ e length sent =>
    have hlength : bs.length ≤ n := by
      have hle := sent.length_le
      rwa [List.length_map, List.length_map, length] at hle
    refine iff_of_true (hbias (fun e he hreads => ?_) fun _ => ⟨e, rfl⟩) ?_
    · rw [not_readsCalibration sent he] at hreads
      cases hreads
    · rw [List.drop_of_length_le hlength]
      simp
  | @finished cmds first rest length sent arrived =>
    have hdrop : (first ++ rest).drop n = rest := by
      have hlength := congrArg List.length sent
      rw [List.length_map, List.length_map, length] at hlength
      exact List.drop_left' hlength
    rw [hdrop]
    constructor
    · intro hreports e he hfailed
      obtain ⟨_, h⟩ := hreports.error ⟨e, hbus ▸ List.mem_append_right first he, hfailed⟩
      cases h
    · intro hrest
      have hall : ∀ e ∈ first ++ rest, ¬Response.failed e.2 := fun e he =>
        (List.mem_append.mp he).elim (arrived e) (hrest e)
      refine hbias (fun e he _ => hall e he) ?_
      rintro ⟨e, he, hfailed⟩
      exact absurd hfailed (hall e he)

/-- What comes after a dispatch goes unnoticed. -/
theorem Dispatches.staged {m k : DevM Unit} (hm : Dispatches env cmds m)
    (hk : Settles env (fun _ => True) World.log k fun _ => True) (hlength : cmds.length = n) :
    Traces env (fun _ => True) World.log (m >>= fun _ => k) fun x es =>
      Staged n x (busEntries es) := by
  refine Traces.bind hm (fun _ => hk) ?_ ?_
  · rintro f es (h | ⟨sent⟩)
    exact .stopped hlength sent
  · rintro _ es _ es' (⟨sent, arrived⟩ | h) ⟨⟨_, rfl⟩, -⟩
    rw [busEntries_append]
    exact .finished hlength sent arrived

section Unnoticed

/-- `m` goes on to its end, whatever transfers fail. -/
abbrev Unnoticed (env : Env) {α : Type} (m : DevM α) : Prop :=
  Settles env (fun _ => True) World.log m fun _ => True

theorem Unnoticed.bind {α β : Type} {m : DevM α} {k : α → DevM β} (hm : Unnoticed env m)
    (hk : ∀ a, Unnoticed env (k a)) : Unnoticed env (m >>= k) :=
  Settles.bind hm hk fun _ _ _ _ => trivial

theorem unnoticed_wireWrite (location content : UInt8) :
    Unnoticed env (Act.ignore (wireWrite location content)) :=
  Logs.ignore (Logs.bind (offBus_enableI2cRepeater true).any.ignore.logs
    (fun _ => logs_controlWrite) fun _ _ _ _ => trivial)

theorem unnoticed_wireRead (location content byte : UInt8) :
    Unnoticed env (Act.orElse (wireRead location content) byte) := by
  have happend (es es' : List (Transfer × Response)) : True → True → True := fun _ _ => trivial
  refine Logs.orElse (Logs.bind (offBus_enableI2cRepeater true).any.ignore.logs (fun _ => ?_)
    happend) byte
  refine Logs.bind logs_controlWrite (fun _ => Logs.bind logs_controlRead (fun data => ?_) happend)
    happend
  exact (Settles.pure trivial).logs

theorem unnoticed_triggerCalibration : Unnoticed env triggerCalibration :=
  Unnoticed.bind (unnoticed_wireWrite _ _) fun _ => unnoticed_wireWrite _ _

theorem unnoticed_runCalibrationPolicy (bwReg : UInt8) (elevatedBias : Bool) :
    Unnoticed env (runCalibrationPolicy bwReg elevatedBias) := by
  refine Unnoticed.bind unnoticed_triggerCalibration fun _ =>
    Unnoticed.bind (unnoticed_wireRead _ _ _) fun raw => ?_
  dsimp only
  split
  · exact Settles.pure trivial
  · exact Unnoticed.bind (unnoticed_wireWrite _ _) fun _ =>
      Unnoticed.bind unnoticed_triggerCalibration fun _ => Settles.pure trivial

end Unnoticed

theorem staged_init : Traces env (fun _ => True) World.log init fun x es =>
    Staged 21 x (busEntries es) :=
  (quiet_setGpioOutput 6).first fun _ => dispatches_applyInitCapabilities.staged
    (Unnoticed.bind (unnoticed_wireWrite _ _) fun _ => unnoticed_wireWrite _ _) (by decide)

theorem staged_stageSession (plan : MultiplierSelection) (sol : PllRatioSolution) :
    Traces env (fun _ => True) World.log (stageSession plan sol) fun x es =>
      Staged 6 x (busEntries es) :=
  (dispatches_dispatchCommands _).staged
    (Unnoticed.bind (unnoticed_runCalibrationPolicy _ _) fun _ => Settles.pure trivial) rfl

/-- A computation on the way adds no transfer. -/
theorem Staged.ofOption {α : Type} {k : α → DevM Unit} (o : Option α)
    (h : ∀ a, Traces env (fun _ => True) World.log (k a) fun x es => Staged n x (busEntries es)) :
    Traces env (fun _ => True) World.log (Act.ofOption o >>= k) fun x es =>
      Staged n x (busEntries es) := by
  cases o with
  | none => exact fun w _ => ⟨[], rfl, trivial, .idle⟩
  | some a => exact h a

theorem staged_executeTuningSession (freqHz : UInt32) :
    Traces env (fun _ => True) World.log (executeTuningSession freqHz) fun x es =>
      Staged 6 x (busEntries es) := by
  intro w hw
  rw [executeTuningSession, Act.bind_of_ok (device_apply env w)]
  dsimp only
  split
  · exact ⟨[], rfl, trivial, .idle⟩
  · refine Staged.ofOption _ (fun rawRatio => Staged.ofOption _ fun sol => ?_) w hw
    split
    · exact Traces.fail .idle
    · exact staged_stageSession _ sol

theorem quiet_prepareFreq (freqHz : UInt32) : Quiet env (prepareFreq freqHz) :=
  (offBus_controlWrite (by decide)).ignore.bind fun _ =>
    (offBus_submitDemodWrite (by decide)).ignore.bind fun _ =>
      (offBus_controlWrite (by decide)).ignore.bind fun _ => quiet_setGpioBit _ _

theorem staged_setFreq (freqHz : UInt32) : Traces env (fun _ => True) World.log (setFreq freqHz)
    fun x es => Staged 6 x (busEntries es) := by
  have hprogram : Traces env (fun _ => True) World.log (programFreq freqHz) fun x es =>
      Staged 6 x (busEntries es) :=
    (quiet_prepareFreq freqHz).first fun _ => staged_executeTuningSession freqHz
  refine hprogram.bind (S := fun _ x es => x = .ok () ∧ es = []) (fun _ w _ =>
    ⟨[], rfl, trivial, rfl, rfl⟩) (fun _ _ h => h) ?_
  rintro _ es _ _ h ⟨rfl, rfl⟩
  rwa [List.append_nil]

end Staging

/-- `set_freq` and `init` report the failed transfers with the tuner, and leave the bias bit alone
after a calibration that was not read, exactly when none fails after the 6 commands of the session,
or after the 21 of the cold start. -/
theorem tuner_failures_iff (env : Env) (w : World) :
    (∀ freqHz, Propagates (setFreq freqHz env w).1 (entriesOf World.log (setFreq freqHz) env w) ↔
      ∀ e ∈ (busEntries (entriesOf World.log (setFreq freqHz) env w)).drop 6,
        ¬Response.failed e.2) ∧
    (Propagates (init env w).1 (entriesOf World.log init env w) ↔
      ∀ e ∈ (busEntries (entriesOf World.log init env w)).drop 21, ¬Response.failed e.2) :=
  ⟨fun freqHz => ((staged_setFreq freqHz).entries trivial).propagates_iff,
    (staged_init.entries trivial).propagates_iff⟩

/-- A tuner that takes every command, and whose reads fail. -/
def unreadableEnv : Env where
  kernel _ t :=
    match t with
    | .read _ index len => if index = 0x0600 then .fail .other else .done (List.replicate len.toNat 0)
    | _ => .done []
  stack _ _ := 0

/-- The read of the calibration fails; the bias bit is set, and success is reported. -/
theorem failed_calibration_corrected :
    (setFreq 100000000 unreadableEnv Sdr.openedFc0012).1 = .ok () ∧
    (.read 0xC6 0x0600 1, .fail .other) ∈
      entriesOf World.log (setFreq 100000000) unreadableEnv Sdr.openedFc0012 ∧
    WireCmd.transfer ⟨0x06, 0xA0⟩ ∈
      (entriesOf World.log (setFreq 100000000) unreadableEnv Sdr.openedFc0012).map Prod.fst ∧
    WireCmd.transfer ⟨0x06, 0xA8⟩ ∈
      (entriesOf World.log (setFreq 100000000) unreadableEnv Sdr.openedFc0012).map Prod.fst ∧
    ¬Propagates (setFreq 100000000 unreadableEnv Sdr.openedFc0012).1
      (entriesOf World.log (setFreq 100000000) unreadableEnv Sdr.openedFc0012) := by
  have hok : (setFreq 100000000 unreadableEnv Sdr.openedFc0012).1 = .ok () := by decide +kernel
  have hread : (.read 0xC6 0x0600 1, .fail .other) ∈
      entriesOf World.log (setFreq 100000000) unreadableEnv Sdr.openedFc0012 := by decide +kernel
  refine ⟨hok, hread, by decide +kernel, by decide +kernel, fun hreports => ?_⟩
  obtain ⟨e, he⟩ := hreports.error ⟨_, mem_busEntries.mpr ⟨hread, rfl⟩, rfl⟩
  rw [hok] at he
  cases he

end Sdrgg.Fc0012
