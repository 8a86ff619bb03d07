import Sdrgg.ProofKit.Run
import Sdrgg.Usb.Bulk

/-! `usb_error_count` over every sequence of transport calls.  A call comes with what the kernel will
answer to its transfers. -/

namespace Sdrgg.Usb

open ProofKit

inductive Transport where
  | controlWrite (value index : UInt16) (data : List UInt8)
  | controlRead (value index len : UInt16) (buf : List UInt8)
  | bulkRead (len timeoutMs : UInt32)
deriving DecidableEq, Repr

/-- A call and the answers to its transfers, from the first one on. -/
structure TransportCall where
  routine : Transport
  answer : Nat → Response

/-- The call, whatever it returns. -/
def performTransport : Transport → StreamM Unit
  | .controlWrite value index data => onDevice (Act.ignore (controlWrite value index data))
  | .controlRead value index len buf => onDevice (Act.ignore (controlRead value index len buf))
  | .bulkRead len timeoutMs => Act.ignore (bulkRead len timeoutMs)

def TransportCall.env (c : TransportCall) : StreamEnv where
  control := ⟨fun log _ => c.answer log.length, fun _ _ => 0⟩
  bulk log _ := c.answer log.length

/-- A device and the answers to all of its transfers, the last one first. -/
structure Traffic where
  dev : Device
  answers : List Response

/-- The world of a call that starts now. -/
def Traffic.world (s : Traffic) : StreamWorld := ⟨⟨s.dev, [], none, 0⟩, fun _ => 0, []⟩

/-- The answers to the transfers of a world, the last one first. -/
def StreamWorld.answers (t : StreamWorld) : List Response :=
  t.bulkLog.map Prod.snd ++ t.world.log.map Prod.snd

def Traffic.after (s : Traffic) (c : TransportCall) : StreamWorld :=
  (performTransport c.routine c.env s.world).2

/-- The answers to the transfers of a call, the last one first. -/
def Traffic.answersTo (s : Traffic) (c : TransportCall) : List Response := (s.after c).answers

def Traffic.call (s : Traffic) (c : TransportCall) : Option Traffic :=
  some ⟨(s.after c).world.dev, s.answersTo c ++ s.answers⟩

/-- A device that has just been opened. -/
def Traffic.opened (dev : Device) : Traffic := ⟨{ dev with usbErrorCount := 0 }, []⟩

/-- The failures since the last success. -/
def failuresSince : List Response → Nat
  | .fail _ :: rs => failuresSince rs + 1
  | _ => 0

/-- `usb_error_count` is the number of consecutive USB errors. -/
def Traffic.Counted (s : Traffic) : Prop :=
  s.dev.usbErrorCount.toInt = failuresSince s.answers

def Transport.isBulk : Transport → Bool
  | .bulkRead _ _ => true
  | _ => false

/-- A call whose first transfer fails finds the device gone, and no more than `2 ^ 31 - 2` errors
counted; a bulk read receives something only when no errors are counted, or, if it ends with an error
other than that the device is gone, when one is. -/
def Traffic.Tallies (s : Traffic) (c : TransportCall) : Prop :=
  match s.answersTo c with
  | [] => True
  | [.fail errno] => errno.removed = true ∧ s.dev.usbErrorCount ≠ Int32.maxValue
  | .fail errno :: _ => s.dev.usbErrorCount = if errno.removed then 0 else 1
  | .done _ :: _ => c.routine.isBulk = true → s.dev.usbErrorCount = 0

/-! ### What a call answers and counts -/

theorem noted_count (d : Device) (errno : Errno) :
    (d.noted (.fail errno)).usbErrorCount =
      if errno.removed then d.usbErrorCount + 1 else d.usbErrorCount := by
  unfold Device.noted
  dsimp only
  split <;> rfl

/-- The counter grows by one unless it wraps. -/
theorem toInt_succ {n : Int32} (hn : 0 ≤ n.toInt) :
    (n + 1).toInt = n.toInt + 1 ↔ n ≠ Int32.maxValue := by
  have hlt := n.toInt_lt
  have hmax : n = Int32.maxValue ↔ n.toInt = 2 ^ 31 - 1 := by
    rw [← Int32.toInt_inj]
    rfl
  have hone : (1 : Int32).toInt = 1 := rfl
  rw [Int32.toInt_add, hone, ne_eq, hmax]
  by_cases hlast : n.toInt = 2 ^ 31 - 1
  · rw [hlast]
    decide
  · rw [Int.bmod_eq_of_le (by omega) (by omega)]
    exact iff_of_true rfl hlast

section Calls

variable {s : Traffic} {c : TransportCall}

/-- A control transfer is answered once, and the answer is noted. -/
theorem after_control (h : c.routine.isBulk = false) :
    ∃ resp, (s.after c).world.dev = s.dev.noted resp ∧ s.answersTo c = [resp] := by
  obtain ⟨routine, answer⟩ := c
  cases routine with
  | bulkRead len timeoutMs => cases h
  | controlWrite value index data | controlRead value index len buf =>
    simp only [Traffic.answersTo, Traffic.after, performTransport, onDevice, Traffic.world,
      TransportCall.env, StreamWorld.answers, Act.ignore, Act.attempt, Act.bind_apply, controlWrite,
      controlRead, ioctl, noteResponse, Act.modify_apply, List.length_nil]
    rcases answer 0 with data | errno <;> exact ⟨_, rfl, rfl⟩

/-- The transfers of a bulk read all succeed, but for the last one perhaps, and only that is
noted. -/
theorem after_bulk (h : c.routine.isBulk = true) :
    (∃ errno rs, s.answersTo c = .fail errno :: rs ∧ (∀ r ∈ rs, ∃ data, r = .done data) ∧
        (s.after c).world.dev = s.dev.noted (.fail errno)) ∨
      (∀ r ∈ s.answersTo c, ∃ data, r = .done data) ∧ (s.after c).world.dev = s.dev := by
  obtain ⟨routine, answer⟩ := c
  cases routine with
  | controlWrite value index data | controlRead value index len buf => cases h
  | bulkRead len timeoutMs =>
    obtain ⟨rc, actual, t, es, hrun, hspec⟩ :=
      @bulkLoop_run (TransportCall.env ⟨.bulkRead len timeoutMs, answer⟩) s.world len timeoutMs 0
        UInt32.zero_le
    have hafter : s.after ⟨.bulkRead len timeoutMs, answer⟩ = t := by
      have hignore : Act.ignore (bulkRead len timeoutMs) _ _ = (.ok (), t) :=
        Act.bind_of_ok (Act.attempt_of_ok hrun)
      exact congrArg Prod.snd hignore
    have hanswers : s.answersTo ⟨.bulkRead len timeoutMs, answer⟩ = (es.map Prod.snd).reverse := by
      rw [Traffic.answersTo, hafter, StreamWorld.answers, hspec.log, hspec.control]
      simp [Traffic.world]
    rw [hanswers, hafter, hspec.dev]
    obtain ⟨pre, e, errno, rfl, hpre⟩ | hall := hspec.succeeds
    · refine .inl ⟨errno, (pre.map Prod.snd).reverse, by simp, ?_, ?_⟩
      · simpa using fun r e he => hpre _ he
      · rw [List.foldl_append, foldl_notedBulk _ hpre]
        rfl
    · refine .inr ⟨?_, foldl_notedBulk _ hall⟩
      simpa using fun r e he => hall _ he

/-- A first transfer that fails is counted when the device is gone. -/
theorem counted_failure {errno : Errno} {n : Int32} {k : Nat} (h : n.toInt = k) :
    (if errno.removed then n + 1 else n).toInt = (k + 1 : Nat) ↔
      errno.removed = true ∧ n ≠ Int32.maxValue := by
  by_cases hremoved : errno.removed = true
  · rw [if_pos hremoved, Int.natCast_add, ← h]
    exact (toInt_succ (by omega)).trans (by simp [hremoved])
  · rw [if_neg hremoved, h]
    exact iff_of_false (by omega) (by simp [hremoved])

/-- A last transfer that fails after others have succeeded is the only one to count. -/
theorem counted_last {errno : Errno} {n : Int32} :
    (if errno.removed then n + 1 else n).toInt = (1 : Nat) ↔
      n = if errno.removed then 0 else 1 := by
  have hone : ((1 : Nat) : Int) = (1 : Int32).toInt := rfl
  rw [hone, Int32.toInt_inj]
  split
  · exact Int32.add_left_inj (b := 0) 1
  · exact Iff.rfl

/-- A call keeps the count exactly when it tallies. -/
theorem counted_call {t : Traffic} (h : s.Counted) (hcall : s.call c = some t) :
    t.Counted ↔ s.Tallies c := by
  obtain rfl := Option.some_inj.mp hcall
  have hzero : s.dev.usbErrorCount.toInt = 0 ↔ s.dev.usbErrorCount = 0 := by
    rw [← Int32.toInt_inj]
    rfl
  simp only [Traffic.Counted, Traffic.Tallies]
  cases hbulk : c.routine.isBulk with
  | false =>
    obtain ⟨resp, hdev, hanswers⟩ := @after_control s c hbulk
    rw [hdev, hanswers]
    cases resp with
    | done data => exact iff_of_true rfl (by simp)
    | fail errno =>
      rw [noted_count]
      exact counted_failure h
  | true =>
    obtain ⟨errno, rs, hanswers, hrs, hdev⟩ | ⟨hall, hdev⟩ := @after_bulk s c hbulk
    · rw [hdev, hanswers, noted_count]
      cases rs with
      | nil => exact counted_failure h
      | cons r rs =>
        obtain ⟨data, rfl⟩ := hrs _ List.mem_cons_self
        exact counted_last
    · rw [hdev]
      rcases hanswers : s.answersTo c with _ | ⟨r, rs⟩
      · exact iff_of_true h trivial
      · rw [hanswers] at hall
        obtain ⟨data, rfl⟩ := hall r List.mem_cons_self
        exact hzero.trans (by simp)

end Calls

/-- In every sequence of transport calls on a device, `usb_error_count` is the number of transfers
that have failed since the last one that succeeded after each call exactly when every call
tallies. -/
theorem usbErrorCount_iff (dev : Device) (calls : List TransportCall) :
    (∀ pre, pre <+: calls → ∀ t, run Traffic.call (Traffic.opened dev) pre = some t → t.Counted) ↔
      Along Traffic.call Traffic.Tallies (Traffic.opened dev) calls := by
  have htotal : ∃ t, run Traffic.call (Traffic.opened dev) calls = some t := by
    generalize Traffic.opened dev = s
    induction calls generalizing s with
    | nil => exact ⟨s, rfl⟩
    | cons c calls ih => exact ih _
  obtain ⟨t, hrun⟩ := htotal
  exact Along.iff_forall_prefix (I := fun _ => True) (fun _ _ _ _ _ _ _ => trivial)
    (fun _ _ _ _ h hcall => counted_call h hcall) trivial rfl hrun

/-- A device of which nothing is configured. -/
def bareDevice : Device where
  identity := ⟨.unknown, 0⟩
  baseband := ⟨28800000, 0⟩
  shadow := ⟨fun _ => 0⟩
  tuning := ⟨0, 0, 0, 0, 0, 0, 0, 0⟩
  streamActive := false
  usbErrorCount := 0
  health := .ok

/-- A write that fails with `EPIPE`. -/
def stalledWrite : TransportCall := ⟨.controlWrite 0x3001 0x0210 [0], fun _ => .fail .other⟩

/-- A write that finds the device gone. -/
def goneWrite : TransportCall := ⟨.controlWrite 0x3001 0x0210 [0], fun _ => .fail .enodev⟩

/-- A bulk read of two bytes. -/
def bulkBytes : TransportCall := ⟨.bulkRead 2 1000, fun _ => .done [1, 2]⟩

/-- An error other than that the device is gone is not counted, and a bulk read that succeeds does
not end the count. -/
theorem usbErrorCount_off :
    (∃ t ∈ run Traffic.call (Traffic.opened bareDevice) [stalledWrite],
      t.dev.usbErrorCount = 0 ∧ failuresSince t.answers = 1) ∧
    (∃ t ∈ run Traffic.call (Traffic.opened bareDevice) [goneWrite, bulkBytes],
      t.dev.usbErrorCount = 1 ∧ failuresSince t.answers = 0) := by
  constructor <;> decide +kernel

end Sdrgg.Usb
