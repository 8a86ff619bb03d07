import Sdrgg.ProofKit.Run
import Sdrgg.Usb.Control
import Mathlib.Data.Finset.Card
import Mathlib.Logic.Function.Basic

/-! The hot-plug bookkeeping of one device under any number of threads in `usb::control_write`,
`usb::control_read` and `usb::bulk_read`.  The result of an `ioctl`, each operation on an atomic, the
callback and the return of a call are one step each. -/

namespace Sdrgg.Usb

open ProofKit

inductive Routine where
  | controlWrite
  | controlRead
  | bulkRead (len : UInt32)
deriving DecidableEq, Repr

/-- Where a thread is in a call: before an `ioctl`, with the bytes read so far, or after the last
one, with what the call will return. -/
inductive CallPc where
  | idle
  | transfer (routine : Routine) (total : UInt32)
  | clear
  | count (result : Except SdrggError UInt32)
  | load (result : Except SdrggError UInt32)
  | store (result : Except SdrggError UInt32)
  | callback (result : Except SdrggError UInt32)
  | ret (removed : Bool) (result : Except SdrggError UInt32)
deriving DecidableEq

/-- `MAX_CHUNK` in `bulk_read`. -/
def maxChunk : UInt32 := 16384

/-- The bytes that `bulk_read` asks for next. -/
def chunkSize (len total : UInt32) : UInt32 :=
  if len - total > maxChunk then maxChunk else len - total

/-- The first step of a call. -/
def Routine.enter : Routine → CallPc
  | .bulkRead len => if 0 < len then .transfer (.bulkRead len) 0 else .ret false (.ok 0)
  | routine => .transfer routine 0

/-- What a call returns after a transfer that has failed. -/
def Routine.failed (total : UInt32) : Routine → Except SdrggError UInt32
  | .controlWrite | .controlRead => .error .usb
  | .bulkRead _ => if total > 0 then .ok total else .error .io

/-- The step after a transfer. -/
def Routine.answered (routine : Routine) (total : UInt32) : Response → CallPc
  | .fail errno =>
    if errno.removed then .count (routine.failed total) else .ret false (routine.failed total)
  | .done data =>
    match routine with
    | .controlWrite | .controlRead => .clear
    | .bulkRead len =>
      let rc := UInt32.ofNat (data.take (chunkSize len total).toNat).length
      if rc < chunkSize len total ∨ ¬total + rc < len then .ret false (.ok (total + rc))
      else .transfer (.bulkRead len) (total + rc)

/-- The fields of a device that the calls share, whether its context has a callback, the disconnect
events it was called with, where each thread is, and whether a call has returned in which a
transfer found the device gone. -/
structure Hotplug where
  health : DeviceHealth
  usbErrorCount : Int32
  hotplugCb : Bool
  events : Nat
  pc : Nat → CallPc
  gone : Bool

inductive HotplugStep where
  | call (thread : Nat) (routine : Routine)
  | ioctl (thread : Nat) (resp : Response)
  | go (thread : Nat)
deriving DecidableEq, Repr

namespace Hotplug

def setPc (s : Hotplug) (t : Nat) (pc : CallPc) : Hotplug :=
  { s with pc := Function.update s.pc t pc }

/-- The step of thread `t` after its last transfer. -/
def go (s : Hotplug) (t : Nat) : CallPc → Option Hotplug
  | .idle | .transfer _ _ => none
  | .clear => some { s.setPc t (.ret false (.ok 0)) with usbErrorCount := 0 }
  | .count r => some { s.setPc t (.load r) with usbErrorCount := s.usbErrorCount + 1 }
  | .load r => some (s.setPc t (if s.health = .ok then .store r else .ret true r))
  | .store r => some { s.setPc t (.callback r) with health := .disconnected }
  | .callback r =>
    some { s.setPc t (.ret true r) with events := if s.hotplugCb then s.events + 1 else s.events }
  | .ret removed _ => some { s.setPc t .idle with gone := s.gone || removed }

def step (s : Hotplug) : HotplugStep → Option Hotplug
  | .call t routine => if s.pc t = .idle then some (s.setPc t routine.enter) else none
  | .ioctl t resp =>
    match s.pc t with
    | .transfer routine total => some (s.setPc t (routine.answered total resp))
    | _ => none
  | .go t => s.go t (s.pc t)

/-- A device that has been opened, in a context with a callback. -/
def opened (usbErrorCount : Int32) : Hotplug where
  health := .ok
  usbErrorCount
  hotplugCb := true
  events := 0
  pc _ := .idle
  gone := false

/-- Once a call that found the device gone has returned, the device is disconnected and its
disconnect has been reported once. -/
def OneEvent (s : Hotplug) : Prop := s.gone = true → s.health = .disconnected ∧ s.events = 1

end Hotplug

/-- The call is between its load of `health`, which found it OK, and its store. -/
def CallPc.storing : CallPc → Bool
  | .store _ => true
  | _ => false

/-- The call is between its store and its callback. -/
def CallPc.calling : CallPc → Bool
  | .callback _ => true
  | _ => false

/-- The call is about to return and has found the device gone. -/
def CallPc.leaving : CallPc → Bool
  | .ret removed _ => removed
  | _ => false

namespace Hotplug

/-- No call loads `health` between another call's load, which found it OK, and its store, and no
call that found the device gone returns between another call's store and its callback. -/
def Alone (s : Hotplug) : HotplugStep → Prop
  | .go t =>
    match s.pc t with
    | .load _ => ∀ u, (s.pc u).storing = false
    | .ret true _ => ∀ u, (s.pc u).calling = false
    | _ => True
  | _ => True

/-- The invariant of the runs whose steps are all `Alone`. -/
structure Inv (s : Hotplug) : Prop where
  registered : s.hotplugCb = true
  one : ∀ t u, ((s.pc t).storing || (s.pc t).calling) = true →
    ((s.pc u).storing || (s.pc u).calling) = true → t = u
  storing : ∀ t, (s.pc t).storing = true → s.health = .ok
  calling : ∀ t, (s.pc t).calling = true →
    s.health = .disconnected ∧ s.events = 0 ∧ s.gone = false
  early : s.health = .ok → s.events = 0 ∧ s.gone = false ∧ ∀ t, (s.pc t).leaving = false
  late : s.health ≠ .ok →
    s.health = .disconnected ∧ ((∃ t, (s.pc t).calling = true) ∨ s.events = 1)

theorem Inv.oneEvent {s : Hotplug} (h : s.Inv) : s.OneEvent := by
  intro hgone
  have hhealth : s.health ≠ .ok := fun hok => by simp [(h.early hok).2.1] at hgone
  obtain ⟨hdisc, ⟨t, hcall⟩ | hone⟩ := h.late hhealth
  · simp [(h.calling t hcall).2.2] at hgone
  · exact ⟨hdisc, hone⟩

theorem opened_inv (errors : Int32) : (opened errors).Inv := by
  constructor <;> simp [opened, CallPc.storing, CallPc.calling, CallPc.leaving]

/-- A thread that has not found the device gone goes on, and does not find it gone. -/
theorem Inv.move {s : Hotplug} (h : s.Inv) {t : Nat} {pc : CallPc} (errors : Int32)
    (hold : (s.pc t).calling = false) (hstore : pc.storing = false) (hcall : pc.calling = false)
    (hleave : pc.leaving = true → s.health ≠ .ok) :
    Inv { s.setPc t pc with usbErrorCount := errors } := by
  obtain ⟨registered, one, storing, calling, early, late⟩ := h
  constructor <;> simp only [setPc, Function.update_apply] <;> grind

/-- A load of `health` that finds it OK when no other call has. -/
theorem Inv.claim {s : Hotplug} (h : s.Inv) {t : Nat} (hok : s.health = .ok)
    (halone : ∀ u, (s.pc u).storing = false) (r : Except SdrggError UInt32) :
    (s.setPc t (.store r)).Inv := by
  obtain ⟨registered, one, storing, calling, early, late⟩ := h
  constructor <;> simp only [setPc, Function.update_apply] <;> grind [CallPc.leaving, CallPc.calling]

theorem Inv.store {s : Hotplug} (h : s.Inv) {t : Nat} (hstore : (s.pc t).storing = true)
    (r : Except SdrggError UInt32) :
    Inv { s.setPc t (.callback r) with health := .disconnected } := by
  obtain ⟨registered, one, storing, calling, early, late⟩ := h
  constructor <;> simp only [setPc, Function.update_apply] <;>
    grind [CallPc.leaving, CallPc.storing, CallPc.calling]

theorem Inv.call {s : Hotplug} (h : s.Inv) {t : Nat} (hcall : (s.pc t).calling = true)
    (r : Except SdrggError UInt32) :
    Inv { s.setPc t (.ret true r) with events := s.events + 1 } := by
  obtain ⟨registered, one, storing, calling, early, late⟩ := h
  constructor <;> simp only [setPc, Function.update_apply] <;>
    grind [CallPc.leaving, CallPc.storing, CallPc.calling]

theorem Inv.leave {s : Hotplug} (h : s.Inv) {t : Nat} {removed : Bool} {r : Except SdrggError UInt32}
    (hpc : s.pc t = .ret removed r) (halone : removed = true → ∀ u, (s.pc u).calling = false) :
    Inv { s.setPc t .idle with gone := s.gone || removed } := by
  obtain ⟨registered, one, storing, calling, early, late⟩ := h
  have hleave : (s.pc t).leaving = removed := by rw [hpc]; rfl
  have hcall : (s.pc t).calling = false := by rw [hpc]; rfl
  constructor <;> simp only [setPc, Function.update_apply] <;>
    grind [CallPc.leaving, CallPc.storing, CallPc.calling]

/-- The calls of a state in which none has found the device gone. -/
def Unclaimed (pc : CallPc) : Prop := pc.storing = false ∧ pc.calling = false ∧ pc.leaving = false

theorem answered_unclaimed (routine : Routine) (total : UInt32) (resp : Response) :
    Unclaimed (routine.answered total resp) := by
  cases resp with
  | fail errno =>
    simp only [Routine.answered]
    split <;> exact ⟨rfl, rfl, rfl⟩
  | done data =>
    cases routine with
    | controlWrite | controlRead => exact ⟨rfl, rfl, rfl⟩
    | bulkRead len =>
      simp only [Routine.answered]
      split <;> exact ⟨rfl, rfl, rfl⟩

theorem enter_unclaimed (routine : Routine) : Unclaimed routine.enter := by
  cases routine with
  | controlWrite | controlRead => exact ⟨rfl, rfl, rfl⟩
  | bulkRead len =>
    simp only [Routine.enter]
    split <;> exact ⟨rfl, rfl, rfl⟩

/-- What a step does: a thread that has not found the device gone goes on, a load finds `health` OK,
or a thread stores, runs the callback or returns. -/
theorem step_cases {s s' : Hotplug} {a : HotplugStep} (h : s.step a = some s') :
    (∃ t pc errors, Unclaimed (s.pc t) ∧ pc.storing = false ∧ pc.calling = false ∧
      (pc.leaving = true → s.health ≠ .ok) ∧
      s' = { s.setPc t pc with usbErrorCount := errors }) ∨
    (∃ t r, a = .go t ∧ s.pc t = .load r ∧ s.health = .ok ∧ s' = s.setPc t (.store r)) ∨
    (∃ t r, s.pc t = .store r ∧ s' = { s.setPc t (.callback r) with health := .disconnected }) ∨
    (∃ t r, s.pc t = .callback r ∧
      s' = { s.setPc t (.ret true r) with
        events := if s.hotplugCb then s.events + 1 else s.events }) ∨
    ∃ t removed r, a = .go t ∧ s.pc t = .ret removed r ∧
      s' = { s.setPc t .idle with gone := s.gone || removed } := by
  cases a with
  | call t routine =>
    simp only [step] at h
    split at h
    · rename_i hpc
      obtain ⟨hstore, hcall, hleave⟩ := enter_unclaimed routine
      exact .inl ⟨t, routine.enter, s.usbErrorCount, by rw [hpc]; exact ⟨rfl, rfl, rfl⟩, hstore, hcall,
        by simp [hleave], (Option.some_inj.mp h).symm⟩
    · cases h
  | ioctl t resp =>
    simp only [step] at h
    split at h
    · rename_i routine total hpc
      obtain ⟨hstore, hcall, hleave⟩ := answered_unclaimed routine total resp
      exact .inl ⟨t, routine.answered total resp, s.usbErrorCount, by rw [hpc]; exact ⟨rfl, rfl, rfl⟩,
        hstore, hcall, by simp [hleave], (Option.some_inj.mp h).symm⟩
    · cases h
  | go t =>
    simp only [step] at h
    cases hpc : s.pc t with
    | idle | transfer => simp [hpc, go] at h
    | clear =>
      obtain rfl := Option.some_inj.mp (hpc ▸ h)
      exact .inl ⟨t, .ret false (.ok 0), 0, by rw [hpc]; exact ⟨rfl, rfl, rfl⟩, rfl, rfl,
        by rintro ⟨⟩, rfl⟩
    | count r =>
      obtain rfl := Option.some_inj.mp (hpc ▸ h)
      exact .inl ⟨t, .load r, s.usbErrorCount + 1, by rw [hpc]; exact ⟨rfl, rfl, rfl⟩, rfl, rfl,
        by rintro ⟨⟩, rfl⟩
    | load r =>
      obtain rfl := Option.some_inj.mp (hpc ▸ h)
      by_cases hok : s.health = .ok
      · exact .inr (.inl ⟨t, r, rfl, hpc, hok, by rw [if_pos hok]⟩)
      · exact .inl ⟨t, .ret true r, s.usbErrorCount, by rw [hpc]; exact ⟨rfl, rfl, rfl⟩, rfl, rfl,
          fun _ => hok, by rw [if_neg hok]; rfl⟩
    | store r =>
      obtain rfl := Option.some_inj.mp (hpc ▸ h)
      exact .inr (.inr (.inl ⟨t, r, hpc, rfl⟩))
    | callback r =>
      obtain rfl := Option.some_inj.mp (hpc ▸ h)
      exact .inr (.inr (.inr (.inl ⟨t, r, hpc, rfl⟩)))
    | ret removed r =>
      obtain rfl := Option.some_inj.mp (hpc ▸ h)
      exact .inr (.inr (.inr (.inr ⟨t, removed, r, rfl, hpc, rfl⟩)))

/-- Every step that is `Alone` keeps the invariant. -/
theorem Inv.step {s s' : Hotplug} (h : s.Inv) {a : HotplugStep} (halone : s.Alone a)
    (hstep : s.step a = some s') : s'.Inv := by
  obtain ⟨t, pc, errors, hold, hstore, hcall, hleave, rfl⟩ | ⟨t, r, rfl, hpc, hok, rfl⟩ |
    ⟨t, r, hpc, rfl⟩ | ⟨t, r, hpc, rfl⟩ | ⟨t, removed, r, rfl, hpc, rfl⟩ := step_cases hstep
  · exact h.move errors hold.2.1 hstore hcall hleave
  · simp only [Alone, hpc] at halone
    exact h.claim hok halone r
  · exact h.store (by rw [hpc]; rfl) r
  · rw [if_pos h.registered]
    exact h.call (by rw [hpc]; rfl) r
  · refine h.leave hpc fun hremoved => ?_
    subst hremoved
    simpa only [Alone, hpc] using halone

/-- When nobody comes between them, the steps of a control transfer are the bookkeeping of
`noteResponse`. -/
theorem run_undisturbed {s : Hotplug} {t : Nat} {routine : Routine} {total : UInt32} {w : World}
    (env : Env) (resp : Response) (hpc : s.pc t = .transfer routine total)
    (hcontrol : ∀ len, routine ≠ .bulkRead len) (hcb : s.hotplugCb = true)
    (hhealth : s.health = w.dev.health) (hcount : s.usbErrorCount = w.dev.usbErrorCount)
    (hevents : s.events = w.hotplugEvents) : ∃ n s',
    run step s (.ioctl t resp :: List.replicate n (.go t)) = some s' ∧
    (∃ removed result, s'.pc t = .ret removed result) ∧
    s'.health = (noteResponse resp env w).2.dev.health ∧
    s'.usbErrorCount = (noteResponse resp env w).2.dev.usbErrorCount ∧
    s'.events = (noteResponse resp env w).2.hotplugEvents := by
  cases resp with
  | done data =>
    have hclear : routine.answered total (.done data) = .clear := by
      cases routine with
      | controlWrite | controlRead => rfl
      | bulkRead len => exact absurd rfl (hcontrol len)
    refine ⟨1, { s.setPc t (.ret false (.ok 0)) with usbErrorCount := 0 }, ?_, ⟨false, .ok 0, ?_⟩, ?_⟩
    · simp [step, go, setPc, hpc, hclear]
    · simp [setPc]
    · simp only [noteResponse, Act.modify, Device.noted, setPc, hhealth, hevents, true_and]
      refine (if_neg ?_).symm
      rintro ⟨hok, hdisc⟩
      simp [hok] at hdisc
  | fail errno =>
    generalize hr : routine.failed total = r
    by_cases hremoved : errno.removed = true
    · by_cases hok : s.health = .ok
      · refine ⟨4, { s.setPc t (.ret true r) with
          health := .disconnected
          usbErrorCount := s.usbErrorCount + 1
          events := s.events + 1 }, ?_, ⟨true, r, ?_⟩, ?_⟩
        · simp [step, go, setPc, hpc, Routine.answered, hremoved, hr, hok, hcb]
        · simp [setPc]
        · simp [noteResponse, Act.modify, Device.noted, hremoved, ← hhealth, hok, hcount, hevents]
      · refine ⟨2, { s.setPc t (.ret true r) with usbErrorCount := s.usbErrorCount + 1 }, ?_,
          ⟨true, r, ?_⟩, ?_⟩
        · simp [step, go, setPc, hpc, Routine.answered, hremoved, hr, hok]
        · simp [setPc]
        · simp [noteResponse, Act.modify, Device.noted, setPc, hremoved, ← hhealth, hok, hcount,
            hevents]
    · refine ⟨0, s.setPc t (.ret false r), ?_, ⟨false, r, ?_⟩, ?_⟩
      · simp [step, hpc, Routine.answered, hremoved, hr]
      · simp [setPc]
      · simp only [noteResponse, Act.modify, Device.noted, setPc, hremoved, hhealth, hcount, hevents,
          true_and, Bool.false_eq_true, if_false]
        refine (if_neg ?_).symm
        rintro ⟨hok, hdisc⟩
        simp [hok] at hdisc

/-! ### Steps that are not alone -/

/-- At least `n` events have been reported or will be, of which the first that a call has waited for
before it returned. -/
structure Owes (s : Hotplug) (n : Nat) : Prop where
  registered : s.hotplugCb = true
  claims : ∃ claims : Finset Nat,
    (∀ t ∈ claims, ((s.pc t).storing || (s.pc t).calling) = true) ∧ n ≤ s.events + claims.card
  told : 0 < s.events → s.gone = true ∨ ∃ t, (s.pc t).leaving = true

/-- A claim is given up only by the callback. -/
theorem Owes.step {s s' : Hotplug} {n : Nat} (h : s.Owes n) {a : HotplugStep}
    (hstep : s.step a = some s') : s'.Owes n := by
  obtain ⟨registered, ⟨claims, hclaims, hn⟩, told⟩ := h
  obtain ⟨t, pc, errors, hold, hstore, hcall, hleave, rfl⟩ | ⟨t, r, rfl, hpc, hok, rfl⟩ |
    ⟨t, r, hpc, rfl⟩ | ⟨t, r, hpc, rfl⟩ | ⟨t, removed, r, rfl, hpc, rfl⟩ := step_cases hstep
  · obtain ⟨hold1, hold2, hold3⟩ := hold
    refine ⟨registered, ⟨claims, ?_, hn⟩, ?_⟩ <;> simp only [setPc, Function.update_apply] <;> grind
  · refine ⟨registered, ⟨claims, ?_, hn⟩, ?_⟩ <;> simp only [setPc, Function.update_apply] <;>
      grind [CallPc.leaving, CallPc.storing, CallPc.calling]
  · refine ⟨registered, ⟨claims, ?_, hn⟩, ?_⟩ <;> simp only [setPc, Function.update_apply] <;>
      grind [CallPc.leaving, CallPc.storing, CallPc.calling]
  · refine ⟨registered, ⟨claims.erase t, ?_, ?_⟩, fun _ => .inr ⟨t, ?_⟩⟩
    · simp only [setPc, Function.update_apply]
      grind
    · have := Finset.pred_card_le_card_erase (s := claims) (a := t)
      simp only [registered, if_true]
      omega
    · simp [setPc, CallPc.leaving]
  · refine ⟨registered, ⟨claims, ?_, hn⟩, ?_⟩ <;> simp only [setPc, Function.update_apply] <;>
      grind [CallPc.leaving, CallPc.storing, CallPc.calling]

theorem Inv.not_owes {s : Hotplug} (h : s.Inv) : ¬s.Owes 2 := by
  rintro ⟨-, ⟨claims, hclaims, hn⟩, -⟩
  obtain rfl | ⟨t, ht⟩ := claims.eq_empty_or_nonempty
  · rw [Finset.card_empty] at hn
    by_cases hok : s.health = .ok
    · have := (h.early hok).1
      omega
    · obtain ⟨-, ⟨u, hu⟩ | hone⟩ := h.late hok
      · have := (h.calling u hu).2.1
        omega
      · omega
  · have hcard : claims.card ≤ 1 :=
      Finset.card_le_one.mpr fun u hu v hv => h.one u v (hclaims u hu) (hclaims v hv)
    have hnone : s.events = 0 := by
      rcases Bool.or_eq_true_iff.mp (hclaims t ht) with hstore | hcall
      · exact (h.early (h.storing t hstore)).1
      · exact (h.calling t hcall).2.1
    omega

/-- A step that is not `Alone` either lets a second call find `health` OK, or lets a call return
before the event that it saw has been reported. -/
theorem Inv.alone {s s' : Hotplug} (h : s.Inv) {a : HotplugStep} (hstep : s.step a = some s')
    (hone : s'.OneEvent) (howes : ¬s'.Owes 2) : s.Alone a := by
  cases a with
  | call | ioctl => trivial
  | go t =>
    simp only [Alone]
    simp only [Hotplug.step] at hstep
    split
    · rename_i r hpc
      intro u
      by_contra hstore
      rw [Bool.not_eq_false] at hstore
      have hok := h.storing u hstore
      have hnone := (h.early hok).1
      have hne : u ≠ t := by
        rintro rfl
        simp [hpc, CallPc.storing] at hstore
      rw [hpc] at hstep
      obtain rfl := Option.some_inj.mp hstep
      rw [if_pos hok] at howes
      refine howes ⟨h.registered, ⟨{t, u}, fun v hv => ?_, ?_⟩, fun hpos => ?_⟩
      · rcases Finset.mem_insert.mp hv with rfl | hv
        · simp [setPc, CallPc.storing]
        · rw [Finset.mem_singleton.mp hv]
          simp [setPc, hne, hstore]
      · rw [Finset.card_pair hne.symm]
        exact Nat.le_add_left 2 s.events
      · exact absurd hnone (Nat.pos_iff_ne_zero.mp hpos)
    · rename_i r hpc
      intro u
      by_contra hcall
      rw [Bool.not_eq_false] at hcall
      have hnone := (h.calling u hcall).2.1
      rw [hpc] at hstep
      obtain rfl := Option.some_inj.mp hstep
      have hevents := (hone (by simp)).2
      exact absurd hevents (by simp [setPc, hnone])
    · trivial

/-- When no call is under way, two events that are owed have been reported. -/
theorem Owes.not_oneEvent {s : Hotplug} (h : s.Owes 2) (hidle : ∀ t, s.pc t = .idle) :
    ¬s.OneEvent := by
  obtain ⟨-, ⟨claims, hclaims, hn⟩, told⟩ := h
  obtain rfl : claims = ∅ := Finset.eq_empty_of_forall_notMem fun t ht => by
    simpa [hidle t, CallPc.storing, CallPc.calling] using hclaims t ht
  rw [Finset.card_empty] at hn
  intro hone
  obtain hgone | ⟨t, ht⟩ := told (by omega)
  · have := (hone hgone).2
    omega
  · simp [hidle t, CallPc.leaving] at ht

/-- In every run whose steps are all `Alone`, one event has been reported once a call that found the
device gone has returned; and a run that leaves no call under way has that in every state only
if its steps are all `Alone`. -/
theorem one_event_iff (errors : Int32) {as : List HotplugStep} {s : Hotplug}
    (hrun : run step (opened errors) as = some s) :
    (Along step Alone (opened errors) as → s.OneEvent) ∧
    ((∀ t, s.pc t = .idle) →
      ((∀ pre, pre <+: as → ∀ u, run step (opened errors) pre = some u → u.OneEvent) ↔
        Along step Alone (opened errors) as)) := by
  have hinv := opened_inv errors
  have hkeep : ∀ u a v, Inv u → OneEvent u ∧ ¬Owes u 2 → u.step a = some v →
      (OneEvent v ∧ ¬Owes v 2 ↔ Alone u a) := fun u a v hu _ hstep =>
    ⟨fun hv => hu.alone hstep hv.1 hv.2,
      fun halone => ⟨(hu.step halone hstep).oneEvent, (hu.step halone hstep).not_owes⟩⟩
  have hiff := Along.iff_forall_prefix (P := fun u : Hotplug => OneEvent u ∧ ¬Owes u 2)
    (fun u a v hu hP hstep hv => hu.step ((hkeep u a v hu hP hstep).mp hv) hstep) hkeep hinv
    ⟨hinv.oneEvent, hinv.not_owes⟩ hrun
  refine ⟨fun halone => (hiff.mpr halone as List.prefix_rfl s hrun).1, fun hidle => ?_⟩
  rw [← hiff]
  refine ⟨fun hall pre hpre u hu => ⟨hall pre hpre u hu, fun howes => ?_⟩,
    fun hall pre hpre u hu => (hall pre hpre u hu).1⟩
  obtain ⟨post, rfl⟩ := hpre
  rw [run_append, hu, Option.bind_some] at hrun
  have hlast := run_invariant (fun _ _ _ h hstep => Owes.step h hstep) howes hrun
  exact hlast.not_oneEvent hidle (hall _ List.prefix_rfl s (by rw [run_append, hu]; exact hrun))

/-- A read finds the device gone while no other call is under way. -/
def reportOnce : List HotplugStep :=
  [.call 0 .controlRead, .ioctl 0 (.fail .enodev), .go 0, .go 0, .go 0, .go 0, .go 0]

theorem one_event_iff_once : ∃ s,
    run step (opened 0) reportOnce = some s ∧ s.gone = true ∧ s.OneEvent := by
  have hrun : (run step (opened 0) reportOnce).map Hotplug.gone = some true := by decide +kernel
  obtain ⟨s, hs, hgone⟩ := Option.map_eq_some_iff.mp hrun
  refine ⟨s, hs, hgone, (one_event_iff 0 hs).1 ?_⟩
  simp [reportOnce, Along, Alone, step, go, opened, setPc, Routine.enter, Routine.answered,
    Errno.removed, Function.update_apply, CallPc.storing, CallPc.calling]
  constructor <;> intro u <;> by_cases hu : u = 0 <;> simp [hu]

/-- A write and a read of the stream fail at the same time, and both calls load `health` before
either stores. -/
def reportTwice : List HotplugStep :=
  [.call 0 .controlWrite, .call 1 (.bulkRead 512), .ioctl 0 (.fail .enodev), .ioctl 1 (.fail .enodev),
    .go 0, .go 1, .go 0, .go 1, .go 0, .go 0, .go 0, .go 1, .go 1, .go 1]

/-- The callback runs twice. -/
theorem reported_twice : ¬∀ errors as s, run step (opened errors) as = some s → s.OneEvent := by
  intro h
  have hrun : (run step (opened 0) reportTwice).map (fun s => (s.gone, s.events)) =
      some (true, 2) := by decide +kernel
  obtain ⟨s, hs, heq⟩ := Option.map_eq_some_iff.mp hrun
  obtain ⟨hgone, hevents⟩ := Prod.mk.inj heq
  have hone := (h 0 reportTwice s hs hgone).2
  omega

end Hotplug

end Sdrgg.Usb
