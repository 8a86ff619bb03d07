import Sdrgg.ProofKit.Run
import Mathlib.Logic.Function.Basic

/-! The subscriber slots of one streaming device, under any number of threads in `sdr::subscribe`
and `sdr::unsubscribe`, the consumer threads among them: a subscriber's callback may call both.  A
section under `sub_lock` is one step; `unsubscribe` gives the lock up between its two sections to test
`thread_started`, join and clear it. -/

namespace Sdrgg.Ring

open ProofKit

/-- `SDRGG_MAX_SUBSCRIBERS`. -/
def maxSubscribers : Nat := 8

/-- The fields of `iq_subscriber` that `subscribe` and `unsubscribe` share. -/
structure Slot where
  active : Bool
  cancel : Bool
  threadStarted : Bool
  thread : Nat
deriving DecidableEq, Repr

/-- A consumer thread: its slot, whether it runs, and how often it has been joined. -/
structure Consumer where
  slot : Nat
  live : Bool
  joins : Nat
deriving DecidableEq, Repr

/-- A thread that calls: one of the application, a consumer thread in its callback, or a reader thread
in the callback for a device that is gone. -/
inductive Thread where
  | app (number : Nat)
  | consumer (thread : Nat)
  | reader (thread : Nat)
deriving DecidableEq, Repr

/-- Where a thread is in `sdr::unsubscribe`. -/
inductive Call where
  | idle
  | test (handle : Nat)
  | join (handle thread : Nat)
  | clear (handle : Nat)
  | finish (handle : Nat)
deriving DecidableEq, Repr

/-- The consumer thread that a call is about to join. -/
def Call.joins : Call → Option Nat
  | .join _ c => some c
  | _ => none

/-- The slots, the consumer threads by the order of their creation, how many there are, the threads
that call, and how often each slot was subscribed and unsubscribed. -/
structure Slots where
  slot : Nat → Slot
  consumer : Nat → Consumer
  born : Nat
  call : Thread → Call
  subscribed : Nat → Nat
  unsubscribed : Nat → Nat

/-- A step of one thread.  A consumer can leave its loop at any time that it is in no call: it does when
its slot is cancelled, when the device is gone, and when it gets no memory. -/
inductive SlotStep where
  | subscribe (created : Bool)
  | begin (caller : Thread) (handle : Nat)
  | test (caller : Thread)
  | join (caller : Thread)
  | clear (caller : Thread)
  | finish (caller : Thread)
  | exit (thread : Nat)
deriving DecidableEq, Repr

/-- The slot that `subscribe` takes: the first inactive one. -/
def Slots.free (s : Slots) : Option Nat :=
  (List.range maxSubscribers).find? fun i => !(s.slot i).active

def Slots.setSlot (s : Slots) (h : Nat) (slot : Slot) : Slots :=
  { s with slot := Function.update s.slot h slot }

def Slots.setConsumer (s : Slots) (c : Nat) (consumer : Consumer) : Slots :=
  { s with consumer := Function.update s.consumer c consumer }

def Slots.setCall (s : Slots) (caller : Thread) (call : Call) : Slots :=
  { s with call := Function.update s.call caller call }

/-- `subscribe` after `pthread_create` has made the consumer thread of slot `h`. -/
def Slots.occupy (s : Slots) (h : Nat) : Slots :=
  { (s.setSlot h ⟨true, false, true, s.born⟩).setConsumer s.born ⟨h, true, 0⟩ with
    born := s.born + 1
    subscribed := Function.update s.subscribed h (s.subscribed h + 1) }

/-- The last section of `unsubscribe`, which returns `SDRGG_OK`. -/
def Slots.release (s : Slots) (caller : Thread) (h : Nat) : Slots :=
  { (s.setSlot h { s.slot h with active := false }).setCall caller .idle with
    unsubscribed := Function.update s.unsubscribed h (s.unsubscribed h + 1) }

/-- A thread runs, so that it can call. -/
def Slots.runs (s : Slots) : Thread → Bool
  | .app _ | .reader _ => true
  | .consumer c => (s.consumer c).live

/-- `pthread_join` refuses with `EDEADLK`: the caller would wait for itself, or for a consumer that
waits for it. -/
def Slots.refused (s : Slots) (caller : Thread) (c : Nat) : Bool :=
  match caller with
  | .app _ | .reader _ => false
  | .consumer d => d == c || (s.call (.consumer c)).joins == some d

def Slots.step (s : Slots) : SlotStep → Option Slots
  | .subscribe created =>
    match s.free with
    | none => some s
    | some h =>
      some (if created then s.occupy h else s.setSlot h { s.slot h with cancel := false })
  | .begin caller h =>
    if s.call caller = .idle ∧ s.runs caller then
      some (if h < maxSubscribers ∧ (s.slot h).active then
        (s.setSlot h { s.slot h with cancel := true }).setCall caller (.test h)
      else s)
    else none
  | .test caller =>
    match s.call caller with
    | .test h =>
      some (s.setCall caller
        (if (s.slot h).threadStarted then .join h (s.slot h).thread else .finish h))
    | _ => none
  | .join caller =>
    match s.call caller with
    | .join h c =>
      -- nothing looks at what `pthread_join` returns
      if s.refused caller c then some (s.setCall caller (.clear h))
      else if (s.consumer c).live then none
      else some ((s.setConsumer c { s.consumer c with joins := (s.consumer c).joins + 1 }).setCall
        caller (.clear h))
    | _ => none
  | .clear caller =>
    match s.call caller with
    | .clear h =>
      some ((s.setSlot h { s.slot h with threadStarted := false }).setCall caller (.finish h))
    | _ => none
  | .finish caller =>
    match s.call caller with
    | .finish h => some (s.release caller h)
    | _ => none
  | .exit c =>
    if (s.consumer c).live ∧ s.call (.consumer c) = .idle then
      some (s.setConsumer c { s.consumer c with live := false })
    else none

/-- The slots after `ring_init`. -/
def slotsInit : Slots where
  slot _ := ⟨false, false, false, 0⟩
  consumer _ := ⟨0, false, 0⟩
  born := 0
  call _ := .idle
  subscribed _ := 0
  unsubscribed _ := 0

/-- The slot that a call of `unsubscribe` under way has found active. -/
def Call.handle : Call → Option Nat
  | .idle => none
  | .test h | .join h _ | .clear h | .finish h => some h

attribute [local grind] Call.handle

/-- A caller of `unsubscribe` on slot `h` has not to wait for itself: it is not a consumer of that slot,
and none of that slot's consumers is at work on the slot of the caller. -/
def Slots.Apart (s : Slots) (h : Nat) : Thread → Prop
  | .app _ | .reader _ => True
  | .consumer d => (s.consumer d).slot ≠ h ∧ ∀ e, (s.consumer e).slot = h →
    (s.call (.consumer e)).handle ≠ some (s.consumer d).slot

/-- No call of `unsubscribe` starts on an active slot that another one is still at work on, or in a
thread that would have to wait for itself. -/
def Slots.Alone (s : Slots) : SlotStep → Prop
  | .begin caller h => (s.slot h).active = true →
    (∀ u, (s.call u).handle ≠ some h) ∧ s.Apart h caller
  | _ => True

/-- What the claims of a slot come to: no thread is joined twice, at most one live thread works on a
slot, none works on an inactive slot, and no subscription is given back twice. -/
structure Slots.Owned (s : Slots) : Prop where
  joins : ∀ c, (s.consumer c).joins ≤ 1
  unique : ∀ c d, (s.consumer c).live = true → (s.consumer d).live = true →
    (s.consumer c).slot = (s.consumer d).slot → c = d
  active : ∀ c, (s.consumer c).live = true → (s.slot (s.consumer c).slot).active = true
  returned : ∀ h, s.unsubscribed h ≤ s.subscribed h

/-- A consumer in a call runs, and no two consumers are at work on each other's slots, nor one on its
own. -/
structure Slots.Callers (s : Slots) : Prop where
  runs : ∀ c h, (s.call (.consumer c)).handle = some h → (s.consumer c).live = true
  apart : ∀ c d, (s.call (.consumer c)).handle = some (s.consumer d).slot →
    (s.call (.consumer d)).handle ≠ some (s.consumer c).slot

/-- The invariant of the runs in which no two calls of `unsubscribe` are at work on one slot, and none
waits for its own thread. -/
structure Slots.Inv (s : Slots) : Prop extends s.Callers where
  alone : ∀ t u h, (s.call t).handle = some h → (s.call u).handle = some h → t = u
  active : ∀ t h, (s.call t).handle = some h → (s.slot h).active = true
  unborn : ∀ c, s.born ≤ c → (s.consumer c).live = false ∧ (s.consumer c).joins = 0
  live : ∀ c, (s.consumer c).live = true → (s.slot (s.consumer c).slot).active = true ∧
    (s.slot (s.consumer c).slot).threadStarted = true ∧
    (s.slot (s.consumer c).slot).thread = c ∧ (s.consumer c).joins = 0
  joins : ∀ c, (s.consumer c).joins ≤ 1
  unjoined : ∀ h, (s.slot h).active = true → (s.slot h).threadStarted = true →
    (∀ t, s.call t ≠ .clear h) → (s.consumer (s.slot h).thread).joins = 0
  known : ∀ h, (s.slot h).active = true → (s.slot h).threadStarted = true →
    (s.consumer (s.slot h).thread).slot = h ∧ (s.slot h).thread < s.born
  started : ∀ h, (s.slot h).active = true → (∀ t, s.call t ≠ .finish h) →
    (s.slot h).threadStarted = true
  joining : ∀ t h c, s.call t = .join h c →
    (s.slot h).threadStarted = true ∧ (s.slot h).thread = c
  clearing : ∀ t h, s.call t = .clear h → (s.slot h).threadStarted = true ∧
    (s.consumer (s.slot h).thread).live = false
  finishing : ∀ t h, s.call t = .finish h → (s.slot h).threadStarted = false
  count : ∀ h, s.subscribed h = s.unsubscribed h + if (s.slot h).active then 1 else 0

theorem Slots.Inv.owned {s : Slots} (h : s.Inv) : s.Owned where
  joins := h.joins
  unique c d hc hd heq := by
    rw [← (h.live c hc).2.2.1, heq]
    exact (h.live d hd).2.2.1
  active c hc := (h.live c hc).1
  returned k := by
    rw [h.count k]
    exact Nat.le_add_right _ _

/-! ### One step -/

theorem Slots.free_spec {s : Slots} {h : Nat} (hfree : s.free = some h) :
    h < maxSubscribers ∧ (s.slot h).active = false := by
  have hmem := List.mem_of_find?_eq_some hfree
  have hfound := List.find?_some hfree
  exact ⟨List.mem_range.mp hmem, by simpa using hfound⟩

/-- A step after which no call is on a slot that it was not on before. -/
theorem Slots.Callers.mono {s t : Slots} (hs : s.Callers)
    (hcall : ∀ u h, (t.call u).handle = some h → (s.call u).handle = some h)
    (hkept : ∀ c, (s.consumer c).live = true → (s.call (.consumer c)).handle ≠ none →
      (t.consumer c).slot = (s.consumer c).slot ∧ (t.consumer c).live = true) : t.Callers where
  runs c h hc := by
    have hold := hcall _ h hc
    exact (hkept c (hs.runs c h hold) (by simp [hold])).2
  apart c d hc hd := by
    have hc' := hcall _ _ hc
    have hd' := hcall _ _ hd
    rw [(hkept d (hs.runs d _ hd') (by simp [hd'])).1] at hc'
    rw [(hkept c (hs.runs c _ hc') (by simp [hc'])).1] at hd'
    exact hs.apart c d hc' hd'

/-- A call that goes on, on the slot that it is on, or returns. -/
theorem Slots.Callers.setCall {s : Slots} (hs : s.Callers) {t : Thread} {call : Call}
    (hcall : ∀ h, call.handle = some h → (s.call t).handle = some h) : (s.setCall t call).Callers := by
  refine hs.mono (fun u h hu => ?_) fun c hc _ => ⟨rfl, hc⟩
  simp only [Slots.setCall, Function.update_apply] at hu
  split at hu
  · rename_i heq
    exact heq ▸ hcall h hu
  · exact hu

/-- A call that starts, in a thread that has not to wait for itself. -/
theorem Slots.Callers.begin {s : Slots} (hs : s.Callers) {t : Thread} {h : Nat}
    (hruns : s.runs t = true) (hapart : s.Apart h t) : (s.setCall t (.test h)).Callers where
  runs c k hc := by
    simp only [Slots.setCall, Function.update_apply] at hc
    split at hc
    · rename_i heq
      rwa [← heq] at hruns
    · exact hs.runs c k hc
  apart c d hc hd := by
    simp only [Slots.setCall, Function.update_apply] at hc hd
    split at hc <;> split at hd
    · rename_i hc' hd'
      obtain rfl : c = d := Thread.consumer.inj (hc'.trans hd'.symm)
      subst hc'
      exact hapart.1 (Option.some_inj.mp hc).symm
    · rename_i hc' _
      subst hc'
      exact hapart.2 d (Option.some_inj.mp hc).symm hd
    · rename_i _ hd'
      subst hd'
      exact hapart.2 c (Option.some_inj.mp hd).symm hc
    · exact hs.apart c d hc hd

theorem Slots.Inv.occupy {s : Slots} (hs : s.Inv) {h : Nat} (hfree : (s.slot h).active = false) :
    (s.occupy h).Inv := by
  have hnone : ∀ t, (s.call t).handle ≠ some h := fun t ht => by simp [hs.active t h ht] at hfree
  have hcallers : (s.occupy h).Callers := by
    refine hs.toCallers.mono (fun _ _ hu => hu) fun c hc _ => ?_
    have hne : c ≠ s.born := by
      rintro rfl
      rw [(hs.unborn _ (Nat.le_refl _)).1] at hc
      cases hc
    simp only [Slots.occupy, setSlot, setConsumer, Function.update_of_ne hne]
    exact ⟨trivial, hc⟩
  obtain ⟨-, alone, active, unborn, live, joins, unjoined, known, started, joining, clearing,
    finishing, count⟩ := hs
  refine ⟨hcallers, ?_, ?_, ?_, ?_, ?_, ?_, ?_, ?_, ?_, ?_, ?_, ?_⟩ <;>
    simp only [Slots.occupy, setSlot, setConsumer, Function.update_apply] <;> grind

theorem Slots.Inv.setCancel {s : Slots} (hs : s.Inv) (h : Nat) (cancel : Bool) :
    (s.setSlot h { s.slot h with cancel }).Inv := by
  have hcallers := hs.toCallers
  obtain ⟨-, alone, active, unborn, live, joins, unjoined, known, started, joining, clearing,
    finishing, count⟩ := hs
  refine ⟨⟨hcallers.runs, hcallers.apart⟩, ?_, ?_, ?_, ?_, ?_, ?_, ?_, ?_, ?_, ?_, ?_, ?_⟩ <;>
    simp only [setSlot, Function.update_apply] <;> grind

theorem Slots.Inv.begin {s : Slots} (hs : s.Inv) {t : Thread} {h : Nat} (hidle : s.call t = .idle)
    (hruns : s.runs t = true) (hactive : (s.slot h).active = true)
    (halone : ∀ u, (s.call u).handle ≠ some h) (hapart : s.Apart h t) :
    (s.setCall t (.test h)).Inv := by
  have hcallers := hs.toCallers.begin hruns hapart
  obtain ⟨-, alone, active, unborn, live, joins, unjoined, known, started, joining, clearing,
    finishing, count⟩ := hs
  refine ⟨hcallers, ?_, ?_, ?_, ?_, ?_, ?_, ?_, ?_, ?_, ?_, ?_, ?_⟩ <;>
    simp only [setCall, Function.update_apply] <;> grind

/-- A call that finds its slot active and is alone there finds the thread started. -/
theorem Slots.Inv.test_started {s : Slots} (hs : s.Inv) {t : Thread} {h : Nat}
    (hcall : s.call t = .test h) : (s.slot h).threadStarted = true := by
  refine hs.started h (hs.active t h (by rw [hcall]; rfl)) fun u hu => ?_
  have := hs.alone t u h (by rw [hcall]; rfl) (by rw [hu]; rfl)
  rw [this, hu] at hcall
  cases hcall

theorem Slots.Inv.test {s : Slots} (hs : s.Inv) {t : Thread} {h : Nat} (hcall : s.call t = .test h) :
    (s.setCall t (.join h (s.slot h).thread)).Inv := by
  have hstarted := hs.test_started hcall
  have hcallers : (s.setCall t (.join h (s.slot h).thread)).Callers :=
    hs.toCallers.setCall fun k hk => by rw [hcall]; exact hk
  obtain ⟨-, alone, active, unborn, live, joins, unjoined, known, started, joining, clearing,
    finishing, count⟩ := hs
  refine ⟨hcallers, ?_, ?_, ?_, ?_, ?_, ?_, ?_, ?_, ?_, ?_, ?_, ?_⟩ <;>
    simp only [setCall, Function.update_apply] <;> grind

/-- The thread that a call is about to join has not been joined. -/
theorem Slots.Inv.join_fresh {s : Slots} (hs : s.Inv) {t : Thread} {h c : Nat}
    (hcall : s.call t = .join h c) : (s.consumer c).joins = 0 := by
  obtain ⟨hstarted, rfl⟩ := hs.joining t h c hcall
  refine hs.unjoined h (hs.active t h (by rw [hcall]; rfl)) hstarted fun u hu => ?_
  have := hs.alone t u h (by rw [hcall]; rfl) (by rw [hu]; rfl)
  rw [this, hu] at hcall
  cases hcall

/-- A call that is about to join has not to wait for itself. -/
theorem Slots.Inv.join_waits {s : Slots} (hs : s.Inv) {t : Thread} {h c : Nat}
    (hcall : s.call t = .join h c) : s.refused t c = false := by
  obtain ⟨hstarted, rfl⟩ := hs.joining t h c hcall
  have hslot := (hs.known h (hs.active t h (by rw [hcall]; rfl)) hstarted).1
  cases t with
  | app | reader => rfl
  | consumer d =>
    have hown : (s.call (.consumer d)).handle = some (s.consumer (s.slot h).thread).slot := by
      rw [hcall, hslot]
      rfl
    have hapart := hs.apart d (s.slot h).thread hown
    refine Bool.or_eq_false_iff.mpr
      ⟨beq_eq_false_iff_ne.mpr ?_, beq_eq_false_iff_ne.mpr fun hwaits => ?_⟩
    · intro heq
      rw [← heq] at hown hapart
      exact hapart hown
    · cases hother : s.call (.consumer (s.slot h).thread) with
      | join k e =>
        rw [hother] at hwaits hapart
        obtain rfl := Option.some_inj.mp hwaits
        obtain ⟨hstarted', rfl⟩ := hs.joining _ k e hother
        have hslot' := (hs.known k (hs.active _ k (by rw [hother]; rfl)) hstarted').1
        exact hapart (by rw [hslot']; rfl)
      | idle | test | clear | finish =>
        rw [hother] at hwaits
        cases hwaits

theorem Slots.Inv.join {s : Slots} (hs : s.Inv) {t : Thread} {h c : Nat} (hcall : s.call t = .join h c)
    (hexited : (s.consumer c).live = false) :
    ((s.setConsumer c { s.consumer c with joins := (s.consumer c).joins + 1 }).setCall t
      (.clear h)).Inv := by
  have hfresh := hs.join_fresh hcall
  have hjoined : (s.setConsumer c { s.consumer c with joins := (s.consumer c).joins + 1 }).Callers :=
    hs.toCallers.mono (fun _ _ hu => hu) fun d hd _ => by
      simp only [setConsumer, Function.update_apply]
      split
      · rename_i heq
        exact ⟨by rw [heq], heq ▸ hd⟩
      · exact ⟨rfl, hd⟩
  have hcallers := @Slots.Callers.setCall _ hjoined t (.clear h) fun k hk => by
    simp only [setConsumer, hcall]
    exact hk
  obtain ⟨-, alone, active, unborn, live, joins, unjoined, known, started, joining, clearing,
    finishing, count⟩ := hs
  refine ⟨hcallers, ?_, ?_, ?_, ?_, ?_, ?_, ?_, ?_, ?_, ?_, ?_, ?_⟩ <;>
    simp only [setConsumer, setCall, Function.update_apply] <;> grind

theorem Slots.Inv.clear {s : Slots} (hs : s.Inv) {t : Thread} {h : Nat} (hcall : s.call t = .clear h) :
    ((s.setSlot h { s.slot h with threadStarted := false }).setCall t (.finish h)).Inv := by
  have hexited := (hs.clearing t h hcall).2
  have hcallers : (s.setCall t (.finish h)).Callers :=
    hs.toCallers.setCall fun k hk => by rw [hcall]; exact hk
  obtain ⟨-, alone, active, unborn, live, joins, unjoined, known, started, joining, clearing,
    finishing, count⟩ := hs
  refine ⟨⟨hcallers.runs, hcallers.apart⟩, ?_, ?_, ?_, ?_, ?_, ?_, ?_, ?_, ?_, ?_, ?_, ?_⟩ <;>
    simp only [setSlot, setCall, Function.update_apply] <;> grind

/-- No thread runs on a slot that a call is about to release. -/
theorem Slots.Inv.finish_exited {s : Slots} (hs : s.Inv) {t : Thread} {h c : Nat}
    (hcall : s.call t = .finish h) (hslot : (s.consumer c).slot = h) :
    (s.consumer c).live = false := by
  by_contra hlive
  have hstarted := (hs.live c (by simpa using hlive)).2.1
  rw [hslot, hs.finishing t h hcall] at hstarted
  cases hstarted

theorem Slots.Inv.release {s : Slots} (hs : s.Inv) {t : Thread} {h : Nat}
    (hcall : s.call t = .finish h) : (s.release t h).Inv := by
  have hexited := fun c => hs.finish_exited (c := c) hcall
  have hcallers : (s.setCall t .idle).Callers := hs.toCallers.setCall fun _ hk => nomatch hk
  obtain ⟨-, alone, active, unborn, live, joins, unjoined, known, started, joining, clearing,
    finishing, count⟩ := hs
  refine ⟨⟨hcallers.runs, hcallers.apart⟩, ?_, ?_, ?_, ?_, ?_, ?_, ?_, ?_, ?_, ?_, ?_, ?_⟩ <;>
    simp only [Slots.release, setSlot, setCall, Function.update_apply] <;> grind

theorem Slots.Inv.exit {s : Slots} (hs : s.Inv) {c : Nat} (hidle : s.call (.consumer c) = .idle) :
    (s.setConsumer c { s.consumer c with live := false }).Inv := by
  have hcallers : (s.setConsumer c { s.consumer c with live := false }).Callers := by
    refine hs.toCallers.mono (fun _ _ hu => hu) fun d hd hcall => ?_
    have hne : d ≠ c := by
      rintro rfl
      exact hcall (by rw [hidle]; rfl)
    simp only [setConsumer, Function.update_of_ne hne]
    exact ⟨trivial, hd⟩
  obtain ⟨-, alone, active, unborn, live, joins, unjoined, known, started, joining, clearing,
    finishing, count⟩ := hs
  refine ⟨hcallers, ?_, ?_, ?_, ?_, ?_, ?_, ?_, ?_, ?_, ?_, ?_, ?_⟩ <;>
    simp only [setConsumer, Function.update_apply] <;> grind

theorem Slots.Inv.step {s t : Slots} (hs : s.Inv) {a : SlotStep} (halone : s.Alone a)
    (hstep : s.step a = some t) : t.Inv := by
  cases a with
  | subscribe created =>
    simp only [Slots.step] at hstep
    split at hstep <;> obtain rfl := Option.some_inj.mp hstep
    · exact hs
    · rename_i h hfree
      cases created
      · exact hs.setCancel h false
      · exact hs.occupy (Slots.free_spec hfree).2
  | begin caller h =>
    simp only [Slots.step] at hstep
    split at hstep
    · rename_i hidle
      split at hstep <;> obtain rfl := Option.some_inj.mp hstep
      · rename_i hactive
        obtain ⟨hnone, hapart⟩ := halone hactive.2
        refine (hs.setCancel h true).begin hidle.1 hidle.2 ?_ hnone hapart
        simpa [Slots.setSlot] using hactive.2
      · exact hs
    · cases hstep
  | test caller =>
    simp only [Slots.step] at hstep
    split at hstep
    · rename_i h hcall
      rw [if_pos (hs.test_started hcall)] at hstep
      obtain rfl := Option.some_inj.mp hstep
      exact hs.test hcall
    · cases hstep
  | join caller =>
    simp only [Slots.step] at hstep
    split at hstep
    · rename_i hcall
      rw [if_neg (by simp [hs.join_waits hcall])] at hstep
      split at hstep
      · cases hstep
      · rename_i hexited
        obtain rfl := Option.some_inj.mp hstep
        exact hs.join hcall (by simpa using hexited)
    · cases hstep
  | clear caller =>
    simp only [Slots.step] at hstep
    split at hstep
    · obtain rfl := Option.some_inj.mp hstep
      exact hs.clear ‹_›
    · cases hstep
  | finish caller =>
    simp only [Slots.step] at hstep
    split at hstep
    · obtain rfl := Option.some_inj.mp hstep
      exact hs.release ‹_›
    · cases hstep
  | exit c =>
    simp only [Slots.step] at hstep
    split at hstep
    · rename_i hidle
      obtain rfl := Option.some_inj.mp hstep
      exact hs.exit hidle.2
    · cases hstep

theorem slotsInit_inv : slotsInit.Inv := by
  refine ⟨⟨?_, ?_⟩, ?_, ?_, ?_, ?_, ?_, ?_, ?_, ?_, ?_, ?_, ?_, ?_⟩ <;> simp [slotsInit, Call.handle]

/-! ### Every run -/

/-- Every slot is owned in every state of the runs in which no two calls of `unsubscribe` are at work on
one slot, and none waits for its own thread. -/
theorem slots_owned {as : List SlotStep} {t : Slots}
    (halone : Along Slots.step Slots.Alone slotsInit as)
    (hrun : run Slots.step slotsInit as = some t) : t.Owned :=
  (halone.invariant (I := Slots.Inv) (fun _ _ _ hs ha hstep => hs.step ha hstep) slotsInit_inv
    hrun).owned

/-- A thread subscribes twice, and the consumer of the first slot unsubscribes the second one. -/
theorem slots_owned_once : ∃ t,
    run Slots.step slotsInit [.subscribe true, .subscribe true, .begin (.consumer 0) 1, .exit 1,
      .test (.consumer 0), .join (.consumer 0), .clear (.consumer 0), .finish (.consumer 0)] = some t ∧
    (t.consumer 0).live = true ∧ t.unsubscribed 1 = 1 ∧ t.Owned := by
  have halone : Along Slots.step Slots.Alone slotsInit [.subscribe true, .subscribe true,
      .begin (.consumer 0) 1, .exit 1, .test (.consumer 0), .join (.consumer 0), .clear (.consumer 0),
      .finish (.consumer 0)] := by
    iterate 2 refine .cons trivial rfl ?_
    refine .cons (fun _ => ⟨fun _ h => ?_, Nat.zero_ne_one, fun _ _ h => ?_⟩) rfl ?_
    · cases h
    · cases h
    iterate 5 refine .cons trivial rfl ?_
    trivial
  exact ⟨_, rfl, rfl, rfl, slots_owned halone rfl⟩

/-- Two calls of `unsubscribe` that both find slot 0 active both join its thread and both return
`SDRGG_OK`.  A consumer that unsubscribes its own slot runs on when the slot is inactive, and on the slot
that the next `subscribe` takes.  Of two consumers that unsubscribe each other, one runs on. -/
theorem slots_disowned :
    (∃ t, run Slots.step slotsInit [.subscribe true, .begin (.app 1) 0, .begin (.app 2) 0, .exit 0,
      .test (.app 1), .test (.app 2), .join (.app 1), .join (.app 2), .clear (.app 1), .clear (.app 2),
      .finish (.app 1), .finish (.app 2)] = some t ∧
      (t.consumer 0).joins = 2 ∧ t.subscribed 0 = 1 ∧ t.unsubscribed 0 = 2) ∧
    (∃ t u, run Slots.step slotsInit [.subscribe true, .begin (.consumer 0) 0, .test (.consumer 0),
      .join (.consumer 0), .clear (.consumer 0), .finish (.consumer 0)] = some t ∧
      (t.slot 0).active = false ∧ (t.consumer 0).live = true ∧ t.step (.subscribe true) = some u ∧
      (u.consumer 0).slot = (u.consumer 1).slot ∧ (u.consumer 0).live = true ∧
      (u.consumer 1).live = true) ∧
    ∃ t, run Slots.step slotsInit [.subscribe true, .subscribe true, .begin (.consumer 0) 1,
      .begin (.consumer 1) 0, .test (.consumer 0), .test (.consumer 1), .join (.consumer 0),
      .clear (.consumer 0), .finish (.consumer 0)] = some t ∧
      (t.slot 1).active = false ∧ (t.consumer 1).live = true :=
  ⟨⟨_, rfl, rfl, rfl, rfl⟩, ⟨_, _, rfl, rfl, rfl, rfl, rfl, rfl, rfl⟩, _, rfl, rfl, rfl⟩

end Sdrgg.Ring
