import Sdrgg.Ring.Slots

/-! `ring_engine::start` and `ring_engine::stop` with `sdr::subscribe` and `sdr::unsubscribe` on one
device, called by any number of threads, its consumer and reader threads among them: their callbacks
may call.  A test or store of an atomic, a section under `sub_lock`, a thread creation, a join and
`ring_destroy` are one step each. -/

namespace Sdrgg.Ring

open ProofKit

/-- Where a thread is in `start`, `stop`, or a `subscribe` that has found the stream active. -/
inductive Pc where
  | idle
  | subscribe
  | startInit
  | startCancel
  | startActive
  | startCreate
  | startMark
  | startTest
  | startSubscribe
  | undoCancel
  | undoJoin
  | undoActive
  | undoDestroy
  | stopScan (i : Nat)
  | stopCall (i : Nat)
  | stopWait (i : Nat)
  | stopCancel
  | stopTest
  | stopJoin (reader : Nat)
  | stopMark
  | stopActive
  | stopDestroy
deriving DecidableEq, Repr

/-- `stream_engine` of one device, with its reader threads by the order of their creation and where
each calling thread is.  `early` says that `ring_destroy` has run while a thread was alive, and
`dirty` that `stop`, or `start` with an error, has returned with a thread alive or
`reader_started` set. -/
structure Engine where
  slots : Slots
  active : Bool
  cancelRequested : Bool
  readerStarted : Bool
  readerThread : Nat
  readerLive : Nat → Bool
  readers : Nat
  pc : Thread → Pc
  early : Bool
  dirty : Bool

inductive Op where
  | start
  | stop
  | subscribe
  | unsubscribe (handle : Nat)
deriving DecidableEq, Repr

/-- A step: a thread calls a function, goes on in it, with `ok` the outcome of a creation or an
allocation, or goes on in `unsubscribe`; a consumer or a reader leaves its loop. -/
inductive EngineStep where
  | call (caller : Thread) (op : Op)
  | go (caller : Thread) (ok : Bool)
  | slots (step : SlotStep)
  | readerExit (reader : Nat)
deriving DecidableEq, Repr

def Engine.setPc (s : Engine) (caller : Thread) (pc : Pc) : Engine :=
  { s with pc := Function.update s.pc caller pc }

/-- A thread runs, so that it can call. -/
def Engine.runs (s : Engine) : Thread → Bool
  | .reader r => s.readerLive r
  | caller => s.slots.runs caller

/-- The reader that a thread in `start` or `stop` is about to join. -/
def Engine.joins (s : Engine) (caller : Thread) : Option Nat :=
  match s.pc caller with
  | .stopJoin reader => some reader
  | .undoJoin => some s.readerThread
  | _ => none

/-- `pthread_join` of a reader refuses with `EDEADLK`: the caller would wait for itself, or for a
reader that waits for it. -/
def Engine.refused (s : Engine) (caller : Thread) (reader : Nat) : Bool :=
  match caller with
  | .app _ => false
  | .consumer c => (s.slots.call (.reader reader)).joins == some c
  | .reader r => r == reader || s.joins (.reader reader) == some r

/-- `pthread_join` of consumer `c` refuses with `EDEADLK`: the caller is a reader that it waits for. -/
def Engine.crossed (s : Engine) (caller : Thread) (c : Nat) : Bool :=
  match caller with
  | .reader r => s.joins (.consumer c) == some r
  | _ => false

/-- A consumer or a reader of the device runs. -/
def Engine.alive (s : Engine) : Bool :=
  (List.range s.slots.born).any (fun c => (s.slots.consumer c).live) ||
    (List.range s.readers).any s.readerLive

/-- `start` returns an error, or `stop` returns. -/
def Engine.done (s : Engine) (caller : Thread) : Engine :=
  { s.setPc caller .idle with dirty := s.dirty || s.alive || s.readerStarted }

/-- `ring_destroy`. -/
def Engine.destroy (s : Engine) : Engine := { s with early := s.early || s.alive }

/-- What `ring_init` sets in the slots. -/
def Slots.reset (s : Slots) : Slots :=
  { s with slot := fun i => { s.slot i with active := false, threadStarted := false, cancel := false } }

/-- The first step of a call. -/
def Engine.enter (s : Engine) (caller : Thread) : Op → Option Engine
  | .start => some (if s.active then s.done caller else s.setPc caller .startInit)
  | .stop => some (if s.active then s.setPc caller (.stopScan 0) else s.done caller)
  | .subscribe => some (if s.active then s.setPc caller .subscribe else s)
  | .unsubscribe h => (s.slots.step (.begin caller h)).map fun slots => { s with slots }

/-- The step after `pc` of a thread in `start`, `stop` or `subscribe`. -/
def Engine.go (s : Engine) (caller : Thread) (ok : Bool) : Pc → Option Engine
  | .idle => none
  | .subscribe =>
    (s.slots.step (.subscribe ok)).map fun slots => { s.setPc caller .idle with slots }
  | .startInit =>
    some (if ok then { s.setPc caller .startCancel with slots := s.slots.reset } else s.done caller)
  | .startCancel => some { s.setPc caller .startActive with cancelRequested := false }
  | .startActive => some { s.setPc caller .startCreate with active := true }
  | .startCreate =>
    some (if ok then
      { s.setPc caller .startMark with
        readerThread := s.readers
        readerLive := Function.update s.readerLive s.readers true
        readers := s.readers + 1 }
    else s.setPc caller .undoActive)
  | .startMark => some { s.setPc caller .startTest with readerStarted := true }
  | .startTest => some (s.setPc caller (if s.active then .startSubscribe else .undoCancel))
  | .startSubscribe =>
    (s.slots.step (.subscribe ok)).map fun slots =>
      { s.setPc caller (if s.slots.free.isSome ∧ ok then .idle else .undoCancel) with slots }
  | .undoCancel => some { s.setPc caller .undoJoin with cancelRequested := true }
  | .undoJoin =>
    -- nothing looks at what `pthread_join` returns
    if s.readerLive s.readerThread ∧ ¬s.refused caller s.readerThread then none
    else some (s.setPc caller .undoActive)
  | .undoActive => some { s.setPc caller .undoDestroy with active := false }
  | .undoDestroy => some (s.destroy.done caller)
  | .stopScan i =>
    some (s.setPc caller
      (if i < maxSubscribers then if (s.slots.slot i).active then .stopCall i else .stopScan (i + 1)
       else .stopCancel))
  | .stopCall i =>
    (s.slots.step (.begin caller i)).map fun slots => { s.setPc caller (.stopWait i) with slots }
  | .stopWait i =>
    if s.slots.call caller = .idle then some (s.setPc caller (.stopScan (i + 1))) else none
  | .stopCancel => some { s.setPc caller .stopTest with cancelRequested := true }
  | .stopTest =>
    some (s.setPc caller (if s.readerStarted then .stopJoin s.readerThread else .stopActive))
  | .stopJoin reader =>
    if s.readerLive reader ∧ ¬s.refused caller reader then none
    else some (s.setPc caller .stopMark)
  | .stopMark => some { s.setPc caller .stopActive with readerStarted := false }
  | .stopActive => some { s.setPc caller .stopDestroy with active := false }
  | .stopDestroy => some (s.destroy.done caller)

def Engine.step (s : Engine) : EngineStep → Option Engine
  | .call caller op =>
    if s.pc caller = .idle ∧ s.slots.call caller = .idle ∧ s.runs caller then s.enter caller op
    else none
  | .go caller ok => s.go caller ok (s.pc caller)
  | .slots (.subscribe _) | .slots (.begin _ _) => none
  | .slots (.exit c) =>
    if s.pc (.consumer c) = .idle then
      (s.slots.step (.exit c)).map fun slots => { s with slots }
    else none
  | .slots (.join caller) =>
    match s.slots.call caller with
    | .join h c =>
      if s.crossed caller c then some { s with slots := s.slots.setCall caller (.clear h) }
      else (s.slots.step (.join caller)).map fun slots => { s with slots }
    | _ => none
  | .slots step => (s.slots.step step).map fun slots => { s with slots }
  | .readerExit reader =>
    if s.readerLive reader ∧ s.pc (.reader reader) = .idle ∧
        s.slots.call (.reader reader) = .idle then
      some { s with readerLive := Function.update s.readerLive reader false }
    else none

/-- A device that has been opened. -/
def engineInit : Engine where
  slots := slotsInit
  active := false
  cancelRequested := false
  readerStarted := false
  readerThread := 0
  readerLive _ := false
  readers := 0
  pc _ := .idle
  early := false
  dirty := false

/-- A thread is between the test of `active` and the end of `start` or `stop`. -/
def Pc.busy : Pc → Bool
  | .idle | .subscribe => false
  | _ => true

/-- No later step of the thread looks at slot `h` before `ring_destroy`. -/
def Pc.passed (h : Nat) : Pc → Prop
  | .stopScan i | .stopCall i => h < i
  | .stopWait i => h ≤ i
  | .undoCancel | .undoJoin | .undoActive | .undoDestroy => True
  | .stopCancel | .stopTest | .stopJoin _ | .stopMark | .stopActive | .stopDestroy => True
  | _ => False

/-- `start` and `stop` find no other one under way, `start` no stream, and `stop` is not called by a
reader; `subscribe` takes a slot of an active stream that nobody who tears it down has passed; what
`start` creates is created, or no slot is taken yet; and calls of `unsubscribe`, those of `stop` too,
neither overlap nor would have to wait for their own thread. -/
def Engine.Ordered (s : Engine) : EngineStep → Prop
  | .call _ .start => s.active = false ∧ ∀ u, (s.pc u).busy = false
  | .call caller .stop => s.active = true →
    (∀ u, (s.pc u).busy = false) ∧ ∀ r, caller ≠ .reader r
  | .call _ .subscribe => True
  | .call caller (.unsubscribe h) => s.slots.Alone (.begin caller h)
  | .go caller ok =>
    match s.pc caller with
    | .subscribe => ok = true → ∀ h, s.slots.free = some h →
      s.active = true ∧ ∀ u, ¬(s.pc u).passed h
    | .startCreate => ok = true ∨ ∀ h, (s.slots.slot h).active = false
    | .startSubscribe => ok = true ∧ s.slots.free ≠ none
    | .stopCall i => s.slots.Alone (.begin caller i)
    | _ => True
  | .slots _ | .readerExit _ => True

attribute [local grind] Call.handle

/-- What a step of `unsubscribe` after its first section, or the exit of a consumer, does to the
slots: none becomes active, and a call leaves a slot only inactive. -/
structure Slots.Closes (s t : Slots) : Prop where
  slot : ∀ h, (s.slot h).active = false → (t.slot h).active = false
  stays : ∀ u h, (t.call u).handle = some h → (s.call u).handle = some h
  leaves : ∀ u h, (s.call u).handle = some h → (t.call u).handle ≠ some h →
    (t.slot h).active = false

theorem Slots.step_closes {s t : Slots} {a : SlotStep} (hsub : ∀ b, a ≠ .subscribe b)
    (hbegin : ∀ u h, a ≠ .begin u h) (hstep : s.step a = some t) : s.Closes t := by
  cases a with
  | subscribe b => exact absurd rfl (hsub b)
  | begin u h => exact absurd rfl (hbegin u h)
  | test c =>
    simp only [Slots.step] at hstep
    split at hstep
    · obtain rfl := Option.some_inj.mp hstep
      constructor <;> simp only [setCall, Function.update_apply] <;> grind
    · cases hstep
  | join c =>
    simp only [Slots.step] at hstep
    split at hstep
    · split at hstep
      · obtain rfl := Option.some_inj.mp hstep
        constructor <;> simp only [setCall, Function.update_apply] <;> grind
      split at hstep
      · cases hstep
      · obtain rfl := Option.some_inj.mp hstep
        constructor <;> simp only [setCall, setConsumer, Function.update_apply] <;> grind
    · cases hstep
  | clear c =>
    simp only [Slots.step] at hstep
    split at hstep
    · obtain rfl := Option.some_inj.mp hstep
      constructor <;> simp only [setCall, setSlot, Function.update_apply] <;> grind
    · cases hstep
  | finish c =>
    simp only [Slots.step] at hstep
    split at hstep
    · obtain rfl := Option.some_inj.mp hstep
      constructor <;> simp only [release, setCall, setSlot, Function.update_apply] <;> grind
    · cases hstep
  | exit c =>
    simp only [Slots.step] at hstep
    split at hstep
    · obtain rfl := Option.some_inj.mp hstep
      exact ⟨fun _ h => h, fun _ _ h => h, fun _ _ h h' => absurd h h'⟩
    · cases hstep

/-- No reader thread runs, no slot is taken and `reader_started` is false. -/
def Engine.Quiet (s : Engine) : Prop :=
  (∀ r, s.readerLive r = false) ∧ (∀ h, (s.slots.slot h).active = false) ∧
    s.readerStarted = false

/-- What holds while a thread is at `pc`. -/
def Engine.At (s : Engine) : Pc → Prop
  | .idle | .subscribe => True
  | .startInit | .startCancel | .startActive | .undoDestroy | .stopDestroy => s.active = false
  | .startCreate => s.active = true ∧ s.readerStarted = false ∧ ∀ r, s.readerLive r = false
  | .startMark => s.active = true
  | .startTest | .startSubscribe => s.active = true ∧ s.readerStarted = true
  | .undoCancel | .undoJoin => False
  | .undoActive | .stopActive =>
    s.active = true ∧ s.readerStarted = false ∧ ∀ r, s.readerLive r = false
  | .stopScan _ | .stopCall _ | .stopWait _ | .stopCancel | .stopTest =>
    s.active = true ∧ s.readerStarted = true
  | .stopJoin reader => s.active = true ∧ reader = s.readerThread
  | .stopMark => s.active = true ∧ ∀ r, s.readerLive r = false

theorem Engine.At.of_not_busy {s : Engine} {pc : Pc} (h : pc.busy = false) : s.At pc := by
  cases pc <;> trivial

/-- Only a thread in `start` or `stop` has passed a slot. -/
theorem Pc.not_passed {pc : Pc} (h : pc.busy = false) (k : Nat) : ¬pc.passed k := by
  cases pc <;> first | exact id | cases h

/-- A reader that exits makes nothing false that holds at `pc`. -/
theorem Engine.At.guest {s : Engine} {slots : Slots} {readerLive : Nat → Bool} {pc : Pc}
    (h : s.At pc) (hlive : ∀ r, readerLive r = true → s.readerLive r = true) :
    Engine.At { s with slots, readerLive } pc := by
  cases pc <;> simp only [Engine.At] at h ⊢ <;> grind

/-- A thread that may be in `start` or `stop`: no reader, and a consumer only while it runs. -/
def Engine.Inside (s : Engine) : Thread → Prop
  | .app _ => True
  | .consumer c => (s.slots.consumer c).live = true
  | .reader _ => False

theorem Engine.Inside.mono {s s' : Engine} {t : Thread} (h : s.Inside t)
    (hlive : ∀ c, t = .consumer c → (s.slots.consumer c).live = true →
      (s'.slots.consumer c).live = true) : s'.Inside t := by
  cases t with
  | app n => trivial
  | consumer c => exact hlive c rfl h
  | reader r => exact h

structure Engine.Inv (s : Engine) : Prop where
  slots : s.slots.Inv
  high : ∀ h, maxSubscribers ≤ h → (s.slots.slot h).active = false
  calling : ∀ t h, (s.slots.call t).handle = some h → s.pc t = .idle ∨ s.pc t = .stopWait h
  one : ∀ t u, (s.pc t).busy = true → (s.pc u).busy = true → t = u
  inside : ∀ t, (s.pc t).busy = true → s.Inside t
  phase : ∀ t, s.At (s.pc t)
  rest : s.active = true → (∀ u, (s.pc u).busy = false) → s.readerStarted = true
  quiet : s.active = false → s.Quiet
  passed : ∀ t h, (s.pc t).passed h → (s.slots.call t).handle ≠ some h →
    (s.slots.slot h).active = false
  reader : ∀ r, s.readerLive r = true → r = s.readerThread ∧ r < s.readers
  early : s.early = false
  dirty : s.dirty = false

/-- A step that leaves every thread where it is in `start` and `stop`. -/
theorem Engine.Inv.guest {s : Engine} (hs : s.Inv) {slots : Slots} {readerLive : Nat → Bool}
    (hslots : slots.Inv) (hhigh : ∀ h, maxSubscribers ≤ h → (slots.slot h).active = false)
    (hcalling : ∀ t h, (slots.call t).handle = some h → s.pc t = .idle ∨ s.pc t = .stopWait h)
    (hinside : ∀ c, (s.pc (.consumer c)).busy = true → (s.slots.consumer c).live = true →
      (slots.consumer c).live = true)
    (hquiet : s.active = false → ∀ h, (slots.slot h).active = false)
    (hpassed : ∀ t h, (s.pc t).passed h → (slots.call t).handle ≠ some h →
      (slots.slot h).active = false)
    (hlive : ∀ r, readerLive r = true → s.readerLive r = true) :
    Engine.Inv { s with slots, readerLive } where
  slots := hslots
  high := hhigh
  calling := hcalling
  one := hs.one
  inside t ht := (hs.inside t ht).mono fun c heq => hinside c (heq ▸ ht)
  phase t := (hs.phase t).guest hlive
  rest := hs.rest
  quiet hactive := by
    have hq := hs.quiet hactive
    refine ⟨fun r => ?_, hquiet hactive, hq.2.2⟩
    have := hq.1 r
    have := hlive r
    grind
  passed := hpassed
  reader r hr := hs.reader r (hlive r hr)
  early := hs.early
  dirty := hs.dirty

/-- A step of the only thread in `start` or `stop`, or of one that enters or leaves. -/
theorem Engine.Inv.solo {s s' : Engine} (hs : s.Inv) {t : Thread} {q : Pc}
    (halone : ∀ u, u ≠ t → (s.pc u).busy = false) (hpc : s'.pc = Function.update s.pc t q)
    (hslots : s'.slots.Inv) (hhigh : ∀ h, maxSubscribers ≤ h → (s'.slots.slot h).active = false)
    (hcalls : ∀ u, u ≠ t → s'.slots.call u = s.slots.call u)
    (hcalling : ∀ h, (s'.slots.call t).handle = some h → q = .idle ∨ q = .stopWait h)
    (hinside : q.busy = true → s'.Inside t) (hat : s'.At q) (hrest : q.busy = false → s'.active = true → s'.readerStarted = true)
    (hquiet : s'.active = false → s'.Quiet)
    (hpassed : ∀ h, q.passed h → (s'.slots.call t).handle ≠ some h →
      (s'.slots.slot h).active = false)
    (hreader : ∀ r, s'.readerLive r = true → r = s'.readerThread ∧ r < s'.readers)
    (hearly : s'.early = false) (hdirty : s'.dirty = false) : s'.Inv where
  slots := hslots
  high := hhigh
  calling u h hu := by
    rw [hpc, Function.update_apply]
    split
    · rename_i heq
      exact hcalling h (heq ▸ hu)
    · rename_i hne
      exact hs.calling u h (hcalls u hne ▸ hu)
  one u v hu hv := by
    rw [hpc, Function.update_apply] at hu hv
    grind
  inside u hu := by
    rw [hpc, Function.update_apply] at hu
    split at hu
    · rename_i heq
      exact heq ▸ hinside hu
    · rename_i hne
      exact absurd (hu.symm.trans (halone u hne)) (by decide)
  phase u := by
    rw [hpc, Function.update_apply]
    split
    · exact hat
    · rename_i hne
      exact .of_not_busy (halone u hne)
  rest hactive hnone := by
    have := hnone t
    rw [hpc, Function.update_self] at this
    exact hrest this hactive
  quiet := hquiet
  passed u h hu hcall := by
    rw [hpc, Function.update_apply] at hu
    split at hu
    · rename_i heq
      exact hpassed h hu (heq ▸ hcall)
    · rename_i hne
      exact absurd hu (Pc.not_passed (halone u hne) h)
  reader := hreader
  early := hearly
  dirty := hdirty

/-- A thread that is not waiting for its `unsubscribe` is not in one. -/
theorem Engine.Inv.no_call {s : Engine} (hs : s.Inv) {t : Thread} (hbusy : (s.pc t).busy = true)
    (hne : ∀ i, s.pc t ≠ .stopWait i) (h : Nat) : (s.slots.call t).handle ≠ some h := by
  intro hcall
  rcases hs.calling t h hcall with hpc | hpc
  · rw [hpc] at hbusy
    cases hbusy
  · exact hne h hpc

theorem Engine.Inv.others {s : Engine} (hs : s.Inv) {t : Thread} (hbusy : (s.pc t).busy = true)
    (u : Thread) (hne : u ≠ t) : (s.pc u).busy = false := by
  by_contra hu
  exact hne (hs.one u t (by simpa using hu) hbusy)

/-- A step of the thread in `start` or `stop` that leaves the slots as they are. -/
theorem Engine.Inv.advance {s s' : Engine} (hs : s.Inv) {t : Thread} {q : Pc}
    (hbusy : (s.pc t).busy = true) (hq : q.busy = true)
    (hcall : ∀ h, (s.slots.call t).handle ≠ some h) (hpc : s'.pc = Function.update s.pc t q)
    (hslots : s'.slots = s.slots) (hearly : s'.early = s.early) (hdirty : s'.dirty = s.dirty)
    (hreader : ∀ r, s'.readerLive r = true → r = s'.readerThread ∧ r < s'.readers)
    (hat : s'.At q) (hquiet : s'.active = false → s'.Quiet)
    (hpassed : ∀ h, q.passed h → (s.slots.slot h).active = false) : s'.Inv :=
  hs.solo (hs.others hbusy) hpc (hslots ▸ hs.slots) (hslots ▸ hs.high) (fun _ _ => by rw [hslots])
    (fun h hh => absurd (hslots ▸ hh) (hcall h))
    (fun _ => (hs.inside t hbusy).mono fun _ _ h => hslots ▸ h) hat
    (fun h => absurd (hq.symm.trans h) (by decide))
    hquiet (fun h hh _ => hslots ▸ hpassed h hh) hreader (hearly ▸ hs.early) (hdirty ▸ hs.dirty)

/-- A step that moves on to `q` and changes nothing else. -/
theorem Engine.Inv.move {s : Engine} (hs : s.Inv) {t : Thread} {q : Pc}
    (hbusy : (s.pc t).busy = true) (hcall : ∀ h, (s.slots.call t).handle ≠ some h)
    (hq : q.busy = true) (hat : s.At q)
    (hpassed : ∀ h, q.passed h → (s.slots.slot h).active = false) : (s.setPc t q).Inv :=
  hs.advance hbusy hq hcall rfl rfl rfl rfl hs.reader hat hs.quiet hpassed

theorem Engine.Inv.alive_eq {s : Engine} (hs : s.Inv) (hq : s.Quiet) : s.alive = false := by
  have hexited : ∀ c, (s.slots.consumer c).live = false := fun c => by
    by_contra hc
    have := (hs.slots.live c (by simpa using hc)).1
    simp [hq.2.1] at this
  simp [alive, hexited, hq.1]

/-- A call that returns from a quiet device leaves it so. -/
theorem Engine.Inv.done {s : Engine} (hs : s.Inv) {t : Thread}
    (halone : ∀ u, u ≠ t → (s.pc u).busy = false) (hactive : s.active = false) :
    (s.done t).Inv := by
  have hq := hs.quiet hactive
  refine hs.solo (q := .idle) halone rfl hs.slots hs.high (fun _ _ => rfl) (fun _ _ => .inl rfl)
    nofun trivial (fun _ h => ?_) hs.quiet (fun _ h => h.elim) hs.reader hs.early ?_
  · rw [show s.active = true from h] at hactive
    cases hactive
  · simp [Engine.done, hs.dirty, hs.alive_eq hq, hq.2.2]

theorem Engine.Inv.destroy_done {s : Engine} (hs : s.Inv) {t : Thread} (hbusy : (s.pc t).busy = true)
    (hactive : s.active = false) : (s.destroy.done t).Inv := by
  have hsame : s.destroy = s := by simp [Engine.destroy, hs.alive_eq (hs.quiet hactive)]
  rw [hsame]
  exact hs.done (hs.others hbusy) hactive

/-- A `stop` that finds no stream changes nothing, also beside a `start`. -/
theorem Engine.Inv.done_eq {s : Engine} (hs : s.Inv) {t : Thread} (hpc : s.pc t = .idle)
    (hactive : s.active = false) : s.done t = s := by
  have hq := hs.quiet hactive
  have hsame : Function.update s.pc t .idle = s.pc := by rw [← hpc, Function.update_eq_self]
  have hdirty : (s.dirty || s.alive || s.readerStarted) = s.dirty := by
    simp [hs.alive_eq hq, hq.2.2]
  simp only [Engine.done, Engine.setPc, hsame, hdirty]

/-! ### The first sections of `subscribe` and `unsubscribe` -/

/-- What a section of `subscribe` does to the slots. -/
theorem Slots.step_subscribe {s t : Slots} {created : Bool}
    (hstep : s.step (.subscribe created) = some t) :
    (t = s ∧ s.free = none) ∨
    (∃ h, created = false ∧ s.free = some h ∧ t = s.setSlot h { s.slot h with cancel := false }) ∨
    (∃ h, created = true ∧ s.free = some h ∧ t = s.occupy h) := by
  simp only [Slots.step] at hstep
  split at hstep <;> obtain rfl := Option.some_inj.mp hstep
  · exact .inl ⟨rfl, ‹_›⟩
  · cases created
    · exact .inr (.inl ⟨_, rfl, ‹_›, rfl⟩)
    · exact .inr (.inr ⟨_, rfl, ‹_›, rfl⟩)

/-- What the first section of `unsubscribe` does to the slots. -/
theorem Slots.step_begin {s t : Slots} {caller : Thread} {h : Nat}
    (hstep : s.step (.begin caller h) = some t) :
    (t = s ∧ (maxSubscribers ≤ h ∨ (s.slot h).active = false)) ∨
    t = (s.setSlot h { s.slot h with cancel := true }).setCall caller (.test h) := by
  simp only [Slots.step] at hstep
  split at hstep
  · split at hstep <;> obtain rfl := Option.some_inj.mp hstep
    · exact .inr rfl
    · rename_i hno
      refine .inl ⟨rfl, ?_⟩
      by_cases hh : h < maxSubscribers
      · exact .inr (by simpa [hh] using hno)
      · exact .inl (Nat.not_lt.mp hh)
  · cases hstep

/-- A consumer that runs goes on, or leaves its loop. -/
theorem Slots.step_lives {s t : Slots} {a : SlotStep} (hstep : s.step a = some t) {c : Nat}
    (hc : (s.consumer c).live = true) : (t.consumer c).live = true ∨ a = .exit c := by
  cases a with
  | subscribe created =>
    obtain ⟨rfl, -⟩ | ⟨h, -, -, rfl⟩ | ⟨h, -, -, rfl⟩ := step_subscribe hstep
    · exact .inl hc
    · exact .inl hc
    · simp only [occupy, setSlot, setConsumer, Function.update_apply]
      split
      · exact .inl rfl
      · exact .inl hc
  | begin u h =>
    obtain ⟨rfl, -⟩ | rfl := step_begin hstep <;> exact .inl hc
  | join u =>
    simp only [Slots.step] at hstep
    split at hstep
    · split at hstep
      · obtain rfl := Option.some_inj.mp hstep
        exact .inl hc
      split at hstep
      · cases hstep
      · obtain rfl := Option.some_inj.mp hstep
        simp only [setCall, setConsumer, Function.update_apply]
        split
        · rename_i heq
          exact .inl (heq ▸ hc)
        · exact .inl hc
    · cases hstep
  | test u | clear u | finish u =>
    simp only [Slots.step] at hstep
    split at hstep
    · obtain rfl := Option.some_inj.mp hstep
      exact .inl hc
    · cases hstep
  | exit d =>
    simp only [Slots.step] at hstep
    split at hstep
    · obtain rfl := Option.some_inj.mp hstep
      simp only [setConsumer, Function.update_apply]
      split
      · rename_i heq
        exact .inr (heq ▸ rfl)
      · exact .inl hc
    · cases hstep

theorem Slots.occupy_active {s : Slots} {h k : Nat} :
    ((s.occupy h).slot k).active = if k = h then true else (s.slot k).active := by
  simp only [occupy, setSlot, setConsumer, Function.update_apply]
  split <;> rfl

theorem Slots.setCancel_active {s : Slots} {h k : Nat} {cancel : Bool} :
    ((s.setSlot h { s.slot h with cancel }).slot k).active = (s.slot k).active := by
  simp only [setSlot, Function.update_apply]
  split
  · rename_i heq
    rw [heq]
  · rfl

/-- A thread that is in neither `start` nor `stop` enters or leaves `subscribe`. -/
theorem Engine.Inv.setPc {s : Engine} (hs : s.Inv) {t : Thread} {q : Pc}
    (hpc : (s.pc t).busy = false) (hq : q.busy = false)
    (hcall : q = .idle ∨ s.slots.call t = .idle) : (s.setPc t q).Inv where
  slots := hs.slots
  high := hs.high
  calling u h hu := by
    simp only [Engine.setPc, Function.update_apply] at hu ⊢
    split
    · rename_i heq
      rcases hcall with hidle | hidle
      · exact .inl hidle
      · rw [heq, hidle] at hu
        cases hu
    · exact hs.calling u h hu
  one u v hu hv := by
    simp only [Engine.setPc, Function.update_apply] at hu hv
    have := hs.one u v
    grind
  inside u hu := by
    simp only [Engine.setPc, Function.update_apply] at hu
    split at hu
    · exact absurd (hu.symm.trans hq) (by decide)
    · exact (hs.inside u hu).mono fun _ _ h => h
  phase u := by
    simp only [Engine.setPc, Function.update_apply]
    split
    · exact .of_not_busy hq
    · exact hs.phase u
  rest hactive hnone := hs.rest hactive fun u => by
    have := hnone u
    simp only [Engine.setPc, Function.update_apply] at this
    grind
  quiet := hs.quiet
  passed u h hu hcall := by
    simp only [Engine.setPc, Function.update_apply] at hu
    split at hu
    · exact absurd hu (Pc.not_passed hq h)
    · exact hs.passed u h hu hcall
  reader := hs.reader
  early := hs.early
  dirty := hs.dirty

/-- The section of a `subscribe` that takes no slot, or takes one of an active stream that nobody has
passed. -/
theorem Engine.Inv.subscribe {s : Engine} (hs : s.Inv) {slots : Slots} {created : Bool}
    (hstep : s.slots.step (.subscribe created) = some slots)
    (hord : created = true → ∀ h, s.slots.free = some h →
      s.active = true ∧ ∀ u, ¬(s.pc u).passed h) : Engine.Inv { s with slots } := by
  have hinv := hs.slots.step (a := .subscribe created) trivial hstep
  obtain ⟨rfl, -⟩ | ⟨h, rfl, -, rfl⟩ | ⟨h, rfl, hfree, rfl⟩ := Slots.step_subscribe hstep
  · exact hs
  · refine hs.guest hinv (fun k hk => ?_) hs.calling (fun _ _ hc => hc) (fun hq k => ?_)
      (fun u k hu hk => ?_) fun _ hr => hr <;> rw [Slots.setCancel_active]
    · exact hs.high k hk
    · exact (hs.quiet hq).2.1 k
    · exact hs.passed u k hu hk
  · obtain ⟨hactive, hnot⟩ := hord rfl h hfree
    refine hs.guest hinv (fun k hk => ?_) hs.calling
      (fun c _ hc => (Slots.step_lives hstep hc).resolve_right (by simp)) (fun hq => ?_)
      (fun u k hu hk => ?_) fun _ hr => hr
    · have := (Slots.free_spec hfree).1
      rw [Slots.occupy_active, if_neg (by omega)]
      exact hs.high k hk
    · rw [hactive] at hq
      cases hq
    · have hne : k ≠ h := fun heq => hnot u (heq ▸ hu)
      rw [Slots.occupy_active, if_neg hne]
      exact hs.passed u k hu hk

/-! ### The steps of `start` -/

theorem Slots.Inv.reset {s : Slots} (hs : s.Inv) (hfree : ∀ h, (s.slot h).active = false) :
    s.reset.Inv := by
  have hnone : ∀ t h, (s.call t).handle ≠ some h := fun t h ht =>
    absurd ((hs.active t h ht).symm.trans (hfree h)) (by decide)
  have hcallers := hs.toCallers
  obtain ⟨-, alone, active, unborn, live, joins, unjoined, known, started, joining, clearing,
    finishing, count⟩ := hs
  refine ⟨⟨hcallers.runs, hcallers.apart⟩, ?_, ?_, ?_, ?_, ?_, ?_, ?_, ?_, ?_, ?_, ?_, ?_⟩ <;>
    simp only [Slots.reset] <;> grind

/-- `ring_init` finds nobody on the ring. -/
theorem Engine.Inv.startInit {s : Engine} (hs : s.Inv) {t : Thread} (hpc : s.pc t = .startInit) :
    Engine.Inv { s.setPc t .startCancel with slots := s.slots.reset } := by
  have hactive : s.active = false := by simpa [hpc, At] using hs.phase t
  have hbusy : (s.pc t).busy = true := by rw [hpc]; rfl
  have hq := hs.quiet hactive
  exact hs.solo (q := .startCancel) (hs.others hbusy) rfl (hs.slots.reset hq.2.1) (fun _ _ => rfl)
    (fun _ _ => rfl) (fun h hh => absurd hh (hs.no_call hbusy (by simp [hpc]) h))
    (fun _ => (hs.inside t hbusy).mono fun _ _ h => h) hactive nofun
    (fun _ => ⟨hq.1, fun _ => rfl, hq.2.2⟩) (fun _ h => h.elim) hs.reader hs.early hs.dirty

/-- The reader that `start` creates is the only one. -/
theorem Engine.Inv.startCreate {s : Engine} (hs : s.Inv) {t : Thread} (hpc : s.pc t = .startCreate) :
    Engine.Inv { s.setPc t .startMark with
      readerThread := s.readers
      readerLive := Function.update s.readerLive s.readers true
      readers := s.readers + 1 } := by
  obtain ⟨hactive, hstarted, hnone⟩ : s.active = true ∧ s.readerStarted = false ∧ _ := by
    simpa [hpc, At] using hs.phase t
  have hbusy : (s.pc t).busy = true := by rw [hpc]; rfl
  refine hs.advance (q := .startMark) hbusy rfl (hs.no_call hbusy (by simp [hpc])) rfl rfl rfl rfl
    (fun r hr => ?_) hactive (fun h => ?_) fun _ h => h.elim
  · simp only [Function.update_apply] at hr
    split at hr
    · rename_i heq
      exact ⟨heq, heq ▸ Nat.lt_succ_self _⟩
    · rw [hnone r] at hr
      cases hr
  · rw [show s.active = false from h] at hactive
    cases hactive

/-- The subscription of `start` itself, which finds the stream active. -/
theorem Engine.Inv.startSubscribe {s : Engine} (hs : s.Inv) {t : Thread} {slots : Slots}
    (hpc : s.pc t = .startSubscribe) (hstep : s.slots.step (.subscribe true) = some slots) :
    Engine.Inv { s.setPc t .idle with slots } := by
  obtain ⟨hactive, hstarted⟩ : s.active = true ∧ s.readerStarted = true := by
    simpa [hpc, At] using hs.phase t
  have hbusy : (s.pc t).busy = true := by rw [hpc]; rfl
  have hnone : ∀ h u, ¬(s.pc u).passed h := fun h u hu => by
    by_cases heq : u = t
    · simp [heq, hpc, Pc.passed] at hu
    · exact Pc.not_passed (hs.others hbusy u heq) h hu
  have hsub := hs.subscribe hstep fun _ h _ => ⟨hactive, hnone h⟩
  exact hsub.solo (q := .idle) (hs.others hbusy) rfl hsub.slots hsub.high (fun _ _ => rfl)
    (fun _ _ => .inl rfl) nofun trivial (fun _ _ => hstarted) hsub.quiet (fun _ h => h.elim) hsub.reader
    hsub.early hsub.dirty

/-! ### The steps of `stop` -/

theorem Slots.begin_active {s t : Slots} {caller : Thread} {h k : Nat}
    (hstep : s.step (.begin caller h) = some t) : (t.slot k).active = (s.slot k).active := by
  obtain ⟨rfl, -⟩ | rfl := Slots.step_begin hstep
  · rfl
  · exact setCancel_active

/-- The first section changes the call of its thread only, which it takes to its slot if at all. -/
theorem Slots.begin_call {s t : Slots} {caller : Thread} {h : Nat}
    (hstep : s.step (.begin caller h) = some t) :
    (∀ u, u ≠ caller → t.call u = s.call u) ∧ (t.call caller = s.call caller ∨
      (t.call caller).handle = some h) := by
  obtain ⟨rfl, -⟩ | rfl := Slots.step_begin hstep
  · exact ⟨fun _ _ => rfl, .inl rfl⟩
  · simp only [setCall, setSlot, Function.update_self]
    exact ⟨fun u hu => Function.update_of_ne hu _ _, .inr rfl⟩

/-- A thread that is in neither `start` nor `stop` begins to unsubscribe. -/
theorem Engine.Inv.unsubscribe {s : Engine} (hs : s.Inv) {t : Thread} {h : Nat} {slots : Slots}
    (hpc : s.pc t = .idle) (halone : s.slots.Alone (.begin t h))
    (hstep : s.slots.step (.begin t h) = some slots) : Engine.Inv { s with slots } := by
  obtain ⟨hothers, -⟩ := Slots.begin_call hstep
  refine hs.guest (hs.slots.step halone hstep) (fun k hk => ?_) (fun u k hu => ?_)
    (fun c _ hc => (Slots.step_lives hstep hc).resolve_right (by simp)) (fun hq k => ?_) (fun u k hu hk => ?_) fun _ hr => hr
  · rw [Slots.begin_active hstep]
    exact hs.high k hk
  · by_cases heq : u = t
    · exact .inl (heq ▸ hpc)
    · exact hs.calling u k (hothers u heq ▸ hu)
  · rw [Slots.begin_active hstep]
    exact (hs.quiet hq).2.1 k
  · rw [Slots.begin_active hstep]
    by_cases heq : u = t
    · rw [heq, hpc] at hu
      exact hu.elim
    · exact hs.passed u k hu (hothers u heq ▸ hk)

/-- `stop` begins to unsubscribe a slot. -/
theorem Engine.Inv.stopCall {s : Engine} (hs : s.Inv) {t : Thread} {i : Nat} {slots : Slots}
    (hpc : s.pc t = .stopCall i) (halone : s.slots.Alone (.begin t i))
    (hstep : s.slots.step (.begin t i) = some slots) :
    Engine.Inv { s.setPc t (.stopWait i) with slots } := by
  have hbusy : (s.pc t).busy = true := by rw [hpc]; rfl
  have hat : s.active = true ∧ s.readerStarted = true := by simpa [hpc, At] using hs.phase t
  have hcall := hs.no_call hbusy (by simp [hpc])
  obtain ⟨hothers, hown⟩ := Slots.begin_call hstep
  refine hs.solo (q := .stopWait i) (hs.others hbusy) rfl (hs.slots.step halone hstep)
    (fun k hk => ?_) hothers (fun h hh => ?_) (fun _ => (hs.inside t hbusy).mono fun c _ hc => ?_) hat
    nofun (fun hq => ?_) (fun h hh hne => ?_) hs.reader hs.early hs.dirty
  · rw [Slots.begin_active hstep]
    exact hs.high k hk
  · rcases hown with hown | hown
    · exact absurd (hown ▸ hh) (hcall h)
    · rw [Option.some_inj.mp (hown.symm.trans hh)]
      exact .inr rfl
  · exact (Slots.step_lives hstep hc).resolve_right (by simp)
  · exact absurd (hat.1.symm.trans hq) (by decide)
  · obtain ⟨rfl, hfree⟩ | rfl := Slots.step_begin hstep
    · rcases Nat.lt_or_eq_of_le hh with hlt | rfl
      · exact hs.passed t h (by rw [hpc]; exact hlt) (hcall h)
      · exact hfree.elim (hs.high h) id
    · rcases Nat.lt_or_eq_of_le hh with hlt | rfl
      · rw [Slots.begin_active hstep]
        exact hs.passed t h (by rw [hpc]; exact hlt) (hcall h)
      · simp [Slots.setCall, Call.handle] at hne

/-! ### Every step -/

/-- Only a thread of the application waits for a reader: a consumer that did would have passed its own
slot. -/
theorem Engine.Inv.joins_app {s : Engine} (hs : s.Inv) {t : Thread} {r : Nat}
    (h : s.joins t = some r) : ∃ n, t = .app n := by
  cases hpc : s.pc t <;> simp only [joins, hpc, reduceCtorEq] at h
  case undoJoin => exact absurd (hs.phase t) (by simp [hpc, At])
  case stopJoin reader =>
    have hbusy : (s.pc t).busy = true := by rw [hpc]; rfl
    have hin := hs.inside t hbusy
    cases t with
    | app n => exact ⟨n, rfl⟩
    | consumer c =>
      have hfree := hs.passed (.consumer c) (s.slots.consumer c).slot (by rw [hpc]; trivial)
        (hs.no_call hbusy (by simp [hpc]) _)
      exact absurd (hfree.symm.trans (hs.slots.live c hin).1) (by decide)
    | reader r => exact hin.elim

/-- A thread that runs may enter `start` or `stop` if it is no reader. -/
theorem Engine.inside_of_runs {s : Engine} {t : Thread} (hruns : s.runs t = true)
    (hreader : ∀ r, t = .reader r → s.readerLive r = false) : s.Inside t := by
  cases t with
  | app n => trivial
  | consumer c => exact hruns
  | reader r => exact absurd (hruns.symm.trans (hreader r rfl)) (by decide)

/-- A step of `start`, of `stop`, or of a `subscribe` that has found the stream active. -/
theorem Engine.Inv.go {s s' : Engine} (hs : s.Inv) {t : Thread} {ok : Bool}
    (hord : s.Ordered (.go t ok)) (hstep : s.step (.go t ok) = some s') : s'.Inv := by
  have hat := hs.phase t
  have hpassed := hs.passed t
  have hbusy : ∀ {pc : Pc}, s.pc t = pc → pc.busy = true → (s.pc t).busy = true := by
    rintro _ rfl h
    exact h
  simp only [Engine.step] at hstep
  simp only [Engine.Ordered] at hord
  cases hpc : s.pc t <;> rw [hpc] at hstep hat hord hpassed
  case idle => cases hstep
  case subscribe =>
    obtain ⟨slots, hslots, rfl⟩ := Option.map_eq_some_iff.mp hstep
    exact (hs.subscribe hslots hord).setPc (by rw [hpc]; rfl) rfl (.inl rfl)
  all_goals have hb := hbusy hpc rfl
  case startInit =>
    obtain rfl := Option.some_inj.mp hstep
    cases ok
    · exact hs.done (hs.others hb) hat
    · exact hs.startInit hpc
  case startCreate =>
    obtain rfl := Option.some_inj.mp hstep
    cases ok
    · exact hs.move hb (hs.no_call hb (by simp [hpc])) rfl hat fun h _ => hord.resolve_left nofun h
    · exact hs.startCreate hpc
  case startSubscribe =>
    obtain ⟨rfl, hfree⟩ := hord
    obtain ⟨slots, hslots, rfl⟩ := Option.map_eq_some_iff.mp hstep
    rw [if_pos ⟨Option.isSome_iff_ne_none.mpr hfree, rfl⟩]
    exact hs.startSubscribe hpc hslots
  case undoDestroy | stopDestroy =>
    obtain rfl := Option.some_inj.mp hstep
    exact hs.destroy_done hb hat
  case stopCall i =>
    obtain ⟨slots, hslots, rfl⟩ := Option.map_eq_some_iff.mp hstep
    exact hs.stopCall hpc hord hslots
  case stopWait i =>
    simp only [Engine.go] at hstep
    split at hstep
    · rename_i hidle
      obtain rfl := Option.some_inj.mp hstep
      have hcall : ∀ h, (s.slots.call t).handle ≠ some h := by simp [hidle, Call.handle]
      exact hs.move hb hcall rfl hat fun h hh => hpassed h (Nat.lt_succ_iff.mp hh) (hcall h)
    · cases hstep
  all_goals have hcall := hs.no_call hb (by simp [hpc])
  all_goals have hfree := fun h hh => hpassed h hh (hcall h)
  case stopScan i =>
    obtain rfl := Option.some_inj.mp hstep
    split
    · rename_i hi
      split
      · exact hs.move hb hcall rfl hat hfree
      · rename_i hslot
        refine hs.move hb hcall rfl hat fun h hh => ?_
        rcases Nat.lt_or_eq_of_le (Nat.lt_succ_iff.mp hh) with hlt | rfl
        · exact hfree h hlt
        · simpa using hslot
    · rename_i hi
      refine hs.move hb hcall rfl hat fun h _ => ?_
      rcases Nat.lt_or_ge h i with hlt | hge
      · exact hfree h hlt
      · exact hs.high h (by omega)
  case startTest =>
    rw [Engine.go, if_pos hat.1] at hstep
    obtain rfl := Option.some_inj.mp hstep
    exact hs.move hb hcall rfl hat nofun
  case undoCancel | undoJoin => exact hat.elim
  case stopTest =>
    rw [Engine.go, if_pos hat.2] at hstep
    obtain rfl := Option.some_inj.mp hstep
    exact hs.move hb hcall rfl ⟨hat.1, rfl⟩ hfree
  case stopJoin reader =>
    have hwaits : s.refused t reader = false := by
      obtain ⟨n, rfl⟩ := hs.joins_app (t := t) (r := reader) (by rw [joins, hpc])
      rfl
    simp only [Engine.go, hwaits] at hstep
    split at hstep
    · cases hstep
    · rename_i hexited
      obtain rfl := Option.some_inj.mp hstep
      refine hs.move hb hcall rfl ⟨hat.1, fun r => ?_⟩ hfree
      by_contra hlive
      have hr := (hs.reader r (by simpa using hlive)).1
      rw [hr, ← hat.2] at hlive
      exact hexited (by simpa using hlive)
  case startCancel | stopCancel =>
    obtain rfl := Option.some_inj.mp hstep
    exact hs.advance hb rfl hcall rfl rfl rfl rfl hs.reader hat hs.quiet hfree
  case startActive =>
    obtain rfl := Option.some_inj.mp hstep
    have hq := hs.quiet hat
    exact hs.advance hb rfl hcall rfl rfl rfl rfl hs.reader ⟨rfl, hq.2.2, hq.1⟩ nofun nofun
  case startMark =>
    obtain rfl := Option.some_inj.mp hstep
    refine hs.advance hb rfl hcall rfl rfl rfl rfl hs.reader ⟨hat, rfl⟩ (fun hq => ?_) nofun
    exact absurd (hat.symm.trans hq) (by decide)
  case stopMark =>
    obtain rfl := Option.some_inj.mp hstep
    refine hs.advance hb rfl hcall rfl rfl rfl rfl hs.reader ⟨hat.1, rfl, hat.2⟩ (fun hq => ?_) hfree
    exact absurd (hat.1.symm.trans hq) (by decide)
  case undoActive | stopActive =>
    obtain rfl := Option.some_inj.mp hstep
    exact hs.advance hb rfl hcall rfl rfl rfl rfl hs.reader rfl
      (fun _ => ⟨hat.2.2, fun h => hfree h trivial, hat.2.1⟩) hfree

theorem Engine.Inv.call {s s' : Engine} (hs : s.Inv) {t : Thread} {op : Op}
    (hord : s.Ordered (.call t op)) (hstep : s.step (.call t op) = some s') : s'.Inv := by
  simp only [Engine.step] at hstep
  split at hstep
  · rename_i hidle
    have hcall : ∀ h, (s.slots.call t).handle ≠ some h := by simp [hidle.2.1, Call.handle]
    cases op with
    | start =>
      obtain ⟨hactive, hnone⟩ := hord
      simp only [Engine.enter, hactive, Bool.false_eq_true, ↓reduceIte] at hstep
      obtain rfl := Option.some_inj.mp hstep
      refine hs.solo (q := .startInit) (fun u _ => hnone u) rfl hs.slots hs.high (fun _ _ => rfl)
        (fun h hh => absurd hh (hcall h)) (fun _ => ?_) hactive nofun hs.quiet (fun _ h => h.elim)
        hs.reader hs.early hs.dirty
      exact Engine.inside_of_runs hidle.2.2 fun r _ => (hs.quiet hactive).1 r
    | stop =>
      obtain rfl := Option.some_inj.mp hstep
      split
      · rename_i hactive
        obtain ⟨hnone, houtside⟩ := hord hactive
        refine hs.solo (q := .stopScan 0) (fun u _ => hnone u) rfl hs.slots hs.high (fun _ _ => rfl)
          (fun h hh => absurd hh (hcall h)) (fun _ => ?_) ⟨hactive, hs.rest hactive hnone⟩ nofun
          hs.quiet (fun h hh => absurd hh (Nat.not_lt_zero h)) hs.reader hs.early hs.dirty
        exact Engine.inside_of_runs hidle.2.2 fun r heq => absurd heq (houtside r)
      · rename_i hactive
        rw [hs.done_eq hidle.1 (by simpa using hactive)]
        exact hs
    | subscribe =>
      obtain rfl := Option.some_inj.mp hstep
      split
      · exact hs.setPc (by rw [hidle.1]; rfl) rfl (.inr hidle.2.1)
      · exact hs
    | unsubscribe h =>
      obtain ⟨slots, hslots, rfl⟩ := Option.map_eq_some_iff.mp hstep
      exact hs.unsubscribe hidle.1 hord hslots
  · cases hstep

/-- The steps of `unsubscribe` after its first section, and the exit of a consumer that is in no call.
No `pthread_join` of a consumer is refused for a wait in `stop`. -/
theorem Engine.Inv.step_slots {s s' : Engine} (hs : s.Inv) {a : SlotStep}
    (hsub : ∀ b, a ≠ .subscribe b) (hbegin : ∀ u h, a ≠ .begin u h)
    (hstep : s.step (.slots a) = some s') :
    (∃ slots, s.slots.step a = some slots ∧ { s with slots } = s') ∧
      ∀ c, a = .exit c → s.pc (.consumer c) = .idle := by
  cases a with
  | subscribe b => exact absurd rfl (hsub b)
  | begin u h => exact absurd rfl (hbegin u h)
  | exit c =>
    simp only [Engine.step] at hstep
    split at hstep
    · rename_i hidle
      exact ⟨Option.map_eq_some_iff.mp hstep, fun d heq => SlotStep.exit.inj heq ▸ hidle⟩
    · cases hstep
  | join caller =>
    refine ⟨?_, by simp⟩
    simp only [Engine.step] at hstep
    split at hstep
    · rename_i h c hcall
      have huncrossed : s.crossed caller c = false := by
        cases caller with
        | app | consumer => rfl
        | reader r =>
          refine beq_eq_false_iff_ne.mpr fun hjoins => ?_
          obtain ⟨n, hn⟩ := hs.joins_app hjoins
          cases hn
      rw [huncrossed] at hstep
      exact Option.map_eq_some_iff.mp hstep
    · cases hstep
  | test | clear | finish => exact ⟨Option.map_eq_some_iff.mp hstep, by simp⟩

theorem Engine.Inv.step {s s' : Engine} (hs : s.Inv) {a : EngineStep} (hord : s.Ordered a)
    (hstep : s.step a = some s') : s'.Inv := by
  cases a with
  | call t op => exact hs.call hord hstep
  | go t ok => exact hs.go hord hstep
  | slots a =>
    have hsub : ∀ b, a ≠ .subscribe b := by rintro b rfl; cases hstep
    have hbegin : ∀ u h, a ≠ .begin u h := by rintro u h rfl; cases hstep
    obtain ⟨⟨slots, hslots, rfl⟩, hidle⟩ := hs.step_slots hsub hbegin hstep
    have hcloses := Slots.step_closes hsub hbegin hslots
    have halone : s.slots.Alone a := by
      cases a <;> trivial
    refine hs.guest (hs.slots.step halone hslots) (fun h hh => hcloses.slot h (hs.high h hh))
      (fun u h hu => hs.calling u h (hcloses.stays u h hu)) (fun c hc hlive => ?_)
      (fun hq h => hcloses.slot h ((hs.quiet hq).2.1 h)) (fun u h hu hcall => ?_) fun _ hr => hr
    · refine (Slots.step_lives hslots hlive).resolve_right fun heq => ?_
      rw [hidle c heq] at hc
      cases hc
    · by_cases hat : (s.slots.call u).handle = some h
      · exact hcloses.leaves u h hat hcall
      · exact hcloses.slot h (hs.passed u h hu hat)
  | readerExit r =>
    simp only [Engine.step] at hstep
    split at hstep
    · obtain rfl := Option.some_inj.mp hstep
      refine hs.guest hs.slots hs.high hs.calling (fun _ _ hc => hc) (fun hq => (hs.quiet hq).2.1)
        hs.passed fun r' hr' => ?_
      simp only [Function.update_apply] at hr'
      split at hr'
      · cases hr'
      · exact hr'
    · cases hstep

theorem engineInit_inv : engineInit.Inv where
  slots := slotsInit_inv
  high _ _ := rfl
  calling _ _ _ := .inl rfl
  one _ _ h := nomatch h
  inside _ h := nomatch h
  phase _ := trivial
  rest h := nomatch h
  quiet _ := ⟨fun _ => rfl, fun _ => rfl, rfl⟩
  passed _ _ h := h.elim
  reader _ h := nomatch h
  early := rfl
  dirty := rfl

/-- In the runs whose steps are all ordered, `ring_destroy` never runs while a reader or a consumer
is alive, and `stop`, or `start` with an error, returns with none alive and `reader_started` false. -/
theorem ring_outlives_users {as : List EngineStep} {t : Engine}
    (hord : Along Engine.step Engine.Ordered engineInit as)
    (hrun : run Engine.step engineInit as = some t) : t.early = false ∧ t.dirty = false := by
  have hs := hord.invariant (I := Engine.Inv) (fun _ _ _ hs ha hstep => hs.step ha hstep)
    engineInit_inv hrun
  exact ⟨hs.early, hs.dirty⟩

/-- `start` by a thread of the application. -/
def startRun : List EngineStep :=
  .call (.app 0) .start :: List.replicate 7 (.go (.app 0) true)

/-- The unsubscription of slot 0 in `stop` by `caller`. -/
def unsubscribeRun (caller : Thread) : List EngineStep :=
  [.slots (.test caller), .slots (.join caller), .slots (.clear caller), .slots (.finish caller)]

/-- A stream is started and stopped by one thread. -/
def startStop : List EngineStep :=
  startRun ++ [.call (.app 0) .stop, .go (.app 0) true, .go (.app 0) true, .slots (.exit 0)] ++
    unsubscribeRun (.app 0) ++ List.replicate 11 (.go (.app 0) true) ++ [.readerExit 0] ++
    List.replicate 4 (.go (.app 0) true)

theorem ring_outlives_users_once : ∃ t, run Engine.step engineInit startStop = some t ∧
    t.readers = 1 ∧ t.pc (.app 0) = .idle ∧ t.early = false ∧ t.dirty = false := by
  have hord : Along Engine.step Engine.Ordered engineInit startStop := by
    refine .cons ⟨rfl, fun _ => rfl⟩ rfl ?_
    iterate 3 refine .cons trivial rfl ?_
    refine .cons (.inl rfl) rfl ?_
    iterate 2 refine .cons trivial rfl ?_
    refine .cons ⟨rfl, by decide⟩ rfl ?_
    refine .cons (fun _ => ⟨fun u => ?_, fun _ h => ?_⟩) rfl ?_
    · obtain (_ | _) | _ | _ := u <;> rfl
    · cases h
    refine .cons trivial rfl (.cons (fun _ => ⟨fun _ h => ?_, trivial⟩) rfl ?_)
    · cases h
    iterate 21 refine .cons trivial rfl ?_
    trivial
  have hends : ∃ t ∈ run Engine.step engineInit startStop,
      t.readers = 1 ∧ t.pc (.app 0) = .idle := by
    decide +kernel
  obtain ⟨t, ht, hreaders, hpc⟩ := hends
  exact ⟨t, ht, hreaders, hpc, ring_outlives_users hord ht⟩

/-- A `subscribe` that has found the stream active takes a slot after `stop` has looked at it, and its
consumer is alive when `ring_destroy` runs.  A `start` whose own `subscribe` gets no thread returns with
`reader_started` set.  When a callback calls `stop`, of a subscriber or of the reader for the device
that is gone, its thread is alive when `ring_destroy` runs. -/
theorem ring_destroyed_under_consumer :
    (∃ t, run Engine.step engineInit (startRun ++
      [.call (.app 1) .subscribe, .call (.app 0) .stop, .go (.app 0) true, .go (.app 0) true,
        .slots (.exit 0)] ++ unsubscribeRun (.app 0) ++
      List.replicate 9 (.go (.app 0) true) ++ [.go (.app 1) true] ++
      List.replicate 2 (.go (.app 0) true) ++ [.readerExit 0] ++
      List.replicate 4 (.go (.app 0) true)) = some t ∧
      t.early = true ∧ (t.slots.consumer 1).live = true ∧ t.pc (.app 0) = .idle) ∧
    (∃ t, run Engine.step engineInit ([.call (.app 0) .start] ++
      List.replicate 6 (.go (.app 0) true) ++ [.go (.app 0) false, .go (.app 0) true, .readerExit 0] ++
      List.replicate 3 (.go (.app 0) true)) = some t ∧
      t.readerStarted = true ∧ t.pc (.app 0) = .idle ∧ t.dirty = true) ∧
    (∃ t, run Engine.step engineInit (startRun ++
      [.call (.consumer 0) .stop, .go (.consumer 0) true, .go (.consumer 0) true] ++
      unsubscribeRun (.consumer 0) ++ List.replicate 11 (.go (.consumer 0) true) ++ [.readerExit 0] ++
      List.replicate 4 (.go (.consumer 0) true)) = some t ∧
      t.early = true ∧ (t.slots.consumer 0).live = true ∧ t.pc (.consumer 0) = .idle) ∧
    ∃ t, run Engine.step engineInit (startRun ++
      [.call (.reader 0) .stop, .go (.reader 0) true, .go (.reader 0) true, .slots (.exit 0)] ++
      unsubscribeRun (.reader 0) ++ List.replicate 15 (.go (.reader 0) true)) = some t ∧
      t.early = true ∧ t.readerLive 0 = true ∧ t.pc (.reader 0) = .idle := by
  simp only [← Option.mem_def]
  decide +kernel

end Sdrgg.Ring
