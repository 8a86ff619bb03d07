import Sdrgg.ProofKit.Run
import Mathlib.Data.Finset.Erase
import Mathlib.Data.Finset.Prod
import Mathlib.Data.Finset.Range

/-! The event thread of a context beside the readers of its devices that take their streams down and
the callers that stop and close them.  A URB goes by the number of the stream whose arena it lies in
and by its index there. -/

namespace Sdrgg.Usb

open ProofKit

/-- Where the reader thread of a device is; `idle` is before `start_stream` and after the join. -/
inductive ReaderStage where
  | idle
  | streaming
  | leaving
  | removed
  | discarding
  | cancelled
  | returned
deriving DecidableEq, Repr

/-- The reader has not begun to discard URBs. -/
def ReaderStage.live : ReaderStage → Bool
  | .streaming | .leaving | .removed => true
  | _ => false

/-- What the event thread reads of a device, with the URBs of it that the kernel holds. -/
structure StreamDev where
  stage : ReaderStage
  active : Bool
  cancelRequested : Bool
  disconnected : Bool
  registered : Bool
  watched : Bool
  freed : Bool
  streams : Nat
  arena : Option Nat
  kernel : Finset (Nat × Nat)

/-- Where the event thread is in `process_device_urbs`. -/
inductive PassPc where
  | reaping
  | reaped (urb : Nat × Nat)
  | delivering (urb : Nat × Nat)
  | delivered (urb : Nat × Nat)
  | submitting (urb : Nat × Nat)
deriving DecidableEq, Repr

/-- Where the event thread is: in `epoll_wait`, with the device pointers that it has fetched and not
looked at, in the polling fallback under `ctx->lock`, or in a pass. -/
inductive EventPc where
  | waiting
  | events (devs : List Nat)
  | polling (devs : List Nat)
  | testing (dev : Nat) (devs : List Nat)
  | pass (dev : Nat) (pc : PassPc) (polls : Bool) (devs : List Nat)
deriving DecidableEq, Repr

/-- The event thread goes on with the next device. -/
def EventPc.resume (polls : Bool) (devs : List Nat) : EventPc :=
  if polls then .polling devs else .events devs

/-- The event thread holds `ctx->lock`. -/
def EventPc.locks : EventPc → Bool
  | .polling _ | .testing _ _ => true
  | .pass _ _ polls _ => polls
  | _ => false

/-- The event thread has a pass over `d` before it, or under way. -/
def EventPc.holds (d : Nat) : EventPc → Prop
  | .events devs => d ∈ devs
  | .pass e _ polls devs => d = e ∨ (polls = false ∧ d ∈ devs)
  | _ => False

instance EventPc.decidableHolds (d : Nat) : ∀ event : EventPc, Decidable (event.holds d)
  | .waiting | .polling _ | .testing _ _ => .isFalse id
  | .events devs => inferInstanceAs (Decidable (d ∈ devs))
  | .pass e _ polls devs => inferInstanceAs (Decidable (d = e ∨ (polls = false ∧ d ∈ devs)))

/-- The devices, the event thread, and whether it has used a device or an arena entry that had been
freed, or has resubmitted a URB of a device that was discarding them. -/
structure Teardown where
  dev : Nat → StreamDev
  event : EventPc
  misused : Bool

inductive TearAct where
  | begin (dev count : Nat)
  | request (dev : Nat)
  | disconnect (dev : Nat)
  | leave (dev : Nat)
  | remove (dev : Nat)
  | discard (dev : Nat)
  | reapAll (dev : Nat) (left : Finset (Nat × Nat))
  | freeArena (dev : Nat)
  | deactivate (dev : Nat)
  | unregister (dev : Nat)
  | free (dev : Nat)
  | fetch (devs : List Nat)
  | poll (devs : List Nat)
  | go (urb : Option (Nat × Nat)) (accepted : Bool)
deriving DecidableEq

def Teardown.setDev (s : Teardown) (d : Nat) (v : StreamDev) : Teardown :=
  { s with dev := Function.update s.dev d v }

/-- The event thread reads or writes a field of device `d`. -/
def Teardown.touch (s : Teardown) (d : Nat) : Teardown :=
  { s with misused := s.misused || (s.dev d).freed }

/-- The event thread uses the arena entry of a URB of device `d`. -/
def Teardown.touchUrb (s : Teardown) (d : Nat) (urb : Nat × Nat) : Teardown :=
  { s with misused := s.misused || decide ((s.dev d).arena ≠ some urb.1) }

/-- `urb_submit` in a pass.  A stream whose last URB is lost is cancelled. -/
def Teardown.resubmit (s : Teardown) (d : Nat) (urb : Nat × Nat) (accepted : Bool) : Teardown :=
  let v := s.dev d
  if accepted then
    { s.setDev d { v with kernel := insert urb v.kernel } with
      misused := s.misused || !v.stage.live }
  else
    s.setDev d { v with cancelRequested := v.cancelRequested || decide (v.kernel = ∅) }

/-- The next step of the event thread, where `urb` is what `USBDEVFS_REAPURBNDELAY` hands back. -/
def Teardown.go (s : Teardown) (urb : Option (Nat × Nat)) (accepted : Bool) : Option Teardown :=
  match s.event with
  | .waiting | .events [] => none
  | .events (d :: devs) =>
    some { s.touch d with
      event := if (s.dev d).active then .pass d .reaping false devs else .events devs }
  | .polling [] => some { s with event := .waiting }
  | .polling (d :: devs) =>
    some { s.touch d with
      event := if (s.dev d).active then .testing d devs else .polling devs }
  | .testing d devs =>
    some { s.touch d with
      event := if (s.dev d).cancelRequested then .polling devs else .pass d .reaping true devs }
  | .pass d .reaping polls devs =>
    match urb with
    | none => some { s.touch d with event := .resume polls devs }
    | some u =>
      if u ∈ (s.dev d).kernel then
        let v := s.dev d
        some { ((s.touch d).touchUrb d u).setDev d { v with kernel := v.kernel.erase u } with
          event := .pass d (.reaped u) polls devs }
      else none
  | .pass d (.reaped u) polls devs =>
    some { s.touch d with
      event := .pass d (if (s.dev d).cancelRequested then .reaping else .delivering u) polls devs }
  | .pass d (.delivering u) polls devs =>
    some { (s.touch d).touchUrb d u with event := .pass d (.delivered u) polls devs }
  | .pass d (.delivered u) polls devs =>
    some { s.touch d with
      event := .pass d (if (s.dev d).cancelRequested then .reaping else .submitting u) polls devs }
  | .pass d (.submitting u) polls devs =>
    some { ((s.touch d).touchUrb d u).resubmit d u accepted with
      event := .pass d .reaping polls devs }

/-- A step of a reader, of a caller that starts, stops or closes a device, or of the event thread.
`reapAll` ends `urb_cancel_all` with `left` still in the kernel. -/
def Teardown.step (s : Teardown) : TearAct → Option Teardown
  | .begin d count =>
    let v := s.dev d
    if v.stage = .idle ∧ v.registered = true then
      some (s.setDev d { v with
        stage := .streaming
        active := true
        cancelRequested := false
        watched := true
        streams := v.streams + 1
        arena := some v.streams
        kernel := v.kernel ∪ {v.streams} ×ˢ Finset.range count })
    else none
  | .request d =>
    let v := s.dev d
    if v.active = true then some (s.setDev d { v with cancelRequested := true }) else none
  | .disconnect d => some (s.setDev d { s.dev d with disconnected := true })
  | .leave d =>
    let v := s.dev d
    if v.stage = .streaming ∧ (v.cancelRequested = true ∨ v.disconnected = true) then
      some (s.setDev d { v with stage := .leaving })
    else none
  | .remove d =>
    let v := s.dev d
    if v.stage = .leaving then some (s.setDev d { v with stage := .removed, watched := false })
    else none
  | .discard d =>
    let v := s.dev d
    if v.stage = .removed then some (s.setDev d { v with stage := .discarding }) else none
  | .reapAll d left =>
    let v := s.dev d
    if v.stage = .discarding ∧ left ⊆ v.kernel then
      some (s.setDev d { v with stage := .cancelled, kernel := left })
    else none
  | .freeArena d =>
    let v := s.dev d
    if v.stage = .cancelled then some (s.setDev d { v with stage := .returned, arena := none })
    else none
  | .deactivate d =>
    let v := s.dev d
    if v.stage = .returned ∧ v.cancelRequested = true then
      some (s.setDev d { v with stage := .idle, active := false })
    else none
  | .unregister d =>
    let v := s.dev d
    if v.registered = true ∧ s.event.locks = false then
      some (s.setDev d { v with registered := false })
    else none
  | .free d =>
    let v := s.dev d
    if v.registered = false ∧ v.stage = .idle then
      some (s.setDev d { v with freed := true, kernel := ∅ })
    else none
  | .fetch devs =>
    if s.event = .waiting ∧ ∀ d ∈ devs, (s.dev d).watched = true then
      some { s with event := .events devs }
    else none
  | .poll devs =>
    if s.event = .events [] ∧ ∀ d ∈ devs, (s.dev d).registered = true then
      some { s with event := .polling devs }
    else none
  | .go urb accepted => s.go urb accepted

/-- Devices that have just been opened. -/
def tearInit : Teardown where
  dev _ := ⟨.idle, false, false, false, true, false, false, 0, none, ∅⟩
  event := .waiting
  misused := false

/-- A reader begins to discard URBs only once the stream has been cancelled and while the event
thread neither is in a pass over its device nor has fetched it, and it reaps all that it
discards. -/
def Teardown.Apart (s : Teardown) : TearAct → Prop
  | .discard d => (s.dev d).cancelRequested = true ∧ ¬s.event.holds d
  | .reapAll _ left => left = ∅
  | _ => True

instance Teardown.decidableApart (s : Teardown) : ∀ a, Decidable (s.Apart a)
  | .discard d => inferInstanceAs
    (Decidable ((s.dev d).cancelRequested = true ∧ ¬s.event.holds d))
  | .reapAll _ left => inferInstanceAs (Decidable (left = ∅))
  | .begin _ _ | .request _ | .disconnect _ | .leave _ | .remove _ | .freeArena _ | .deactivate _
  | .unregister _ | .free _ | .fetch _ | .poll _ | .go _ _ => .isTrue trivial

/-! ### What holds of a device and of the event thread -/

/-- A device whose stream is up has the arena of its URBs; one whose stream is being taken down has
been cancelled, and between streams the kernel holds none of its URBs. -/
structure StreamDev.Sound (v : StreamDev) : Prop where
  active : v.stage.live = true → v.active = true
  arena : v.stage.live = true → ∃ g, v.arena = some g ∧ ∀ u ∈ v.kernel, u.1 = g
  watched : v.watched = true → v.stage = .streaming ∨ v.stage = .leaving
  cancelled : v.stage.live = false → v.stage ≠ .idle → v.cancelRequested = true
  drained : v.stage.live = false → v.stage ≠ .discarding → v.kernel = ∅
  idle : v.stage = .idle → v.active = false
  busy : v.stage ≠ .idle → v.freed = false
  registered : v.registered = true → v.freed = false

/-- The devices that the polling fallback has still to look at. -/
def EventPc.listed : EventPc → List Nat
  | .polling devs => devs
  | .testing d devs => d :: devs
  | .pass _ _ polls devs => if polls then devs else []
  | _ => []

/-- The URB that a pass over `d` has reaped and not given back. -/
def EventPc.urbOf (d : Nat) : EventPc → Option (Nat × Nat)
  | .pass e (.reaped u) _ _ | .pass e (.delivering u) _ _ | .pass e (.delivered u) _ _
  | .pass e (.submitting u) _ _ => if e = d then some u else none
  | _ => none

/-- What the event thread relies on when it goes on with device `d`. -/
structure EventPc.Safe (event : EventPc) (d : Nat) (v : StreamDev) : Prop where
  holds : event.holds d → v.stage.live = true
  listed : d ∈ event.listed → v.registered = true
  testing : ∀ devs, event = .testing d devs → v.stage.live = true ∨ v.cancelRequested = true
  urb : ∀ u ∈ event.urbOf d, v.arena = some u.1

structure Teardown.Inv (s : Teardown) : Prop where
  sound : ∀ d, (s.dev d).Sound
  safe : ∀ d, s.event.Safe d (s.dev d)
  misused : s.misused = false

section Steps

variable {s t : Teardown} {a : TearAct} {d : Nat} {v : StreamDev}

theorem StreamDev.Sound.not_freed (h : v.Sound) (hlive : v.stage.live = true) : v.freed = false := by
  apply h.busy
  intro hidle
  rw [hidle] at hlive
  cases hlive

theorem EventPc.holds_of_urbOf {event : EventPc} {u : Nat × Nat} (h : u ∈ event.urbOf d) :
    event.holds d := by
  unfold urbOf at h
  split at h
  all_goals first
    | cases h
    | (split at h
       · rename_i heq
         exact .inl heq.symm
       · cases h)

/-- A step that changes one device and leaves the event thread where it is. -/
theorem Teardown.Inv.setDev (h : s.Inv) (hsound : v.Sound) (hsafe : s.event.Safe d v) :
    (s.setDev d v).Inv := by
  refine ⟨fun e => ?_, fun e => ?_, h.misused⟩
  · by_cases heq : e = d
    · subst heq
      simp only [Teardown.setDev, Function.update_self]
      exact hsound
    · simp only [Teardown.setDev, Function.update_of_ne heq]
      exact h.sound e
  · by_cases heq : e = d
    · subst heq
      simp only [Teardown.setDev, Function.update_self]
      exact hsafe
    · simp only [Teardown.setDev, Function.update_of_ne heq]
      exact h.safe e

/-- Where the event thread has nothing of a device in hand, it relies on little. -/
theorem EventPc.Safe.of_not_holds {event : EventPc} (hholds : ¬event.holds d)
    (hlisted : d ∈ event.listed → v.registered = true)
    (htesting : ∀ devs, event = .testing d devs → v.stage.live = true ∨ v.cancelRequested = true) :
    event.Safe d v :=
  ⟨fun h => absurd h hholds, hlisted, htesting, fun _ hu => absurd (holds_of_urbOf hu) hholds⟩

theorem Teardown.Inv.not_holds (h : s.Inv) (hdead : (s.dev d).stage.live = false) :
    ¬s.event.holds d :=
  fun hholds => absurd (((h.safe d).holds hholds).symm.trans hdead) (by decide)

theorem Teardown.Inv.begin (h : s.Inv) {count : Nat} (hidle : (s.dev d).stage = .idle)
    (hregistered : (s.dev d).registered = true) :
    (s.setDev d { s.dev d with
      stage := .streaming
      active := true
      cancelRequested := false
      watched := true
      streams := (s.dev d).streams + 1
      arena := some (s.dev d).streams
      kernel := (s.dev d).kernel ∪ {(s.dev d).streams} ×ˢ Finset.range count }).Inv := by
  have hsound := h.sound d
  have hdead : (s.dev d).stage.live = false := by
    rw [hidle]
    rfl
  have hempty := hsound.drained hdead (by simp [hidle])
  apply h.setDev
  · refine ⟨fun _ => rfl, fun _ => ⟨_, rfl, fun u hu => ?_⟩, fun _ => .inl rfl,
      fun hnot => (nomatch hnot), fun hnot => (nomatch hnot), fun hnot => (nomatch hnot),
      fun _ => hsound.registered hregistered, fun _ => hsound.registered hregistered⟩
    simp only [hempty, Finset.empty_union, Finset.mem_product, Finset.mem_singleton] at hu
    exact hu.1
  · exact EventPc.Safe.of_not_holds (h.not_holds hdead) (fun _ => hregistered) fun _ _ => .inl rfl

theorem Teardown.Inv.request (h : s.Inv) :
    (s.setDev d { s.dev d with cancelRequested := true }).Inv := by
  have hsound := h.sound d
  apply h.setDev
  · exact ⟨hsound.active, hsound.arena, hsound.watched, fun _ _ => rfl, hsound.drained, hsound.idle,
      hsound.busy, hsound.registered⟩
  · exact ⟨(h.safe d).holds, (h.safe d).listed, fun _ _ => .inr rfl, (h.safe d).urb⟩

theorem Teardown.Inv.disconnect (h : s.Inv) :
    (s.setDev d { s.dev d with disconnected := true }).Inv := by
  have hsound := h.sound d
  apply h.setDev
  · exact ⟨hsound.active, hsound.arena, hsound.watched, hsound.cancelled, hsound.drained, hsound.idle,
      hsound.busy, hsound.registered⟩
  · exact ⟨(h.safe d).holds, (h.safe d).listed, (h.safe d).testing, (h.safe d).urb⟩

/-- The reader goes on with its stream up. -/
theorem Teardown.Inv.proceed (h : s.Inv) {stage : ReaderStage} {watched : Bool}
    (hlive : (s.dev d).stage.live = true) (hstage : stage.live = true)
    (hwatched : watched = true → stage = .leaving) :
    (s.setDev d { s.dev d with stage, watched }).Inv := by
  have hsound := h.sound d
  have hidle : stage ≠ .idle := by
    rintro rfl
    cases hstage
  apply h.setDev
  · refine ⟨fun _ => hsound.active hlive, fun _ => hsound.arena hlive, fun hw => .inr (hwatched hw),
      fun hdead => ?_, fun hdead => ?_, fun hidle' => absurd hidle' hidle,
      fun _ => hsound.not_freed hlive, hsound.registered⟩
    · exact absurd (hstage.symm.trans hdead) (by decide)
    · exact absurd (hstage.symm.trans hdead) (by decide)
  · exact ⟨fun _ => hstage, (h.safe d).listed, fun _ _ => .inl hstage, (h.safe d).urb⟩

/-- The reader goes on with a stream that has been cancelled and that the event thread has left. -/
theorem Teardown.Inv.wind (h : s.Inv) (hidle : (s.dev d).stage ≠ .idle)
    (hcancel : (s.dev d).cancelRequested = true) (hwatched : (s.dev d).watched = false)
    (hholds : ¬s.event.holds d) {stage : ReaderStage} {active : Bool} {arena : Option Nat}
    {kernel : Finset (Nat × Nat)} (hdead : stage.live = false)
    (hkernel : stage ≠ .discarding → kernel = ∅) (hactive : stage = .idle → active = false) :
    (s.setDev d { s.dev d with stage, active, arena, kernel }).Inv := by
  have hsound := h.sound d
  have hnot {p : Prop} (hlive : stage.live = true) : p :=
    absurd (hdead.symm.trans hlive) (by decide)
  apply h.setDev
  · exact ⟨fun hlive => hnot hlive, fun hlive => hnot hlive,
      fun hw => absurd (hwatched.symm.trans hw) (by decide), fun _ _ => hcancel, fun _ => hkernel,
      hactive, fun _ => hsound.busy hidle, hsound.registered⟩
  · exact EventPc.Safe.of_not_holds hholds (h.safe d).listed fun _ _ => .inr hcancel

/-- A reader that has begun to discard is no longer watched. -/
theorem StreamDev.Sound.unwatched (h : v.Sound) (hstage : v.stage ≠ .streaming)
    (hstage' : v.stage ≠ .leaving) : v.watched = false := by
  by_contra hw
  obtain heq | heq := h.watched (by simpa using hw)
  · exact hstage heq
  · exact hstage' heq

theorem Teardown.Inv.unregister (h : s.Inv) (hlocks : s.event.locks = false) :
    (s.setDev d { s.dev d with registered := false }).Inv := by
  have hsound := h.sound d
  have hlisted : d ∉ s.event.listed := by
    intro hd
    cases hevent : s.event with
    | waiting => simp [hevent, EventPc.listed] at hd
    | events devs => simp [hevent, EventPc.listed] at hd
    | polling devs => simp [hevent, EventPc.locks] at hlocks
    | testing e devs => simp [hevent, EventPc.locks] at hlocks
    | pass e pc polls devs =>
      have hpolls : polls = false := by simpa [hevent, EventPc.locks] using hlocks
      simp [hevent, EventPc.listed, hpolls] at hd
  apply h.setDev
  · exact ⟨hsound.active, hsound.arena, hsound.watched, hsound.cancelled, hsound.drained, hsound.idle,
      hsound.busy, fun hnot => (nomatch hnot)⟩
  · exact ⟨(h.safe d).holds, fun hd => absurd hd hlisted, (h.safe d).testing, (h.safe d).urb⟩

theorem Teardown.Inv.free (h : s.Inv) (hregistered : (s.dev d).registered = false)
    (hidle : (s.dev d).stage = .idle) :
    (s.setDev d { s.dev d with freed := true, kernel := ∅ }).Inv := by
  have hsound := h.sound d
  have hdead : (s.dev d).stage.live = false := by
    rw [hidle]
    rfl
  apply h.setDev
  · refine ⟨hsound.active, fun hlive => ?_, hsound.watched, hsound.cancelled, fun _ _ => rfl,
      hsound.idle, fun hbusy => absurd hidle hbusy, fun hreg => ?_⟩
    · exact absurd (hdead.symm.trans hlive) (by decide)
    · exact absurd (hregistered.symm.trans hreg) (by decide)
  · exact EventPc.Safe.of_not_holds (h.not_holds hdead) (h.safe d).listed (h.safe d).testing

/-! ### Steps of the event thread -/

/-- The event thread uses a device that has not been freed, and goes on. -/
theorem Teardown.Inv.move (h : s.Inv) {event : EventPc} (hfreed : (s.dev d).freed = false)
    (hsafe : ∀ e, event.Safe e (s.dev e)) : Teardown.Inv { s.touch d with event } := by
  refine ⟨h.sound, hsafe, ?_⟩
  simp [Teardown.touch, h.misused, hfreed]

/-- A pass that goes on has the same devices in hand. -/
theorem EventPc.Safe.pass {e : Nat} {pc pc' : PassPc} {polls : Bool} {devs : List Nat}
    (h : (EventPc.pass d pc polls devs).Safe e v)
    (hurb : ∀ u ∈ (EventPc.pass d pc' polls devs).urbOf e, v.arena = some u.1) :
    (EventPc.pass d pc' polls devs).Safe e v :=
  ⟨h.holds, h.listed, fun _ heq => (nomatch heq), hurb⟩

/-- What the event thread has in hand when a pass over `d` begins. -/
theorem EventPc.Safe.enter {e : Nat} {polls : Bool} {devs : List Nat}
    (hlive : e = d → v.stage.live = true)
    (hevents : polls = false → e ∈ devs → v.stage.live = true)
    (hlisted : polls = true → e ∈ devs → v.registered = true) :
    (EventPc.pass d .reaping polls devs).Safe e v := by
  refine ⟨fun hholds => ?_, fun hin => ?_, fun _ heq => (nomatch heq), fun _ hu => (nomatch hu)⟩
  · obtain heq | ⟨hpolls, hin⟩ := hholds
    · exact hlive heq
    · exact hevents hpolls hin
  · cases polls with
    | true => exact hlisted rfl hin
    | false => exact absurd hin List.not_mem_nil

/-- What the event thread has in hand between two devices. -/
theorem EventPc.Safe.resume {e : Nat} {polls : Bool} {devs : List Nat}
    (hevents : polls = false → e ∈ devs → v.stage.live = true)
    (hlisted : polls = true → e ∈ devs → v.registered = true) :
    (EventPc.resume polls devs).Safe e v := by
  cases polls with
  | true => exact ⟨False.elim, hlisted rfl, fun _ heq => (nomatch heq), fun _ hu => (nomatch hu)⟩
  | false =>
    exact ⟨hevents rfl, fun hin => absurd hin List.not_mem_nil, fun _ heq => (nomatch heq),
      fun _ hu => (nomatch hu)⟩

section Passes

variable {pc : PassPc} {polls : Bool} {devs : List Nat} {u : Nat × Nat}

theorem EventPc.Safe.pass_live (h : (EventPc.pass d pc polls devs).Safe d v) :
    v.stage.live = true :=
  h.holds (.inl rfl)

theorem EventPc.Safe.pass_events {e : Nat} (h : (EventPc.pass d pc polls devs).Safe e v)
    (hpolls : polls = false) (hin : e ∈ devs) : v.stage.live = true :=
  h.holds (.inr ⟨hpolls, hin⟩)

theorem EventPc.Safe.pass_listed {e : Nat} (h : (EventPc.pass d pc polls devs).Safe e v)
    (hpolls : polls = true) (hin : e ∈ devs) : v.registered = true := by
  apply h.listed
  simp only [EventPc.listed, hpolls, if_true]
  exact hin

/-- A pass over a device whose kernel side it changes. -/
theorem Teardown.Inv.exchange (h : s.Inv) (hevent : s.event = .pass d pc polls devs)
    {pc' : PassPc} {kernel : Finset (Nat × Nat)} {cancelRequested : Bool}
    (hkernel : ∀ g, (s.dev d).arena = some g → ∀ w ∈ kernel, w.1 = g)
    (hurb : ∀ w ∈ (EventPc.pass d pc' polls devs).urbOf d, (s.dev d).arena = some w.1) :
    Teardown.Inv { s.setDev d { s.dev d with kernel, cancelRequested } with
      event := .pass d pc' polls devs } := by
  have hsafe := h.safe
  rw [hevent] at hsafe
  have hlive := (hsafe d).pass_live
  have hsound := h.sound d
  have hnot {p : Prop} (hdead : (s.dev d).stage.live = false) : p :=
    absurd (hlive.symm.trans hdead) (by decide)
  refine ⟨fun e => ?_, fun e => ?_, h.misused⟩
  · by_cases heq : e = d
    · subst heq
      simp only [Teardown.setDev, Function.update_self]
      obtain ⟨g, harena, -⟩ := hsound.arena hlive
      exact ⟨hsound.active, fun _ => ⟨g, harena, hkernel g harena⟩, hsound.watched,
        fun hdead => hnot hdead, fun hdead => hnot hdead, hsound.idle, hsound.busy,
        hsound.registered⟩
    · simp only [Teardown.setDev, Function.update_of_ne heq]
      exact h.sound e
  · by_cases heq : e = d
    · subst heq
      simp only [Teardown.setDev, Function.update_self]
      exact ⟨fun _ => hlive, (hsafe e).listed, fun _ heq => (nomatch heq), hurb⟩
    · simp only [Teardown.setDev, Function.update_of_ne heq]
      refine (hsafe e).pass fun w hw => ?_
      have hne : d ≠ e := Ne.symm heq
      cases pc' <;> simp [EventPc.urbOf, hne] at hw

/-- The event thread uses a device that it has a pass over, and an entry of its arena. -/
theorem Teardown.Inv.touched (h : s.Inv) (hholds : s.event.holds d)
    (harena : (s.dev d).arena = some u.1) :
    s.touch d = s ∧ (s.touch d).touchUrb d u = s := by
  have hfreed := (h.sound d).not_freed ((h.safe d).holds hholds)
  have htouch : s.touch d = s := by
    rw [Teardown.touch, hfreed, Bool.or_false]
  refine ⟨htouch, ?_⟩
  rw [htouch, Teardown.touchUrb, harena]
  simp

theorem Teardown.Inv.pass (h : s.Inv) (hevent : s.event = .pass d pc polls devs)
    {urb : Option (Nat × Nat)} {accepted : Bool} (hgo : s.go urb accepted = some t) : t.Inv := by
  have hsafe := h.safe
  rw [hevent] at hsafe
  have hlive := (hsafe d).pass_live
  have hfreed := (h.sound d).not_freed hlive
  obtain ⟨g, harena, hkernel⟩ := (h.sound d).arena hlive
  have hholds : s.event.holds d := hevent ▸ .inl rfl
  simp only [Teardown.go, hevent] at hgo
  cases pc with
  | reaping =>
    cases urb with
    | none =>
      obtain rfl := Option.some_inj.mp hgo
      exact h.move hfreed fun e =>
        EventPc.Safe.resume (hsafe e).pass_events (hsafe e).pass_listed
    | some u =>
      dsimp only at hgo
      split at hgo
      · rename_i hu
        obtain rfl := Option.some_inj.mp hgo
        have hurb : (s.dev d).arena = some u.1 :=
          harena.trans (congrArg some (hkernel u hu).symm)
        rw [(h.touched hholds hurb).2]
        refine h.exchange hevent (fun g' hg' w hw => ?_) fun w hw => ?_
        · obtain rfl := Option.some_inj.mp (harena.symm.trans hg')
          exact hkernel w (Finset.mem_of_mem_erase hw)
        · simp only [EventPc.urbOf, if_true, Option.mem_some_iff] at hw
          exact hw ▸ hurb
      · cases hgo
  | reaped u | delivered u =>
    obtain rfl := Option.some_inj.mp hgo
    refine h.move hfreed fun e => (hsafe e).pass fun w hw => (hsafe e).urb w ?_
    split at hw
    · cases hw
    · exact hw
  | delivering u =>
    obtain rfl := Option.some_inj.mp hgo
    have hurb : (s.dev d).arena = some u.1 := (hsafe d).urb u (by simp [EventPc.urbOf])
    rw [(h.touched hholds hurb).2, ← (h.touched hholds hurb).1]
    exact h.move hfreed fun e => (hsafe e).pass fun w hw => (hsafe e).urb w hw
  | submitting u =>
    obtain rfl := Option.some_inj.mp hgo
    have hurb : (s.dev d).arena = some u.1 := (hsafe d).urb u (by simp [EventPc.urbOf])
    rw [(h.touched hholds hurb).2]
    have hdone : ∀ w ∈ (EventPc.pass d .reaping polls devs).urbOf d,
        (s.dev d).arena = some w.1 := fun w hw => (nomatch hw)
    cases accepted with
    | true =>
      have hkept : (s.misused || !(s.dev d).stage.live) = s.misused := by
        rw [hlive, Bool.not_true, Bool.or_false]
      simp only [Teardown.resubmit, if_true, hkept]
      refine h.exchange hevent (fun g' hg' w hw => ?_) hdone
      obtain rfl := Option.some_inj.mp (harena.symm.trans hg')
      obtain rfl | hw := Finset.mem_insert.mp hw
      · exact (Option.some_inj.mp (harena.symm.trans hurb)).symm
      · exact hkernel w hw
    | false =>
      simp only [Teardown.resubmit, Bool.false_eq_true, if_false]
      refine h.exchange hevent (fun g' hg' w hw => ?_) hdone
      obtain rfl := Option.some_inj.mp (harena.symm.trans hg')
      exact hkernel w hw

end Passes

/-- A device whose stream is active is up or has been cancelled. -/
theorem StreamDev.Sound.live_or_cancelled (h : v.Sound) (hactive : v.active = true) :
    v.stage.live = true ∨ v.cancelRequested = true := by
  by_cases hlive : v.stage.live = true
  · exact .inl hlive
  · right
    apply h.cancelled (by simpa using hlive)
    intro hidle
    exact absurd ((h.idle hidle).symm.trans hactive) (by decide)

theorem Teardown.Inv.go (h : s.Inv) {urb : Option (Nat × Nat)} {accepted : Bool}
    (hgo : s.go urb accepted = some t) : t.Inv := by
  have hsafe := h.safe
  cases hevent : s.event with
  | waiting =>
    simp only [Teardown.go, hevent] at hgo
    cases hgo
  | events devs =>
    rw [hevent] at hsafe
    cases devs with
    | nil =>
      simp only [Teardown.go, hevent] at hgo
      cases hgo
    | cons d devs =>
      simp only [Teardown.go, hevent] at hgo
      obtain rfl := Option.some_inj.mp hgo
      have hlive := (hsafe d).holds List.mem_cons_self
      have hrest (e : Nat) (he : e ∈ devs) : (s.dev e).stage.live = true :=
        (hsafe e).holds (List.mem_cons_of_mem _ he)
      refine h.move ((h.sound d).not_freed hlive) fun e => ?_
      split
      · exact EventPc.Safe.enter (fun heq => heq ▸ hlive) (fun _ => hrest e)
          fun hpolls => absurd hpolls (by decide)
      · exact @EventPc.Safe.resume _ e false devs (fun _ => hrest e)
          fun hpolls => absurd hpolls (by decide)
  | polling devs =>
    rw [hevent] at hsafe
    cases devs with
    | nil =>
      simp only [Teardown.go, hevent] at hgo
      obtain rfl := Option.some_inj.mp hgo
      refine ⟨h.sound, fun e => ?_, h.misused⟩
      exact ⟨False.elim, fun hin => absurd hin List.not_mem_nil, fun _ heq => (nomatch heq),
        fun _ hu => (nomatch hu)⟩
    | cons d devs =>
      simp only [Teardown.go, hevent] at hgo
      obtain rfl := Option.some_inj.mp hgo
      have hfreed := (h.sound d).registered ((hsafe d).listed List.mem_cons_self)
      refine h.move hfreed fun e => ?_
      split
      · rename_i hactive
        refine ⟨False.elim, (hsafe e).listed, fun ds heq => ?_, fun _ hu => (nomatch hu)⟩
        obtain ⟨rfl, -⟩ := EventPc.testing.inj heq
        exact (h.sound d).live_or_cancelled hactive
      · exact @EventPc.Safe.resume _ e true devs (fun hpolls => absurd hpolls (by decide))
          fun _ he => (hsafe e).listed (List.mem_cons_of_mem _ he)
  | testing d devs =>
    rw [hevent] at hsafe
    simp only [Teardown.go, hevent] at hgo
    obtain rfl := Option.some_inj.mp hgo
    have hfreed := (h.sound d).registered ((hsafe d).listed List.mem_cons_self)
    have hrest (e : Nat) (he : e ∈ devs) : (s.dev e).registered = true :=
      (hsafe e).listed (List.mem_cons_of_mem _ he)
    refine h.move hfreed fun e => ?_
    split
    · exact @EventPc.Safe.resume _ e true devs (fun hpolls => absurd hpolls (by decide))
        fun _ => hrest e
    · rename_i hcancel
      have hlive := ((hsafe d).testing devs rfl).resolve_right hcancel
      exact EventPc.Safe.enter (fun heq => heq ▸ hlive) (fun hpolls => absurd hpolls (by decide))
        fun _ => hrest e
  | pass d pc polls devs => exact h.pass hevent hgo

/-- A stream that is being taken down. -/
theorem Teardown.Inv.dying (h : s.Inv) (hdead : (s.dev d).stage.live = false)
    (hidle : (s.dev d).stage ≠ .idle) :
    (s.dev d).cancelRequested = true ∧ (s.dev d).watched = false ∧ ¬s.event.holds d := by
  refine ⟨(h.sound d).cancelled hdead hidle, (h.sound d).unwatched ?_ ?_, h.not_holds hdead⟩
  · intro heq
    rw [heq] at hdead
    cases hdead
  · intro heq
    rw [heq] at hdead
    cases hdead

/-- A step keeps what holds, when the reader that begins to discard keeps apart from the event
thread. -/
theorem Teardown.Inv.step (h : s.Inv) (hapart : s.Apart a) (hstep : s.step a = some t) : t.Inv := by
  cases a with
  | disconnect d =>
    obtain rfl := Option.some_inj.mp hstep
    exact h.disconnect
  | go urb accepted => exact h.go hstep
  | begin d count =>
    simp only [Teardown.step] at hstep
    split at hstep
    · rename_i hguard
      obtain rfl := Option.some_inj.mp hstep
      exact h.begin hguard.1 hguard.2
    · cases hstep
  | request d =>
    simp only [Teardown.step] at hstep
    split at hstep
    · obtain rfl := Option.some_inj.mp hstep
      exact h.request
    · cases hstep
  | leave d =>
    simp only [Teardown.step] at hstep
    split at hstep
    · rename_i hguard
      obtain rfl := Option.some_inj.mp hstep
      exact h.proceed (by rw [hguard.1]; rfl) rfl fun _ => rfl
    · cases hstep
  | remove d =>
    simp only [Teardown.step] at hstep
    split at hstep
    · rename_i hstage
      obtain rfl := Option.some_inj.mp hstep
      exact h.proceed (by rw [hstage]; rfl) rfl fun hw => (nomatch hw)
    · cases hstep
  | discard d =>
    simp only [Teardown.step] at hstep
    split at hstep
    · rename_i hstage
      obtain rfl := Option.some_inj.mp hstep
      have hwatched := (h.sound d).unwatched (by simp [hstage]) (by simp [hstage])
      exact h.wind (by simp [hstage]) hapart.1 hwatched hapart.2 rfl (fun hne => absurd rfl hne)
        fun heq => (nomatch heq)
    · cases hstep
  | reapAll d left =>
    simp only [Teardown.step] at hstep
    split at hstep
    · rename_i hguard
      obtain ⟨hstage, -⟩ := hguard
      obtain rfl := Option.some_inj.mp hstep
      obtain ⟨hcancel, hwatched, hholds⟩ := h.dying (by rw [hstage]; rfl) (by simp [hstage])
      exact h.wind (by simp [hstage]) hcancel hwatched hholds rfl (fun _ => hapart)
        fun heq => (nomatch heq)
    · cases hstep
  | freeArena d =>
    simp only [Teardown.step] at hstep
    split at hstep
    · rename_i hstage
      obtain rfl := Option.some_inj.mp hstep
      obtain ⟨hcancel, hwatched, hholds⟩ := h.dying (by rw [hstage]; rfl) (by simp [hstage])
      have hkernel := (h.sound d).drained (by rw [hstage]; rfl) (by simp [hstage])
      exact h.wind (by simp [hstage]) hcancel hwatched hholds rfl (fun _ => hkernel)
        fun heq => (nomatch heq)
    · cases hstep
  | deactivate d =>
    simp only [Teardown.step] at hstep
    split at hstep
    · rename_i hguard
      obtain ⟨hstage, -⟩ := hguard
      obtain rfl := Option.some_inj.mp hstep
      obtain ⟨hcancel, hwatched, hholds⟩ := h.dying (by rw [hstage]; rfl) (by simp [hstage])
      have hkernel := (h.sound d).drained (by rw [hstage]; rfl) (by simp [hstage])
      exact h.wind (by simp [hstage]) hcancel hwatched hholds rfl (fun _ => hkernel) fun _ => rfl
    · cases hstep
  | unregister d =>
    simp only [Teardown.step] at hstep
    split at hstep
    · rename_i hguard
      obtain rfl := Option.some_inj.mp hstep
      exact h.unregister hguard.2
    · cases hstep
  | free d =>
    simp only [Teardown.step] at hstep
    split at hstep
    · rename_i hguard
      obtain rfl := Option.some_inj.mp hstep
      exact h.free hguard.1 hguard.2
    · cases hstep
  | fetch devs =>
    simp only [Teardown.step] at hstep
    split at hstep
    · rename_i hguard
      obtain rfl := Option.some_inj.mp hstep
      refine ⟨h.sound, fun e => ?_, h.misused⟩
      refine ⟨fun he => ?_, fun hin => absurd hin List.not_mem_nil, fun _ heq => (nomatch heq),
        fun _ hu => (nomatch hu)⟩
      obtain hstage | hstage := (h.sound e).watched (hguard.2 e he) <;> exact hstage ▸ rfl
    · cases hstep
  | poll devs =>
    simp only [Teardown.step] at hstep
    split at hstep
    · rename_i hguard
      obtain rfl := Option.some_inj.mp hstep
      exact ⟨h.sound, fun e => ⟨False.elim, hguard.2 e, fun _ heq => (nomatch heq),
        fun _ hu => (nomatch hu)⟩, h.misused⟩
    · cases hstep

end Steps

theorem tearInit_inv : tearInit.Inv := by
  refine ⟨fun d => ?_, fun d => ?_, rfl⟩
  · exact ⟨fun h => (nomatch h), fun h => (nomatch h), fun h => (nomatch h), fun _ h => absurd rfl h,
      fun _ _ => rfl, fun _ => rfl, fun _ => rfl, fun _ => rfl⟩
  · exact ⟨False.elim, fun h => absurd h List.not_mem_nil, fun _ h => (nomatch h),
      fun _ h => (nomatch h)⟩

/-- In every state of a run in which readers keep apart from the event thread, it has used nothing
that had been freed and has resubmitted nothing under a reader that discards. -/
theorem teardown_apart {as : List TearAct} {t : Teardown}
    (hapart : Along Teardown.step Teardown.Apart tearInit as)
    (hrun : run Teardown.step tearInit as = some t) : t.misused = false :=
  (hapart.invariant (I := Teardown.Inv) (fun _ _ _ hs ha hstep => hs.step ha hstep) tearInit_inv
    hrun).misused

/-- The event thread of `misuses` goes on, and the kernel hands back what it is asked for. -/
def resume (k : Nat) : List TearAct := List.replicate k (.go none true)

/-- Device 0 streams with one URB and is taken down because of a request to cancel. -/
def windDown : List TearAct := [.request 0, .leave 0, .remove 0, .discard 0]

/-- The event thread has passed its second test when the reader begins to discard; it has fetched
the device when the device is closed and freed, while another device streams, whose reader keeps the
loop from being stopped; it finds a device that has been disconnected, and not cancelled, in the
polling fallback after `urb_cancel_all`. -/
def misuses : List (List TearAct) :=
  [[TearAct.begin 0 1, .fetch [0], .go none true, .go (some (0, 0)) true] ++ resume 3 ++ windDown ++
      [TearAct.go none true],
    [TearAct.begin 0 1, .begin 1 1, .fetch [0, 1]] ++ windDown ++
      [TearAct.reapAll 0 ∅, .freeArena 0, .deactivate 0, .unregister 0, .free 0, .go none true],
    [TearAct.begin 0 1, .fetch [], .disconnect 0, .leave 0, .remove 0, .discard 0, .poll [0]] ++
      resume 2 ++ [TearAct.go (some (0, 0)) true] ++ resume 4]

theorem teardown_misuses :
    misuses.map (fun as => (run Teardown.step tearInit as).map Teardown.misused) =
      [some true, some true, some true] := by
  decide +kernel

/-- Device 0 is closed while the event thread serves device 1. -/
def closeFirst : List TearAct :=
  [TearAct.begin 0 1, .begin 1 2, .fetch [0, 1], .go none true, .go (some (0, 0)) true] ++ resume 5 ++
    windDown ++ [TearAct.reapAll 0 ∅] ++ resume 1 ++ [TearAct.go (some (0, 1)) true] ++ resume 2 ++
    [TearAct.freeArena 0, .deactivate 0, .unregister 0, .free 0] ++ resume 2

theorem teardown_apart_closeFirst : ∃ t, run Teardown.step tearInit closeFirst = some t ∧
    (t.dev 0).freed = true ∧ t.misused = false := by
  have hlast : (run Teardown.step tearInit closeFirst).map (fun t => (t.dev 0).freed) = some true := by
    decide +kernel
  obtain ⟨t, ht, hfreed⟩ := Option.map_eq_some_iff.mp hlast
  exact ⟨t, ht, hfreed, teardown_apart (by decide +kernel) ht⟩

end Sdrgg.Usb
