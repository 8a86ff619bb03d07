import Sdrgg.ProofKit.Run
import Mathlib.Data.Finset.Card

/-! The event loop of a context and the reader threads of its R820T devices.  Each call of
`event_loop_start`, `event_loop_add_dev`, `event_loop_remove_dev` and `event_loop_stop` and the test
of `streaming_count` is one step of a reader. -/

namespace Sdrgg.Usb

open ProofKit

/-- Where the reader thread of a device is, from the submission of its URBs on. -/
inductive Reader where
  | absent
  | ready
  | started
  | waiting
  | leaving
  | removed
  | stopping
deriving DecidableEq, Repr

/-- The event loop of `sdrgg_ctx`, the readers of its devices, and the devices whose
`event_loop_add_dev` has succeeded and that have not been removed. -/
structure EventLoop where
  eventRunning : Bool
  epoll : Finset Nat
  streamingCount : Nat
  reader : Nat → Reader
  added : Finset Nat

inductive LoopStep where
  | spawn (dev : Nat)
  | start (dev : Nat) (ok : Bool)
  | add (dev : Nat) (ok : Bool)
  | leave (dev : Nat)
  | remove (dev : Nat)
  | test (dev : Nat)
  | stop (dev : Nat)
deriving DecidableEq, Repr

/-- `event_loop_start`, where `ok` says that epoll, the pipe and the thread can be created. -/
def EventLoop.eventLoopStart (s : EventLoop) (ok : Bool) : EventLoop :=
  if s.eventRunning then s
  else if ok then { s with eventRunning := true, epoll := ∅ }
  else s

/-- `event_loop_add_dev`.  `epoll_ctl` fails when it does or when there is no epoll descriptor. -/
def EventLoop.eventLoopAddDev (s : EventLoop) (dev : Nat) (ok : Bool) : EventLoop :=
  if s.eventRunning ∧ ok then
    { s with
      epoll := insert dev s.epoll
      streamingCount := s.streamingCount + 1
      added := insert dev s.added }
  else s

/-- `event_loop_remove_dev`. -/
def EventLoop.eventLoopRemoveDev (s : EventLoop) (dev : Nat) : EventLoop :=
  { s with
    epoll := s.epoll.erase dev
    streamingCount := if s.streamingCount > 0 then s.streamingCount - 1 else s.streamingCount
    added := s.added.erase dev }

/-- `event_loop_stop`. -/
def EventLoop.eventLoopStop (s : EventLoop) : EventLoop :=
  if s.eventRunning then { s with eventRunning := false, epoll := ∅ } else s

def EventLoop.setReader (s : EventLoop) (dev : Nat) (reader : Reader) : EventLoop :=
  { s with reader := Function.update s.reader dev reader }

/-- A step of the reader thread of a device, which goes on whatever the calls return. -/
def EventLoop.step (s : EventLoop) : LoopStep → Option EventLoop
  | .spawn d => if s.reader d = .absent then some (s.setReader d .ready) else none
  | .start d ok =>
    if s.reader d = .ready then some ((s.eventLoopStart ok).setReader d .started) else none
  | .add d ok =>
    if s.reader d = .started then some ((s.eventLoopAddDev d ok).setReader d .waiting) else none
  | .leave d => if s.reader d = .waiting then some (s.setReader d .leaving) else none
  | .remove d =>
    if s.reader d = .leaving then some ((s.eventLoopRemoveDev d).setReader d .removed) else none
  | .test d =>
    if s.reader d = .removed then
      some (s.setReader d (if s.streamingCount = 0 then .stopping else .absent))
    else none
  | .stop d => if s.reader d = .stopping then some (s.eventLoopStop.setReader d .absent) else none

/-- A context that no device streams on. -/
def loopInit : EventLoop := ⟨false, ∅, 0, fun _ => .absent, ∅⟩

/-- A reader in its wait loop is served by a running loop that watches its device, and
`streaming_count` counts the devices added and not removed. -/
structure EventLoop.Served (s : EventLoop) : Prop where
  waiting : ∀ d, s.reader d = .waiting → s.eventRunning = true ∧ d ∈ s.epoll
  count : s.streamingCount = s.added.card

/-- A device is added to a running loop and `epoll_ctl` succeeds, and the loop is stopped while no
reader waits. -/
def EventLoop.Orderly (s : EventLoop) : LoopStep → Prop
  | .add _ ok => s.eventRunning = true ∧ ok = true
  | .stop _ => s.eventRunning = true → ∀ e, s.reader e ≠ .waiting
  | _ => True

/-- The devices added are those whose readers wait or are leaving. -/
structure EventLoop.Tracked (s : EventLoop) : Prop where
  added : ∀ d, d ∈ s.added ↔ s.reader d = .waiting ∨ s.reader d = .leaving
  epoll : s.epoll ⊆ s.added

/-! ### One step -/

section Steps

variable {s t : EventLoop} {d : Nat} {ok : Bool}

/-- A reader that neither starts nor stops to wait changes nothing that is claimed of the loop. -/
theorem EventLoop.served_setReader {r : Reader} (hd : s.reader d ≠ .waiting) (hr : r ≠ .waiting) :
    (s.setReader d r).Served ↔ s.Served := by
  have hsame : ∀ e, (s.setReader d r).reader e = .waiting ↔ s.reader e = .waiting := fun e => by
    simp only [setReader, Function.update_apply]
    split
    · rename_i heq
      simp [heq, hd, hr]
    · rfl
  exact ⟨fun h => ⟨fun e he => h.waiting e ((hsame e).mpr he), h.count⟩,
    fun h => ⟨fun e he => h.waiting e ((hsame e).mp he), h.count⟩⟩

theorem EventLoop.Served.leave (h : s.Served) : (s.setReader d .leaving).Served := by
  refine ⟨fun e he => ?_, h.count⟩
  simp only [setReader, Function.update_apply] at he
  split at he
  · cases he
  · exact h.waiting e he

theorem EventLoop.Tracked.move (h : s.Tracked) {r : Reader}
    (hsame : (r = .waiting ∨ r = .leaving) ↔ (s.reader d = .waiting ∨ s.reader d = .leaving)) :
    (s.setReader d r).Tracked := by
  refine ⟨fun e => ?_, h.epoll⟩
  rw [show (s.setReader d r).added = s.added from rfl, h.added e]
  simp only [EventLoop.setReader, Function.update_apply]
  split
  · rename_i heq
    rw [heq, hsame]
  · rfl

theorem EventLoop.Served.start (h : s.Served) : (s.eventLoopStart ok).Served := by
  unfold eventLoopStart
  split
  · exact h
  · rename_i hstopped
    split
    · exact ⟨fun e he => absurd (h.waiting e he).1 hstopped, h.count⟩
    · exact h

theorem EventLoop.Tracked.start (h : s.Tracked) : (s.eventLoopStart ok).Tracked := by
  unfold eventLoopStart
  split
  · exact h
  · split
    · exact ⟨h.added, Finset.empty_subset _⟩
    · exact h

/-- A reader waits on a loop that watches its device exactly when the device could be added. -/
theorem EventLoop.Tracked.served_add (h : s.Tracked) (hs : s.Served) (hd : s.reader d = .started) :
    ((s.eventLoopAddDev d ok).setReader d .waiting).Served ↔
      (s.eventRunning = true ∧ ok = true) := by
  have hnew : d ∉ s.added := by simp [h.added, hd]
  by_cases hok : s.eventRunning = true ∧ ok = true
  · rw [eventLoopAddDev, if_pos hok]
    refine iff_of_true ⟨fun e he => ⟨hok.1, ?_⟩, ?_⟩ hok
    · simp only [setReader, Function.update_apply] at he
      split at he
      · rename_i heq
        exact heq ▸ Finset.mem_insert_self _ _
      · exact Finset.mem_insert_of_mem (hs.waiting e he).2
    · exact (congrArg (· + 1) hs.count).trans (Finset.card_insert_of_notMem hnew).symm
  · refine iff_of_false (fun hserved => hnew (h.epoll ?_)) hok
    rw [eventLoopAddDev, if_neg hok] at hserved
    exact (hserved.waiting d (by simp [setReader])).2

theorem EventLoop.Tracked.add (h : s.Tracked) (hok : s.eventRunning = true ∧ ok = true) :
    ((s.eventLoopAddDev d ok).setReader d .waiting).Tracked := by
  rw [eventLoopAddDev, if_pos hok]
  refine ⟨fun e => ?_, Finset.insert_subset_insert d h.epoll⟩
  simp only [EventLoop.setReader, Function.update_apply, Finset.mem_insert, h.added]
  split <;> simp_all

theorem EventLoop.Tracked.served_remove (h : s.Tracked) (hs : s.Served)
    (hd : s.reader d = .leaving) : ((s.eventLoopRemoveDev d).setReader d .removed).Served := by
  have hmem : d ∈ s.added := (h.added d).mpr (.inr hd)
  have hcard := Finset.card_pos.mpr ⟨d, hmem⟩
  refine ⟨fun e he => ?_, ?_⟩
  · simp only [setReader, eventLoopRemoveDev, Function.update_apply] at he ⊢
    split at he
    · cases he
    · rename_i hne
      exact ⟨(hs.waiting e he).1, Finset.mem_erase.mpr ⟨hne, (hs.waiting e he).2⟩⟩
  · simp only [setReader, eventLoopRemoveDev, Finset.card_erase_of_mem hmem, hs.count]
    rw [if_pos hcard]

theorem EventLoop.Tracked.remove (h : s.Tracked) :
    ((s.eventLoopRemoveDev d).setReader d .removed).Tracked := by
  refine ⟨fun e => ?_, Finset.erase_subset_erase d h.epoll⟩
  simp only [EventLoop.setReader, eventLoopRemoveDev, Function.update_apply, Finset.mem_erase,
    h.added]
  split <;> simp_all

theorem EventLoop.served_stop (hs : s.Served) :
    s.eventLoopStop.Served ↔ (s.eventRunning = true → ∀ e, s.reader e ≠ .waiting) := by
  unfold eventLoopStop
  split
  · rename_i hrunning
    simp only [hrunning, forall_true_left]
    exact ⟨fun h e he => absurd (h.waiting e he).1 Bool.false_ne_true,
      fun h => ⟨fun e he => absurd he (h e), hs.count⟩⟩
  · rename_i hstopped
    exact iff_of_true hs fun h => absurd h hstopped

theorem EventLoop.Tracked.stop (h : s.Tracked) : s.eventLoopStop.Tracked := by
  unfold eventLoopStop
  split
  · exact ⟨h.added, Finset.empty_subset _⟩
  · exact h

/-- Calls of the loop leave the readers where they are. -/
@[simp] theorem EventLoop.reader_start (s : EventLoop) (ok : Bool) :
    (s.eventLoopStart ok).reader = s.reader := by
  unfold eventLoopStart
  split
  · rfl
  · split <;> rfl

@[simp] theorem EventLoop.reader_stop (s : EventLoop) : s.eventLoopStop.reader = s.reader := by
  unfold eventLoopStop
  split <;> rfl

/-- A step from a state that serves its readers leads to one exactly when it is orderly. -/
theorem EventLoop.Tracked.served_iff (h : s.Tracked) (hs : s.Served) {a : LoopStep}
    (hstep : s.step a = some t) : t.Served ↔ s.Orderly a := by
  cases a <;> simp only [EventLoop.step] at hstep <;> split at hstep <;> try cases hstep
  case spawn d hd => exact iff_of_true ((served_setReader (by simp [hd]) (by decide)).mpr hs) trivial
  case start d ok hd =>
    exact iff_of_true ((served_setReader (by simp [hd]) (by decide)).mpr hs.start) trivial
  case add d ok hd => exact h.served_add hs hd
  case leave d hd => exact iff_of_true hs.leave trivial
  case remove d hd => exact iff_of_true (h.served_remove hs hd) trivial
  case test d hd =>
    refine iff_of_true ((served_setReader (by simp [hd]) ?_).mpr hs) trivial
    split <;> nofun
  case stop d hd =>
    exact (served_setReader (by simp [hd]) (by decide)).trans (served_stop hs)

theorem EventLoop.Tracked.step (h : s.Tracked) {a : LoopStep} (hord : s.Orderly a)
    (hstep : s.step a = some t) : t.Tracked := by
  cases a <;> simp only [EventLoop.step] at hstep <;> split at hstep <;> try cases hstep
  case spawn d hd => exact h.move (by simp [hd])
  case start d ok hd => exact h.start.move (by simp [hd])
  case add d ok hd => exact h.add hord
  case leave d hd => exact h.move (by simp [hd])
  case remove d hd => exact h.remove
  case test d hd =>
    refine h.move ?_
    split <;> simp [hd]
  case stop d hd => exact h.stop.move (by simp [hd])

end Steps

theorem loopInit_served : loopInit.Served where
  waiting _ h := nomatch h
  count := rfl

theorem loopInit_tracked : loopInit.Tracked :=
  ⟨fun _ => by simp [loopInit], Finset.empty_subset _⟩

/-- Every reader that waits is served, and the devices are counted, in every state of a run exactly
when every device could be added and no reader stopped the loop while another one waited. -/
theorem readers_served {as : List LoopStep} {t : EventLoop}
    (hrun : run EventLoop.step loopInit as = some t) :
    (∀ pre, pre <+: as → ∀ u, run EventLoop.step loopInit pre = some u → u.Served) ↔
      Along EventLoop.step EventLoop.Orderly loopInit as :=
  Along.iff_forall_prefix (I := EventLoop.Tracked)
    (fun _ _ _ h hs hstep ht => h.step ((h.served_iff hs hstep).mp ht) hstep)
    (fun _ _ _ h hs hstep => h.served_iff hs hstep) loopInit_tracked loopInit_served hrun

/-- Device 0 leaves, and stops the loop that device 1 has joined since it read `streaming_count`. -/
def lastLeaves : List LoopStep :=
  [.spawn 0, .start 0 true, .add 0 true, .leave 0, .remove 0, .test 0,
    .spawn 1, .start 1 true, .add 1 true, .stop 0]

theorem readers_served_lastLeaves :
    ¬Along EventLoop.step EventLoop.Orderly loopInit lastLeaves := by
  obtain ⟨t, hrun⟩ : ∃ t, run EventLoop.step loopInit lastLeaves = some t := ⟨_, rfl⟩
  have hunserved : ¬t.Served := by
    obtain rfl := Option.some_inj.mp hrun
    exact fun h => absurd (h.waiting 1 rfl).1 (by decide)
  exact fun h => hunserved ((readers_served hrun).mpr h lastLeaves (List.prefix_refl _) t hrun)

theorem reader_unserved : ∃ t, run EventLoop.step loopInit lastLeaves = some t ∧
    t.reader 1 = .waiting ∧ t.eventRunning = false ∧ 1 ∉ t.epoll :=
  ⟨_, rfl, by decide, by decide, by decide⟩

end Sdrgg.Usb
