import Sdrgg.ProofKit.Run
import Sdrgg.Usb.Control
import Mathlib.Data.Finset.Card

/-! `event_loop_start` and `event_loop_stop`, one step for each access to the fields of the context,
each operation on a descriptor, the creation of the event thread and its join.  Descriptors and
threads go by the number of the start that has created them. -/

namespace Sdrgg.Usb

open ProofKit

/-- The descriptors of the event loop in `sdrgg_ctx`. -/
inductive LoopFd where
  | epoll
  | pipeRead
  | pipeWrite
deriving DecidableEq, Repr

/-- Where a caller is in `event_loop_start` or `event_loop_stop`; `loop` is the event loop that it
starts or stops. -/
inductive LoopPc where
  | idle
  | testing
  | creatingEpoll
  | creatingPipe (loop : Nat)
  | droppingEpoll (loop : Nat)
  | forgettingEpoll
  | addingPipe (loop : Nat)
  | settingFlag (loop : Nat)
  | creatingThread (loop : Nat)
  | clearingFlag (loop : Nat)
  | undoing (loop : Nat) (fds : List LoopFd)
  | unlocking (rc : Except SdrggError Unit)
  | exchanging
  | waking (loop : Nat)
  | reading (loop : Nat)
  | joining (loop : Nat) (thread : Option Nat)
  | closing (loop : Nat) (fds : List LoopFd)
  | resetting (fds : List LoopFd)

/-- The fields of `sdrgg_ctx` that belong to the event loop, and the threads behind them: those that
run, those that have been created, and the joins, writes and closes so far, each with the loop of
the caller and what the field held. -/
structure LoopFields where
  eventRunning : Bool
  fd : LoopFd → Option Nat
  eventThread : Option Nat
  attempts : Nat
  owner : Nat
  alive : Finset Nat
  created : Finset Nat
  joins : List (Nat × Option Nat)
  uses : List (Nat × Option Nat)

def LoopFields.setFd (s : LoopFields) (f : LoopFd) (v : Option Nat) : LoopFields :=
  { s with fd := Function.update s.fd f v }

/-- A write to a descriptor, or its close, by a caller that starts or stops `loop`. -/
def LoopFields.use (s : LoopFields) (loop : Nat) (f : LoopFd) : LoopFields :=
  { s with uses := s.uses ++ [(loop, s.fd f)] }

/-- The next step of a caller at `pc`, where `ok` is the outcome of what may fail. -/
def LoopFields.go (s : LoopFields) (ok : Bool) : LoopPc → Option (LoopFields × LoopPc)
  | .idle => none
  -- event_loop_start
  | .testing => some (s, if s.eventRunning then .unlocking (.ok ()) else .creatingEpoll)
  | .creatingEpoll =>
    if ok then
      some ({ s.setFd .epoll (some s.attempts) with attempts := s.attempts + 1 },
        .creatingPipe s.attempts)
    else some (s.setFd .epoll none, .unlocking (.error .io))
  | .creatingPipe n =>
    if ok then some ((s.setFd .pipeRead (some n)).setFd .pipeWrite (some n), .addingPipe n)
    else some (s, .droppingEpoll n)
  | .droppingEpoll n => some (s.use n .epoll, .forgettingEpoll)
  | .forgettingEpoll => some (s.setFd .epoll none, .unlocking (.error .io))
  | .addingPipe n => some (s, .settingFlag n)
  | .settingFlag n => some ({ s with eventRunning := true, owner := n }, .creatingThread n)
  | .creatingThread n =>
    if ok then
      some ({ s with
        eventThread := some n
        created := insert n s.created
        alive := insert n s.alive }, .unlocking (.ok ()))
    else some (s, .clearingFlag n)
  | .clearingFlag n =>
    some ({ s with eventRunning := false }, .undoing n [.pipeRead, .pipeWrite, .epoll])
  | .undoing n (f :: fds) => some (s.use n f, .undoing n fds)
  | .undoing _ [] => some (s.setFd .epoll none, .unlocking (.error .io))
  | .unlocking _ => some (s, .idle)
  -- event_loop_stop
  | .exchanging =>
    some ({ s with eventRunning := false }, if s.eventRunning then .waking s.owner else .idle)
  | .waking n => some (s.use n .pipeWrite, .reading n)
  | .reading n => some (s, .joining n s.eventThread)
  | .joining n thread =>
    if ∀ t ∈ thread, t ∉ s.alive then
      some ({ s with joins := s.joins ++ [(n, thread)] },
        .closing n [.pipeRead, .pipeWrite, .epoll])
    else none
  | .closing n (f :: fds) => some (s.use n f, .closing n fds)
  | .closing _ [] => some (s.setFd .epoll none, .resetting [.pipeRead, .pipeWrite])
  | .resetting (f :: fds) => some (s.setFd f none, .resetting fds)
  | .resetting [] => some (s, .idle)

/-- The event loop with the callers of `event_loop_start`, which hold `lock`, and of
`event_loop_stop`, which do not. -/
structure LoopCalls where
  fields : LoopFields
  lock : Option Nat
  pc : Nat → LoopPc

inductive LoopAct where
  | start (caller : Nat)
  | stop (caller : Nat)
  | go (caller : Nat) (ok : Bool)
  | leave (thread : Nat) (fatal : Bool)
deriving DecidableEq, Repr

/-- `ctx->lock` after the next step of a caller. -/
def LoopCalls.lockAfter (s : LoopCalls) (c : Nat) : Option Nat :=
  match s.pc c with
  | .unlocking _ => none
  | _ => s.lock

/-- A caller enters one of the functions or goes on, or an event thread leaves its loop, because it
finds `event_running` clear or `epoll_wait` fails. -/
def LoopCalls.step (s : LoopCalls) : LoopAct → Option LoopCalls
  | .start c =>
    match s.pc c, s.lock with
    | .idle, none => some { s with lock := some c, pc := Function.update s.pc c .testing }
    | _, _ => none
  | .stop c =>
    match s.pc c with
    | .idle => some { s with pc := Function.update s.pc c .exchanging }
    | _ => none
  | .go c ok => (s.fields.go ok (s.pc c)).map fun (fields, q) =>
      ⟨fields, s.lockAfter c, Function.update s.pc c q⟩
  | .leave t fatal =>
    if t ∈ s.fields.alive ∧ (s.fields.eventRunning = false ∨ fatal = true) then
      some { s with fields := { s.fields with alive := s.fields.alive.erase t } }
    else none

/-- A context whose event loop has never been started. -/
def callsInit : LoopCalls where
  fields := ⟨false, fun _ => none, none, 0, 0, ∅, ∅, [], []⟩
  lock := none
  pc _ := .idle

/-- In `event_loop_start`. -/
def LoopPc.starting : LoopPc → Bool
  | .idle | .exchanging | .waking _ | .reading _ | .joining _ _ | .closing _ _ | .resetting _ => false
  | _ => true

/-- In `event_loop_stop`, after it has cleared `event_running`. -/
def LoopPc.stopping : LoopPc → Bool
  | .waking _ | .reading _ | .joining _ _ | .closing _ _ | .resetting _ => true
  | _ => false

/-- In `event_loop_start`, after it has set `event_running` and before the thread exists. -/
def LoopPc.publishing : LoopPc → Bool
  | .creatingThread _ | .clearingFlag _ => true
  | _ => false

/-- At a place where the fields belong to the caller. -/
def LoopPc.busy : LoopPc → Bool
  | .idle | .testing | .creatingEpoll | .unlocking _ | .exchanging => false
  | _ => true

/-- In `event_loop_stop` of `loop`, before the join. -/
def LoopPc.joins (loop : Nat) : LoopPc → Prop
  | .waking n | .reading n | .joining n _ => n = loop
  | _ => False

/-- No start creates its epoll descriptor while a stop is at work, and no stop clears
`event_running` while the start that has set it has no thread yet. -/
def LoopCalls.Separate (s : LoopCalls) : LoopAct → Prop
  | .go c _ =>
    (s.pc c = .creatingEpoll → ∀ d, (s.pc d).stopping = false) ∧
      (s.pc c = .exchanging → s.fields.eventRunning = true → ∀ d, (s.pc d).publishing = false)
  | _ => True

/-- At most one event thread runs; a stop joins the thread of the loop that it stops, once, and
writes to and closes only descriptors of that loop; a thread that has been created belongs to a
loop that runs or is being stopped, or it has been joined. -/
structure LoopCalls.Owned (s : LoopCalls) : Prop where
  alive : s.fields.alive.card ≤ 1
  joins : ∀ x ∈ s.fields.joins, x.2 = some x.1
  once : s.fields.joins.Nodup
  created : ∀ n ∈ s.fields.created,
    (s.fields.eventRunning = true ∧ s.fields.owner = n) ∨
      (∃ c, (s.pc c).joins n) ∨ (n, some n) ∈ s.fields.joins
  uses : ∀ x ∈ s.fields.uses, x.2 = some x.1

/-! ### The fields under one caller -/

section Fields

variable {s t : LoopFields} {n : Nat} {p q : LoopPc} {ok : Bool}

/-- No event thread runs, and each that has been created has been joined. -/
structure LoopFields.Ended (s : LoopFields) : Prop where
  alive : s.alive = ∅
  created : ∀ m ∈ s.created, (m, some m) ∈ s.joins

/-- The descriptors are those of `n`. -/
def LoopFields.Holds (s : LoopFields) (n : Nat) : Prop := ∀ f, s.fd f = some n

/-- The loop `n` has its descriptors and its thread, and every other thread has been joined. -/
structure LoopFields.Live (s : LoopFields) (n : Nat) : Prop where
  holds : s.Holds n
  thread : s.eventThread = some n
  alive : s.alive ⊆ {n}
  mem : n ∈ s.created
  unjoined : (n, some n) ∉ s.joins
  created : ∀ m ∈ s.created, m = n ∨ (m, some m) ∈ s.joins

/-- `n` has been given to a start that has not created its thread. -/
def LoopFields.Fresh (s : LoopFields) (n : Nat) : Prop := n < s.attempts ∧ n ∉ s.created

/-- What the fields say when nobody is at work on them. -/
def LoopFields.Settled (s : LoopFields) : Prop :=
  if s.eventRunning = true then s.Live s.owner else s.Ended

/-- What holds while the only caller at work is at `pc`. -/
def LoopFields.At (s : LoopFields) : LoopPc → Prop
  | .creatingPipe n | .droppingEpoll n =>
    s.eventRunning = false ∧ s.Ended ∧ s.fd .epoll = some n ∧ s.Fresh n
  | .addingPipe n | .settingFlag n =>
    s.eventRunning = false ∧ s.Ended ∧ s.Holds n ∧ s.Fresh n
  | .creatingThread n => s.owner = n ∧ s.eventRunning = true ∧ s.Ended ∧ s.Holds n ∧ s.Fresh n
  | .clearingFlag n => s.eventRunning = true ∧ s.Ended ∧ s.Holds n
  | .undoing n _ | .closing n _ => s.eventRunning = false ∧ s.Ended ∧ s.Holds n
  | .forgettingEpoll | .resetting _ => s.eventRunning = false ∧ s.Ended
  | .waking n | .reading n => s.eventRunning = false ∧ s.Live n
  | .joining n thread => s.eventRunning = false ∧ s.Live n ∧ thread = some n
  | .creatingEpoll => s.eventRunning = false ∧ s.Settled
  | .idle | .testing | .unlocking _ | .exchanging => s.Settled

/-- The joins, writes and closes so far are those of the callers' own loops. -/
structure LoopFields.Kept (s : LoopFields) : Prop where
  fresh : ∀ m ∈ s.created, m < s.attempts
  joins : ∀ x ∈ s.joins, x.2 = some x.1 ∧ x.1 ∈ s.created
  once : s.joins.Nodup
  uses : ∀ x ∈ s.uses, x.2 = some x.1

theorem LoopFields.Ended.settled (h : s.Ended) (hclear : s.eventRunning = false) : s.Settled := by
  rw [Settled, if_neg (by simp [hclear])]
  exact h

theorem LoopFields.Settled.ended (h : s.Settled) (hclear : s.eventRunning = false) : s.Ended := by
  rw [Settled, if_neg (by simp [hclear])] at h
  exact h

theorem LoopFields.Settled.live (h : s.Settled) (hrunning : s.eventRunning = true) :
    s.Live s.owner := by
  rw [Settled, if_pos hrunning] at h
  exact h

theorem LoopFields.Holds.setPipe (h : s.fd .epoll = some n) :
    ((s.setFd .pipeRead (some n)).setFd .pipeWrite (some n)).Holds n := by
  intro f
  cases f with
  | epoll => exact h
  | pipeRead => rfl
  | pipeWrite => rfl

theorem LoopFields.Kept.use (h : s.Kept) {f : LoopFd} (hf : s.fd f = some n) : (s.use n f).Kept := by
  refine ⟨h.fresh, h.joins, h.once, fun x hx => ?_⟩
  obtain hx | hx := List.mem_append.mp hx
  · exact h.uses x hx
  · obtain rfl := List.mem_singleton.mp hx
    exact hf

theorem LoopFields.Kept.join (h : s.Kept) (hmem : n ∈ s.created)
    (hunjoined : (n, some n) ∉ s.joins) :
    LoopFields.Kept { s with joins := s.joins ++ [(n, some n)] } := by
  refine ⟨h.fresh, fun x hx => ?_, ?_, h.uses⟩
  · obtain hx | hx := List.mem_append.mp hx
    · exact h.joins x hx
    · obtain rfl := List.mem_singleton.mp hx
      exact ⟨rfl, hmem⟩
  · exact List.nodup_append.mpr ⟨h.once, List.nodup_singleton _, fun x hx y hy heq =>
      hunjoined ((List.mem_singleton.mp hy) ▸ heq ▸ hx)⟩

/-- The thread of a loop that has its descriptors joins the loop. -/
theorem LoopFields.Kept.create (h : s.Kept) (hfresh : s.Fresh n) :
    LoopFields.Kept { s with
      eventThread := some n
      created := insert n s.created
      alive := insert n s.alive } := by
  refine ⟨fun m hm => ?_, fun x hx => ?_, h.once, h.uses⟩
  · obtain rfl | hm := Finset.mem_insert.mp hm
    · exact hfresh.1
    · exact h.fresh m hm
  · exact ⟨(h.joins x hx).1, Finset.mem_insert_of_mem (h.joins x hx).2⟩

/-- The thread that a start creates is the only one. -/
theorem LoopFields.Ended.create (h : s.Ended) (hkept : s.Kept) (hholds : s.Holds n)
    (hfresh : s.Fresh n) :
    LoopFields.Live { s with
      eventThread := some n
      created := insert n s.created
      alive := insert n s.alive } n where
  holds := hholds
  thread := rfl
  alive := by
    rw [h.alive]
    exact Finset.Subset.refl _
  mem := Finset.mem_insert_self _ _
  unjoined hjoined := hfresh.2 (hkept.joins _ hjoined).2
  created m hm := by
    obtain rfl | hm := Finset.mem_insert.mp hm
    · exact .inl rfl
    · exact .inr (h.created m hm)

/-- The join of the only thread. -/
theorem LoopFields.Live.join (h : s.Live n) (hended : n ∉ s.alive) :
    LoopFields.Ended { s with joins := s.joins ++ [(n, some n)] } where
  alive := by
    refine Finset.eq_empty_of_forall_notMem fun m hm => ?_
    obtain rfl := Finset.mem_singleton.mp (h.alive hm)
    exact hended hm
  created m hm := by
    obtain rfl | hjoined := h.created m hm
    · exact List.mem_append_right _ (List.mem_singleton_self _)
    · exact List.mem_append_left _ hjoined

/-- A change of a descriptor field only. -/
theorem LoopFields.Kept.setFd (h : s.Kept) (f : LoopFd) (v : Option Nat) : (s.setFd f v).Kept :=
  ⟨h.fresh, h.joins, h.once, h.uses⟩

theorem LoopFields.Kept.setFlag (h : s.Kept) (running : Bool) (owner : Nat) :
    LoopFields.Kept { s with eventRunning := running, owner } :=
  ⟨h.fresh, h.joins, h.once, h.uses⟩

/-- A step of the only caller at work. -/
theorem LoopFields.At.go (h : s.At p) (hkept : s.Kept) (hgo : s.go ok p = some (t, q)) :
    t.At q ∧ t.Kept := by
  cases p with
  | idle => cases hgo
  | testing =>
    cases hgo
    refine ⟨?_, hkept⟩
    split
    · exact h
    · rename_i hclear
      exact ⟨by simpa using hclear, h⟩
  | creatingEpoll =>
    obtain ⟨hclear, hsettled⟩ := h
    have hended := hsettled.ended hclear
    cases ok with
    | true =>
      cases hgo
      refine ⟨⟨hclear, ⟨hended.alive, hended.created⟩, rfl, Nat.lt_succ_self _, fun hm => ?_⟩, ?_⟩
      · exact absurd (hkept.fresh _ hm) (Nat.lt_irrefl _)
      · refine ⟨fun m hm => ?_, hkept.joins, hkept.once, hkept.uses⟩
        exact Nat.lt_succ_of_lt (hkept.fresh m hm)
    | false =>
      cases hgo
      exact ⟨LoopFields.Ended.settled ⟨hended.alive, hended.created⟩ hclear, hkept.setFd _ _⟩
  | creatingPipe n =>
    obtain ⟨hclear, hended, hepoll, hfresh⟩ := h
    cases ok with
    | true =>
      cases hgo
      refine ⟨⟨hclear, ⟨hended.alive, hended.created⟩, LoopFields.Holds.setPipe hepoll, hfresh⟩, ?_⟩
      exact (hkept.setFd _ _).setFd _ _
    | false =>
      cases hgo
      exact ⟨⟨hclear, hended, hepoll, hfresh⟩, hkept⟩
  | droppingEpoll n =>
    cases hgo
    exact ⟨⟨h.1, h.2.1.alive, h.2.1.created⟩, hkept.use h.2.2.1⟩
  | forgettingEpoll =>
    cases hgo
    exact ⟨LoopFields.Ended.settled ⟨h.2.alive, h.2.created⟩ h.1, hkept.setFd _ _⟩
  | addingPipe n =>
    cases hgo
    exact ⟨h, hkept⟩
  | settingFlag n =>
    cases hgo
    exact ⟨⟨rfl, rfl, ⟨h.2.1.alive, h.2.1.created⟩, h.2.2⟩, hkept.setFlag _ _⟩
  | creatingThread n =>
    obtain ⟨rfl, hrunning, hended, hholds, hfresh⟩ := h
    cases ok with
    | true =>
      cases hgo
      refine ⟨?_, hkept.create hfresh⟩
      rw [LoopFields.At, LoopFields.Settled, if_pos hrunning]
      exact hended.create hkept hholds hfresh
    | false =>
      cases hgo
      exact ⟨⟨hrunning, hended, hholds⟩, hkept⟩
  | clearingFlag n =>
    cases hgo
    exact ⟨⟨rfl, ⟨h.2.1.alive, h.2.1.created⟩, h.2.2⟩, hkept.setFlag _ _⟩
  | undoing n fds =>
    cases fds with
    | nil =>
      cases hgo
      exact ⟨LoopFields.Ended.settled ⟨h.2.1.alive, h.2.1.created⟩ h.1, hkept.setFd _ _⟩
    | cons f fds =>
      cases hgo
      exact ⟨⟨h.1, ⟨h.2.1.alive, h.2.1.created⟩, h.2.2⟩, hkept.use (h.2.2 f)⟩
  | unlocking rc =>
    cases hgo
    exact ⟨h, hkept⟩
  | exchanging =>
    have h : s.Settled := h
    cases hgo
    refine ⟨?_, hkept.setFlag _ _⟩
    by_cases hrunning : s.eventRunning = true
    · rw [if_pos hrunning]
      have hlive := h.live hrunning
      exact ⟨rfl, hlive.holds, hlive.thread, hlive.alive, hlive.mem, hlive.unjoined, hlive.created⟩
    · rw [if_neg hrunning]
      have hended := h.ended (by simpa using hrunning)
      exact LoopFields.Ended.settled ⟨hended.alive, hended.created⟩ rfl
  | waking n =>
    cases hgo
    have hlive : s.Live n := h.2
    refine ⟨⟨h.1, ?_⟩, hkept.use (hlive.holds _)⟩
    exact ⟨hlive.holds, hlive.thread, hlive.alive, hlive.mem, hlive.unjoined, hlive.created⟩
  | reading n =>
    cases hgo
    exact ⟨⟨h.1, h.2, h.2.thread⟩, hkept⟩
  | joining n thread =>
    obtain ⟨hclear, hlive, rfl⟩ := h
    simp only [LoopFields.go] at hgo
    split at hgo
    · rename_i hleft
      cases hgo
      refine ⟨⟨hclear, hlive.join (hleft n rfl), hlive.holds⟩, ?_⟩
      exact hkept.join hlive.mem hlive.unjoined
    · cases hgo
  | closing n fds =>
    cases fds with
    | nil =>
      cases hgo
      exact ⟨⟨h.1, h.2.1.alive, h.2.1.created⟩, hkept.setFd _ _⟩
    | cons f fds =>
      cases hgo
      exact ⟨⟨h.1, ⟨h.2.1.alive, h.2.1.created⟩, h.2.2⟩, hkept.use (h.2.2 f)⟩
  | resetting fds =>
    cases fds with
    | nil =>
      cases hgo
      exact ⟨h.2.settled h.1, hkept⟩
    | cons f fds =>
      cases hgo
      exact ⟨⟨h.1, h.2.alive, h.2.created⟩, hkept.setFd _ _⟩

end Fields

/-! ### Any number of callers -/

section Calls

variable {s t : LoopCalls} {a : LoopAct} {c d : Nat} {ok : Bool}

/-- No caller but `c` is at work on the fields. -/
def LoopCalls.Alone (s : LoopCalls) (c : Nat) : Prop := ∀ d, d ≠ c → (s.pc d).busy = false

/-- Callers in `event_loop_start` hold the lock, one caller at most is at work, and the fields say
what it needs. -/
structure LoopCalls.Inv (s : LoopCalls) : Prop where
  locked : ∀ c, (s.pc c).starting = true → s.lock = some c
  one : ∀ c, (s.pc c).busy = true → s.Alone c
  clear : ∀ c, s.pc c = .creatingEpoll → s.fields.eventRunning = false
  stage : ∀ c, s.Alone c → s.fields.At (s.pc c)
  kept : s.fields.Kept

theorem callsInit_inv : callsInit.Inv where
  locked _ h := nomatch h
  one _ h := nomatch h
  clear _ h := nomatch h
  stage _ _ := by
    apply LoopFields.Ended.settled _ rfl
    exact ⟨rfl, fun _ h => absurd h (Finset.notMem_empty _)⟩
  kept :=
    ⟨fun _ h => absurd h (Finset.notMem_empty _), fun _ h => (List.not_mem_nil h).elim,
      List.nodup_nil, fun _ h => (List.not_mem_nil h).elim⟩

/-- A caller that is not at work needs what every such caller needs. -/
theorem LoopFields.At.of_idle {f : LoopFields} {p q : LoopPc} (h : f.At p) (hp : p.busy = false)
    (hq : q.busy = false) (hclear : q = .creatingEpoll → f.eventRunning = false) : f.At q := by
  have hsettled : f.Settled := by
    cases p with
    | idle => exact h
    | testing => exact h
    | creatingEpoll => exact h.2
    | unlocking rc => exact h
    | exchanging => exact h
    | _ => cases hp
  cases q with
  | idle => exact hsettled
  | testing => exact hsettled
  | creatingEpoll => exact ⟨hclear rfl, hsettled⟩
  | unlocking rc => exact hsettled
  | exchanging => exact hsettled
  | _ => cases hq

/-- A caller that is not at work before a step nor after it, and does not touch the fields. -/
theorem LoopCalls.Inv.pass (h : s.Inv) {q : LoopPc} {lock : Option Nat}
    (hp : (s.pc c).busy = false) (hq : q.busy = false)
    (hlocked : ∀ d, (Function.update s.pc c q d).starting = true → lock = some d)
    (hclear : q = .creatingEpoll → s.fields.eventRunning = false) :
    LoopCalls.Inv ⟨s.fields, lock, Function.update s.pc c q⟩ := by
  have hbusy (d : Nat) : (Function.update s.pc c q d).busy = (s.pc d).busy := by
    rw [Function.update_apply]
    split
    · rename_i heq
      rw [heq, hp, hq]
    · rfl
  have halone (d : Nat) : LoopCalls.Alone ⟨s.fields, lock, Function.update s.pc c q⟩ d ↔
      s.Alone d := by
    simp only [LoopCalls.Alone, hbusy]
  refine ⟨hlocked, fun d hd => ?_, fun d hd => ?_, fun d hd => ?_, h.kept⟩
  · exact (halone d).mpr (h.one d ((hbusy d).symm.trans hd))
  · by_cases hdc : d = c
    · subst hdc
      simp only [Function.update_self] at hd
      exact hclear hd
    · simp only [Function.update_of_ne hdc] at hd
      exact h.clear d hd
  · have hat := h.stage d ((halone d).mp hd)
    by_cases hdc : d = c
    · subst hdc
      simp only [Function.update_self]
      exact hat.of_idle hp hq hclear
    · simp only [Function.update_of_ne hdc]
      exact hat

/-- A stop never sets `event_running`. -/
theorem LoopFields.go_clear {f g : LoopFields} {p q : LoopPc} (hgo : f.go ok p = some (g, q))
    (hp : p.starting = false) (hclear : f.eventRunning = false) : g.eventRunning = false := by
  cases p with
  | idle => cases hgo
  | exchanging =>
    cases hgo
    rfl
  | waking n =>
    cases hgo
    exact hclear
  | reading n =>
    cases hgo
    exact hclear
  | joining n thread =>
    simp only [LoopFields.go] at hgo
    split at hgo
    · cases hgo
      exact hclear
    · cases hgo
  | closing n fds =>
    cases fds <;> cases hgo <;> exact hclear
  | resetting fds =>
    cases fds <;> cases hgo <;> exact hclear
  | _ => cases hp

/-- A caller is in a start after a step only if it was in it before, and did not unlock. -/
theorem LoopFields.go_starting {f g : LoopFields} {p q : LoopPc} (hgo : f.go ok p = some (g, q))
    (hq : q.starting = true) : p.starting = true ∧ ∀ rc, p ≠ .unlocking rc := by
  cases p with
  | idle => cases hgo
  | unlocking rc =>
    cases hgo
    cases hq
  | exchanging =>
    cases hgo
    split at hq <;> cases hq
  | waking n =>
    cases hgo
    cases hq
  | reading n =>
    cases hgo
    cases hq
  | joining n thread =>
    simp only [LoopFields.go] at hgo
    split at hgo
    · cases hgo
      cases hq
    · cases hgo
  | closing n fds =>
    cases fds <;> cases hgo <;> cases hq
  | resetting fds =>
    cases fds <;> cases hgo <;> cases hq
  | _ => exact ⟨rfl, by simp⟩

theorem LoopCalls.Inv.locked_go (h : s.Inv) {f : LoopFields} {q : LoopPc}
    (hgo : s.fields.go ok (s.pc c) = some (f, q)) (d : Nat)
    (hd : (Function.update s.pc c q d).starting = true) : s.lockAfter c = some d := by
  by_cases hdc : d = c
  · subst hdc
    rw [Function.update_self] at hd
    obtain ⟨hstarting, hlocked⟩ := LoopFields.go_starting hgo hd
    unfold lockAfter
    split
    · rename_i rc heq
      exact absurd heq (hlocked rc)
    · exact h.locked d hstarting
  · rw [Function.update_of_ne hdc] at hd
    have hlock := h.locked d hd
    unfold lockAfter
    split
    · rename_i rc heq
      have hc := h.locked c (by rw [heq]; rfl)
      exact absurd (Option.some_inj.mp (hlock.symm.trans hc)) hdc
    · exact hlock

/-- A step of the only caller at work, or of one that nobody is in the way of. -/
theorem LoopCalls.Inv.work (h : s.Inv) (halone : s.Alone c) {f : LoopFields} {q : LoopPc}
    (hgo : s.fields.go ok (s.pc c) = some (f, q)) :
    LoopCalls.Inv ⟨f, s.lockAfter c, Function.update s.pc c q⟩ := by
  obtain ⟨hat, hkept⟩ := (h.stage c halone).go h.kept hgo
  have hclear (d : Nat) (hdc : d ≠ c) (hd : s.pc d = .creatingEpoll) : f.eventRunning = false := by
    have hlock := h.locked d (by rw [hd]; rfl)
    cases hstarting : (s.pc c).starting with
    | true => exact absurd (Option.some_inj.mp (hlock.symm.trans (h.locked c hstarting))) hdc
    | false => exact LoopFields.go_clear hgo hstarting (h.clear d hd)
  refine ⟨h.locked_go hgo, fun d hd => ?_, fun d hd => ?_, fun d hd => ?_, hkept⟩
  · have hdc : d = c := by
      by_contra hdc
      simp only [Function.update_of_ne hdc, halone d hdc] at hd
      cases hd
    subst hdc
    intro e he
    simp only [Function.update_of_ne he]
    exact halone e he
  · by_cases hdc : d = c
    · subst hdc
      simp only [Function.update_self] at hd
      rw [hd] at hat
      exact hat.1
    · simp only [Function.update_of_ne hdc] at hd
      exact hclear d hdc hd
  · by_cases hdc : d = c
    · subst hdc
      simp only [Function.update_self]
      exact hat
    · have hq : q.busy = false := by
        have hidle := hd c (Ne.symm hdc)
        simp only [Function.update_self] at hidle
        exact hidle
      simp only [Function.update_of_ne hdc]
      exact hat.of_idle hq (halone d hdc) (hclear d hdc)

/-- A caller that is at work is in a start, which holds the lock, or in a stop. -/
theorem LoopPc.starting_or_stopping {p : LoopPc} (h : p.busy = true) :
    p.starting = true ∨ p.stopping = true := by
  cases p <;> simp_all [LoopPc.busy, LoopPc.starting, LoopPc.stopping]

/-- `event_running` is clear while somebody is at work, but for a start about to create its
thread. -/
theorem LoopFields.At.clear {f : LoopFields} {p : LoopPc} (h : f.At p) (hp : p.busy = true)
    (hpublishing : p.publishing = false) : f.eventRunning = false := by
  cases p with
  | creatingThread n => cases hpublishing
  | clearingFlag n => cases hpublishing
  | creatingPipe n => exact h.1
  | droppingEpoll n => exact h.1
  | forgettingEpoll => exact h.1
  | addingPipe n => exact h.1
  | settingFlag n => exact h.1
  | undoing n fds => exact h.1
  | waking n => exact h.1
  | reading n => exact h.1
  | joining n thread => exact h.1
  | closing n fds => exact h.1
  | resetting fds => exact h.1
  | _ => cases hp

/-- A step of a caller while another one is at work. -/
theorem LoopCalls.Inv.meet (h : s.Inv) (hsep : s.Separate (.go c ok)) (hd : (s.pc d).busy = true)
    (hdc : d ≠ c) {f : LoopFields} {q : LoopPc} (hgo : s.fields.go ok (s.pc c) = some (f, q)) :
    LoopCalls.Inv ⟨f, s.lockAfter c, Function.update s.pc c q⟩ := by
  have hp : (s.pc c).busy = false := h.one d hd c (Ne.symm hdc)
  have hlocked := h.locked_go hgo
  cases hpc : s.pc c with
  | idle =>
    rw [hpc] at hgo
    cases hgo
  | testing =>
    rw [hpc] at hgo
    cases hgo
    refine h.pass hp ?_ hlocked ?_
    · split <;> rfl
    · intro heq
      split at heq
      · cases heq
      · rename_i hclear
        simpa using hclear
  | creatingEpoll =>
    exfalso
    obtain hstarting | hstopping := LoopPc.starting_or_stopping hd
    · have hlock := h.locked c (by rw [hpc]; rfl)
      exact hdc (Option.some_inj.mp ((h.locked d hstarting).symm.trans hlock))
    · exact absurd hstopping (by rw [hsep.1 hpc d]; decide)
  | unlocking rc =>
    rw [hpc] at hgo
    cases hgo
    exact h.pass hp rfl hlocked fun heq => nomatch heq
  | exchanging =>
    have hclear : s.fields.eventRunning = false := by
      by_contra hrunning
      have hrunning : s.fields.eventRunning = true := by simpa using hrunning
      have hnot := hsep.2 hpc hrunning d
      exact absurd (((h.stage d (h.one d hd)).clear hd hnot).symm.trans hrunning) (by decide)
    rw [hpc] at hgo
    simp only [LoopFields.go, hclear] at hgo
    cases hgo
    have hsame : { s.fields with eventRunning := false } = s.fields := by
      rw [← hclear]
    rw [hsame]
    exact h.pass hp rfl hlocked fun heq => nomatch heq
  | _ =>
    rw [hpc] at hp
    cases hp

/-- An event thread that leaves makes nothing false that a caller needs. -/
theorem LoopFields.At.leave {f : LoopFields} {p : LoopPc} (h : f.At p) (n : Nat) :
    LoopFields.At { f with alive := f.alive.erase n } p := by
  have hended (h : f.Ended) : LoopFields.Ended { f with alive := f.alive.erase n } := by
    refine ⟨?_, h.created⟩
    rw [h.alive, Finset.erase_empty]
  have hlive {m : Nat} (h : f.Live m) : LoopFields.Live { f with alive := f.alive.erase n } m :=
    ⟨h.holds, h.thread, (Finset.erase_subset _ _).trans h.alive, h.mem, h.unjoined, h.created⟩
  have hsettled (h : f.Settled) : LoopFields.Settled { f with alive := f.alive.erase n } := by
    unfold LoopFields.Settled at h ⊢
    split
    · rename_i hrunning
      rw [if_pos hrunning] at h
      exact hlive h
    · rename_i hclear
      rw [if_neg hclear] at h
      exact hended h
  cases p with
  | idle => exact hsettled h
  | testing => exact hsettled h
  | creatingEpoll => exact ⟨h.1, hsettled h.2⟩
  | unlocking rc => exact hsettled h
  | exchanging => exact hsettled h
  | creatingPipe m => exact ⟨h.1, hended h.2.1, h.2.2⟩
  | droppingEpoll m => exact ⟨h.1, hended h.2.1, h.2.2⟩
  | forgettingEpoll => exact ⟨h.1, hended h.2⟩
  | addingPipe m => exact ⟨h.1, hended h.2.1, h.2.2⟩
  | settingFlag m => exact ⟨h.1, hended h.2.1, h.2.2⟩
  | creatingThread m => exact ⟨h.1, h.2.1, hended h.2.2.1, h.2.2.2⟩
  | clearingFlag m => exact ⟨h.1, hended h.2.1, h.2.2⟩
  | undoing m fds => exact ⟨h.1, hended h.2.1, h.2.2⟩
  | waking m => exact ⟨h.1, hlive h.2⟩
  | reading m => exact ⟨h.1, hlive h.2⟩
  | joining m thread => exact ⟨h.1, hlive h.2.1, h.2.2⟩
  | closing m fds => exact ⟨h.1, hended h.2.1, h.2.2⟩
  | resetting fds => exact ⟨h.1, hended h.2⟩

theorem LoopCalls.Inv.step (h : s.Inv) (hsep : s.Separate a) (hstep : s.step a = some t) :
    t.Inv := by
  cases a with
  | start c =>
    simp only [LoopCalls.step] at hstep
    split at hstep
    · rename_i hpc hlock
      obtain rfl := Option.some_inj.mp hstep
      refine h.pass (by rw [hpc]; rfl) rfl (fun d hd => ?_) fun heq => nomatch heq
      by_cases hdc : d = c
      · rw [hdc]
      · rw [Function.update_of_ne hdc] at hd
        exact nomatch hlock.symm.trans (h.locked d hd)
    · cases hstep
  | stop c =>
    simp only [LoopCalls.step] at hstep
    split at hstep
    · rename_i hpc
      obtain rfl := Option.some_inj.mp hstep
      refine h.pass (by rw [hpc]; rfl) rfl (fun d hd => ?_) fun heq => nomatch heq
      by_cases hdc : d = c
      · subst hdc
        rw [Function.update_self] at hd
        cases hd
      · rw [Function.update_of_ne hdc] at hd
        exact h.locked d hd
    · cases hstep
  | go c ok =>
    obtain ⟨⟨f, q⟩, hgo, rfl⟩ := Option.map_eq_some_iff.mp hstep
    by_cases halone : s.Alone c
    · exact h.work halone hgo
    · simp only [Alone, not_forall, exists_prop] at halone
      obtain ⟨d, hdc, hd⟩ := halone
      exact h.meet hsep (by simpa using hd) hdc hgo
  | leave n fatal =>
    simp only [LoopCalls.step] at hstep
    split at hstep
    · obtain rfl := Option.some_inj.mp hstep
      refine ⟨h.locked, h.one, h.clear, fun d hd => (h.stage d hd).leave n, ?_⟩
      exact ⟨h.kept.fresh, h.kept.joins, h.kept.once, h.kept.uses⟩
    · cases hstep

/-- There is a caller such that no other one is at work. -/
theorem LoopCalls.Inv.exists_alone (h : s.Inv) : ∃ c, s.Alone c := by
  by_cases hbusy : ∃ c, (s.pc c).busy = true
  · obtain ⟨c, hc⟩ := hbusy
    exact ⟨c, h.one c hc⟩
  · refine ⟨0, fun d _ => ?_⟩
    rw [not_exists] at hbusy
    simpa using hbusy d

/-- Either every thread has been joined, or there is one, whose loop runs or is being stopped. -/
theorem LoopFields.At.ended_or_live {f : LoopFields} {p : LoopPc} (h : f.At p) :
    f.Ended ∨ ∃ n, f.Live n ∧ ((f.eventRunning = true ∧ f.owner = n) ∨ p.joins n) := by
  have hsettled (h : f.Settled) :
      f.Ended ∨ ∃ n, f.Live n ∧ ((f.eventRunning = true ∧ f.owner = n) ∨ p.joins n) := by
    cases hrunning : f.eventRunning with
    | true => exact .inr ⟨f.owner, h.live hrunning, .inl ⟨rfl, rfl⟩⟩
    | false => exact .inl (h.ended hrunning)
  cases p with
  | idle => exact hsettled h
  | testing => exact hsettled h
  | creatingEpoll => exact hsettled h.2
  | unlocking rc => exact hsettled h
  | exchanging => exact hsettled h
  | creatingPipe m => exact .inl h.2.1
  | droppingEpoll m => exact .inl h.2.1
  | forgettingEpoll => exact .inl h.2
  | addingPipe m => exact .inl h.2.1
  | settingFlag m => exact .inl h.2.1
  | creatingThread m => exact .inl h.2.2.1
  | clearingFlag m => exact .inl h.2.1
  | undoing m fds => exact .inl h.2.1
  | waking m => exact .inr ⟨m, h.2, .inr rfl⟩
  | reading m => exact .inr ⟨m, h.2, .inr rfl⟩
  | joining m thread => exact .inr ⟨m, h.2.1, .inr rfl⟩
  | closing m fds => exact .inl h.2.1
  | resetting fds => exact .inl h.2

theorem LoopCalls.Inv.owned (h : s.Inv) : s.Owned := by
  obtain ⟨c, halone⟩ := h.exists_alone
  obtain hended | ⟨n, hlive, hn⟩ := (h.stage c halone).ended_or_live
  · refine ⟨?_, fun x hx => (h.kept.joins x hx).1, h.kept.once, fun m hm => ?_, h.kept.uses⟩
    · rw [hended.alive]
      exact Nat.zero_le 1
    · exact .inr (.inr (hended.created m hm))
  · refine ⟨?_, fun x hx => (h.kept.joins x hx).1, h.kept.once, fun m hm => ?_, h.kept.uses⟩
    · exact (Finset.card_le_card hlive.alive).trans (Finset.card_singleton n).le
    · obtain rfl | hjoined := hlive.created m hm
      · obtain hrunning | hjoins := hn
        · exact .inl hrunning
        · exact .inr (.inl ⟨c, hjoins⟩)
      · exact .inr (.inr hjoined)

end Calls

/-- In every state of a run in which starts and stops keep apart, they own their event loop. -/
theorem loop_owned {as : List LoopAct} {t : LoopCalls}
    (hsep : Along LoopCalls.step LoopCalls.Separate callsInit as)
    (hrun : run LoopCalls.step callsInit as = some t) : t.Owned := by
  have hinv : t.Inv := hsep.invariant (I := LoopCalls.Inv)
    (fun _ _ _ hs ha hstep => hs.step ha hstep) callsInit_inv hrun
  exact hinv.owned

/-- The actions of a caller that goes on `k` times, with success. -/
def goOn (c k : Nat) : List LoopAct := List.replicate k (.go c true)

/-- Caller 1 has cleared the flag of the first loop when caller 2 starts the second one; the thread
of the first loop finds the flag set again.  Caller 1 then takes the second loop down. -/
def startDuringStop : List LoopAct :=
  [LoopAct.start 0] ++ goOn 0 7 ++ [LoopAct.stop 1] ++ goOn 1 1 ++ [LoopAct.start 2] ++ goOn 2 7

/-- Two event threads run; the stop of loop 0 writes to the pipe of loop 1 and is about to join its
thread. -/
theorem loop_disowned :
    (run LoopCalls.step callsInit startDuringStop).map (fun t => t.fields.alive.card) = some 2 ∧
      (run LoopCalls.step callsInit (startDuringStop ++ goOn 1 1 ++ [.leave 1 true] ++ goOn 1 2)).map
        (fun t => (t.fields.uses, t.fields.joins)) = some ([(0, some 1)], [(0, some 1)]) := by
  decide +kernel

/-- The caller of an action, if it has one. -/
def LoopAct.caller : LoopAct → Option Nat
  | .start c | .stop c | .go c _ => some c
  | .leave _ _ => none

/-- A caller on its own keeps its starts and stops apart. -/
theorem separate_of_solo {as : List LoopAct} {s : LoopCalls} (c : Nat)
    (hsolo : ∀ a ∈ as, ∀ d ∈ a.caller, d = c) (hidle : ∀ d, d ≠ c → s.pc d = .idle) :
    Along LoopCalls.step LoopCalls.Separate s as := by
  induction as generalizing s with
  | nil => trivial
  | cons a as ih =>
    have hrest : ∀ b ∈ as, ∀ d ∈ b.caller, d = c := fun b hb => hsolo b (List.mem_cons_of_mem _ hb)
    have hfirst := hsolo a List.mem_cons_self
    refine ⟨?_, fun t hstep => ih hrest fun d hd => ?_⟩
    · cases a with
      | go e ok =>
        obtain rfl := hfirst e rfl
        refine ⟨fun hpc d => ?_, fun hpc _ d => ?_⟩ <;> by_cases hd : d = e
        · rw [hd, hpc]
          rfl
        · rw [hidle d hd]
          rfl
        · rw [hd, hpc]
          rfl
        · rw [hidle d hd]
          rfl
      | _ => trivial
    · cases a with
      | start e | stop e =>
        obtain rfl := hfirst e rfl
        simp only [LoopCalls.step] at hstep
        split at hstep
        · obtain rfl := Option.some_inj.mp hstep
          exact (Function.update_of_ne hd _ _).trans (hidle d hd)
        · cases hstep
      | go e ok =>
        obtain rfl := hfirst e rfl
        obtain ⟨⟨f, q⟩, -, rfl⟩ := Option.map_eq_some_iff.mp hstep
        exact (Function.update_of_ne hd _ _).trans (hidle d hd)
      | leave n fatal =>
        simp only [LoopCalls.step] at hstep
        split at hstep
        · obtain rfl := Option.some_inj.mp hstep
          exact hidle d hd
        · cases hstep

/-- A caller starts the loop, stops it and starts it again. -/
def restart : List LoopAct :=
  [LoopAct.start 0] ++ goOn 0 7 ++ [LoopAct.stop 0] ++ goOn 0 3 ++ [LoopAct.leave 0 false] ++
    goOn 0 8 ++ [LoopAct.start 0] ++ goOn 0 7

theorem loop_owned_restart : ∃ t,
    run LoopCalls.step callsInit restart = some t ∧ t.Owned ∧ t.fields.alive = {1} := by
  have hlast : (run LoopCalls.step callsInit restart).map (fun t => t.fields.alive) = some {1} := by
    decide +kernel
  obtain ⟨t, ht, halive⟩ := Option.map_eq_some_iff.mp hlast
  refine ⟨t, ht, loop_owned (separate_of_solo 0 ?_ fun _ _ => rfl) ht, halive⟩
  decide

end Sdrgg.Usb
